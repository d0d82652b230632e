import DnsServer.Resolver.Resolve

namespace DnsServer

open DnsCache

namespace Resolver

variable {W D : Type} (self : Resolver W D)

theorem cacheInsert_run (name : DnsName) (recordType : RecordType) (records : List DnsRecord)
    (s : State W) : self.cacheInsert name recordType records s =
      (.ok (), { s with
        cache := s.cache.insert name recordType records (self.network.instant s.world).1
        world := (self.network.instant s.world).2 }) := rfl

/-- A section loop collects everything it picks, and with enough room each picked record whose TTL
is not zero is in the cache at its end. -/
theorem cacheEach_run {α : Type} (recordType : RecordType) (pick : DnsRecord → Option α)
    (records : List DnsRecord) (s : State W) :
    ∃ s', self.cacheEach recordType pick records s = (.ok (records.filterMap pick), s') ∧
      Kept records.length s.cache s'.cache ∧
      (s.cache.length + records.length ≤ s.cache.capacity → ∀ record ∈ records,
        pick record ≠ none → record.ttl ≠ 0 → s'.cache.peek ⟨record.name, recordType⟩ ≠ none) := by
  induction records generalizing s with
  | nil => exact ⟨s, rfl, .refl 0 _, fun _ _ member => absurd member List.not_mem_nil⟩
  | cons record records ih =>
    rcases picked : pick record with _ | found
    · obtain ⟨s', run, kept, present⟩ := ih s
      refine ⟨s', ?_, ?_, ?_⟩
      · rw [cacheEach, picked, List.filterMap_cons, picked]
        exact run
      · rw [List.length_cons, Nat.add_comm]
        exact (Kept.refl 1 s.cache).trans kept
      · intro room r member some lasting
        rw [List.length_cons] at room
        rcases List.mem_cons.mp member with rfl | member
        · exact absurd picked some
        · exact present (by omega) r member some lasting
    · have inserted := self.cacheInsert_run record.name recordType [record] s
      have one := Kept.insert s.cache record.name recordType [record] (self.network.instant s.world).1
      obtain ⟨s', run, kept, present⟩ := ih { s with
        cache := s.cache.insert record.name recordType [record] (self.network.instant s.world).1
        world := (self.network.instant s.world).2 }
      refine ⟨s', ?_, ?_, ?_⟩
      · rw [cacheEach, picked, List.filterMap_cons, picked]
        dsimp only
        rw [Prog.bind_ok inserted, Prog.bind_ok run]
        rfl
      · rw [List.length_cons, Nat.add_comm]
        exact one.trans kept
      · intro room r member some lasting
        rw [List.length_cons] at room
        have grown := one.length
        have same := one.capacity
        rcases List.mem_cons.mp member with rfl | member
        · have effective : minTtl [r] ≠ 0 := by
            rw [minTtl_singleton]
            exact fun zero => lasting (UInt32.toNat_inj.mp zero)
          exact kept.present (by dsimp only; omega) _ (peek_insert_ne_none effective)
        · exact present (by dsimp only; omega) r member some lasting

/-- A referral is absorbed by the two section loops. -/
theorem absorb_referral {name : DnsName} {recordType : RecordType} {response : DnsMessage}
    {s s₁ s₂ : State W} (noNameError : response.header.responseCode ≠ .nameError)
    (noAnswers : response.answers = [])
    (referrals : self.cacheReferrals response.authorities s = (.ok response.nsNames, s₁))
    (glue : self.cacheGlue response.nsNames response.additional s₁ = (.ok response.glueAddrs, s₂)) :
    self.absorb name recordType response s =
      (.ok (.referral response.nsNames response.glueAddrs), s₂) := by
  have noAnswers' : ¬¬response.answers.isEmpty := by rw [noAnswers]; exact not_not_intro rfl
  rw [absorb, if_neg noNameError, if_neg noAnswers', Prog.bind_ok referrals, Prog.bind_ok glue]
  rfl

/-- What a response with answers is absorbed as, when it passes. -/
theorem absorb_answered {name : DnsName} {recordType : RecordType} {response : DnsMessage}
    {s s' : State W} {absorbed : Absorbed} (some : response.answers ≠ [])
    (run : self.absorb name recordType response s = (.ok absorbed, s')) :
    (response.typedAnswers recordType ≠ [] → absorbed = .answers (response.typedAnswers recordType)) ∧
      (response.typedAnswers recordType = [] → response.aliasAnswers recordType ≠ [] →
        absorbed = .aliases (response.aliasAnswers recordType)) := by
  have answered : ¬response.answers.isEmpty := by simpa using some
  unfold absorb at run
  split at run
  · cases run
  obtain ⟨_, _, _, cached⟩ := Prog.bind_eq_ok.mp run
  unfold cacheAnswers at cached
  split at cached
  · rename_i found
    have typed : response.typedAnswers recordType ≠ [] := by simpa using found
    obtain ⟨_, _, _, returned⟩ := Prog.bind_eq_ok.mp cached
    cases returned
    exact ⟨fun _ => rfl, fun none => absurd none typed⟩
  rename_i none
  have untyped : response.typedAnswers recordType = [] := by simpa using none
  refine ⟨fun typed => absurd untyped typed, fun _ aliased => ?_⟩
  rw [if_pos (by simpa using aliased)] at cached
  obtain ⟨_, _, _, returned⟩ := Prog.bind_eq_ok.mp cached
  cases returned
  rfl

end Resolver

end DnsServer
