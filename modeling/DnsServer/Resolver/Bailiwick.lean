import DnsServer.Resolver.Absorb
import DnsServer.Resolver.Runs
import DnsServer.Resolver.Upstream

namespace DnsServer

namespace DnsMessage

/-- The response delegates the zone: its authority section names a server for it. -/
def Delegates (response : DnsMessage) (zone : DnsName) : Prop :=
  ∃ record ∈ response.authorities, record.nsTarget.isSome ∧ record.name = zone

/-- The keys that a response to a question about the name may change: the name itself, the name
servers of its ancestors, and the addresses of hosts in such an ancestor that is delegated. -/
def InBailiwick (response : DnsMessage) (qname : DnsName) (key : CacheKey) : Prop :=
  key.name = qname ∨ (key.recordType = .NS ∧ qname.isSubdomainOf key.name) ∨
    (key.recordType = .A ∧ ∃ zone, qname.isSubdomainOf zone ∧ response.Delegates zone ∧
      key.name.isSubdomainOf zone)

/-- The keys under which the records of a referral are cached. -/
def referralKeys (response : DnsMessage) : List CacheKey :=
  (response.authorities.filter fun record => record.nsTarget.isSome ∧ record.ttl ≠ 0).map
      (fun record => ⟨record.name, .NS⟩) ++
    (response.additional.filter fun record =>
        (record.glueFor response.nsNames).isSome ∧ record.ttl ≠ 0).map
      fun record => ⟨record.name, .A⟩

/-- The response is not a referral, or all that is cached of it concerns the question. -/
def StaysInBailiwick (response : DnsMessage) (qname : DnsName) : Prop :=
  response.header.responseCode = .nameError ∨ response.answers ≠ [] ∨
    ∀ key ∈ response.referralKeys, response.InBailiwick qname key

variable {response : DnsMessage} {record : DnsRecord}

theorem referralKeys_ns {nsName : DnsName} (member : record ∈ response.authorities)
    (target : record.nsTarget = some nsName) (lasting : record.ttl ≠ 0) :
    ⟨record.name, .NS⟩ ∈ response.referralKeys := by
  have kept : record ∈ response.authorities.filter fun record => record.nsTarget.isSome ∧ record.ttl ≠ 0 :=
    List.mem_filter.mpr ⟨member, by simp only [target, Option.isSome_some, ne_eq, lasting,
      not_false_eq_true, and_self, decide_true]⟩
  exact List.mem_append_left _ (List.mem_map_of_mem kept)

theorem referralKeys_glue {addr : SocketAddr} (member : record ∈ response.additional)
    (glue : record.glueFor response.nsNames = some addr) (lasting : record.ttl ≠ 0) :
    ⟨record.name, .A⟩ ∈ response.referralKeys := by
  have kept : record ∈ response.additional.filter fun record =>
      (record.glueFor response.nsNames).isSome ∧ record.ttl ≠ 0 :=
    List.mem_filter.mpr ⟨member, by simp only [glue, Option.isSome_some, ne_eq, lasting,
      not_false_eq_true, and_self, decide_true]⟩
  exact List.mem_append_right _ (List.mem_map_of_mem kept)

end DnsMessage

theorem DnsRecord.lasting {record : DnsRecord} (effective : DnsCache.minTtl [record] ≠ 0) :
    record.ttl ≠ 0 := by
  rintro zero
  rw [DnsCache.minTtl_singleton, zero] at effective
  exact effective rfl

namespace DnsCache

/-- Outside the allowed keys the second cache holds nothing but what the first one held. What the
first one held may be gone. -/
def Framed (allowed : CacheKey → Prop) (before after : DnsCache) : Prop :=
  ∀ key entry, ¬allowed key → after.peek key = some entry → before.peek key = some entry

section Framed

variable {allowed : CacheKey → Prop} {before cache : DnsCache} {name : DnsName}
  {recordType : RecordType} {records : List DnsRecord} {now later : Nat}

theorem Framed.refl : Framed allowed cache cache := fun _ _ _ found => found

theorem Framed.lookup (framed : Framed allowed before cache) :
    Framed allowed before (cache.lookup name recordType now later).2 :=
  fun key entry outside found => framed key entry outside (peek_lookup_of_some found)

theorem Framed.insert (framed : Framed allowed before cache)
    (inside : minTtl records ≠ 0 → allowed ⟨name, recordType⟩) :
    Framed allowed before (cache.insert name recordType records now) := by
  by_cases expired : minTtl records = 0
  · rwa [insert_ineffective expired]
  · intro key entry outside found
    have other : key ≠ ⟨name, recordType⟩ := by
      rintro rfl
      exact outside (inside expired)
    rw [insert_effective expired] at found
    exact framed key entry outside (Lru.peek_put_of_some other found)

end Framed

end DnsCache

open DnsCache

namespace Event

/-- An accepted response that stays in the bailiwick of its question. -/
def StaysInBailiwick : Event → Prop
  | .accepted _ name _ response => response.StaysInBailiwick name
  | _ => True

/-- The keys that an accepted response may change. -/
def Reaches (key : CacheKey) : Event → Prop
  | .accepted _ name _ response => response.InBailiwick name key
  | _ => False

end Event

/-- Runs whose accepted responses are among the given events and stay in bailiwick change the cache
only where these events reach. -/
theorem bailiwick_closed (events : List Event) (before : DnsCache) :
    Closed (fun event => event ∈ events ∧ event.StaysInBailiwick)
      (Framed (fun key => ∃ event ∈ events, event.Reaches key) before)
      (fun _ _ _ => True) (fun _ _ _ _ => True) fun _ _ => True where
  lookup _ _ _ _ _ framed := framed.lookup
  cached _ _ _ _ _ _ _ := trivial
  resolved _ _ _ := trivial
  typed _ _ _ _ allowed _ _ :=
    ⟨trivial, fun _ _ framed => framed.insert fun _ => ⟨_, allowed.1, Or.inl rfl⟩⟩
  aliases _ _ _ _ allowed _ _ :=
    ⟨fun _ _ _ _ => trivial, fun _ _ framed => framed.insert fun _ => ⟨_, allowed.1, Or.inl rfl⟩⟩
  referral server name recordType response allowed noNameError noAnswers record member nsName target _ _
      framed := by
    have stays := (allowed.2.resolve_left noNameError).resolve_left (not_not_intro noAnswers)
    refine framed.insert fun effective => ⟨_, allowed.1, ?_⟩
    exact stays _ (DnsMessage.referralKeys_ns member target (DnsRecord.lasting effective))
  glue server name recordType response allowed noNameError noAnswers record member addr glue _ _ framed := by
    have stays := (allowed.2.resolve_left noNameError).resolve_left (not_not_intro noAnswers)
    refine framed.insert fun effective => ⟨_, allowed.1, ?_⟩
    exact stays _ (DnsMessage.referralKeys_glue member glue (DnsRecord.lasting effective))
  empty _ _ := trivial
  ended _ _ _ _ _ := trivial
  answered _ _ _ _ _ _ _ := trivial
  extended _ _ _ _ _ _ _ := trivial

namespace Resolver

variable {W D : Type} (self : Resolver W D)

/-- With room for all of them, every key of a referral is in the cache once it is absorbed. -/
theorem absorb_present {name : DnsName} {recordType : RecordType} {response : DnsMessage}
    {s : State W} (noNameError : response.header.responseCode ≠ .nameError)
    (noAnswers : response.answers = [])
    (room : s.cache.length + response.authorities.length + response.additional.length ≤ s.cache.capacity) :
    ∀ key ∈ response.referralKeys, (self.absorb name recordType response s).2.cache.peek key ≠ none := by
  obtain ⟨s₁, referrals, kept₁, present₁⟩ :=
    self.cacheEach_run .NS DnsRecord.nsTarget response.authorities s
  obtain ⟨s₂, glue, kept₂, present₂⟩ := self.cacheEach_run .A
    (fun record => record.glueFor response.nsNames) response.additional s₁
  have grown := kept₁.length
  have same := kept₁.capacity
  intro key member
  rw [self.absorb_referral noNameError noAnswers referrals glue]
  rcases List.mem_append.mp member with member | member
  · obtain ⟨record, kept, rfl⟩ := List.mem_map.mp member
    obtain ⟨member, both⟩ := List.mem_filter.mp kept
    obtain ⟨some, lasting⟩ := of_decide_eq_true both
    exact kept₂.present (by omega) _
      (present₁ (by omega) record member (Option.isSome_iff_ne_none.mp some) lasting)
  · obtain ⟨record, kept, rfl⟩ := List.mem_map.mp member
    obtain ⟨member, both⟩ := List.mem_filter.mp kept
    obtain ⟨some, lasting⟩ := of_decide_eq_true both
    exact present₂ (by omega) record member (Option.isSome_iff_ne_none.mp some) lasting

/-- Absorbing a response changes the cache only in the bailiwick of the question, whatever the
resolver, the cache and the clock, exactly when the response is no referral or all that is cached
of it lies in that bailiwick. -/
theorem absorb_framed_iff (name : DnsName) (recordType : RecordType) (response : DnsMessage) :
    (∀ (W D : Type) (self : Resolver W D) (cache : DnsCache) (world : W),
      Framed (response.InBailiwick name) cache
        (self.absorb name recordType response ⟨cache, world, []⟩).2.cache) ↔
      response.StaysInBailiwick name := by
  constructor
  · intro framed
    by_cases noNameError : response.header.responseCode = .nameError
    · exact Or.inl noNameError
    by_cases noAnswers : response.answers = []
    · refine Or.inr (Or.inr fun key member => ?_)
      by_contra outside
      let cache : DnsCache := Lru.empty (response.authorities.length + response.additional.length + 1)
        (Nat.succ_pos _)
      have room : cache.length + response.authorities.length + response.additional.length ≤
          cache.capacity := by
        change 0 + _ + _ ≤ _ + _ + 1
        omega
      let start : State Tape := ⟨cache, Upstream.blankTape, []⟩
      have present : (Upstream.stepwise.resolver.absorb name recordType response start).2.cache.peek key ≠
          none := Upstream.stepwise.resolver.absorb_present noNameError noAnswers room key member
      obtain ⟨entry, found⟩ := Option.ne_none_iff_exists'.mp present
      have before := framed Tape DnsMessage Upstream.stepwise.resolver cache Upstream.blankTape key entry
        outside found
      cases before
    · exact Or.inr (Or.inl noAnswers)
  · intro stays W D self cache world
    let event : Event := .accepted ⟨⟨0, 0, 0, 0⟩, 0⟩ name recordType response
    have ensures : (monitor W (fun _ => []) _ _).Ensures _ _ _ :=
      self.absorb_ensures growing_nil (bailiwick_closed [event] cache) name recordType response
    have framed := (ensures.keeps ⟨cache, world, []⟩ ⟨_, List.mem_singleton_self event, stays⟩
      (fun _ member => absurd member List.not_mem_nil) Framed.refl).1
    intro key entry outside found
    refine framed key entry ?_ found
    rintro ⟨e, member, reaches⟩
    rw [List.mem_singleton.mp member] at reaches
    exact outside reaches

/-- In a run whose accepted responses all stay in bailiwick, every entry that the run adds stands in
the bailiwick of a question it asked. -/
theorem resolveRecursive_framed (fuel : Nat) (name : DnsName) (recordType : RecordType) (depth : Nat)
    (s : State W)
    (stays : ∀ event ∈ (self.resolveRecursive fuel name recordType depth s).2.log, event.StaysInBailiwick) :
    Framed (fun key => ∃ event ∈ (self.resolveRecursive fuel name recordType depth s).2.log,
        event.Reaches key)
      s.cache (self.resolveRecursive fuel name recordType depth s).2.cache := by
  have ensures := self.resolveRecursive_ensures
    (bailiwick_closed (self.resolveRecursive fuel name recordType depth s).2.log s.cache) self.heard_log
    fuel name recordType depth
  exact (ensures.keeps s trivial (fun event member => ⟨member, stays event member⟩) Framed.refl).1

open Upstream

/-- Asked for one name, a server changes what the cache holds about the name servers of another. -/
theorem resolveRecursive_intruding_unframed :
    ¬Framed (bankReferral.InBailiwick www) (DnsCache.new 10)
      (intruding.resolver.resolveRecursive 2 www .A 0 ⟨DnsCache.new 10, blankTape, []⟩).2.cache := by
  intro framed
  have present : ((intruding.resolver.resolveRecursive 2 www .A 0
      ⟨DnsCache.new 10, blankTape, []⟩).2.cache.peek ⟨bank, .NS⟩).isSome := by decide +kernel
  have outside : ¬bankReferral.InBailiwick www ⟨bank, .NS⟩ := by
    rintro (same | ⟨_, ancestor⟩ | ⟨address, _⟩)
    · exact absurd same (by decide)
    · exact absurd ancestor (by decide)
    · exact absurd address (by decide)
  obtain ⟨entry, found⟩ := Option.isSome_iff_exists.mp present
  have before := framed _ entry outside found
  have nothing : (DnsCache.new 10).peek ⟨bank, .NS⟩ = none := rfl
  rw [nothing] at before
  cases before

end Resolver

end DnsServer
