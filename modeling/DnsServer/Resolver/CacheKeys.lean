import DnsServer.Resolver.Runs
import DnsServer.Resolver.Upstream

namespace DnsServer

/-- Every entry holds records of the name and the type that it is stored under. -/
def DnsCache.Keyed : DnsCache → Prop :=
  DnsCache.Stored fun key records =>
    ∀ record ∈ records, record.name = key.name ∧ record.recordType = key.recordType

namespace DnsMessage

/-- The answers that are cached: those of the type that was asked for, or else the aliases. -/
def cachedAnswers (response : DnsMessage) (recordType : RecordType) : List DnsRecord :=
  if response.typedAnswers recordType = [] then response.aliasAnswers recordType
  else response.typedAnswers recordType

/-- Whatever is cached of the answers for the name is owned by the name. -/
def OwnsAnswers (response : DnsMessage) (name : DnsName) (recordType : RecordType) : Prop :=
  response.header.responseCode = .nameError ∨ DnsCache.minTtl (response.cachedAnswers recordType) = 0 ∨
    ∀ record ∈ response.cachedAnswers recordType, record.name = name

instance (response : DnsMessage) (name : DnsName) (recordType : RecordType) :
    Decidable (response.OwnsAnswers name recordType) :=
  inferInstanceAs (Decidable (_ ∨ _ ∨ _))

end DnsMessage

/-- An accepted response whose cached answers are owned by the name of its question. -/
def Event.OwnsAnswers : Event → Prop
  | .accepted _ name recordType response => response.OwnsAnswers name recordType
  | _ => True

instance : (event : Event) → Decidable event.OwnsAnswers
  | .accepted _ name recordType response =>
    inferInstanceAs (Decidable (response.OwnsAnswers name recordType))
  | .datagram _ _ => isTrue trivial
  | .stream _ _ => isTrue trivial
  | .validated _ _ _ _ => isTrue trivial

theorem DnsRecord.nsTarget_type {record : DnsRecord} {nsName : DnsName}
    (target : record.nsTarget = some nsName) : record.recordType = .NS := by
  by_contra other
  rw [nsTarget, if_neg other] at target
  cases target

theorem DnsRecord.glueFor_type {record : DnsRecord} {nsNames : List DnsName} {addr : SocketAddr}
    (glue : record.glueFor nsNames = some addr) : record.recordType = .A := by
  by_contra other
  rw [glueFor, if_neg other] at glue
  cases glue

namespace DnsCache

variable {cache : DnsCache} {name : DnsName} {recordType : RecordType} {now : Nat}

theorem Keyed.insert_own {record : DnsRecord} (keyed : cache.Keyed)
    (typed : record.recordType = recordType) : (cache.insert record.name recordType [record] now).Keyed := by
  refine Stored.insert keyed fun _ => ?_
  intro r member
  rw [List.mem_singleton.mp member]
  exact ⟨rfl, typed⟩

theorem Keyed.insert_answers {response : DnsMessage} {stored : RecordType} (keyed : cache.Keyed)
    (owns : response.OwnsAnswers name recordType)
    (noNameError : response.header.responseCode ≠ .nameError)
    (typed : ∀ record ∈ response.cachedAnswers recordType, record.recordType = stored) :
    (cache.insert name stored (response.cachedAnswers recordType) now).Keyed := by
  refine Stored.insert keyed fun lasting => ?_
  have owned := (owns.resolve_left noNameError).resolve_left lasting
  exact fun record member => ⟨owned record member, typed record member⟩

/-- Runs whose accepted responses own their answers keep the cache keyed. -/
theorem keyed_closed :
    Closed Event.OwnsAnswers DnsCache.Keyed (fun _ _ _ => True) (fun _ _ _ _ => True) fun _ _ => True where
  lookup _ _ _ _ _ keyed := Stored.lookup keyed
  cached _ _ _ _ _ _ _ := trivial
  resolved _ _ _ := trivial
  typed server name recordType response owns noNameError some := by
    refine ⟨trivial, fun cache now keyed => ?_⟩
    have taken : response.cachedAnswers recordType = response.typedAnswers recordType := if_neg some
    rw [← taken]
    refine keyed.insert_answers owns noNameError fun record member => ?_
    rw [taken] at member
    exact of_decide_eq_true (List.mem_filter.mp member).2
  aliases server name recordType response owns noNameError none := by
    refine ⟨fun _ _ _ _ => trivial, fun cache now keyed => ?_⟩
    have taken : response.cachedAnswers recordType = response.aliasAnswers recordType := if_pos none
    rw [← taken]
    refine keyed.insert_answers owns noNameError fun record member => ?_
    rw [taken] at member
    exact (of_decide_eq_true (List.mem_filter.mp member).2).2
  referral _ _ _ _ _ _ _ _ _ _ target _ _ keyed := keyed.insert_own (DnsRecord.nsTarget_type target)
  glue _ _ _ _ _ _ _ _ _ _ glue _ _ keyed := keyed.insert_own (DnsRecord.glueFor_type glue)
  empty _ _ := trivial
  ended _ _ _ _ _ := trivial
  answered _ _ _ _ _ _ _ := trivial
  extended _ _ _ _ _ _ _ := trivial

end DnsCache

namespace Resolver

/-- In every state that a run of calls comes to, if each accepted response owned the answers cached
from it, every entry holds records of its own name and type only. -/
theorem reached_keyed {W D : Type} (self : Resolver W D) (s : State W) (reached : self.Reached s)
    (owns : ∀ event ∈ s.log, event.OwnsAnswers) : s.cache.Keyed :=
  reached.invariant DnsCache.keyed_closed (DnsCache.stored_new _) owns

open Upstream

theorem reached_keyed_stepwise :
    (stepwise.resolver.resolve 1 www .A ⟨DnsCache.new 10, blankTape, []⟩).2.cache.Keyed :=
  reached_keyed stepwise.resolver _ (.call 1 www .A (.start 10 blankTape)) (by decide +kernel)

/-- The address of the target is stored under the name of the alias. -/
theorem reached_wholeChain_unkeyed : ∃ s, wholeChain.resolver.Reached s ∧ ¬s.cache.Keyed := by
  refine ⟨_, .call 1 www .A (.start 10 blankTape), fun keyed => ?_⟩
  have found : ((wholeChain.resolver.resolve 1 www .A ⟨DnsCache.new 10, blankTape, []⟩).2.cache.peek
      ⟨www, .A⟩).map CacheEntry.records = some (aliasWithAddress.drop 1) := by decide +kernel
  obtain ⟨entry, held, records⟩ := Option.map_eq_some_iff.mp found
  have owner := (keyed _ entry held _ (by rw [records]; exact List.mem_cons_self)).1
  exact absurd owner (by decide)

end Resolver

end DnsServer
