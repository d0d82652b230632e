import DnsServer.Resolver.Runs
import DnsServer.Resolver.Upstream

namespace DnsServer

/-- CNAME records that lead from one name to another, each owned by the target of the one before. -/
inductive CnameChain : DnsName → List DnsRecord → DnsName → Prop
  | nil {name} : CnameChain name [] name
  | cons {record target rest last} : record.recordType = .CNAME → record.rdata = .CNAME target →
      CnameChain target rest last → CnameChain record.name (record :: rest) last

namespace CnameChain

variable {name middle last : DnsName} {xs ys : List DnsRecord}

theorem append (first : CnameChain name xs middle) (second : CnameChain middle ys last) :
    CnameChain name (xs ++ ys) last := by
  induction first with
  | nil => exact second
  | cons cname leads _ ih => exact .cons cname leads (ih second)

theorem all_cname (chain : CnameChain name xs last) : ∀ record ∈ xs, record.recordType = .CNAME := by
  induction chain with
  | nil => exact fun _ member => absurd member List.not_mem_nil
  | cons cname _ _ ih => exact List.forall_mem_cons.mpr ⟨cname, ih⟩

theorem last_target {record : DnsRecord} {target : DnsName} (chain : CnameChain name xs last)
    (atLast : xs.getLast? = some record) (leads : record.rdata = .CNAME target) : last = target := by
  induction chain with
  | nil => cases atLast
  | @cons head next rest last _ leads' tail ih =>
    cases tail with
    | nil =>
      have same : head = record := Option.some.inj atLast
      rw [same, leads] at leads'
      exact (RData.CNAME.inj leads').symm
    | cons cname' leads'' tail' => exact ih atLast

/-- Walking along a chain takes all of its records. -/
theorem extend {before : List DnsRecord} (chain : CnameChain name xs last) :
    Resolver.extendChain before name xs = (before ++ xs, last) := by
  induction chain generalizing before with
  | nil => rw [Resolver.extendChain, List.append_nil]
  | cons _ leads _ ih =>
    rw [Resolver.extendChain, leads]
    dsimp only
    rw [ih, List.append_assoc, List.singleton_append]

/-- Where a chain from the name ends, if the records are one. -/
def chainEnd (name : DnsName) : List DnsRecord → Option DnsName
  | [] => some name
  | record :: rest =>
    match record.rdata with
    | .CNAME target => if record.recordType = .CNAME ∧ record.name = name then chainEnd target rest else none
    | _ => none

theorem chainEnd_eq_some : chainEnd name xs = some last ↔ CnameChain name xs last := by
  constructor
  · intro reached
    induction xs generalizing name with
    | nil =>
      cases reached
      exact .nil
    | cons record rest ih =>
      unfold chainEnd at reached
      split at reached
      · rename_i target leads
        split at reached
        · rename_i both
          rw [← both.2]
          exact .cons both.1 leads (ih reached)
        · cases reached
      · cases reached
  · intro chain
    induction chain with
    | nil => rfl
    | cons cname leads _ ih =>
      rw [chainEnd, leads]
      dsimp only
      rw [if_pos ⟨cname, rfl⟩]
      exact ih

instance (name : DnsName) (records : List DnsRecord) :
    Decidable (∃ last, CnameChain name records last) :=
  decidable_of_iff ((chainEnd name records).isSome)
    (Option.isSome_iff_exists.trans (exists_congr fun _ => chainEnd_eq_some))

end CnameChain

/-- CNAME records from the name, and then records of the type, all owned by the name that the CNAME
records lead to. -/
def IsAnswerChain (name : DnsName) (recordType : RecordType) (records : List DnsRecord) : Prop :=
  ∃ cnames typed last, records = cnames ++ typed ∧ CnameChain name cnames last ∧
    ∀ record ∈ typed, record.recordType = recordType ∧ record.name = last

theorem IsAnswerChain.prepend {name middle : DnsName} {recordType : RecordType}
    {chain records : List DnsRecord} (first : CnameChain name chain middle)
    (answer : IsAnswerChain middle recordType records) :
    IsAnswerChain name recordType (chain ++ records) := by
  obtain ⟨cnames, typed, last, split, second, owned⟩ := answer
  exact ⟨chain ++ cnames, typed, last, by rw [split, List.append_assoc], first.append second, owned⟩

/-- The records taken from the response are owned by the name, or form a chain of CNAME records
that starts at it. -/
def DnsMessage.ChainsFrom (response : DnsMessage) (name : DnsName) (recordType : RecordType) : Prop :=
  response.header.responseCode = .nameError ∨
    if response.typedAnswers recordType = [] ∨ recordType = .CNAME then
      ∃ last, CnameChain name
        (response.answers.filter fun record => record.recordType = .CNAME) last
    else ∀ record ∈ response.typedAnswers recordType, record.name = name

instance (response : DnsMessage) (name : DnsName) (recordType : RecordType) :
    Decidable (response.ChainsFrom name recordType) := by
  unfold DnsMessage.ChainsFrom
  infer_instance

/-- An accepted response whose answers form a chain from its question. -/
def Event.Chained : Event → Prop
  | .accepted _ name recordType response => response.ChainsFrom name recordType
  | _ => True

instance : (event : Event) → Decidable event.Chained
  | .accepted _ name recordType response =>
    inferInstanceAs (Decidable (response.ChainsFrom name recordType))
  | .datagram _ _ => isTrue trivial
  | .stream _ _ => isTrue trivial
  | .validated _ _ _ _ => isTrue trivial

namespace DnsMessage

variable {response : DnsMessage} {name : DnsName} {recordType : RecordType}

theorem mem_typedAnswers {record : DnsRecord} :
    record ∈ response.typedAnswers recordType ↔
      record ∈ response.answers ∧ record.recordType = recordType := by
  simp only [typedAnswers, List.mem_filter, decide_eq_true_eq]

/-- Without answers of another type than CNAME there are no others to tell the aliases from. -/
theorem aliasAnswers_of_untyped (other : recordType ≠ .CNAME) :
    response.aliasAnswers recordType =
      response.answers.filter fun record => record.recordType = .CNAME := by
  apply List.filter_congr
  intro record _
  simp only [decide_eq_decide]
  exact ⟨fun both => both.2, fun cname => ⟨fun same => other (same.symm.trans cname), cname⟩⟩

end DnsMessage

/-- The answers of chained runs: for the CNAME records of a name, the chain itself. -/
def ChainAnswer (name : DnsName) (recordType : RecordType) (records : List DnsRecord) : Prop :=
  if recordType = .CNAME then ∃ last, CnameChain name records last
  else IsAnswerChain name recordType records

theorem ChainAnswer.nil (name : DnsName) (recordType : RecordType) : ChainAnswer name recordType [] := by
  unfold ChainAnswer
  split
  · exact ⟨name, .nil⟩
  · exact ⟨[], [], name, rfl, .nil, fun _ member => absurd member List.not_mem_nil⟩

theorem chained_typed {response : DnsMessage} {name : DnsName} {recordType : RecordType}
    (chains : response.ChainsFrom name recordType) (noNameError : response.header.responseCode ≠ .nameError)
    (some : response.typedAnswers recordType ≠ []) :
    ChainAnswer name recordType (response.typedAnswers recordType) := by
  have chains := chains.resolve_left noNameError
  by_cases cname : recordType = .CNAME
  · rw [if_pos (Or.inr cname)] at chains
    rw [ChainAnswer, if_pos cname, cname]
    exact chains
  · rw [if_neg (not_or.mpr ⟨some, cname⟩)] at chains
    rw [ChainAnswer, if_neg cname]
    refine ⟨[], response.typedAnswers recordType, name, rfl, .nil, ?_⟩
    intro record member
    exact ⟨(DnsMessage.mem_typedAnswers.mp member).2, chains record member⟩

theorem chained_aliases {response : DnsMessage} {name : DnsName} {recordType : RecordType}
    (chains : response.ChainsFrom name recordType) (noNameError : response.header.responseCode ≠ .nameError)
    (none : response.typedAnswers recordType = []) {record : DnsRecord} {target : DnsName}
    (atLast : (response.aliasAnswers recordType).getLast? = some record)
    (leads : record.rdata = .CNAME target) :
    recordType ≠ .CNAME ∧ CnameChain name (response.aliasAnswers recordType) target := by
  have other : recordType ≠ .CNAME := by
    rintro rfl
    rw [DnsMessage.aliasAnswers_cname] at atLast
    cases atLast
  have chains := chains.resolve_left noNameError
  rw [if_pos (Or.inl none)] at chains
  obtain ⟨last, chain⟩ := chains
  rw [← DnsMessage.aliasAnswers_of_untyped other] at chain
  have reached := chain.last_target atLast leads
  rw [reached] at chain
  exact ⟨other, chain⟩

/-- Runs in which every accepted response is chained make answers that are chains. -/
theorem chained_closed : Closed Event.Chained (fun _ => True) ChainAnswer
    (fun name recordType chain currentName => recordType ≠ .CNAME ∧ CnameChain name chain currentName)
    (fun _ _ => True) where
  lookup _ _ _ _ _ _ := trivial
  cached _ _ _ _ _ _ _ := trivial
  resolved _ _ _ := trivial
  typed _ _ _ _ chains noNameError some :=
    ⟨chained_typed chains noNameError some, fun _ _ _ => trivial⟩
  aliases _ _ _ _ chains noNameError none :=
    ⟨fun _ _ atLast leads => chained_aliases chains noNameError none atLast leads, fun _ _ _ => trivial⟩
  referral _ _ _ _ _ _ _ _ _ _ _ _ _ _ := trivial
  glue _ _ _ _ _ _ _ _ _ _ _ _ _ _ := trivial
  empty := ChainAnswer.nil
  ended name recordType chain currentName := by
    rintro ⟨other, chain⟩
    rw [ChainAnswer, if_neg other]
    exact ⟨_, [], currentName, (List.append_nil _).symm, chain,
      fun _ member => absurd member List.not_mem_nil⟩
  answered name recordType chain currentName records := by
    rintro ⟨other, chain⟩ answer
    rw [ChainAnswer, if_neg other] at answer ⊢
    exact answer.prepend chain
  extended name recordType chain currentName records := by
    rintro ⟨other, chain⟩ answer
    rw [ChainAnswer, if_pos rfl] at answer
    obtain ⟨last, more⟩ := answer
    rw [more.extend]
    exact ⟨other, chain.append more⟩

namespace Resolver

/-- In a run whose accepted responses are all chained from their questions, the answer is a chain
from the question. -/
theorem resolveRecursive_answerChain {W D : Type} (self : Resolver W D) (fuel : Nat) (name : DnsName)
    (recordType : RecordType) (cache : DnsCache) (world : W) (records : List DnsRecord)
    (other : recordType ≠ .CNAME)
    (chained : ∀ event ∈ (self.resolveRecursive fuel name recordType 0 ⟨cache, world, []⟩).2.log,
      event.Chained)
    (returned : (self.resolveRecursive fuel name recordType 0 ⟨cache, world, []⟩).1 = .ok records) :
    IsAnswerChain name recordType records := by
  have ensures := self.resolveRecursive_ensures chained_closed self.heard_log fuel name recordType 0
  have answer := (ensures.keeps ⟨cache, world, []⟩ trivial chained trivial).2 records returned
  rwa [ChainAnswer, if_neg other] at answer

open Upstream

theorem resolveRecursive_answerChain_stepwise : IsAnswerChain www .A aliasWithAddress :=
  resolveRecursive_answerChain stepwise.resolver 1 www .A (DnsCache.new 10) blankTape aliasWithAddress
    (by decide) (by decide +kernel) (by decide +kernel)

/-- The CNAME record is dropped, so the answer for the alias is a record of another name. -/
theorem resolveRecursive_wholeChain_dropsAlias :
    ∃ records, (wholeChain.resolver.resolveRecursive 1 www .A 0 ⟨DnsCache.new 10, blankTape, []⟩).1 =
      .ok records ∧ records ≠ [] ∧ ¬IsAnswerChain www .A records := by
  refine ⟨aliasWithAddress.drop 1, by decide +kernel, by decide, ?_⟩
  rintro ⟨cnames, typed, last, split, chain, owned⟩
  cases cnames with
  | nil =>
    have ends : www = last := Option.some.inj (CnameChain.chainEnd_eq_some.mpr chain)
    have member : DnsRecord.new cdn .A 300 (.A ⟨192, 0, 2, 7⟩) ∈ typed := by
      rw [← List.nil_append typed, ← split]
      exact List.mem_cons_self
    have owner := (owned _ member).2
    rw [← ends] at owner
    exact absurd owner (by decide)
  | cons record rest =>
    have cname := chain.all_cname record List.mem_cons_self
    rw [← (List.cons.inj split).1] at cname
    exact absurd cname (by decide)

end Resolver

end DnsServer
