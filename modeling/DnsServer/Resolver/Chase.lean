import DnsServer.Resolver.Absorb
import DnsServer.Resolver.AnswerChain
import DnsServer.Resolver.Asking
import DnsServer.Resolver.Transparency

namespace DnsServer

namespace Upstream

/-- Whichever server is asked, the response is without error and has just these answers. -/
def Replies (upstream : Upstream) (name : DnsName) (recordType : RecordType) (answers : List DnsRecord) :
    Prop :=
  ∀ server, ∃ response, upstream server name recordType = some response ∧
    response.header.responseCode = .noError ∧ response.answers = answers

/-- The question is answered with one CNAME record, which leads to the next name. -/
structure Aliases (upstream : Upstream) (name : DnsName) (recordType : RecordType) (record : DnsRecord)
    (next : DnsName) : Prop where
  replies : upstream.Replies name recordType [record]
  cname : record.recordType = .CNAME
  leads : record.rdata = .CNAME next

/-- The question is answered with records of its type. -/
structure Answers (upstream : Upstream) (name : DnsName) (recordType : RecordType)
    (records : List DnsRecord) : Prop where
  replies : upstream.Replies name recordType records
  some : records ≠ []
  typed : ∀ record ∈ records, record.recordType = recordType

variable {upstream : Upstream} {self : Resolver Tape DnsMessage} {name next : DnsName}
  {recordType : RecordType} {record : DnsRecord} {records answers : List DnsRecord} {depth : Nat}

/-- The root servers are asked, and one of them replies. -/
theorem Replies.query (replies : upstream.Replies name recordType answers)
    (connected : self.network = upstream.network) (s : State Tape) :
    ∃ response s', self.queryNameservers name recordType rootServers s = (.ok response, s') ∧
      response.header.responseCode = .noError ∧ response.answers = answers := by
  have inside : (s.world.draws 0).toNat % rootServers.length < rootServers.length :=
    Nat.mod_lt _ (by decide)
  have chosen := List.getElem?_eq_getElem inside
  obtain ⟨response, given, noError, same⟩ := replies _
  obtain ⟨id, s', run, _⟩ := queryNameservers_drawn connected chosen given
  exact ⟨response.withId id, s', run, noError, same⟩

/-- Without validation the answers are cached at once. -/
theorem absorb_unvalidated (unvalidated : self.enableDnssec = false) {response : DnsMessage}
    (noError : response.header.responseCode = .noError) (some : response.answers ≠ []) :
    self.absorb name recordType response = self.cacheAnswers name recordType response := by
  have noNameError : response.header.responseCode ≠ .nameError := by
    rw [noError]
    decide
  have answered : ¬response.answers.isEmpty := by simpa using some
  rw [Resolver.absorb, if_neg noNameError, if_pos answered, Resolver.processAnswers,
    Resolver.validateAnswers, unvalidated]
  rfl

/-- Records of the type asked for are absorbed as they are. -/
theorem cacheAnswers_typed (self : Resolver Tape DnsMessage) (name : DnsName) {response : DnsMessage} (some : response.answers ≠ [])
    (typed : ∀ record ∈ response.answers, record.recordType = recordType) (s : State Tape) :
    ∃ s', self.cacheAnswers name recordType response s = (.ok (.answers response.answers), s') := by
  have all : response.typedAnswers recordType = response.answers :=
    List.filter_eq_self.mpr fun record member => decide_eq_true (typed record member)
  have answered : ¬response.answers.isEmpty := by simpa using some
  have inserted := self.cacheInsert_run name recordType response.answers s
  rw [Resolver.cacheAnswers, all, if_pos answered]
  exact ⟨_, Prog.bind_ok inserted⟩

/-- One CNAME record is absorbed as an alias. -/
theorem cacheAnswers_alias (self : Resolver Tape DnsMessage) (name : DnsName) {response : DnsMessage} (one : response.answers = [record])
    (cname : record.recordType = .CNAME) (other : recordType ≠ .CNAME) (s : State Tape) :
    ∃ s', self.cacheAnswers name recordType response s = (.ok (.aliases [record]), s') := by
  have none : response.typedAnswers recordType = [] := by
    rw [DnsMessage.typedAnswers, one]
    exact List.filter_cons_of_neg (by simpa [cname] using other.symm)
  have aliased : response.aliasAnswers recordType = [record] := by
    rw [DnsMessage.aliasAnswers_of_untyped other, one]
    exact List.filter_cons_of_pos (decide_eq_true cname)
  have inserted := self.cacheInsert_run name .CNAME [record] s
  rw [Resolver.cacheAnswers, none, aliased]
  exact ⟨_, Prog.bind_ok inserted⟩

section Alias

variable {W : Type} {rec : DnsName → RecordType → Resolution W (List DnsRecord)} {s s' : State W}

/-- The first round ends the chain with the records of the name that the alias leads to. -/
theorem followCnameChain_ok (leads : record.rdata = .CNAME next) (some : records ≠ [])
    (below : rec next recordType s = (.ok records, s')) :
    Resolver.followCnameChain rec [record] recordType s = (.ok (record :: records), s') := by
  have answered : ¬records.isEmpty := by simpa using some
  rw [Resolver.followCnameChain, List.getLast?_singleton]
  dsimp only
  rw [leads, MAX_CNAME_CHAIN]
  dsimp only
  rw [Resolver.chainRounds, Prog.bind_ok below, if_pos answered]
  rfl

theorem followCnameChain_err {error : ResponseCode} (leads : record.rdata = .CNAME next)
    (below : rec next recordType s = (.err error, s')) :
    Resolver.followCnameChain rec [record] recordType s = (.err error, s') := by
  rw [Resolver.followCnameChain, List.getLast?_singleton]
  dsimp only
  rw [leads, MAX_CNAME_CHAIN]
  exact Prog.bind_err below

end Alias

/-- What one level of the resolution comes down to, once its response has been absorbed. -/
theorem resolveRecursive_absorbed {response : DnsMessage} {absorbed : Absorbed}
    {s s₁ s₂ : State Tape} (shallow : depth ≤ MAX_RECURSION_DEPTH) (fuel : Nat)
    (query : self.queryNameservers name recordType rootServers s = (.ok response, s₁))
    (absorb : self.absorb name recordType response s₁ = (.ok absorbed, s₂)) :
    self.resolveRecursive (fuel + 1) name recordType depth s =
      (self.continueWith
          (fun name recordType => self.resolveRecursive (fuel + 1) name recordType (depth + 1))
          recordType ⟨rootServers, []⟩ response.hasSoa absorbed >>=
        Sum.elim
          (Prog.loop (self.referralStep
            (fun name recordType => self.resolveRecursive (fuel + 1) name recordType (depth + 1))
            name recordType) fuel) pure) s₂ := by
  rw [Resolver.resolveRecursive, if_neg (not_lt.mpr shallow), Prog.loop_succ, Prog.bind_apply,
    Resolver.referralStep, Prog.bind_ok query, Prog.bind_ok absorb]
  rfl

section Levels

variable (connected : self.network = upstream.network) (unvalidated : self.enableDnssec = false)

include connected unvalidated

/-- A question that the upstream answers is answered so at any depth within the bound. -/
theorem Answers.resolveRecursive (answered : upstream.Answers name recordType records)
    (shallow : depth ≤ MAX_RECURSION_DEPTH) (fuel : Nat) (s : State Tape) :
    (self.resolveRecursive (fuel + 1) name recordType depth s).1 = .ok records := by
  obtain ⟨response, s₁, query, noError, rfl⟩ := answered.replies.query connected s
  obtain ⟨s₂, cached⟩ := cacheAnswers_typed self name answered.some answered.typed s₁
  rw [← absorb_unvalidated unvalidated noError answered.some] at cached
  rw [resolveRecursive_absorbed shallow fuel query cached]
  rfl

/-- An alias within the depth bound stands before what the resolution of the next name gives one
level down, and fails as that fails. -/
theorem Aliases.resolveRecursive (aliased : upstream.Aliases name recordType record next)
    (other : recordType ≠ .CNAME) (shallow : depth ≤ MAX_RECURSION_DEPTH) (fuel : Nat) (s : State Tape) :
    ∃ s', (∀ records, records ≠ [] →
        (self.resolveRecursive (fuel + 1) next recordType (depth + 1) s').1 = .ok records →
        (self.resolveRecursive (fuel + 1) name recordType depth s).1 = .ok (record :: records)) ∧
      ∀ error, (self.resolveRecursive (fuel + 1) next recordType (depth + 1) s').1 = .err error →
        (self.resolveRecursive (fuel + 1) name recordType depth s).1 = .err error := by
  obtain ⟨response, s₁, query, noError, one⟩ := aliased.replies.query connected s
  obtain ⟨s₂, cached⟩ := cacheAnswers_alias self name one aliased.cname other s₁
  have some : response.answers ≠ [] := by
    rw [one]
    exact List.cons_ne_nil _ _
  rw [← absorb_unvalidated unvalidated noError some] at cached
  let below := fun name recordType => self.resolveRecursive (fuel + 1) name recordType (depth + 1)
  rw [resolveRecursive_absorbed shallow fuel query cached]
  refine ⟨s₂, fun records some ok => ?_, fun error err => ?_⟩
  · have run : below next recordType s₂ = (.ok records, (below next recordType s₂).2) := Prod.ext ok rfl
    have followed : self.continueWith below recordType ⟨rootServers, []⟩ response.hasSoa (.aliases [record]) s₂ =
        (.ok (.inr (record :: records)), _) :=
      Prog.bind_ok (followCnameChain_ok aliased.leads some run)
    rw [Prog.bind_ok followed]
    rfl
  · have run : below next recordType s₂ = (.err error, (below next recordType s₂).2) := Prod.ext err rfl
    have followed : self.continueWith below recordType ⟨rootServers, []⟩ response.hasSoa (.aliases [record]) s₂ =
        (.err error, _) :=
      Prog.bind_err (followCnameChain_err aliased.leads run)
    rw [Prog.bind_err followed]

/-- Aliases that end within the depth bound are followed to the records at their end. -/
theorem resolveRecursive_chain (other : recordType ≠ .CNAME) (fuel : Nat) (length : Nat)
    (names : Nat → DnsName) (aliases : Nat → DnsRecord)
    (aliased : ∀ i < length, upstream.Aliases (names i) recordType (aliases i) (names (i + 1)))
    (answered : upstream.Answers (names length) recordType records)
    (within : depth + length ≤ MAX_RECURSION_DEPTH) (s : State Tape) :
    (self.resolveRecursive (fuel + 1) (names 0) recordType depth s).1 =
      .ok ((List.range length).map aliases ++ records) := by
  induction length generalizing depth names aliases s with
  | zero => exact answered.resolveRecursive connected unvalidated within fuel s
  | succ length ih =>
    obtain ⟨s', ok, _⟩ := (aliased 0 (Nat.succ_pos _)).resolveRecursive connected unvalidated other
      (by omega : depth ≤ MAX_RECURSION_DEPTH) fuel s
    have below := ih (fun i => names (i + 1)) (fun i => aliases (i + 1))
      (fun i before => aliased (i + 1) (by omega)) answered (by omega : depth + 1 + length ≤ MAX_RECURSION_DEPTH) s'
    have some : (List.range length).map (fun i => aliases (i + 1)) ++ records ≠ [] :=
      List.append_ne_nil_of_right_ne_nil _ answered.some
    rw [ok _ some below, List.range_succ_eq_map, List.map_cons, List.map_map]
    rfl

/-- Aliases that lead beyond the depth bound are not followed to their end. -/
theorem resolveRecursive_beyond (other : recordType ≠ .CNAME) (fuel : Nat) (left : Nat)
    (names : Nat → DnsName) (aliases : Nat → DnsRecord)
    (aliased : ∀ i < left, upstream.Aliases (names i) recordType (aliases i) (names (i + 1)))
    (beyond : depth + left = MAX_RECURSION_DEPTH + 1) (s : State Tape) :
    (self.resolveRecursive (fuel + 1) (names 0) recordType depth s).1 = .err .serverFailure := by
  induction left generalizing depth names aliases s with
  | zero =>
    rw [Resolver.resolveRecursive, if_pos (by omega)]
    rfl
  | succ left ih =>
    obtain ⟨s', _, err⟩ := (aliased 0 (Nat.succ_pos _)).resolveRecursive connected unvalidated other
      (by omega : depth ≤ MAX_RECURSION_DEPTH) fuel s
    exact err _ (ih (fun i => names (i + 1)) (fun i => aliases (i + 1))
      (fun i before => aliased (i + 1) (by omega)) (by omega) s')

end Levels

/-- A chain of aliases of up to 32 names is answered with its CNAME records and the records at its end,
and a longer or an endless one with a failure. -/
theorem resolve_chase (connected : self.network = upstream.network)
    (zoneless : self.zoneStore.zones = []) (unvalidated : self.enableDnssec = false)
    (other : recordType ≠ .CNAME) {s : State Tape} (blank : ∀ key, s.cache.peek key = none) (fuel : Nat)
    (names : Nat → DnsName) (aliases : Nat → DnsRecord) :
    (∀ k records,
        (∀ i < k, upstream.Aliases (names i) recordType (aliases i) (names (i + 1))) →
        upstream.Answers (names k) recordType records →
        (self.resolve (fuel + 1) (names 0) recordType s).1 =
          if k ≤ 32 then .ok ((List.range k).map aliases ++ records) else .err .serverFailure) ∧
      ((∀ i, upstream.Aliases (names i) recordType (aliases i) (names (i + 1))) →
        (self.resolve (fuel + 1) (names 0) recordType s).1 = .err .serverFailure) := by
  have unowned : self.zoneStore.zoneResult (names 0) recordType = .notFound := by
    rw [ZoneStore.zoneResult, ZoneStore.lookup, ZoneStore.findZone, zoneless]
    rfl
  have lookups : ∀ name recordType, Prog.Keeps (fun _ => True) (self.cacheLookup name recordType) :=
    fun _ _ _ _ => trivial
  obtain ⟨s', _, upward⟩ := self.resolveUpstream_blank lookups trivial blank (fuel + 1) (names 0) recordType
  rw [Resolver.resolve, unowned]
  dsimp only
  rw [upward]
  refine ⟨fun k records aliased answered => ?_, fun aliased => ?_⟩
  · split
    · rename_i within
      exact resolveRecursive_chain connected unvalidated other fuel k names aliases aliased answered
        (by rw [Nat.zero_add]; exact within) s'
    · rename_i longer
      exact resolveRecursive_beyond connected unvalidated other fuel (MAX_RECURSION_DEPTH + 1) names aliases
        (fun i before => aliased i (before.trans_le (not_le.mp longer))) (Nat.zero_add _) s'
  · exact resolveRecursive_beyond connected unvalidated other fuel (MAX_RECURSION_DEPTH + 1) names aliases
      (fun i _ => aliased i) (Nat.zero_add _) s'

/-- Every name is an alias of itself. -/
def looping : Upstream := fun _ name _ => some (answering [DnsRecord.new name .CNAME 300 (.CNAME name)])

/-- An alias is followed to its address, and a name that is its own alias is given up. -/
theorem resolve_chase_stepwise :
    (stepwise.resolver.resolve 1 www .A ⟨DnsCache.new 10, blankTape, []⟩).1 = .ok aliasWithAddress ∧
      (looping.resolver.resolve 1 www .A ⟨DnsCache.new 10, blankTape, []⟩).1 = .err .serverFailure := by
  have other : RecordType.A ≠ .CNAME := by decide
  have blank : ∀ key, (⟨DnsCache.new 10, blankTape, []⟩ : State Tape).cache.peek key = none := fun _ => rfl
  constructor
  · have chase := (resolve_chase (rfl : stepwise.resolver.network = stepwise.network) rfl rfl other blank 0
      (fun i => if i = 0 then www else cdn) fun _ => DnsRecord.new www .CNAME 300 (.CNAME cdn)).1
    refine chase 1 [DnsRecord.new cdn .A 300 (.A ⟨192, 0, 2, 7⟩)] ?_ ?_
    · intro i first
      cases Nat.lt_one_iff.mp first
      exact ⟨fun _ => ⟨_, rfl, rfl, rfl⟩, rfl, rfl⟩
    · exact ⟨fun _ => ⟨_, rfl, rfl, rfl⟩, List.cons_ne_nil _ _, by decide⟩
  · exact (resolve_chase (rfl : looping.resolver.network = looping.network) rfl rfl other blank 0
      (fun _ => www) fun _ => DnsRecord.new www .CNAME 300 (.CNAME www)).2
      fun _ => ⟨fun _ => ⟨_, rfl, rfl, rfl⟩, rfl, rfl⟩

end Upstream

end DnsServer
