import DnsServer.Resolver.Steadiness

namespace DnsServer

open DnsCache

/-- The records with their TTLs left out. -/
def untimed (records : List DnsRecord) : List DnsRecord := records.map fun record => record.withTtl 0

theorem untimed_withTtl (records : List DnsRecord) (ttl : UInt32) :
    untimed (records.map fun record => record.withTtl ttl) = untimed records := by
  rw [untimed, List.map_map]
  rfl

theorem untimed_append (records records' : List DnsRecord) :
    untimed (records ++ records') = untimed records ++ untimed records' := List.map_append

theorem untimed_getLast? {records records' : List DnsRecord} (same : untimed records' = untimed records)
    {record : DnsRecord} (last : records.getLast? = some record) :
    ∃ record', records'.getLast? = some record' ∧ record'.rdata = record.rdata := by
  have ends : (untimed records').getLast? = (untimed records).getLast? := by rw [same]
  rw [untimed, untimed, List.getLast?_map, List.getLast?_map, last] at ends
  obtain ⟨record', last', timed⟩ := Option.map_eq_some_iff.mp ends
  have rdata := congrArg DnsRecord.rdata timed
  exact ⟨record', last', rdata⟩

namespace DnsMessage

theorem answers_of_typed {response : DnsMessage} {recordType : RecordType}
    (typed : response.typedAnswers recordType ≠ []) :
    response.answers ≠ [] := by
  intro none
  rw [DnsMessage.typedAnswers, none] at typed
  exact typed rfl

theorem answers_of_aliased {response : DnsMessage} {recordType : RecordType}
    (aliased : response.aliasAnswers recordType ≠ []) :
    response.answers ≠ [] := by
  intro none
  rw [DnsMessage.aliasAnswers, none] at aliased
  exact aliased rfl

end DnsMessage

/-- The questions that the resolution of a question may come to ask the servers. -/
inductive Upstream.Pursued (upstream : Upstream) (resolver : Resolver Tape DnsMessage) (name : DnsName)
    (recordType : RecordType) : DnsName → RecordType → Prop
  | question : resolver.zoneStore.zoneResult name recordType = .notFound →
      Pursued upstream resolver name recordType name recordType
  | zone {cnames record target targetType} :
      resolver.zoneStore.zoneResult name recordType = .followCname cnames → record ∈ cnames →
      record.rdata = .CNAME target → targetType = recordType ∨ targetType = .CNAME →
      Pursued upstream resolver name recordType target targetType
  | cname {owner ownerType walk server response record target targetType} :
      Pursued upstream resolver name recordType owner ownerType → upstream.Walked owner ownerType walk →
      server ∈ walk.nameservers → upstream server owner ownerType = some response →
      record ∈ response.answers → record.rdata = .CNAME target →
      targetType = recordType ∨ targetType = .CNAME →
      Pursued upstream resolver name recordType target targetType

/-- The records are, up to their TTLs, those that the servers answer to the question: records of its
type, or the aliases that they answer instead. -/
inductive Upstream.Agrees (upstream : Upstream) (name : DnsName) (recordType : RecordType)
    (records : List DnsRecord) : RecordType → Prop
  | answers {walk server response} : upstream.Walked name recordType walk → server ∈ walk.nameservers →
      upstream server name recordType = some response → response.typedAnswers recordType ≠ [] →
      (untimed records).Perm (untimed (response.typedAnswers recordType)) →
      Agrees upstream name recordType records recordType
  | aliases {walk server response} : upstream.Walked name recordType walk → server ∈ walk.nameservers →
      upstream server name recordType = some response → response.typedAnswers recordType = [] →
      response.aliasAnswers recordType ≠ [] →
      untimed records = untimed (response.aliasAnswers recordType) →
      Agrees upstream name recordType records .CNAME

/-- An accepted response that was no answer to the question stored records under a key that the question
looks up, and not those that the servers answer to the question. -/
def Upstream.Intrudes (upstream : Upstream) (resolver : Resolver Tape DnsMessage) (now : UInt32)
    (name : DnsName) (recordType : RecordType) : Event → Prop
  | .accepted _ asked askedType response => ∃ key records,
      resolver.Stores now asked askedType response key records ∧ minTtl records ≠ 0 ∧ key.name = name ∧
        (key.recordType = recordType ∨ key.recordType = .CNAME) ∧
        ¬(asked = name ∧ askedType = recordType ∧ response.answers ≠ []) ∧
        ¬upstream.Agrees name recordType records key.recordType
  | _ => False

namespace Resolver

section Chains

variable {W : Type} {rec : DnsName → RecordType → Resolution W (List DnsRecord)}

theorem extendChain_append (front chain : List DnsRecord) (currentName : DnsName) (records : List DnsRecord) :
    extendChain (front ++ chain) currentName records =
      (front ++ (extendChain chain currentName records).1, (extendChain chain currentName records).2) := by
  induction records generalizing chain currentName with
  | nil => rfl
  | cons record records ih =>
    unfold extendChain
    split
    · rw [List.append_assoc]
      exact ih _ _
    · exact ih _ _

/-- What a chain starts with is only carried along. -/
theorem chainRounds_append (targetType : RecordType) (rounds : Nat) (front chain : List DnsRecord)
    (currentName : DnsName) (s : State W) :
    chainRounds rec targetType rounds (front ++ chain) currentName s =
      (chainRounds rec targetType rounds chain currentName >>= fun rest => pure (front ++ rest)) s := by
  induction rounds generalizing chain currentName s with
  | zero => rfl
  | succ rounds ih =>
    rw [chainRounds, chainRounds, Prog.bind_apply, Prog.bind_apply, Prog.bind_apply]
    rcases rec currentName targetType s with ⟨records | error | _ | _, s₁⟩
    · dsimp only
      split
      · rw [List.append_assoc]
        rfl
      · rw [Prog.bind_apply, Prog.bind_apply]
        rcases Prog.attempt (rec currentName .CNAME) s₁ with ⟨(_ | cnameRecords) | error | _ | _, s₂⟩
        · rfl
        · dsimp only
          rw [extendChain_append]
          exact ih _ _ _
        all_goals rfl
    all_goals rfl

/-- The TTLs of the aliases that a chain starts with decide nothing but their own values. -/
theorem followCnameChain_untimed {cnames cnames' records : List DnsRecord} {targetType : RecordType}
    {s : State W} (same : untimed cnames' = untimed cnames)
    (returned : (followCnameChain rec cnames targetType s).1 = .ok records) :
    ∃ records', (followCnameChain rec cnames' targetType s).1 = .ok records' ∧
      untimed records' = untimed records := by
  rcases last : cnames.getLast? with _ | record
  · rw [followCnameChain, last] at returned
    cases returned
  obtain ⟨record', last', rdata'⟩ := untimed_getLast? same last
  rw [followCnameChain, last] at returned
  rw [followCnameChain, last']
  dsimp only at returned ⊢
  rw [rdata']
  cases rdata : record.rdata with
  | CNAME target =>
    rw [rdata] at returned
    have plain : chainRounds rec targetType MAX_CNAME_CHAIN (cnames ++ []) target s = _ :=
      chainRounds_append targetType MAX_CNAME_CHAIN cnames [] target s
    have timed : chainRounds rec targetType MAX_CNAME_CHAIN (cnames' ++ []) target s = _ :=
      chainRounds_append targetType MAX_CNAME_CHAIN cnames' [] target s
    rw [List.append_nil] at plain timed
    dsimp only at returned ⊢
    rw [plain] at returned
    obtain ⟨rest, s', run, back⟩ := Prog.bind_eq_ok.mp (Prod.ext returned rfl)
    cases back
    refine ⟨cnames' ++ rest, ?_, ?_⟩
    · rw [timed, Prog.bind_ok run]
      rfl
    · rw [untimed_append, untimed_append, same]
  | _ =>
    rw [rdata] at returned
    cases returned

end Chains

/-- A lookup always comes back, with the records of an entry or with nothing. -/
theorem cacheLookup_run {W D : Type} (self : Resolver W D) (name : DnsName) (recordType : RecordType)
    (s : State W) : ∃ found s', self.cacheLookup name recordType s = (.ok found, s') ∧
      (∀ records, found = some records → ∃ entry ttl, s.cache.peek ⟨name, recordType⟩ = some entry ∧
        records = entry.records.map fun record => record.withTtl ttl) ∧
      ∀ key entry, s'.cache.peek key = some entry → s.cache.peek key = some entry := by
  refine ⟨_, _, rfl, fun records found => ?_, fun key entry held => peek_lookup_of_some held⟩
  obtain ⟨entry, held, _, same⟩ := lookup_records found
  exact ⟨entry, _, held, same⟩

/-- With nothing in the cache a resolution starts at the roots, in a state that lookups lead to. -/
theorem resolveUpstream_blank {W D : Type} (self : Resolver W D) {J : State W → Prop}
    (lookups : ∀ name recordType, Prog.Keeps J (self.cacheLookup name recordType)) {s : State W} (start : J s)
    (blank : ∀ key, s.cache.peek key = none) (fuel : Nat) (name : DnsName) (recordType : RecordType) :
    ∃ s', J s' ∧
      self.resolveUpstream fuel name recordType s = self.resolveRecursive fuel name recordType 0 s' := by
  obtain ⟨found, s₁, lookup, source, held⟩ := self.cacheLookup_run name recordType s
  have kept := lookups name recordType s start
  rw [lookup] at kept
  rw [resolveUpstream, Prog.bind_ok lookup]
  cases found with
  | some records =>
    obtain ⟨entry, _, present, _⟩ := source records rfl
    rw [blank] at present
    cases present
  | none =>
    dsimp only
    split
    · obtain ⟨found, s₂, lookup, source, _⟩ := self.cacheLookup_run name .CNAME s₁
      have kept := lookups name .CNAME s₁ kept
      rw [lookup] at kept
      rw [Prog.bind_ok lookup]
      cases found with
      | some records =>
        obtain ⟨entry, _, present, _⟩ := source records rfl
        have earlier := held _ _ present
        rw [blank] at earlier
        cases earlier
      | none => exact ⟨s₂, kept, rfl⟩
    · exact ⟨s₁, kept, rfl⟩

end Resolver

namespace Upstream

variable {upstream : Upstream} {asked : DnsName → RecordType → Prop} {self : Resolver Tape DnsMessage}
  {now : UInt32} {name : DnsName} {recordType : RecordType} {fuel : Nat} {s : State Tape}

section Pursuit

theorem Pursued.types {target : DnsName} {targetType : RecordType}
    (pursued : upstream.Pursued self name recordType target targetType) :
    targetType = recordType ∨ targetType = .CNAME := by
  cases pursued with
  | question => exact Or.inl rfl
  | zone _ _ _ types => exact types
  | cname _ _ _ _ _ _ types => exact types

theorem pursued_chased : upstream.Chased (upstream.Pursued self name recordType) where
  onward pursued walked member given listed rdata :=
    ⟨.cname pursued walked member given listed rdata (Or.inr rfl),
      fun _ _ other => .cname pursued walked member given listed rdata other.types⟩

/-- The aliases of a zone lead to questions that are pursued. -/
theorem pursued_linked {cnames : List DnsRecord}
    (zone : self.zoneStore.zoneResult name recordType = .followCname cnames) {question : Prop} :
    Linked (upstream.Pursued self name recordType) question cnames :=
  fun _ _ member _ rdata => ⟨.zone zone member rdata (Or.inr rfl),
    fun _ _ other => .zone zone member rdata other.types⟩

/-- What a response with answers to the question stores agrees with the question. -/
theorem agrees_of_stores {walk : Walk} {server : SocketAddr} {response : DnsMessage} {key : CacheKey}
    {records : List DnsRecord} (walked : upstream.Walked name recordType walk)
    (member : server ∈ walk.nameservers) (given : upstream server name recordType = some response)
    (some : response.answers ≠ []) (stores : self.Stores now name recordType response key records) :
    upstream.Agrees name recordType records key.recordType := by
  cases stores with
  | answers _ _ typed => exact .answers walked member given typed (.refl _)
  | aliases _ _ untyped aliased => exact .aliases walked member given untyped aliased rfl
  | referral _ none => exact absurd none some
  | glue _ none => exact absurd none some

/-- What is held under a key that a question looks up agrees with the question, if nothing intruded. -/
theorem Orderly.agrees (orderly : upstream.Orderly asked self now s) (question : asked name recordType)
    (apart : ∀ event ∈ s.log, ¬upstream.Intrudes self now name recordType event) {key : CacheKey}
    {entry : CacheEntry} (held : s.cache.peek key = some entry) (ofName : key.name = name)
    (ofType : key.recordType = recordType ∨ key.recordType = .CNAME) :
    upstream.Agrees name recordType entry.records key.recordType := by
  obtain ⟨lasting, server, owner, ownerType, accepted, listed, stores⟩ := orderly.stored key entry held
  by_cases own : owner = name ∧ ownerType = recordType ∧ accepted.answers ≠ []
  · obtain ⟨rfl, rfl, answered⟩ := own
    obtain ⟨⟨response, id, given, rfl⟩, onWalk⟩ := orderly.heard _ listed
    obtain ⟨walk, walked, member⟩ := onWalk question
    exact agrees_of_stores walked member given answered (stores.withId response.header.id)
  · by_contra differs
    exact apart _ listed ⟨key, entry.records, stores, lasting, ofName, ofType, own, differs⟩

end Pursuit

section Resolving

variable (connected : self.network = upstream.network)

include connected

variable (coherent : upstream.Coherent asked) (chased : upstream.Chased asked)

include coherent chased

theorem below_steady (fuel : Nat) (name : DnsName) (recordType : RecordType) :
    Prog.Steady (asked name recordType) (upstream.Orderly asked self now) (upstream.Orderly asked self now)
      (self.resolveRecursive fuel name recordType 1) (Linked asked (asked name recordType)) :=
  resolveRecursive_steady connected coherent chased fuel name recordType 1

/-- Following cached aliases that agree with a question leads to what its resolution from the roots returns. -/
theorem followCnameChain_transparent {cold : State Tape} {cnames cnames' records : List DnsRecord}
    (question : asked name recordType) (other : recordType ≠ .CNAME)
    (agrees : upstream.Agrees name recordType cnames .CNAME) (timed : untimed cnames' = untimed cnames)
    (coldly : upstream.Orderly asked self now cold)
    (returned : (self.resolveRecursive fuel name recordType 0 cold).1 = .ok records)
    (orderly : upstream.Orderly asked self now s) :
    ∃ records', (Resolver.followCnameChain
        (fun name recordType => self.resolveRecursive fuel name recordType 1) cnames' recordType s).1 =
      .ok records' ∧ untimed records' = untimed records := by
  cases agrees with
  | answers => exact absurd rfl other
  | @aliases walk server response walked member given untyped aliased agrees =>
    obtain ⟨s', coldly', chain⟩ := (resolveRecursive_answered connected coherent chased question walked
      member given (DnsMessage.answers_of_aliased aliased) coldly returned).2 untyped aliased
    have linked : Linked asked (asked name recordType) (response.aliasAnswers recordType) :=
      fun question record listed => chased.linked (fun _ => walked) member given question record
        (List.mem_of_mem_filter listed)
    have steady : Prog.Steady (asked name recordType) (upstream.Orderly asked self now) _
        (Resolver.followCnameChain _ (response.aliasAnswers recordType) recordType) _ :=
      followCnameChain_steady (below_steady connected coherent chased fuel) fun record target last rdata =>
        ⟨linked, fun question =>
          (linked question record (List.mem_of_getLast? last) target rdata).2 name recordType question⟩
    rw [steady.alike question s' s coldly' orderly] at chain
    exact Resolver.followCnameChain_untimed (timed.trans agrees) chain

/-- Past the zones, what an empty cache makes a resolution return, any other cache does. -/
theorem resolveUpstream_transparent {cold : State Tape} {records : List DnsRecord}
    (orderly : upstream.Orderly asked self now s) (question : asked name recordType)
    (apart : ∀ event ∈ s.log, ¬upstream.Intrudes self now name recordType event)
    (coldly : upstream.Orderly asked self now cold) (blank : ∀ key, cold.cache.peek key = none)
    (returned : (self.resolveUpstream fuel name recordType cold).1 = .ok records) :
    ∃ records', (self.resolveUpstream fuel name recordType s).1 = .ok records' ∧
      (untimed records').Perm (untimed records) := by
  obtain ⟨cold', coldly', same⟩ := self.resolveUpstream_blank
    (cacheLookup_keeps connected) coldly blank fuel name recordType
  rw [same] at returned
  have recursive : ∀ s', upstream.Orderly asked self now s' →
      (self.resolveRecursive fuel name recordType 0 s').1 = .ok records := by
    intro s' kept
    have steady : Prog.Steady (asked name recordType) (upstream.Orderly asked self now) _ _ _ :=
      resolveRecursive_steady connected coherent chased fuel name recordType 0
    rw [steady.alike question s' cold' kept coldly', returned]
  obtain ⟨found, s₁, lookup, source, held⟩ := self.cacheLookup_run name recordType s
  have kept := cacheLookup_keeps connected name recordType s orderly
  rw [lookup] at kept
  rw [Resolver.resolveUpstream, Prog.bind_ok lookup]
  cases found with
  | some cached =>
    obtain ⟨entry, ttl, present, rfl⟩ := source cached rfl
    refine ⟨_, rfl, ?_⟩
    rw [untimed_withTtl]
    cases orderly.agrees question apart present rfl (Or.inl rfl) with
    | answers walked member given typed agrees =>
      rwa [(resolveRecursive_answered connected coherent chased question walked member given
        (DnsMessage.answers_of_typed typed) coldly' returned).1 typed]
    | aliases _ _ _ _ aliased => exact absurd (DnsMessage.aliasAnswers_cname _) aliased
  | none =>
    dsimp only
    split
    · rename_i other
      obtain ⟨found, s₂, lookup, source, _⟩ := self.cacheLookup_run name .CNAME s₁
      have kept := cacheLookup_keeps connected name .CNAME s₁ kept
      rw [lookup] at kept
      rw [Prog.bind_ok lookup]
      cases found with
      | some cached =>
        obtain ⟨entry, ttl, present, rfl⟩ := source cached rfl
        have agrees := orderly.agrees question apart (held _ _ present) rfl (Or.inr rfl)
        obtain ⟨records', followed, same⟩ := followCnameChain_transparent connected coherent chased question
          other agrees (untimed_withTtl _ ttl) coldly' returned kept
        exact ⟨records', followed, .of_eq same⟩
      | none => exact ⟨records, recursive s₂ kept, .refl _⟩
    · exact ⟨records, recursive s₁ kept, .refl _⟩

omit coherent chased

/-- A resolution of any question keeps the order that another question relies on. -/
theorem resolve_keeps (coherent : upstream.Coherent asked) (chased : upstream.Chased asked) (fuel : Nat)
    (name : DnsName) (recordType : RecordType) :
    Prog.Keeps (upstream.Orderly asked self now) (self.resolve fuel name recordType) := by
  have recursive : Prog.Keeps (upstream.Orderly asked self now) (self.resolveRecursive fuel name recordType 0) :=
    (resolveRecursive_steady connected coherent chased fuel name recordType 0).keeps
  have follow : ∀ cnames, Prog.Keeps (upstream.Orderly asked self now) (Resolver.followCnameChain
      (fun name recordType => self.resolveRecursive fuel name recordType 1) cnames recordType) := by
    intro cnames
    have steady : Prog.Steady False (upstream.Orderly asked self now) (upstream.Orderly asked self now)
        (Resolver.followCnameChain _ cnames recordType) _ :=
      followCnameChain_steady (below_steady connected coherent chased fuel) fun _ _ _ _ => ⟨False.elim, False.elim⟩
    exact steady.keeps
  unfold Resolver.resolve
  split
  · exact fun _ orderly => orderly
  · exact follow _
  · exact fun _ orderly => orderly
  · refine .bind (cacheLookup_keeps connected name recordType) fun cached => ?_
    split
    · exact fun _ orderly => orderly
    split
    · refine .bind (cacheLookup_keeps connected name .CNAME) fun cnames => ?_
      split
      · exact follow _
      · exact recursive
    · exact recursive

/-- What an empty cache makes a resolution return, any other cache does. -/
theorem resolve_same (coherent : upstream.Coherent (upstream.Pursued self name recordType))
    {cold : State Tape} {records : List DnsRecord}
    (orderly : upstream.Orderly (upstream.Pursued self name recordType) self now s)
    (apart : ∀ event ∈ s.log, ¬upstream.Intrudes self now name recordType event)
    (coldly : upstream.Orderly (upstream.Pursued self name recordType) self now cold)
    (blank : ∀ key, cold.cache.peek key = none)
    (returned : (self.resolve fuel name recordType cold).1 = .ok records) :
    ∃ records', (self.resolve fuel name recordType s).1 = .ok records' ∧
      (untimed records').Perm (untimed records) := by
  unfold Resolver.resolve at returned ⊢
  cases zone : self.zoneStore.zoneResult name recordType with
  | found held =>
    rw [zone] at returned
    exact ⟨records, returned, .refl _⟩
  | followCname cnames =>
    rw [zone] at returned
    have steady : Prog.Steady True (upstream.Orderly (upstream.Pursued self name recordType) self now) _
        (Resolver.followCnameChain _ cnames recordType) _ :=
      followCnameChain_steady (below_steady connected coherent pursued_chased fuel)
        fun record target last rdata => ⟨pursued_linked zone,
          fun _ => .zone zone (List.mem_of_getLast? last) rdata (Or.inl rfl)⟩
    dsimp only at returned ⊢
    rw [steady.alike trivial cold s coldly orderly] at returned
    exact ⟨records, returned, .refl _⟩
  | noData =>
    rw [zone] at returned
    exact ⟨records, returned, .refl _⟩
  | notFound =>
    rw [zone] at returned
    exact resolveUpstream_transparent connected coherent pursued_chased orderly (.question zone) apart coldly
      blank returned

end Resolving

end Upstream

/-- The state that the calls, each with its fuel and its question, lead to. -/
def Resolver.after (self : Resolver Tape DnsMessage) (calls : List (Nat × DnsName × RecordType))
    (s : State Tape) : State Tape :=
  calls.foldl (fun s call => (self.resolve call.1 call.2.1 call.2.2 s).2) s

/-- What the question returns with an empty cache, at the same time and whatever random numbers come,
it returns in this state too, in some order and up to the TTLs. -/
def Resolver.Transparent (self : Resolver Tape DnsMessage) (now : UInt32) (name : DnsName)
    (recordType : RecordType) (s : State Tape) : Prop :=
  ∀ maxEntries tape fuel records, (∀ i, tape.seconds i = now) →
    (self.resolve fuel name recordType ⟨DnsCache.new maxEntries, tape, []⟩).1 = .ok records →
    ∃ records', (self.resolve fuel name recordType s).1 = .ok records' ∧
      (untimed records').Perm (untimed records)

namespace Upstream

variable {upstream : Upstream} {self : Resolver Tape DnsMessage} {now : UInt32} {name : DnsName}
  {recordType : RecordType}

theorem orderly_start {asked : DnsName → RecordType → Prop} (maxEntries : Nat) {tape : Tape}
    (still : ∀ i, tape.seconds i = now) :
    upstream.Orderly asked self now ⟨DnsCache.new maxEntries, tape, []⟩ where
  clock := still
  heard _ member := absurd member List.not_mem_nil
  stored := stored_new _ maxEntries

theorem after_keeps {asked : DnsName → RecordType → Prop} (connected : self.network = upstream.network)
    (coherent : upstream.Coherent asked) (chased : upstream.Chased asked)
    (calls : List (Nat × DnsName × RecordType)) {s : State Tape}
    (orderly : upstream.Orderly asked self now s) : upstream.Orderly asked self now (self.after calls s) := by
  induction calls generalizing s with
  | nil => exact orderly
  | cons call calls ih =>
    exact ih (resolve_keeps connected coherent chased call.1 call.2.1 call.2.2 s orderly)

/-- The cache is transparent to a question after any calls, when the servers of one round answer alike the
questions that its resolution may come to ask, their referrals have glue, and nothing has intruded that
the servers do not answer to the question as well. -/
theorem resolve_transparent (connected : self.network = upstream.network)
    (coherent : upstream.Coherent (upstream.Pursued self name recordType)) (maxEntries : Nat) {tape : Tape}
    (still : ∀ i, tape.seconds i = now) (calls : List (Nat × DnsName × RecordType))
    (apart : ∀ event ∈ (self.after calls ⟨DnsCache.new maxEntries, tape, []⟩).log,
      ¬upstream.Intrudes self now name recordType event) :
    self.Transparent now name recordType (self.after calls ⟨DnsCache.new maxEntries, tape, []⟩) := by
  intro otherEntries other fuel records still' returned
  have orderly := after_keeps connected coherent pursued_chased calls (orderly_start maxEntries still)
  have blank : ∀ key, (DnsCache.new otherEntries).peek key = none := by
    intro key
    exact Option.eq_none_iff_forall_not_mem.mpr (stored_new (fun _ _ => False) otherEntries key)
  exact resolve_same connected coherent orderly apart (orderly_start otherEntries still') blank returned

/-- After an alias has been resolved, the same question finds it in the cache. -/
theorem resolve_transparent_stepwise : stepwise.resolver.Transparent 0 www .A
    (stepwise.resolver.after [(2, www, .A)] ⟨DnsCache.new 10, blankTape, []⟩) := by
  have answered : ∀ server name recordType response, stepwise server name recordType = some response →
      response.answers ≠ [] := by
    rintro server name recordType response ⟨⟩
    by_cases own : name = www
    · rw [if_pos own]
      exact List.cons_ne_nil _ _
    · rw [if_neg own]
      exact List.cons_ne_nil _ _
  have coherent : stepwise.Coherent (stepwise.Pursued stepwise.resolver www .A) :=
    ⟨fun _ _ _ _ _ _ => rfl, fun _ _ _ given referral =>
      absurd referral.noAnswers (answered _ _ _ _ given)⟩
  have log : (stepwise.resolver.after [(2, www, .A)] ⟨DnsCache.new 10, blankTape, []⟩).log.all
      (fun event => match event with
        | .accepted _ name recordType response =>
          decide (response.answers ≠ [] ∧ (name = www → recordType = .A))
        | _ => true) = true := by
    decide +kernel
  refine resolve_transparent rfl coherent 10 (fun _ => rfl) [(2, www, .A)] fun event member => ?_
  have fits := List.all_eq_true.mp log event member
  cases event with
  | accepted server name recordType response =>
    obtain ⟨some, own⟩ := of_decide_eq_true fits
    rintro ⟨key, records, stores, _, ofName, _, foreign, _⟩
    cases stores with
    | answers => exact foreign ⟨ofName, own ofName, some⟩
    | aliases => exact foreign ⟨ofName, own ofName, some⟩
    | referral _ none => exact some none
    | glue _ none => exact some none
  | _ => exact not_false

/-- The name of another server of the bank. -/
def branchServer : DnsName := ⟨["ns2", "bank", "test"]⟩

def bankServers : List DnsRecord :=
  [DnsRecord.new bank .NS 300 (.NS bankServer), DnsRecord.new bank .NS 300 (.NS branchServer)]

/-- The roots refer to both servers of the bank, which know the bank's name servers themselves. -/
def delegating : Upstream := fun server _ recordType =>
  if server ∈ rootServers then
    some { answering [] with
      authorities := bankServers
      additional := [DnsRecord.new bankServer .A 300 (.A ⟨203, 0, 113, 66⟩),
        DnsRecord.new branchServer .A 300 (.A ⟨203, 0, 113, 67⟩)] }
  else if recordType = .NS then some (answering bankServers)
  else some (answering [DnsRecord.new bank .A 300 (.A ⟨203, 0, 113, 80⟩)])

/-- Every server answers with its own address. -/
def divided : Upstream := fun server name _ => some (answering [DnsRecord.new name .A 300 (.A server.ip)])

/-- The roots refer to the server of the bank, with an address that is not the one that they answer for it. -/
def misplaced : Upstream := fun server name recordType =>
  if server ∈ rootServers then
    if name = bankServer then some (answering [DnsRecord.new bankServer .A 300 (.A ⟨198, 51, 100, 1⟩)])
    else if name = bank then some bankReferral
    else some { answering [] with authorities := [DnsRecord.new name .NS 300 (.NS bankServer)] }
  else divided server name recordType

/-- The name servers of a referral are cached one by one, each in the place of the one before; servers that
disagree answer one question differently; and a referral without glue goes to a cached address. -/
theorem resolve_untransparent :
    ¬delegating.resolver.Transparent 0 bank .NS
        (delegating.resolver.after [(2, bank, .A)] ⟨DnsCache.new 10, blankTape, []⟩) ∧
      ¬divided.resolver.Transparent 0 www .A
        (divided.resolver.after [] ⟨DnsCache.new 10, { blankTape with draws := fun _ => 1 }, []⟩) ∧
      ¬misplaced.resolver.Transparent 0 www .A
        (misplaced.resolver.after [(2, bank, .A)] ⟨DnsCache.new 10, blankTape, []⟩) := by
  refine ⟨fun transparent => ?_, fun transparent => ?_, fun transparent => ?_⟩
  · obtain ⟨records', back, same⟩ := transparent 10 blankTape 2 bankServers (fun _ => rfl) (by decide +kernel)
    have warm : (delegating.resolver.resolve 2 bank .NS
        (delegating.resolver.after [(2, bank, .A)] ⟨DnsCache.new 10, blankTape, []⟩)).1 =
        .ok (bankServers.drop 1) := by
      decide +kernel
    cases back.symm.trans warm
    exact absurd same.length_eq (by decide)
  · obtain ⟨records', back, same⟩ := transparent 10 blankTape 1
      [DnsRecord.new www .A 300 (.A ⟨198, 41, 0, 4⟩)] (fun _ => rfl) (by decide +kernel)
    have warm : (divided.resolver.resolve 1 www .A
        (divided.resolver.after [] ⟨DnsCache.new 10, { blankTape with draws := fun _ => 1 }, []⟩)).1 =
        .ok [DnsRecord.new www .A 300 (.A ⟨170, 247, 170, 2⟩)] := by
      decide +kernel
    cases back.symm.trans warm
    exact absurd (List.singleton_perm_singleton.mp same) (by decide)
  · obtain ⟨records', back, same⟩ := transparent 10 blankTape 2
      [DnsRecord.new www .A 300 (.A ⟨198, 51, 100, 1⟩)] (fun _ => rfl) (by decide +kernel)
    have warm : (misplaced.resolver.resolve 2 www .A
        (misplaced.resolver.after [(2, bank, .A)] ⟨DnsCache.new 10, blankTape, []⟩)).1 =
        .ok [DnsRecord.new www .A 300 (.A ⟨203, 0, 113, 66⟩)] := by
      decide +kernel
    cases back.symm.trans warm
    exact absurd (List.singleton_perm_singleton.mp same) (by decide)

end Upstream

end DnsServer
