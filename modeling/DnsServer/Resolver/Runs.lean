import DnsServer.Lib.Monitor
import DnsServer.Resolver.Resolve

namespace DnsServer

variable {W D : Type}

/-- Runs in which every observed event of the log is allowed, with an invariant of the cache. -/
def monitor (W : Type) (observe : List Event → List Event) (Allowed : Event → Prop)
    (I : DnsCache → Prop) : Monitor (State W) Event :=
  ⟨fun s => observe s.log, Allowed, fun s => I s.cache⟩

section Calls

variable {observe : List Event → List Event} {Allowed : Event → Prop} {I : DnsCache → Prop}

theorem ask_ensures {α : Type} (call : W → α × W) :
    (monitor W observe Allowed I).Ensures True (ask call) fun _ => True :=
  .of_silent (fun _ => rfl) fun _ _ inv => ⟨inv, fun _ _ => trivial⟩

theorem note_ensures (event : Event) :
    (monitor W id Allowed I).Ensures True (note event : Resolution W Unit) fun _ => Allowed event where
  grows _ := List.prefix_append _ _
  keeps _ _ clean inv := ⟨inv, fun _ _ => clean event (List.mem_append_right _ List.mem_cons_self)⟩

/-- Whatever is noted, the observed part of the log only grows. -/
def Growing (observe : List Event → List Event) : Prop :=
  ∀ log event, observe log <+: observe (log ++ [event])

theorem growing_id : Growing id := fun _ _ => List.prefix_append _ _

theorem growing_nil : Growing fun _ => [] := fun _ _ => List.prefix_rfl

theorem Growing.note_ensures (growing : Growing observe) (event : Event) :
    (monitor W observe Allowed I).Ensures True (note event : Resolution W Unit) fun _ => True where
  grows _ := growing _ _
  keeps _ _ _ inv := ⟨inv, fun _ _ => trivial⟩

namespace Resolver

variable (self : Resolver W D)

theorem decoded_ensures (payload : D) :
    (monitor W id Allowed I).Ensures True (self.decoded payload) fun _ => True := by
  unfold decoded
  split
  · exact .ret fun _ => trivial
  · exact .ret fun _ => trivial
  · exact .panic
  · exact .hang

theorem queryTcp_ensures (name : DnsName) (recordType : RecordType) (server : SocketAddr) :
    (monitor W id Allowed I).Ensures True (self.queryTcp name recordType server) fun _ => True := by
  refine .bind (ask_ensures _) fun connected => ?_
  cases connected with
  | false => exact .fail
  | true =>
    refine .bind (ask_ensures _) fun id => ?_
    refine .bind (R := fun _ => True) ((note_ensures _).weaken (fun _ => trivial) fun _ _ _ => trivial)
      fun _ => ?_
    refine .bind (ask_ensures _) fun reply => ?_
    cases reply with
    | none => exact .fail
    | some payload =>
      refine .bind (self.decoded_ensures payload) fun message => ?_
      cases message with
      | ok response => exact .ret fun _ => trivial
      | error _ => exact .fail

theorem tryServer_ensures (queryId : UInt16) (name : DnsName) (recordType : RecordType)
    (server : SocketAddr) :
    (monitor W id Allowed I).Ensures True (self.tryServer queryId name recordType server) fun _ => True := by
  refine .bind (R := fun _ => True) ((note_ensures _).weaken (fun _ => trivial) fun _ _ _ => trivial)
    fun _ => ?_
  refine .bind (ask_ensures _) fun sent => ?_
  cases sent with
  | false => exact .ret fun _ => trivial
  | true =>
    refine .bind (ask_ensures _) fun reply => ?_
    cases reply with
    | none => exact .ret fun _ => trivial
    | some payload =>
      refine .bind (self.decoded_ensures payload) fun message => ?_
      cases message with
      | error _ => exact .ret fun _ => trivial
      | ok response =>
        dsimp only
        split
        · split
          · have fallback : (monitor W id Allowed I).Ensures _ _ _ :=
              self.queryTcp_ensures name recordType server
            refine .bind (fallback.attempt.weaken (fun _ => trivial) fun _ _ _ => trivial) fun caught => ?_
            cases caught with
            | ok tcpResponse => exact .ret fun _ => trivial
            | error _ => exact .ret fun _ => trivial
          · exact .ret fun _ => trivial
        · exact .ret fun _ => trivial

theorem tryServers_ensures (queryId : UInt16) (name : DnsName) (recordType : RecordType)
    (nameservers : List SocketAddr) (indices : List Nat) :
    (monitor W id Allowed I).Ensures True (self.tryServers queryId name recordType nameservers indices)
      fun response => ∃ server ∈ nameservers, Allowed (.accepted server name recordType response) := by
  induction indices with
  | nil => exact .fail
  | cons i is ih =>
    unfold tryServers
    split
    · rename_i server chosen
      refine .bind (self.tryServer_ensures queryId name recordType server) fun reply => ?_
      cases reply with
      | none => exact ih
      | some response =>
        refine .bind (note_ensures _) fun _ => .ret fun allowed => ?_
        exact ⟨server, List.mem_of_getElem? chosen, allowed⟩
    · exact .panic

theorem offsets_ensures (count : Nat) (tries : List Nat) :
    (monitor W observe Allowed I).Ensures True (self.offsets count tries) fun _ => True := by
  induction tries with
  | nil => exact .ret fun _ => trivial
  | cons i is ih =>
    refine .bind (ask_ensures _) fun random => ?_
    split
    · exact .panic
    · exact .bind ih fun _ => .ret fun _ => trivial

/-- What a query returns is a response that one of the servers was heard to give. -/
theorem queryNameservers_ensures (name : DnsName) (recordType : RecordType) (nameservers : List SocketAddr) :
    (monitor W id Allowed I).Ensures True (self.queryNameservers name recordType nameservers)
      fun response => ∃ server ∈ nameservers, Allowed (.accepted server name recordType response) := by
  refine .bind (ask_ensures _) fun bound => ?_
  cases bound with
  | false => exact .fail
  | true =>
    refine .bind (ask_ensures _) fun id => ?_
    exact .bind (self.offsets_ensures _ _) fun indices => self.tryServers_ensures id _ _ _ indices

end Resolver

end Calls

/-- What a class of runs has to satisfy so that its invariant of the cache, its properties of
answers, of unfinished CNAME chains and of the addresses found for a name server hold throughout. -/
structure Closed (Allowed : Event → Prop) (I : DnsCache → Prop)
    (Answer : DnsName → RecordType → List DnsRecord → Prop)
    (Chain : DnsName → RecordType → List DnsRecord → DnsName → Prop)
    (Found : DnsName → List SocketAddr → Prop) : Prop where
  lookup : ∀ cache name recordType now later, I cache → I (cache.lookup name recordType now later).2
  cached : ∀ cache name now later records, I cache →
    (cache.lookup name .A now later).1 = some records → Found name (addressesOf records)
  resolved : ∀ name records, Answer name .A records → Found name (addressesOf records)
  typed : ∀ server name recordType response, Allowed (.accepted server name recordType response) →
    response.header.responseCode ≠ .nameError → response.typedAnswers recordType ≠ [] →
    Answer name recordType (response.typedAnswers recordType) ∧
      ∀ cache now, I cache → I (cache.insert name recordType (response.typedAnswers recordType) now)
  aliases : ∀ server name recordType response, Allowed (.accepted server name recordType response) →
    response.header.responseCode ≠ .nameError → response.typedAnswers recordType = [] →
    (∀ record target, (response.aliasAnswers recordType).getLast? = some record →
        record.rdata = .CNAME target →
        Chain name recordType (response.aliasAnswers recordType) target) ∧
      ∀ cache now, I cache → I (cache.insert name .CNAME (response.aliasAnswers recordType) now)
  referral : ∀ server name recordType response, Allowed (.accepted server name recordType response) →
    response.header.responseCode ≠ .nameError → response.answers = [] →
    ∀ record ∈ response.authorities, ∀ nsName, record.nsTarget = some nsName →
    ∀ cache now, I cache → I (cache.insert record.name .NS [record] now)
  glue : ∀ server name recordType response, Allowed (.accepted server name recordType response) →
    response.header.responseCode ≠ .nameError → response.answers = [] →
    ∀ record ∈ response.additional, ∀ addr, record.glueFor response.nsNames = some addr →
    ∀ cache now, I cache → I (cache.insert record.name .A [record] now)
  empty : ∀ name recordType, Answer name recordType []
  ended : ∀ name recordType chain currentName, Chain name recordType chain currentName →
    Answer name recordType chain
  answered : ∀ name recordType chain currentName records, Chain name recordType chain currentName →
    Answer currentName recordType records → Answer name recordType (chain ++ records)
  extended : ∀ name recordType chain currentName records, Chain name recordType chain currentName →
    Answer currentName .CNAME records →
    Chain name recordType (Resolver.extendChain chain currentName records).1
      (Resolver.extendChain chain currentName records).2

/-- What an absorbed response promises the loop. -/
def Absorbed.Meets (Answer : DnsName → RecordType → List DnsRecord → Prop)
    (Chain : DnsName → RecordType → List DnsRecord → DnsName → Prop) (name : DnsName)
    (recordType : RecordType) (response : DnsMessage) : Absorbed → Prop
  | .answers result => Answer name recordType result
  | .aliases cnames => ∀ record target, cnames.getLast? = some record → record.rdata = .CNAME target →
    Chain name recordType cnames target
  | .referral newNsNames glueAddrs => response.header.responseCode ≠ .nameError ∧
    response.answers = [] ∧ newNsNames = response.nsNames ∧ glueAddrs = response.glueAddrs

/-- A response without answers that delegates to name servers. -/
structure DnsMessage.IsReferral (response : DnsMessage) : Prop where
  noNameError : response.header.responseCode ≠ .nameError
  noAnswers : response.answers = []
  delegates : response.nsNames ≠ []

/-- The response refers the loop from one round to the next: to its glue, or to the addresses found
for one of its name servers when it has no glue. -/
structure DnsMessage.Refers (Found : DnsName → List SocketAddr → Prop) (response : DnsMessage)
    (walk next : Walk) : Prop extends response.IsReferral where
  changes : response.nsNames ≠ walk.lastNsNames
  names : next.lastNsNames = response.nsNames
  reachable : next.nameservers ≠ []
  servers : next.nameservers = response.glueAddrs ∨
    response.glueAddrs = [] ∧ ∃ nsName ∈ response.nsNames, Found nsName next.nameservers

/-- Whatever a query returns was allowed as the response of one of the servers that were asked, and
these are servers of the given kind in every round of the loop. -/
structure Resolver.Heard (resolver : Resolver W D) (observe : List Event → List Event)
    (Allowed : Event → Prop) (I : DnsCache → Prop) (Found : DnsName → List SocketAddr → Prop)
    (Servers : DnsName → RecordType → List SocketAddr → Prop) : Prop where
  grows : Growing observe
  query : ∀ name recordType nameservers, (monitor W observe Allowed I).Ensures
    (Servers name recordType nameservers) (resolver.queryNameservers name recordType nameservers)
    fun response => ∃ server ∈ nameservers, Allowed (.accepted server name recordType response)
  roots : ∀ name recordType, Servers name recordType rootServers
  visits : ∀ server name recordType response walk next, server ∈ walk.nameservers →
    Allowed (.accepted server name recordType response) → response.Refers Found walk next →
    Servers name recordType next.nameservers

namespace Resolver

variable (self : Resolver W D) {observe : List Event → List Event} {Allowed : Event → Prop}
  {I : DnsCache → Prop} {Answer : DnsName → RecordType → List DnsRecord → Prop}
  {Chain : DnsName → RecordType → List DnsRecord → DnsName → Prop}
  {Found : DnsName → List SocketAddr → Prop}
  {Servers : DnsName → RecordType → List SocketAddr → Prop}

/-- The log of a run tells what was heard. -/
theorem heard_log : self.Heard id Allowed I Found fun _ _ _ => True where
  grows := growing_id
  query := self.queryNameservers_ensures
  roots _ _ := trivial
  visits _ _ _ _ _ _ _ _ _ := trivial

theorem cacheInsert_ensures (name : DnsName) (recordType : RecordType) (records : List DnsRecord) :
    (monitor W observe Allowed I).Ensures
      (∀ cache now, I cache → I (cache.insert name recordType records now))
      (self.cacheInsert name recordType records) fun _ => True :=
  .of_silent (fun _ => rfl) fun _ kept inv => ⟨kept _ _ inv, fun _ _ => trivial⟩

theorem cacheLookup_ensures (closed : Closed Allowed I Answer Chain Found) (name : DnsName)
    (recordType : RecordType) :
    (monitor W observe Allowed I).Ensures True (self.cacheLookup name recordType) fun _ => True :=
  .of_silent (fun _ => rfl) fun _ _ inv => ⟨closed.lookup _ _ _ _ _ inv, fun _ _ => trivial⟩

theorem cacheLookup_found (closed : Closed Allowed I Answer Chain Found) (nsName : DnsName) :
    (monitor W observe Allowed I).Ensures True (self.cacheLookup nsName .A)
      fun cached => ∀ records, cached = some records → Found nsName (addressesOf records) := by
  refine .of_silent (fun _ => rfl) fun s _ inv => ⟨closed.lookup _ _ _ _ _ inv, ?_⟩
  rintro _ run records rfl
  exact closed.cached _ nsName _ _ records inv (Outcome.ok.inj run)

theorem validateAnswers_ensures (growing : Growing observe) (name : DnsName) (recordType : RecordType)
    (response : DnsMessage) :
    (monitor W observe Allowed I).Ensures True (self.validateAnswers name recordType response)
      fun _ => True := by
  unfold validateAnswers
  split
  · refine .bind (ask_ensures _) fun now => .bind (growing.note_ensures _) fun _ => ?_
    split
    · exact .fail
    · exact .ret fun _ => trivial
  · exact .ret fun _ => trivial

theorem cacheEach_ensures {α : Type} (recordType : RecordType) (pick : DnsRecord → Option α)
    (records : List DnsRecord) :
    (monitor W observe Allowed I).Ensures
      (∀ record ∈ records, ∀ found, pick record = some found →
        ∀ cache now, I cache → I (cache.insert record.name recordType [record] now))
      (self.cacheEach recordType pick records) fun collected => collected = records.filterMap pick := by
  induction records with
  | nil => exact .ret fun _ => rfl
  | cons record records ih =>
    unfold cacheEach
    split
    · rename_i found picked
      have insert : (monitor W observe Allowed I).Ensures _ _ _ :=
        self.cacheInsert_ensures record.name recordType [record]
      refine .bind (insert.weaken (fun kept => kept record List.mem_cons_self found picked)
        fun _ kept _ r member => kept r (List.mem_cons_of_mem _ member)) fun _ => ?_
      refine .bind ih fun rest => .ret fun collected => ?_
      rw [collected, List.filterMap_cons, picked]
    · rename_i picked
      refine ih.weaken (fun kept r member => kept r (List.mem_cons_of_mem _ member)) ?_
      intro collected _ tail
      rw [tail, List.filterMap_cons, picked]

/-- An absorbed response keeps the invariant and promises what the class of runs asks for. -/
theorem absorb_ensures (growing : Growing observe) (closed : Closed Allowed I Answer Chain Found)
    (name : DnsName) (recordType : RecordType) (response : DnsMessage) :
    (monitor W observe Allowed I).Ensures (∃ server, Allowed (.accepted server name recordType response))
      (self.absorb name recordType response) (Absorbed.Meets Answer Chain name recordType response) := by
  unfold absorb
  split
  · exact .fail
  rename_i noNameError
  split
  · refine .bind (R := fun _ => ∃ server, Allowed (.accepted server name recordType response))
      ((self.validateAnswers_ensures growing name recordType response).weaken (fun _ => trivial)
        fun _ allowed _ => allowed) fun _ => ?_
    unfold cacheAnswers
    split
    · rename_i found
      have some : response.typedAnswers recordType ≠ [] := by simpa using found
      refine .bind ((self.cacheInsert_ensures name recordType _).weaken
        (fun ⟨server, allowed⟩ => (closed.typed _ _ _ _ allowed noNameError some).2)
        fun _ allowed _ => allowed) fun _ => .ret ?_
      exact fun ⟨server, allowed⟩ => (closed.typed _ _ _ _ allowed noNameError some).1
    · rename_i none
      have none : response.typedAnswers recordType = [] := by simpa using none
      split
      · refine .bind ((self.cacheInsert_ensures name .CNAME _).weaken
          (fun ⟨server, allowed⟩ => (closed.aliases _ _ _ _ allowed noNameError none).2)
          fun _ allowed _ => allowed) fun _ => .ret ?_
        exact fun ⟨server, allowed⟩ => (closed.aliases _ _ _ _ allowed noNameError none).1
      · exact .ret fun _ => closed.empty name recordType
  · rename_i noAnswers
    have noAnswers : response.answers = [] := by simpa using noAnswers
    have referrals : (monitor W observe Allowed I).Ensures _ _ _ :=
      self.cacheEach_ensures .NS DnsRecord.nsTarget response.authorities
    refine .bind (referrals.weaken
      (fun ⟨server, allowed⟩ => closed.referral server name recordType response allowed noNameError noAnswers)
      fun _ allowed names => And.intro allowed names) fun newNsNames => ?_
    have glue : (monitor W observe Allowed I).Ensures _ _ _ :=
      self.cacheEach_ensures .A (fun record => record.glueFor newNsNames) response.additional
    refine .bind (R := fun glueAddrs => newNsNames = response.nsNames ∧ glueAddrs = response.glueAddrs)
      (glue.weaken ?_ ?_) fun glueAddrs => .ret fun ⟨names, addrs⟩ => ⟨noNameError, noAnswers, names, addrs⟩
    · rintro ⟨⟨server, allowed⟩, rfl⟩
      exact closed.glue server name recordType response allowed noNameError noAnswers
    · rintro glueAddrs ⟨_, rfl⟩ collected
      exact ⟨rfl, collected⟩

section Recursion

variable {rec : DnsName → RecordType → Resolution W (List DnsRecord)}

theorem nsAddress_ensures (closed : Closed Allowed I Answer Chain Found)
    (below : ∀ name recordType,
      (monitor W observe Allowed I).Ensures True (rec name recordType) (Answer name recordType))
    (nsName : DnsName) :
    (monitor W observe Allowed I).Ensures True (self.nsAddress rec nsName)
      fun found => found ≠ [] → Found nsName found := by
  refine .bind (self.cacheLookup_found closed nsName) fun cached => ?_
  cases cached with
  | some records => exact .ret fun found _ => found records rfl
  | none =>
    refine .bind ((below nsName .A).attempt.weaken (fun _ => trivial) fun _ _ done => done)
      fun caught => ?_
    cases caught with
    | ok records => exact .ret fun answer _ => closed.resolved nsName records (answer records rfl)
    | error _ => exact .ret fun _ none => absurd rfl none

theorem nsAddresses_ensures (closed : Closed Allowed I Answer Chain Found)
    (below : ∀ name recordType,
      (monitor W observe Allowed I).Ensures True (rec name recordType) (Answer name recordType))
    (nsNames : List DnsName) :
    (monitor W observe Allowed I).Ensures True (self.nsAddresses rec nsNames)
      fun found => found ≠ [] → ∃ nsName ∈ nsNames, Found nsName found := by
  induction nsNames with
  | nil => exact .ret fun _ none => absurd rfl none
  | cons nsName nsNames ih =>
    refine .bind (self.nsAddress_ensures closed below nsName) fun found => ?_
    split
    · refine ih.weaken (fun _ => trivial) fun found _ later some => ?_
      obtain ⟨nsName', member, reached⟩ := later some
      exact ⟨nsName', List.mem_cons_of_mem _ member, reached⟩
    · exact .ret fun reached some => ⟨nsName, List.mem_cons_self, reached some⟩

/-- A chain takes records only from what it had and from the new ones. -/
theorem extendChain_all {P : DnsRecord → Prop} {chain records : List DnsRecord} {currentName : DnsName}
    (before : ∀ record ∈ chain, P record) (new : ∀ record ∈ records, P record) :
    ∀ record ∈ (extendChain chain currentName records).1, P record := by
  induction records generalizing chain currentName with
  | nil => exact before
  | cons record records ih =>
    have rest : ∀ record ∈ records, P record := fun other member => new other (List.mem_cons_of_mem _ member)
    unfold extendChain
    split
    · refine ih (fun other member => ?_) rest
      rcases List.mem_append.mp member with member | member
      · exact before other member
      · rw [List.mem_singleton.mp member]
        exact new record List.mem_cons_self
    · exact ih before rest

/-- If it goes anywhere, it goes to the target of one of the new records. -/
theorem extendChain_target {P : DnsName → Prop} {chain records : List DnsRecord} {currentName : DnsName}
    (start : P currentName)
    (targets : ∀ record ∈ records, ∀ target, record.rdata = .CNAME target → P target) :
    P (extendChain chain currentName records).2 := by
  induction records generalizing chain currentName with
  | nil => exact start
  | cons record records ih =>
    have rest : ∀ record ∈ records, ∀ target, record.rdata = .CNAME target → P target :=
      fun other member => targets other (List.mem_cons_of_mem _ member)
    unfold extendChain
    split
    · rename_i target rdata
      exact ih (targets record List.mem_cons_self target rdata) rest
    · exact ih start rest

theorem chainRounds_ensures (closed : Closed Allowed I Answer Chain Found)
    (below : ∀ name recordType,
      (monitor W observe Allowed I).Ensures True (rec name recordType) (Answer name recordType))
    (name : DnsName) (targetType : RecordType) (rounds : Nat) (chain : List DnsRecord)
    (currentName : DnsName) :
    (monitor W observe Allowed I).Ensures (Chain name targetType chain currentName)
      (chainRounds rec targetType rounds chain currentName) (Answer name targetType) := by
  induction rounds generalizing chain currentName with
  | zero => exact .ret (closed.ended _ _ _ _)
  | succ rounds ih =>
    refine .bind ((below currentName targetType).weaken (fun _ => trivial)
      fun _ chained answer => And.intro chained answer) fun records => ?_
    split
    · exact .ret fun ⟨chained, answer⟩ => closed.answered _ _ _ _ _ chained answer
    · refine .bind ((below currentName .CNAME).attempt.weaken (fun _ => trivial)
        fun _ pre answer => And.intro pre.1 answer) fun caught => ?_
      cases caught with
      | ok cnameRecords =>
        exact (ih _ _).weaken
          (fun ⟨chained, answer⟩ => closed.extended _ _ _ _ _ chained (answer _ rfl)) fun _ _ done => done
      | error _ => exact .ret fun ⟨chained, _⟩ => closed.ended _ _ _ _ chained

theorem followCnameChain_ensures (closed : Closed Allowed I Answer Chain Found)
    (below : ∀ name recordType,
      (monitor W observe Allowed I).Ensures True (rec name recordType) (Answer name recordType))
    (name : DnsName) (targetType : RecordType) (cnames : List DnsRecord) :
    (monitor W observe Allowed I).Ensures
      (∀ record target, cnames.getLast? = some record → record.rdata = .CNAME target →
        Chain name targetType cnames target)
      (followCnameChain rec cnames targetType) (Answer name targetType) := by
  unfold followCnameChain
  split
  · rename_i record last
    split
    · rename_i target rdata
      exact (chainRounds_ensures closed below name targetType _ cnames target).weaken
        (fun chained => chained record target last rdata) fun _ _ done => done
    · exact .fail
  · exact .fail

theorem followReferral_ensures (closed : Closed Allowed I Answer Chain Found)
    (below : ∀ name recordType,
      (monitor W observe Allowed I).Ensures True (rec name recordType) (Answer name recordType))
    (name : DnsName) (recordType : RecordType) (walk : Walk) (response : DnsMessage)
    (newNsNames : List DnsName) (glueAddrs : List SocketAddr) :
    (monitor W observe Allowed I).Ensures
      (Absorbed.Meets Answer Chain name recordType response (.referral newNsNames glueAddrs))
      (self.followReferral rec walk response.hasSoa newNsNames glueAddrs)
      (Sum.elim (response.Refers Found walk) (Answer name recordType)) := by
  unfold followReferral
  split
  · split
    · exact .ret fun _ => closed.empty name recordType
    · exact .fail
  rename_i delegates
  have delegates : newNsNames ≠ [] := by simpa using delegates
  split
  · exact .fail
  rename_i changes
  split
  · rename_i glue
    have reachable : glueAddrs ≠ [] := by simpa using glue
    refine .ret ?_
    rintro ⟨noNameError, noAnswers, rfl, rfl⟩
    exact ⟨⟨noNameError, noAnswers, delegates⟩, changes, rfl, reachable, Or.inl rfl⟩
  · rename_i noGlue
    have noGlue : glueAddrs = [] := by simpa using noGlue
    have addresses : (monitor W observe Allowed I).Ensures _ _ _ :=
      self.nsAddresses_ensures closed below newNsNames
    refine .bind (addresses.weaken (fun _ => trivial) fun _ meets found => And.intro meets found)
      fun resolved => ?_
    split
    · exact .fail
    · rename_i some
      have reachable : resolved ≠ [] := by simpa using some
      refine .ret ?_
      rintro ⟨⟨noNameError, noAnswers, rfl, glue⟩, found⟩
      exact ⟨⟨noNameError, noAnswers, delegates⟩, changes, rfl, reachable,
        Or.inr ⟨glue.symm.trans noGlue, found reachable⟩⟩

theorem continueWith_ensures (closed : Closed Allowed I Answer Chain Found)
    (below : ∀ name recordType,
      (monitor W observe Allowed I).Ensures True (rec name recordType) (Answer name recordType))
    (name : DnsName) (recordType : RecordType) (walk : Walk) (response : DnsMessage)
    (absorbed : Absorbed) :
    (monitor W observe Allowed I).Ensures (absorbed.Meets Answer Chain name recordType response)
      (self.continueWith rec recordType walk response.hasSoa absorbed)
      (Sum.elim (response.Refers Found walk) (Answer name recordType)) := by
  cases absorbed with
  | answers result => exact .ret id
  | aliases cnames =>
    exact .bind (followCnameChain_ensures closed below name recordType cnames) fun _ => .ret id
  | referral newNsNames glueAddrs =>
    exact self.followReferral_ensures closed below name recordType walk response _ _

theorem referralStep_ensures (closed : Closed Allowed I Answer Chain Found)
    (heard : self.Heard observe Allowed I Found Servers)
    (below : ∀ name recordType,
      (monitor W observe Allowed I).Ensures True (rec name recordType) (Answer name recordType))
    (name : DnsName) (recordType : RecordType) (walk : Walk) :
    (monitor W observe Allowed I).Ensures (Servers name recordType walk.nameservers)
      (self.referralStep rec name recordType walk)
      (Sum.elim
        (fun next => ∃ server ∈ walk.nameservers, ∃ response,
          Allowed (.accepted server name recordType response) ∧ response.Refers Found walk next)
        (Answer name recordType)) := by
  refine .bind (heard.query name recordType walk.nameservers) fun response => ?_
  have absorb : (monitor W observe Allowed I).Ensures _ _ _ :=
    self.absorb_ensures heard.grows closed name recordType response
  refine .bind (absorb.weaken (fun ⟨server, _, allowed⟩ => ⟨server, allowed⟩)
    fun _ source meets => And.intro source meets) fun absorbed => ?_
  have continued := self.continueWith_ensures closed below name recordType walk response absorbed
  refine continued.weaken And.right fun next source done => ?_
  cases next with
  | inl next =>
    obtain ⟨⟨server, member, allowed⟩, _⟩ := source
    exact ⟨server, member, response, allowed, done⟩
  | inr result => exact done

end Recursion

/-- A closed class of runs keeps its invariant through a whole resolution, and what the resolution
returns has the property of answers. The induction is on the depth still allowed. -/
theorem resolveRecursive_ensures (closed : Closed Allowed I Answer Chain Found)
    (heard : self.Heard observe Allowed I Found Servers) (fuel : Nat) (name : DnsName)
    (recordType : RecordType) (depth : Nat) :
    (monitor W observe Allowed I).Ensures True (self.resolveRecursive fuel name recordType depth)
      (Answer name recordType) := by
  induction levels : MAX_RECURSION_DEPTH + 1 - depth generalizing name recordType depth with
  | zero =>
    rw [resolveRecursive, if_pos (by omega)]
    exact .fail
  | succ levels ih =>
    rw [resolveRecursive, if_neg (by omega)]
    have below : ∀ name recordType, (monitor W observe Allowed I).Ensures True
        (self.resolveRecursive fuel name recordType (depth + 1)) (Answer name recordType) :=
      fun name recordType => ih name recordType (depth + 1) (by omega)
    have round : ∀ walk : Walk, (monitor W observe Allowed I).Ensures
        (Servers name recordType walk.nameservers)
        (self.referralStep (fun name recordType => self.resolveRecursive fuel name recordType (depth + 1))
          name recordType walk)
        (Sum.elim (fun next => Servers name recordType next.nameservers) (Answer name recordType)) := by
      intro walk
      refine (self.referralStep_ensures closed heard below name recordType walk).weaken id ?_
      intro next _ done
      cases next with
      | inl next =>
        obtain ⟨server, member, response, allowed, refers⟩ := done
        exact heard.visits server name recordType response walk next member allowed refers
      | inr result => exact done
    exact (Monitor.Ensures.loop round fuel ⟨rootServers, []⟩).weaken
      (fun _ => heard.roots name recordType) fun _ _ done => done

/-- An invariant that asks nothing of answers holds through `resolve`, whose answers may come from
a zone or from the cache. -/
theorem resolve_heard
    (closed : Closed Allowed I (fun _ _ _ => True) (fun _ _ _ _ => True) fun _ _ => True)
    (heard : self.Heard observe Allowed I (fun _ _ => True) Servers) (fuel : Nat) (name : DnsName)
    (recordType : RecordType) :
    (monitor W observe Allowed I).Ensures True (self.resolve fuel name recordType) fun _ => True := by
  have recursive : ∀ depth name recordType, (monitor W observe Allowed I).Ensures True
      (self.resolveRecursive fuel name recordType depth) fun _ => True :=
    fun depth name recordType =>
      self.resolveRecursive_ensures closed heard fuel name recordType depth
  have follow : ∀ cnames, (monitor W observe Allowed I).Ensures True
      (followCnameChain (fun name recordType => self.resolveRecursive fuel name recordType 1) cnames
        recordType) fun _ => True :=
    fun cnames => (followCnameChain_ensures closed (recursive 1) name recordType cnames).weaken
      (fun _ _ _ _ _ => trivial) fun _ _ done => done
  unfold resolve
  split
  · exact .ret fun _ => trivial
  · exact follow _
  · exact .ret fun _ => trivial
  · refine .bind (self.cacheLookup_ensures closed name recordType) fun cached => ?_
    cases cached with
    | some records => exact .ret fun _ => trivial
    | none =>
      dsimp only
      split
      · refine .bind (self.cacheLookup_ensures closed name .CNAME) fun cnames => ?_
        cases cnames with
        | some cnames => exact follow cnames
        | none => exact recursive 0 name recordType
      · exact recursive 0 name recordType

theorem resolve_ensures
    (closed : Closed Allowed I (fun _ _ _ => True) (fun _ _ _ _ => True) fun _ _ => True) (fuel : Nat)
    (name : DnsName) (recordType : RecordType) :
    (monitor W id Allowed I).Ensures True (self.resolve fuel name recordType) fun _ => True :=
  self.resolve_heard closed self.heard_log fuel name recordType

/-- The states that a resolver comes to by any sequence of calls, starting with an empty cache. -/
inductive Reached : State W → Prop
  | start (maxEntries : Nat) (world : W) : Reached ⟨DnsCache.new maxEntries, world, []⟩
  | call {s : State W} (fuel : Nat) (name : DnsName) (recordType : RecordType) : Reached s →
      Reached (self.resolve fuel name recordType s).2

variable {self}

/-- An invariant of a closed class of runs holds in every state that such a run comes to. -/
theorem Reached.invariant
    (closed : Closed Allowed I (fun _ _ _ => True) (fun _ _ _ _ => True) fun _ _ => True)
    (initially : ∀ maxEntries, I (DnsCache.new maxEntries)) {s : State W} (reached : self.Reached s)
    (clean : ∀ event ∈ s.log, Allowed event) : I s.cache := by
  induction reached with
  | start maxEntries world => exact initially maxEntries
  | @call before fuel name recordType _ ih =>
    have ensures := self.resolve_ensures closed fuel name recordType
    have earlier := ih fun event member => clean event ((ensures.grows before).subset member)
    exact (ensures.keeps before trivial clean earlier).1

end Resolver

end DnsServer
