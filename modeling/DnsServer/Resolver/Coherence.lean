import DnsServer.Lib.Steady
import DnsServer.Resolver.Asking

namespace DnsServer

open DnsCache

namespace Resolver

variable {W D : Type}

/-- The response is not bogus, as far as the resolver looks. -/
def Passes (resolver : Resolver W D) (now : UInt32) (name : DnsName) (recordType : RecordType)
    (response : DnsMessage) : Prop :=
  resolver.enableDnssec = true →
    resolver.dnssecValidator.validateResponse now response.allRecords name recordType ≠ .Bogus

/-- What an accepted response to a question stores in the cache. -/
inductive Stores (resolver : Resolver W D) (now : UInt32) (name : DnsName) (recordType : RecordType)
    (response : DnsMessage) : CacheKey → List DnsRecord → Prop
  | answers : response.header.responseCode ≠ .nameError → resolver.Passes now name recordType response →
      response.typedAnswers recordType ≠ [] →
      Stores resolver now name recordType response ⟨name, recordType⟩ (response.typedAnswers recordType)
  | aliases : response.header.responseCode ≠ .nameError → resolver.Passes now name recordType response →
      response.typedAnswers recordType = [] → response.aliasAnswers recordType ≠ [] →
      Stores resolver now name recordType response ⟨name, .CNAME⟩ (response.aliasAnswers recordType)
  | referral {record nsName} : response.header.responseCode ≠ .nameError → response.answers = [] →
      record ∈ response.authorities → record.nsTarget = some nsName →
      Stores resolver now name recordType response ⟨record.name, .NS⟩ [record]
  | glue {record addr} : response.header.responseCode ≠ .nameError → response.answers = [] →
      record ∈ response.additional → record.glueFor response.nsNames = some addr →
      Stores resolver now name recordType response ⟨record.name, .A⟩ [record]

theorem Stores.withId {resolver : Resolver W D} {now : UInt32} {name : DnsName} {recordType : RecordType}
    {response : DnsMessage} {key : CacheKey} {records : List DnsRecord}
    (stores : resolver.Stores now name recordType response key records) (id : UInt16) :
    resolver.Stores now name recordType (response.withId id) key records := by
  cases stores with
  | answers noNameError passes typed => exact .answers noNameError passes typed
  | aliases noNameError passes untyped aliased => exact .aliases noNameError passes untyped aliased
  | referral noNameError none member target => exact .referral noNameError none member target
  | glue noNameError none member address => exact .glue noNameError none member address

end Resolver

namespace Upstream

/-- The rounds of the referral loop for a question, when every referral has glue. -/
inductive Walked (upstream : Upstream) (name : DnsName) (recordType : RecordType) : Walk → Prop
  | start : Walked upstream name recordType ⟨rootServers, []⟩
  | next {walk : Walk} {server : SocketAddr} {response : DnsMessage} :
      Walked upstream name recordType walk → server ∈ walk.nameservers →
      upstream server name recordType = some response → response.IsReferral →
      response.nsNames ≠ walk.lastNsNames →
      Walked upstream name recordType ⟨response.glueAddrs, response.nsNames⟩

/-- For the questions asked, the servers of one round answer alike and every referral has glue. -/
structure Coherent (upstream : Upstream) (asked : DnsName → RecordType → Prop) : Prop where
  alike : ∀ {name recordType walk}, asked name recordType → upstream.Walked name recordType walk →
    ∀ server ∈ walk.nameservers, ∀ other ∈ walk.nameservers,
      upstream server name recordType = upstream other name recordType
  glued : ∀ {name recordType walk server response}, asked name recordType →
    upstream.Walked name recordType walk → server ∈ walk.nameservers →
    upstream server name recordType = some response → response.IsReferral → response.glueAddrs ≠ []

/-- Every question asked of another name is asked of this one too, and so is the question for its alias. -/
def Onward (asked : DnsName → RecordType → Prop) (target : DnsName) : Prop :=
  asked target .CNAME ∧ ∀ other recordType, asked other recordType → asked target recordType

/-- The questions go on with whatever an alias in their answers leads to. -/
structure Chased (upstream : Upstream) (asked : DnsName → RecordType → Prop) : Prop where
  onward : ∀ {name recordType walk server response record target}, asked name recordType →
    upstream.Walked name recordType walk → server ∈ walk.nameservers →
    upstream server name recordType = some response → record ∈ response.answers →
    record.rdata = .CNAME target → Onward asked target

/-- An accepted response was given by the server, and to a question asked by a server of one of its rounds. -/
def OnWalk (upstream : Upstream) (asked : DnsName → RecordType → Prop) : Event → Prop
  | .accepted server name recordType response => upstream.Gives server name recordType response ∧
      (asked name recordType → ∃ walk, upstream.Walked name recordType walk ∧ server ∈ walk.nameservers)
  | _ => True

/-- The response was accepted as one to the question. -/
def Heard (name : DnsName) (recordType : RecordType) (response : DnsMessage) (log : List Event) : Prop :=
  ∃ server id, .accepted server name recordType (response.withId id) ∈ log

/-- The records were stored by an accepted response. -/
def StoredFrom (self : Resolver Tape DnsMessage) (now : UInt32) (log : List Event) (key : CacheKey)
    (records : List DnsRecord) : Prop :=
  minTtl records ≠ 0 ∧ ∃ server name recordType response,
    .accepted server name recordType response ∈ log ∧ self.Stores now name recordType response key records

/-- The clock stands still, and all that the cache holds comes from responses of the rounds. -/
structure Orderly (upstream : Upstream) (asked : DnsName → RecordType → Prop)
    (resolver : Resolver Tape DnsMessage) (now : UInt32) (s : State Tape) : Prop where
  clock : ∀ i, s.world.seconds i = now
  heard : ∀ event ∈ s.log, upstream.OnWalk asked event
  stored : s.cache.Stored (StoredFrom resolver now s.log)

/-- The response has been accepted. -/
def Attentive (upstream : Upstream) (asked : DnsName → RecordType → Prop)
    (resolver : Resolver Tape DnsMessage) (now : UInt32) (name : DnsName) (recordType : RecordType)
    (response : DnsMessage) (s : State Tape) : Prop :=
  upstream.Orderly asked resolver now s ∧ Heard name recordType response s.log

variable {upstream : Upstream} {asked : DnsName → RecordType → Prop} {self : Resolver Tape DnsMessage}
  {now : UInt32} {name : DnsName} {recordType : RecordType} {walk : Walk} {response : DnsMessage}

theorem StoredFrom.later {log : List Event} {key : CacheKey} {records : List DnsRecord}
    (stored : StoredFrom self now log key records) (event : Event) :
    StoredFrom self now (log ++ [event]) key records := by
  obtain ⟨lasting, server, name, recordType, response, accepted, stores⟩ := stored
  exact ⟨lasting, server, name, recordType, response, List.mem_append_left _ accepted, stores⟩

theorem Orderly.noted {s : State Tape} (orderly : upstream.Orderly asked self now s) {event : Event}
    (fits : upstream.OnWalk asked event) : upstream.Orderly asked self now { s with log := s.log ++ [event] } where
  clock := orderly.clock
  heard := by
    intro e member
    rcases List.mem_append.mp member with earlier | last
    · exact orderly.heard e earlier
    · rw [List.mem_singleton.mp last]
      exact fits
  stored key entry found := (orderly.stored key entry found).later event

theorem note_keeps {event : Event} (fits : upstream.OnWalk asked event) :
    Prog.Keeps (upstream.Orderly asked self now) (note event : Resolution Tape Unit) :=
  fun _ orderly => orderly.noted fits

theorem ask_keeps {α : Type} {call : Tape → α × Tape}
    (still : ∀ tape, (∀ i, tape.seconds i = now) → ∀ i, (call tape).2.seconds i = now) :
    Prog.Keeps (upstream.Orderly asked self now) (ask call) :=
  fun _ orderly => ⟨still _ orderly.clock, orderly.heard, orderly.stored⟩

section Asking

variable (connected : self.network = upstream.network)

include connected

theorem orderly_undisturbed : self.Undisturbed (upstream.Orderly asked self now) where
  datagram _ _ := note_keeps trivial
  sendTo _ _ := ask_keeps fun _ still => by rwa [connected]
  recvFrom := ask_keeps fun _ still => by rwa [connected]
  connect _ := ask_keeps fun _ still => by rwa [connected]
  randomU16 := ask_keeps fun _ still => by rwa [connected]
  stream _ _ := note_keeps trivial
  exchange _ _ := ask_keeps fun _ still => by rwa [connected]

/-- What some tries return is the response of one of the servers, and has been noted. -/
theorem tryServers_heard (walked : asked name recordType → upstream.Walked name recordType walk)
    (id : UInt16) (indices : List Nat) {s : State Tape} (orderly : upstream.Orderly asked self now s) :
    upstream.Orderly asked self now (self.tryServers id name recordType walk.nameservers indices s).2 ∧
      ∀ accepted, (self.tryServers id name recordType walk.nameservers indices s).1 = .ok accepted →
        ∃ server ∈ walk.nameservers, ∃ response id', upstream server name recordType = some response ∧
          accepted = response.withId id' ∧ Heard name recordType response
            (self.tryServers id name recordType walk.nameservers indices s).2.log := by
  induction indices generalizing s with
  | nil =>
    refine ⟨orderly, ?_⟩
    rintro accepted ⟨⟩
  | cons i is ih =>
    rw [Resolver.tryServers]
    rcases chosen : walk.nameservers[i]? with _ | server
    · refine ⟨orderly, ?_⟩
      rintro accepted ⟨⟩
    have member := List.mem_of_getElem? chosen
    obtain ⟨s', _, id', run⟩ := tryServer_run connected id name recordType server s
    have kept := Resolver.tryServer_keeps (orderly_undisturbed connected) id name recordType server s orderly
    rw [run] at kept
    dsimp only
    rw [Prog.bind_ok run]
    rcases given : upstream server name recordType with _ | response
    · exact ih kept
    have fits : upstream.OnWalk asked (.accepted server name recordType (response.withId id')) :=
      ⟨⟨response, id', given, rfl⟩, fun question => ⟨walk, walked question, member⟩⟩
    refine ⟨kept.noted fits, ?_⟩
    rintro _ ⟨⟩
    exact ⟨server, member, response, id', given, rfl, server, id', List.mem_append_right _ List.mem_cons_self⟩

/-- When none of the servers replies, the tries fail. -/
theorem tryServers_refused {nameservers : List SocketAddr}
    (refused : ∀ server ∈ nameservers, upstream server name recordType = none) (id : UInt16)
    {indices : List Nat} (inside : ∀ i ∈ indices, i < nameservers.length) (s : State Tape) :
    (self.tryServers id name recordType nameservers indices s).1 = .err .serverFailure := by
  induction indices generalizing s with
  | nil => rfl
  | cons i is ih =>
    have bound := inside i List.mem_cons_self
    obtain ⟨s', _, id', run⟩ := tryServer_run connected id name recordType nameservers[i] s
    rw [refused _ (List.getElem_mem bound)] at run
    rw [Resolver.tryServers, List.getElem?_eq_getElem bound]
    dsimp only
    rw [Prog.bind_ok run]
    exact ih (fun j member => inside j (List.mem_cons_of_mem _ member)) s'

/-- When all of the servers give the same response, the first try accepts it. -/
theorem tryServers_given {nameservers : List SocketAddr}
    (given : ∀ server ∈ nameservers, upstream server name recordType = some response) (id : UInt16)
    {i : Nat} (inside : i < nameservers.length) (is : List Nat) (s : State Tape) :
    ∃ id', (self.tryServers id name recordType nameservers (i :: is) s).1 = .ok (response.withId id') := by
  obtain ⟨s', _, id', run⟩ := tryServer_run connected id name recordType nameservers[i] s
  rw [given _ (List.getElem_mem inside)] at run
  refine ⟨id', ?_⟩
  rw [Resolver.tryServers, List.getElem?_eq_getElem inside]
  dsimp only
  rw [Prog.bind_ok run]
  rfl

theorem queryNameservers_nobody (name : DnsName) (recordType : RecordType) {s : State Tape}
    (orderly : upstream.Orderly asked self now s) :
    ∃ s', self.queryNameservers name recordType [] s = (.panic, s') ∧ upstream.Orderly asked self now s' := by
  obtain ⟨network, zoneStore, dnssecValidator, enableDnssec⟩ := self
  dsimp only at connected
  subst connected
  exact ⟨_, rfl, orderly.clock, orderly.heard, orderly.stored⟩

/-- A query to some servers comes down to tries at chosen indices. -/
theorem queryNameservers_tries (name : DnsName) (recordType : RecordType) {nameservers : List SocketAddr}
    (some : nameservers ≠ []) {s : State Tape}
    (orderly : upstream.Orderly asked self now s) : ∃ id i is s', upstream.Orderly asked self now s' ∧
      (∀ j ∈ i :: is, j < nameservers.length) ∧
      self.queryNameservers name recordType nameservers s =
        self.tryServers id name recordType nameservers (i :: is) s' := by
  have positive := List.length_pos_of_ne_nil some
  let s₁ : State Tape := { s with world := { s.world with ids := fun i => s.world.ids (i + 1) } }
  have offsets := offsets_run connected (by omega : nameservers.length ≠ 0) (List.range MAX_RETRIES) s₁
  have inside : ∀ j ∈ (List.range MAX_RETRIES).mapIdx fun k i =>
      (UInt64.ofNat i + s₁.world.draws k).toNat % nameservers.length, j < nameservers.length := by
    intro j member
    obtain ⟨k, bound, rfl⟩ := List.mem_mapIdx.mp member
    exact Nat.mod_lt _ positive
  obtain ⟨i, is, chosen⟩ : ∃ i is, ((List.range MAX_RETRIES).mapIdx fun k i =>
      (UInt64.ofNat i + s₁.world.draws k).toNat % nameservers.length) = i :: is := by
    rw [MAX_RETRIES, List.range_succ_eq_map, List.mapIdx_cons]
    exact ⟨_, _, rfl⟩
  rw [chosen] at inside offsets
  have moved : upstream.Orderly asked self now (drawn s₁ (List.range MAX_RETRIES).length) :=
    ⟨orderly.clock, orderly.heard, orderly.stored⟩
  refine ⟨s.world.ids 0, i, is, _, moved, inside, ?_⟩
  rw [Resolver.queryNameservers, connected, ask_bind]
  change (ask upstream.network.randomU16 >>= _) s = _
  rw [ask_bind]
  change (self.offsets nameservers.length (List.range MAX_RETRIES) >>= _) s₁ = _
  rw [Prog.bind_ok offsets]
  rfl

/-- What a query returns is the response of one of the servers, and has been noted. -/
theorem queryNameservers_heard (walked : asked name recordType → upstream.Walked name recordType walk)
    {s : State Tape} (orderly : upstream.Orderly asked self now s) :
    upstream.Orderly asked self now (self.queryNameservers name recordType walk.nameservers s).2 ∧
      ∀ accepted, (self.queryNameservers name recordType walk.nameservers s).1 = .ok accepted →
        ∃ server ∈ walk.nameservers, ∃ response id', upstream server name recordType = some response ∧
          accepted = response.withId id' ∧ Heard name recordType response
            (self.queryNameservers name recordType walk.nameservers s).2.log := by
  rcases servers : walk.nameservers with _ | ⟨server, others⟩
  · obtain ⟨s', run, kept⟩ := queryNameservers_nobody connected name recordType orderly
    rw [run]
    refine ⟨kept, ?_⟩
    rintro accepted ⟨⟩
  · have some : walk.nameservers ≠ [] := by
      rw [servers]
      exact List.cons_ne_nil _ _
    obtain ⟨id, i, is, s', kept, _, run⟩ := queryNameservers_tries connected name recordType some orderly
    rw [← servers, run]
    exact tryServers_heard connected walked id (i :: is) kept

/-- What servers that answer alike reply to a query is accepted whatever the state. -/
theorem queryNameservers_given (coherent : upstream.Coherent asked) (question : asked name recordType)
    (walked : upstream.Walked name recordType walk) {server : SocketAddr} (member : server ∈ walk.nameservers)
    (given : upstream server name recordType = some response) {s : State Tape}
    (orderly : upstream.Orderly asked self now s) :
    ∃ id s', self.queryNameservers name recordType walk.nameservers s = (.ok (response.withId id), s') ∧
      upstream.Attentive asked self now name recordType response s' := by
  have all : ∀ other ∈ walk.nameservers, upstream other name recordType = some response :=
    fun other listed => (coherent.alike question walked other listed server member).trans given
  obtain ⟨id, i, is, s', _, inside, tries⟩ := queryNameservers_tries connected name recordType
    (List.ne_nil_of_mem member) orderly
  obtain ⟨id', accepted⟩ := tryServers_given connected all id (inside i List.mem_cons_self) is s'
  rw [← tries] at accepted
  obtain ⟨kept, heard⟩ := queryNameservers_heard connected (fun _ => walked) orderly
  obtain ⟨other, listed, response', id'', given', same, noted⟩ := heard _ accepted
  rw [all other listed] at given'
  cases given'
  exact ⟨id', _, Prod.ext accepted rfl, kept, noted⟩

/-- A query to servers that answer alike ends in the same way whatever the state. -/
theorem queryNameservers_alike (coherent : upstream.Coherent asked) (question : asked name recordType)
    (walked : upstream.Walked name recordType walk) {s t : State Tape}
    (orderly : upstream.Orderly asked self now s) (orderly' : upstream.Orderly asked self now t) :
    (∃ server ∈ walk.nameservers, ∃ response, upstream server name recordType = some response) ∨
      ∃ out s' t', (∀ accepted, out ≠ .ok accepted) ∧
        self.queryNameservers name recordType walk.nameservers s = (out, s') ∧
        self.queryNameservers name recordType walk.nameservers t = (out, t') := by
  rcases servers : walk.nameservers with _ | ⟨server, others⟩
  · obtain ⟨s', run, _⟩ := queryNameservers_nobody connected name recordType orderly
    obtain ⟨t', run', _⟩ := queryNameservers_nobody connected name recordType orderly'
    exact Or.inr ⟨.panic, s', t', by simp, run, run'⟩
  rw [← servers]
  have member : server ∈ walk.nameservers := by
    rw [servers]
    exact List.mem_cons_self
  rcases given : upstream server name recordType with _ | response
  · have refused : ∀ other ∈ walk.nameservers, upstream other name recordType = none :=
      fun other listed => (coherent.alike question walked other listed server member).trans given
    have fails : ∀ s : State Tape, upstream.Orderly asked self now s →
        (self.queryNameservers name recordType walk.nameservers s).1 = .err .serverFailure := by
      intro s orderly
      obtain ⟨id, i, is, s', _, inside, tries⟩ := queryNameservers_tries connected name recordType
        (List.ne_nil_of_mem member) orderly
      rw [tries]
      exact tryServers_refused connected refused id inside s'
    exact Or.inr ⟨.err .serverFailure, _, _, by simp, Prod.ext (fails s orderly) rfl,
      Prod.ext (fails t orderly') rfl⟩
  · exact Or.inl ⟨server, member, response, given⟩

/-- A query in a round and what is done with its response, when that does not look at the identifier. -/
theorem queryNameservers_steady (coherent : upstream.Coherent asked)
    (walked : asked name recordType → upstream.Walked name recordType walk) {β : Type} {Q : β → Prop}
    {f : DnsMessage → Resolution Tape β} (blind : ∀ response id, f (response.withId id) = f response)
    (rest : ∀ server ∈ walk.nameservers, ∀ response, upstream server name recordType = some response →
      Prog.Steady (asked name recordType) (upstream.Attentive asked self now name recordType response)
        (upstream.Orderly asked self now) (f response) Q) :
    Prog.Steady (asked name recordType) (upstream.Orderly asked self now) (upstream.Orderly asked self now)
      (self.queryNameservers name recordType walk.nameservers >>= f) Q where
  keeps s orderly := by
    obtain ⟨kept, heard⟩ := queryNameservers_heard connected walked orderly
    rw [Prog.bind_apply]
    rcases run : self.queryNameservers name recordType walk.nameservers s with ⟨out, s'⟩
    rw [run] at kept heard
    cases out with
    | ok accepted =>
      obtain ⟨server, member, response, id, given, rfl, noted⟩ := heard accepted rfl
      dsimp only
      rw [blind]
      exact (rest server member response given).keeps s' ⟨kept, noted⟩
    | _ => exact kept
  gives s orderly b back := by
    obtain ⟨accepted, s', run, after⟩ := Prog.bind_eq_ok.mp (Prod.ext back rfl)
    obtain ⟨kept, heard⟩ := queryNameservers_heard connected walked orderly
    rw [run] at kept heard
    obtain ⟨server, member, response, id, given, rfl, noted⟩ := heard accepted rfl
    rw [blind] at after
    exact (rest server member response given).gives s' ⟨kept, noted⟩ b (by rw [after])
  alike question s t orderly orderly' := by
    rcases queryNameservers_alike connected coherent question (walked question) orderly orderly' with
      ⟨server, member, response, given⟩ | ⟨out, s', t', fails, run, run'⟩
    · obtain ⟨id, s', run, heard⟩ :=
        queryNameservers_given connected coherent question (walked question) member given orderly
      obtain ⟨id', t', run', heard'⟩ :=
        queryNameservers_given connected coherent question (walked question) member given orderly'
      rw [Prog.bind_ok run, Prog.bind_ok run', blind, blind]
      exact (rest server member response given).alike question s' t' heard heard'
    · rw [Prog.bind_apply, Prog.bind_apply, run, run']
      cases out with
      | ok accepted => exact absurd rfl (fails accepted)
      | _ => rfl

end Asking

end Upstream

end DnsServer
