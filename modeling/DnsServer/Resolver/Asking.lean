import DnsServer.Lib.Settles
import DnsServer.Resolver.Runs
import DnsServer.Resolver.Upstream

namespace DnsServer

def Event.isQuery : Event → Bool
  | .datagram _ _ => true
  | .stream _ _ => true
  | .accepted _ _ _ _ => false
  | .validated _ _ _ _ => false

/-- How many queries were sent. -/
def queries (log : List Event) : Nat := log.countP Event.isQuery

theorem queries_append (log : List Event) (event : Event) :
    queries (log ++ [event]) = queries log + if event.isQuery then 1 else 0 := by
  rw [queries, List.countP_append, List.countP_singleton]
  rfl

/-- Asking a server leaves the cache, the draws and the clock alone, and at least one query in the log. -/
structure Asked (before after : State Tape) : Prop where
  cache : after.cache = before.cache
  draws : after.world.draws = before.world.draws
  instants : after.world.instants = before.world.instants
  noted : queries before.log < queries after.log

namespace Upstream

variable {upstream : Upstream} {self : Resolver Tape DnsMessage}

section Asking

/-- The state once a datagram has been answered. -/
def answered (s : State Tape) (server : SocketAddr) (query : DnsMessage) : State Tape :=
  { s with world := { s.world with pending := none }, log := s.log ++ [.datagram server query] }

/-- The state once a query over a connection has been answered. -/
def streamed (s : State Tape) (server : SocketAddr) (query : DnsMessage) : State Tape :=
  { s with
    world := { s.world with ids := fun i => s.world.ids (i + 1) }
    log := s.log ++ [.stream server query] }

theorem asked_answered (s : State Tape) (server : SocketAddr) (query : DnsMessage) :
    Asked s (answered s server query) where
  cache := rfl
  draws := rfl
  instants := rfl
  noted := by
    have one := queries_append s.log (.datagram server query)
    exact one.symm ▸ Nat.lt_succ_self _

theorem asked_streamed {s s' : State Tape} (asked : Asked s s') (server : SocketAddr)
    (query : DnsMessage) : Asked s (streamed s' server query) where
  cache := asked.cache
  draws := asked.draws
  instants := asked.instants
  noted := by
    have one := queries_append s'.log (.stream server query)
    exact asked.noted.trans (one.symm ▸ Nat.lt_succ_self _)

theorem decoded_run (connected : self.network = upstream.network) (message : DnsMessage) :
    self.decoded message = pure (.ok message) := by
  rw [Resolver.decoded, connected]
  rfl

theorem queryTcp_run (connected : self.network = upstream.network) {name : DnsName}
    {recordType : RecordType} {server : SocketAddr} {response : DnsMessage}
    (given : upstream server name recordType = some response) (s : State Tape) :
    self.queryTcp name recordType server s = (.ok (response.withId (s.world.ids 0)),
      streamed s server (Resolver.tcpQuery (s.world.ids 0) name recordType)) := by
  have received : ∀ f : Option DnsMessage → Resolution Tape DnsMessage,
      (do
        if ← ask (upstream.network.connect server) then
          let id ← ask upstream.network.randomU16
          note (.stream server (Resolver.tcpQuery id name recordType))
          let reply ← ask (upstream.network.exchange (Resolver.tcpQuery id name recordType) server)
          f reply
        else Prog.fail .serverFailure) s =
      f (upstream.reply (Resolver.tcpQuery (s.world.ids 0) name recordType) server)
        (streamed s server (Resolver.tcpQuery (s.world.ids 0) name recordType)) := fun _ => rfl
  have reply : upstream.reply (Resolver.tcpQuery (s.world.ids 0) name recordType) server =
      some (response.withId (s.world.ids 0)) := congrArg (Option.map _) given
  rw [Resolver.queryTcp, connected]
  refine (received _).trans ?_
  rw [reply]
  dsimp only
  rw [decoded_run connected]
  rfl

/-- What one try comes to: the reply of the server, over a connection when it is truncated. -/
def tried (upstream : Upstream) (self : Resolver Tape DnsMessage) (id : UInt16) (name : DnsName)
    (recordType : RecordType) (server : SocketAddr) (s : State Tape) : Option DnsMessage × State Tape :=
  let asked := answered s server (self.udpQuery id name recordType)
  match upstream server name recordType with
  | none => (none, asked)
  | some response =>
    if response.header.truncated then
      (some (response.withId (s.world.ids 0)),
        streamed asked server (Resolver.tcpQuery (s.world.ids 0) name recordType))
    else (some (response.withId id), asked)

theorem tryServer_tried (connected : self.network = upstream.network) (id : UInt16) (name : DnsName)
    (recordType : RecordType) (server : SocketAddr) (s : State Tape) :
    self.tryServer id name recordType server s =
      (.ok (tried upstream self id name recordType server s).1,
        (tried upstream self id name recordType server s).2) := by
  let query := self.udpQuery id name recordType
  have received : ∀ f : Option DnsMessage → Resolution Tape (Option DnsMessage),
      (do
        note (.datagram server query)
        if ← ask (upstream.network.sendTo query server) then
          let reply ← ask upstream.network.recvFrom
          f reply
        else return none) s = f (upstream.reply query server) (answered s server query) := fun _ => rfl
  have reply : upstream.reply query server =
      (upstream server name recordType).map fun response => response.withId id := rfl
  have own : ∀ response : DnsMessage, (response.withId id).header.id = id := fun _ => rfl
  have same : ∀ response : DnsMessage,
      (response.withId id).header.truncated = response.header.truncated := fun _ => rfl
  rw [Resolver.tryServer, connected, tried]
  refine (received _).trans ?_
  rcases given : upstream server name recordType with _ | response <;> rw [given] at reply
  · rw [reply]
    rfl
  rw [reply]
  dsimp only [Option.map]
  rw [decoded_run connected, Prog.pure_bind_apply]
  dsimp only
  rw [if_pos (own response), same]
  by_cases truncated : response.header.truncated
  · rw [if_pos truncated, if_pos truncated, Prog.bind_ok (Prog.attempt_ok (queryTcp_run connected given _))]
    rfl
  · rw [if_neg truncated, if_neg truncated]
    rfl

/-- One try asks the server at least once, and accepts whatever it replies. -/
theorem tryServer_run (connected : self.network = upstream.network) (id : UInt16) (name : DnsName)
    (recordType : RecordType) (server : SocketAddr) (s : State Tape) :
    ∃ s', Asked s s' ∧ ∃ id', self.tryServer id name recordType server s =
      (.ok ((upstream server name recordType).map fun response => response.withId id'), s') := by
  rw [tryServer_tried connected, tried]
  have asked := asked_answered s server (self.udpQuery id name recordType)
  rcases upstream server name recordType with _ | response
  · exact ⟨_, asked, 0, rfl⟩
  by_cases truncated : response.header.truncated
  · simp only [if_pos truncated]
    exact ⟨_, asked_streamed asked server _, s.world.ids 0, rfl⟩
  · simp only [if_neg truncated]
    exact ⟨_, asked, id, rfl⟩

end Asking

section Blind

/-! What holds of a query without a look at the log: the cache stays as it is, and a response that
comes back was given by one of the servers. -/

variable {Allowed : Event → Prop} {I : DnsCache → Prop}

/-- The server gives the response, under some identifier. -/
def Gives (upstream : Upstream) (server : SocketAddr) (name : DnsName) (recordType : RecordType)
    (response : DnsMessage) : Prop :=
  ∃ original id, upstream server name recordType = some original ∧ response = original.withId id

theorem tryServer_ensures (connected : self.network = upstream.network) (id : UInt16) (name : DnsName)
    (recordType : RecordType) (server : SocketAddr) :
    (monitor Tape (fun _ => []) Allowed I).Ensures True (self.tryServer id name recordType server)
      fun reply => ∀ response, reply = some response → upstream.Gives server name recordType response := by
  refine .of_silent (fun _ => rfl) fun s _ inv => ?_
  obtain ⟨s', asked, id', run⟩ := tryServer_run connected id name recordType server s
  rw [run]
  constructor
  · change I s'.cache
    rw [asked.cache]
    exact inv
  · rintro reply returned response rfl
    have mapped := Outcome.ok.inj returned
    obtain ⟨original, given, same⟩ := Option.map_eq_some_iff.mp mapped
    exact ⟨original, id', given, same.symm⟩

theorem tryServers_ensures (connected : self.network = upstream.network) (id : UInt16) (name : DnsName)
    (recordType : RecordType) (nameservers : List SocketAddr) (indices : List Nat) :
    (monitor Tape (fun _ => []) Allowed I).Ensures True
      (self.tryServers id name recordType nameservers indices)
      fun response => ∃ server ∈ nameservers, upstream.Gives server name recordType response := by
  induction indices with
  | nil => exact .fail
  | cons i is ih =>
    unfold Resolver.tryServers
    split
    · rename_i server chosen
      refine .bind (tryServer_ensures connected id name recordType server) fun reply => ?_
      cases reply with
      | none => exact ih.weaken (fun _ => trivial) fun _ _ done => done
      | some response =>
        have given : (monitor Tape (fun _ => []) Allowed I).Ensures
            (∀ response', some response = some response' →
              upstream.Gives server name recordType response')
            (note (.accepted server name recordType response))
            fun _ => upstream.Gives server name recordType response :=
          .of_silent (fun _ => rfl) fun _ gives inv => ⟨inv, fun _ _ => gives response rfl⟩
        refine .bind given fun _ => .ret fun gives => ?_
        exact ⟨server, List.mem_of_getElem? chosen, gives⟩
    · exact .panic

theorem queryNameservers_ensures (connected : self.network = upstream.network) (name : DnsName)
    (recordType : RecordType) (nameservers : List SocketAddr) :
    (monitor Tape (fun _ => []) Allowed I).Ensures True
      (self.queryNameservers name recordType nameservers)
      fun response => ∃ server ∈ nameservers, upstream.Gives server name recordType response := by
  refine .bind (ask_ensures _) fun bound => ?_
  cases bound with
  | false => exact .fail
  | true =>
    refine .bind (ask_ensures _) fun id => ?_
    exact .bind (self.offsets_ensures _ _) fun indices => tryServers_ensures connected id _ _ _ indices

end Blind

section Ends

variable {s : State Tape}

end Ends

section Drawn

/-- The tape after so many draws. -/
def drawn (s : State Tape) (count : Nat) : State Tape :=
  { s with world := { s.world with draws := fun i => s.world.draws (i + count) } }

theorem offsets_run (connected : self.network = upstream.network) {count : Nat} (some : count ≠ 0)
    (tries : List Nat) (s : State Tape) :
    self.offsets count tries s = (.ok (tries.mapIdx fun k i =>
      (UInt64.ofNat i + s.world.draws k).toNat % count), drawn s tries.length) := by
  induction tries generalizing s with
  | nil => rfl
  | cons i is ih =>
    rw [Resolver.offsets, ask_bind, if_neg some, connected]
    change (self.offsets count is >>= _) (drawn s 1) = _
    rw [Prog.bind_ok (ih (drawn s 1)), List.mapIdx_cons]
    rfl

/-- When the first draw hits a server that gives a response, this response comes back. -/
theorem queryNameservers_drawn (connected : self.network = upstream.network) {name : DnsName}
    {recordType : RecordType} {nameservers : List SocketAddr} {server : SocketAddr}
    {response : DnsMessage} {s : State Tape}
    (chosen : nameservers[(s.world.draws 0).toNat % nameservers.length]? = some server)
    (given : upstream server name recordType = some response) :
    ∃ id s', self.queryNameservers name recordType nameservers s = (.ok (response.withId id), s') ∧
      s'.cache = s.cache ∧ (s'.world.draws = fun i => s.world.draws (i + MAX_RETRIES)) ∧
      queries s.log < queries s'.log := by
  have some : nameservers.length ≠ 0 := by
    intro none
    rw [List.length_eq_zero_iff.mp none] at chosen
    cases chosen
  let s₁ : State Tape := { s with world := { s.world with ids := fun i => s.world.ids (i + 1) } }
  have offsets := offsets_run connected some (List.range MAX_RETRIES) s₁
  obtain ⟨s₂, asked, id, run⟩ := tryServer_run connected (s.world.ids 0) name recordType server
    (drawn s₁ MAX_RETRIES)
  let s₃ : State Tape :=
    { s₂ with log := s₂.log ++ [.accepted server name recordType (response.withId id)] }
  refine ⟨id, s₃, ?_, asked.cache, asked.draws, ?_⟩
  · rw [given] at run
    rw [Resolver.queryNameservers, connected, ask_bind]
    change (ask upstream.network.randomU16 >>= _) s = _
    rw [ask_bind]
    change (self.offsets nameservers.length (List.range MAX_RETRIES) >>= _) s₁ = _
    rw [Prog.bind_ok offsets]
    change self.tryServers (s.world.ids 0) name recordType nameservers _ (drawn s₁ MAX_RETRIES) = _
    obtain ⟨rest, first⟩ : ∃ rest, ((List.range MAX_RETRIES).mapIdx fun k i =>
        (UInt64.ofNat i + s₁.world.draws k).toNat % nameservers.length) =
          (s.world.draws 0).toNat % nameservers.length :: rest := by
      have zero : UInt64.ofNat 0 + s₁.world.draws 0 = s.world.draws 0 := UInt64.zero_add _
      rw [MAX_RETRIES, List.range_succ_eq_map, List.mapIdx_cons, zero]
      exact ⟨_, rfl⟩
    rw [first, Resolver.tryServers, chosen]
    dsimp only
    rw [Prog.bind_ok run]
    rfl
  · have one := queries_append s₂.log (.accepted server name recordType (response.withId id))
    exact one.symm ▸ asked.noted

end Drawn

end Upstream

end DnsServer
