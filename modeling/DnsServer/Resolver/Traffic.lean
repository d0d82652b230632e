import DnsServer.CacheHistory
import DnsServer.Resolver.Acceptance
import DnsServer.Resolver.Mirrors
import DnsServer.Resolver.Runs

namespace DnsServer

variable {W D : Type}

/-- What a call of the network did, as it shows on the wire. -/
inductive Wire (D : Type) where
  | sent (query : DnsMessage) (server : SocketAddr) (done : Bool)
  | received (payload : Option D)
  | connected (server : SocketAddr) (done : Bool)
  | exchanged (query : DnsMessage) (server : SocketAddr) (payload : Option D)

/-- The same network with a record of what showed on the wire. -/
def Network.recorded (network : Network W D) : Network (W × List (Wire D)) D where
  decode := network.decode
  bind w := ((network.bind w.1).1, (network.bind w.1).2, w.2)
  randomU16 w := ((network.randomU16 w.1).1, (network.randomU16 w.1).2, w.2)
  randomUsize w := ((network.randomUsize w.1).1, (network.randomUsize w.1).2, w.2)
  sendTo query server w := ((network.sendTo query server w.1).1, (network.sendTo query server w.1).2,
    w.2 ++ [.sent query server (network.sendTo query server w.1).1])
  recvFrom w := ((network.recvFrom w.1).1, (network.recvFrom w.1).2,
    w.2 ++ [.received (network.recvFrom w.1).1])
  connect server w := ((network.connect server w.1).1, (network.connect server w.1).2,
    w.2 ++ [.connected server (network.connect server w.1).1])
  exchange query server w := ((network.exchange query server w.1).1, (network.exchange query server w.1).2,
    w.2 ++ [.exchanged query server (network.exchange query server w.1).1])
  instant w := ((network.instant w.1).1, (network.instant w.1).2, w.2)
  unixTime w := ((network.unixTime w.1).1, (network.unixTime w.1).2, w.2)

namespace Resolver

variable (self : Resolver W D)

def recorded : Resolver (W × List (Wire D)) D :=
  ⟨self.network.recorded, self.zoneStore, self.dnssecValidator, self.enableDnssec⟩

section Recorded

/-- The state with the record, next to the one without. -/
def SameRun (s : State W) (t : State (W × List (Wire D))) : Prop :=
  s = ⟨t.cache, t.world.1, t.log⟩

variable {self}

theorem ask_recorded {α : Type} {call : W → α × W} {call' : W × List (Wire D) → α × (W × List (Wire D))}
    (same : ∀ w, (call' w).1 = (call w.1).1 ∧ (call' w).2.1 = (call w.1).2) :
    Prog.Mirrors SameRun (ask call : Resolution W α) (ask call') := by
  rintro _ ⟨cache, w, log⟩ rfl
  obtain ⟨value, world⟩ := same w
  exact ⟨congrArg Outcome.ok value.symm, congrArg (fun w' => State.mk cache w' log) world.symm⟩

theorem modify_recorded (f : DnsCache → List Event → DnsCache × List Event) :
    Prog.Mirrors SameRun
      (Prog.modify fun s => { s with cache := (f s.cache s.log).1, log := (f s.cache s.log).2 } :
        Resolution W Unit)
      (Prog.modify fun s => { s with cache := (f s.cache s.log).1, log := (f s.cache s.log).2 } :
        Resolution (W × List (Wire D)) Unit) := by
  rintro _ ⟨cache, w, log⟩ rfl
  exact ⟨rfl, rfl⟩

theorem note_recorded (event : Event) :
    Prog.Mirrors SameRun (note event : Resolution W Unit) (note event : Resolution (W × List (Wire D)) Unit) :=
  modify_recorded fun cache log => (cache, log ++ [event])

theorem decoded_recorded (payload : D) :
    Prog.Mirrors SameRun (self.decoded payload) (self.recorded.decoded payload) := by
  have same : self.recorded.network.decode payload = self.network.decode payload := rfl
  rw [decoded, decoded, same]
  rcases self.network.decode payload with message | error | _ | _
  · exact .ret _
  · exact .ret _
  · exact .panic
  · exact .hang

theorem queryTcp_recorded (name : DnsName) (recordType : RecordType) (server : SocketAddr) :
    Prog.Mirrors SameRun (self.queryTcp name recordType server)
      (self.recorded.queryTcp name recordType server) := by
  refine .bind (ask_recorded fun _ => ⟨rfl, rfl⟩) fun connected => ?_
  cases connected with
  | false => exact .fail _
  | true =>
    refine .bind (ask_recorded fun _ => ⟨rfl, rfl⟩) fun id => ?_
    refine .bind (note_recorded _) fun _ => ?_
    refine .bind (ask_recorded fun _ => ⟨rfl, rfl⟩) fun reply => ?_
    cases reply with
    | none => exact .fail _
    | some payload =>
      refine .bind (decoded_recorded payload) fun message => ?_
      cases message with
      | ok response => exact .ret _
      | error _ => exact .fail _

theorem tryServer_recorded (id : UInt16) (name : DnsName) (recordType : RecordType) (server : SocketAddr) :
    Prog.Mirrors SameRun (self.tryServer id name recordType server)
      (self.recorded.tryServer id name recordType server) := by
  refine .bind (note_recorded _) fun _ => ?_
  refine .bind (ask_recorded fun _ => ⟨rfl, rfl⟩) fun sent => ?_
  cases sent with
  | false => exact .ret _
  | true =>
    refine .bind (ask_recorded fun _ => ⟨rfl, rfl⟩) fun reply => ?_
    cases reply with
    | none => exact .ret _
    | some payload =>
      refine .bind (decoded_recorded payload) fun message => ?_
      cases message with
      | error _ => exact .ret _
      | ok response =>
        dsimp only
        split
        · split
          · refine .bind (queryTcp_recorded name recordType server).attempt fun caught => ?_
            cases caught with
            | ok tcpResponse => exact .ret _
            | error _ => exact .ret _
          · exact .ret _
        · exact .ret _

theorem offsets_recorded (count : Nat) (tries : List Nat) :
    Prog.Mirrors SameRun (self.offsets count tries) (self.recorded.offsets count tries) := by
  induction tries with
  | nil => exact .ret _
  | cons i is ih =>
    refine .bind (ask_recorded fun _ => ⟨rfl, rfl⟩) fun random => ?_
    split
    · exact .panic
    · exact .bind ih fun _ => .ret _

theorem tryServers_recorded (id : UInt16) (name : DnsName) (recordType : RecordType)
    (nameservers : List SocketAddr) (indices : List Nat) :
    Prog.Mirrors SameRun (self.tryServers id name recordType nameservers indices)
      (self.recorded.tryServers id name recordType nameservers indices) := by
  induction indices with
  | nil => exact .fail _
  | cons i is ih =>
    unfold tryServers
    split
    · refine .bind (tryServer_recorded id name recordType _) fun reply => ?_
      cases reply with
      | none => exact ih
      | some response => exact .bind (note_recorded _) fun _ => .ret _
    · exact .panic

theorem recorded_alike : Alike SameRun self self.recorded where
  lookup name recordType := by
    refine .bind (ask_recorded fun _ => ⟨rfl, rfl⟩) fun now => ?_
    refine .bind (ask_recorded fun _ => ⟨rfl, rfl⟩) fun later => ?_
    rintro _ ⟨cache, w, log⟩ rfl
    exact ⟨rfl, rfl⟩
  insert name recordType records :=
    .bind (ask_recorded fun _ => ⟨rfl, rfl⟩) fun now =>
      modify_recorded fun cache log => (cache.insert name recordType records now, log)
  validate name recordType response := by
    unfold validateAnswers
    split
    · rename_i enabled
      rw [if_pos (show self.recorded.enableDnssec from enabled)]
      refine .bind (ask_recorded fun _ => ⟨rfl, rfl⟩) fun now => .bind (note_recorded _) fun _ => ?_
      change Prog.Mirrors SameRun _ (if self.dnssecValidator.validateResponse now _ name recordType = _ then _ else _)
      split
      · exact .fail _
      · exact .ret _
    · rename_i disabled
      rw [if_neg (show ¬self.recorded.enableDnssec from disabled)]
      exact .ret _
  query name recordType nameservers := by
    refine .bind (ask_recorded fun _ => ⟨rfl, rfl⟩) fun bound => ?_
    cases bound with
    | false => exact .fail _
    | true =>
      refine .bind (ask_recorded fun _ => ⟨rfl, rfl⟩) fun id => ?_
      exact .bind (offsets_recorded _ _) fun indices => tryServers_recorded id _ _ _ indices

end Recorded

/-- The traffic of a query over TCP that comes to nothing. -/
inductive Fails (server : SocketAddr) : List (Wire D) → Prop
  | refused : Fails server [.connected server false]
  | broken (query : DnsMessage) : Fails server [.connected server true, .exchanged query server none]
  | garbled (query : DnsMessage) {payload : D} {error : DnsError} :
      self.network.decode payload = .err error →
      Fails server [.connected server true, .exchanged query server (some payload)]

/-- The traffic in which a try with the server comes to the message: a datagram with the identifier of
the query, whole, or truncated with a TCP query that fails, or else what comes over TCP. -/
inductive Delivers (name : DnsName) (recordType : RecordType) (server : SocketAddr) :
    List (Wire D) → DnsMessage → Prop
  | datagram {payload : D} {message : DnsMessage} :
      self.network.decode payload = .ok message → message.header.truncated = false →
      Delivers name recordType server
        [.sent (self.udpQuery message.header.id name recordType) server true, .received (some payload)] message
  | fallback {payload : D} {message : DnsMessage} {stream : List (Wire D)} :
      self.network.decode payload = .ok message → message.header.truncated = true →
      self.Fails server stream →
      Delivers name recordType server
        (.sent (self.udpQuery message.header.id name recordType) server true ::
          .received (some payload) :: stream) message
  | stream {payload reply : D} {message response : DnsMessage} (id : UInt16) :
      self.network.decode payload = .ok message → message.header.truncated = true →
      self.network.decode reply = .ok response →
      Delivers name recordType server
        [.sent (self.udpQuery message.header.id name recordType) server true, .received (some payload),
          .connected server true, .exchanged (tcpQuery id name recordType) server (some reply)] response

/-- The response was delivered somewhere in the traffic. -/
def Delivered (wire : List (Wire D)) : Event → Prop
  | .accepted server name recordType response =>
    ∃ part, part <:+: wire ∧ self.Delivers name recordType server part response
  | _ => True

section Delivery

variable {self} {id : UInt16} {name : DnsName} {recordType : RecordType} {server : SocketAddr}
  {w w' : W × List (Wire D)}

theorem sendTo_recorded {query : DnsMessage} {sent : Bool}
    (call : self.recorded.network.sendTo query server w = (sent, w')) :
    w'.2 = w.2 ++ [.sent query server sent] := by
  obtain ⟨same, rfl⟩ := Prod.mk.inj call
  rw [← same]

theorem recvFrom_recorded {payload : Option D} (call : self.recorded.network.recvFrom w = (payload, w')) :
    w'.2 = w.2 ++ [.received payload] := by
  obtain ⟨same, rfl⟩ := Prod.mk.inj call
  rw [← same]

theorem connect_recorded {connected : Bool} (call : self.recorded.network.connect server w = (connected, w')) :
    w'.2 = w.2 ++ [.connected server connected] := by
  obtain ⟨same, rfl⟩ := Prod.mk.inj call
  rw [← same]

theorem exchange_recorded {query : DnsMessage} {reply : Option D}
    (call : self.recorded.network.exchange query server w = (reply, w')) :
    w'.2 = w.2 ++ [.exchanged query server reply] := by
  obtain ⟨same, rfl⟩ := Prod.mk.inj call
  rw [← same]

theorem randomU16_recorded (call : self.recorded.network.randomU16 w = (id, w')) : w'.2 = w.2 := by
  obtain ⟨_, rfl⟩ := Prod.mk.inj call
  rfl

theorem StreamReply.wire {reply : Option DnsMessage}
    (replies : self.recorded.StreamReply name recordType server w reply w') :
    ∃ stream, w'.2 = w.2 ++ stream ∧ (reply = none → self.Fails server stream) ∧
      ∀ response, reply = some response → ∃ id payload, self.network.decode payload = .ok response ∧
        stream = [.connected server true,
          .exchanged (tcpQuery id name recordType) server (some payload)] := by
  have joined : ∀ {w₁ w₂ : W × List (Wire D)} {id : UInt16} {reply : Option D},
      self.recorded.network.connect server w = (true, w₁) →
      self.recorded.network.randomU16 w₁ = (id, w₂) →
      self.recorded.network.exchange (tcpQuery id name recordType) server w₂ = (reply, w') →
      w'.2 = w.2 ++ [.connected server true, .exchanged (tcpQuery id name recordType) server reply] := by
    intro w₁ w₂ id reply connecting drawing exchanging
    rw [exchange_recorded exchanging, randomU16_recorded drawing, connect_recorded connecting,
      List.append_assoc]
    rfl
  cases replies with
  | refused connecting =>
    exact ⟨_, connect_recorded connecting, fun _ => .refused, fun _ same => by cases same⟩
  | broken connecting drawing exchanging =>
    exact ⟨_, joined connecting drawing exchanging, fun _ => .broken _, fun _ same => by cases same⟩
  | garbled connecting drawing exchanging decoding =>
    exact ⟨_, joined connecting drawing exchanging, fun _ => .garbled _ decoding,
      fun _ same => by cases same⟩
  | read connecting drawing exchanging decoding =>
    refine ⟨_, joined connecting drawing exchanging, fun same => (by cases same), ?_⟩
    rintro _ ⟨⟩
    exact ⟨_, _, decoding, rfl⟩

theorem Datagram.wire {message : DnsMessage}
    (datagram : self.recorded.Datagram id name recordType server w message w') :
    ∃ payload, self.network.decode payload = .ok message ∧
      w'.2 = w.2 ++ [.sent (self.udpQuery message.header.id name recordType) server true,
        .received (some payload)] := by
  obtain ⟨⟨w₁, payload, sending, receiving, decoding⟩, matching⟩ := datagram
  refine ⟨payload, decoding, ?_⟩
  rw [recvFrom_recorded receiving, sendTo_recorded sending, matching, List.append_assoc]
  rfl

/-- What is accepted was delivered by the traffic that it took. -/
theorem Accepts.wire {response : DnsMessage}
    (accepts : self.recorded.Accepts id name recordType server w response w') :
    ∃ part, w'.2 = w.2 ++ part ∧ self.Delivers name recordType server part response := by
  cases accepts with
  | datagram datagram whole =>
    obtain ⟨payload, decoding, grown⟩ := datagram.wire
    exact ⟨_, grown, .datagram decoding whole⟩
  | fallback datagram truncated replies =>
    obtain ⟨payload, decoding, first⟩ := datagram.wire
    obtain ⟨stream, second, fails, _⟩ := replies.wire
    refine ⟨_, ?_, .fallback decoding truncated (fails rfl)⟩
    rw [second, first, List.append_assoc]
    rfl
  | stream datagram truncated replies =>
    obtain ⟨payload, decoding, first⟩ := datagram.wire
    obtain ⟨_, second, _, got⟩ := replies.wire
    obtain ⟨id, reply, decoded, rfl⟩ := got _ rfl
    refine ⟨_, ?_, .stream id decoding truncated decoded⟩
    rw [second, first, List.append_assoc]
    rfl

end Delivery

section Heard

/-- Every message that the log says was accepted was delivered in the traffic so far. -/
def Heeded (s : State (W × List (Wire D))) : Prop := ∀ event ∈ s.log, self.Delivered s.world.2 event

variable {self}

theorem Delivered.grow {wire wire' : List (Wire D)} {event : Event} (delivered : self.Delivered wire event)
    (grown : wire <+: wire') : self.Delivered wire' event := by
  cases event with
  | accepted server name recordType response =>
    obtain ⟨part, inside, delivers⟩ := delivered
    exact ⟨part, inside.trans grown.isInfix, delivers⟩
  | _ => trivial

theorem ask_heeded {α : Type} {call : W × List (Wire D) → α × (W × List (Wire D))}
    (grows : ∀ w, w.2 <+: (call w).2.2) :
    Prog.Keeps self.Heeded (ask call : Resolution (W × List (Wire D)) α) :=
  fun s heeded event member => (heeded event member).grow (grows s.world)

theorem note_heeded {event : Event} (query : ∀ wire, self.Delivered wire event) :
    Prog.Keeps self.Heeded (note event : Resolution (W × List (Wire D)) Unit) := by
  intro s heeded other member
  rcases List.mem_append.mp member with member | member
  · exact heeded other member
  · rw [List.mem_singleton.mp member]
    exact query _

theorem heeded_undisturbed : self.recorded.Undisturbed self.Heeded where
  datagram _ _ := note_heeded fun _ => trivial
  sendTo _ _ := ask_heeded fun _ => List.prefix_append _ _
  recvFrom := ask_heeded fun _ => List.prefix_append _ _
  connect _ := ask_heeded fun _ => List.prefix_append _ _
  randomU16 := ask_heeded fun _ => List.prefix_rfl
  stream _ _ := note_heeded fun _ => trivial
  exchange _ _ := ask_heeded fun _ => List.prefix_append _ _

theorem offsets_heeded (count : Nat) (tries : List Nat) :
    Prog.Keeps self.Heeded (self.recorded.offsets count tries) := by
  induction tries with
  | nil => exact fun _ heeded => heeded
  | cons i is ih =>
    refine .bind (ask_heeded fun _ => List.prefix_rfl) fun random => ?_
    split
    · exact fun _ heeded => heeded
    · exact .bind ih fun _ _ heeded => heeded

theorem tryServers_heeded (id : UInt16) (name : DnsName) (recordType : RecordType)
    (nameservers : List SocketAddr) (indices : List Nat) :
    Prog.Keeps self.Heeded (self.recorded.tryServers id name recordType nameservers indices) := by
  induction indices with
  | nil => exact fun _ heeded => heeded
  | cons i is ih =>
    unfold tryServers
    split
    · rename_i server _
      rintro ⟨cache, w, log⟩ heeded
      have kept := tryServer_keeps heeded_undisturbed id name recordType server ⟨cache, w, log⟩ heeded
      rw [Prog.bind_apply]
      rcases run : self.recorded.tryServer id name recordType server ⟨cache, w, log⟩ with
        ⟨(_ | response) | _ | _ | _, s'⟩ <;> rw [run] at kept
      · exact ih s' kept
      · obtain ⟨part, grown, delivers⟩ := (self.recorded.tryServer_accepts run).wire
        intro event member
        rcases List.mem_append.mp member with member | member
        · exact kept event member
        · rw [List.mem_singleton.mp member]
          refine ⟨part, ?_, delivers⟩
          change part <:+: s'.world.2
          rw [grown]
          exact (List.suffix_append w.2 part).isInfix
      all_goals exact kept
    · exact fun _ heeded => heeded

/-- The query leaves in the log only what was delivered. -/
theorem queryNameservers_heeded (name : DnsName) (recordType : RecordType)
    (nameservers : List SocketAddr) :
    Prog.Keeps self.Heeded (self.recorded.queryNameservers name recordType nameservers) := by
  refine .bind (ask_heeded fun _ => List.prefix_rfl) fun bound => ?_
  cases bound with
  | false => exact fun _ heeded => heeded
  | true =>
    refine .bind (ask_heeded fun _ => List.prefix_rfl) fun id => ?_
    exact .bind (offsets_heeded _ _) fun indices => tryServers_heeded id _ _ _ indices

end Heard

/-- The record was taken from a message that was delivered in the traffic and does not deny the name. -/
def Taken (wire : List (Wire D)) (record : DnsRecord) : Prop :=
  ∃ server name recordType response, self.Delivered wire (.accepted server name recordType response) ∧
    response.header.responseCode ≠ .nameError ∧ record ∈ response.allRecords

/-- The calls of the cache insert nothing but records that were taken from the traffic. -/
def InsertsTaken (wire : List (Wire D)) (calls : List (Nat × CacheCall)) : Prop :=
  ∀ time name recordType records, (time, CacheCall.insert name recordType records) ∈ calls →
    ∀ record ∈ records, self.Taken wire record

section Provenance

variable {self} {wire : List (Wire D)} {cache : DnsCache}

/-- The cache has come out of the initial one by such calls. -/
def Fed (self : Resolver W D) (wire : List (Wire D)) (initial cache : DnsCache) : Prop :=
  ∃ calls, cache = initial.run calls ∧ self.InsertsTaken wire calls

theorem Fed.lookup {initial : DnsCache} (fed : self.Fed wire initial cache) (name : DnsName)
    (recordType : RecordType) (now later : Nat) :
    self.Fed wire initial (cache.lookup name recordType now later).2 := by
  obtain ⟨calls, rfl, taken⟩ := fed
  refine ⟨calls ++ [(now, .lookup name recordType)], ?_, ?_⟩
  · rw [DnsCache.lookup_snd, DnsCache.run_append]
  · intro time name' recordType' records member
    rcases List.mem_append.mp member with member | member
    · exact taken time name' recordType' records member
    · cases List.mem_singleton.mp member

theorem Fed.insert {initial : DnsCache} {records : List DnsRecord} (fed : self.Fed wire initial cache)
    (name : DnsName) (recordType : RecordType) (now : Nat) (new : ∀ record ∈ records, self.Taken wire record) :
    self.Fed wire initial (cache.insert name recordType records now) := by
  obtain ⟨calls, rfl, taken⟩ := fed
  refine ⟨calls ++ [(now, .insert name recordType records)], ?_, ?_⟩
  · rw [DnsCache.run_append]
    rfl
  · intro time name' recordType' records' member
    rcases List.mem_append.mp member with member | member
    · exact taken time name' recordType' records' member
    · cases List.mem_singleton.mp member
      exact new

/-- Answers and cached records are all taken from the traffic when every accepted message was delivered
in it. -/
theorem taken_closed (self : Resolver W D) (wire : List (Wire D)) (initial : DnsCache) :
    Closed (self.Delivered wire) (self.Fed wire initial)
      (fun _ _ records => ∀ record ∈ records, self.Taken wire record)
      (fun _ _ chain _ => ∀ record ∈ chain, self.Taken wire record) fun _ _ => True where
  lookup _ name recordType now later fed := fed.lookup name recordType now later
  cached _ _ _ _ _ _ _ := trivial
  resolved _ _ _ := trivial
  typed server name recordType response delivered noNameError _ := by
    have taken : ∀ record ∈ response.typedAnswers recordType, self.Taken wire record := by
      intro record member
      have answer := (List.mem_filter.mp member).1
      exact ⟨server, name, recordType, response, delivered, noNameError,
        List.mem_append_left _ (List.mem_append_left _ answer)⟩
    exact ⟨taken, fun _ now fed => fed.insert name recordType now taken⟩
  aliases server name recordType response delivered noNameError _ := by
    have taken : ∀ record ∈ response.aliasAnswers recordType, self.Taken wire record := by
      intro record member
      have answer := (List.mem_filter.mp member).1
      exact ⟨server, name, recordType, response, delivered, noNameError,
        List.mem_append_left _ (List.mem_append_left _ answer)⟩
    exact ⟨fun _ _ _ _ => taken, fun _ now fed => fed.insert name .CNAME now taken⟩
  referral server name recordType response delivered noNameError _ record member _ _ _ now fed := by
    refine fed.insert record.name .NS now fun other same => ?_
    rw [List.mem_singleton.mp same]
    exact ⟨server, name, recordType, response, delivered, noNameError,
      List.mem_append_left _ (List.mem_append_right _ member)⟩
  glue server name recordType response delivered noNameError _ record member _ _ _ now fed := by
    refine fed.insert record.name .A now fun other same => ?_
    rw [List.mem_singleton.mp same]
    exact ⟨server, name, recordType, response, delivered, noNameError, List.mem_append_right _ member⟩
  empty _ _ _ member := absurd member List.not_mem_nil
  ended _ _ _ _ chain := chain
  answered _ _ _ _ _ chain answer record member := (List.mem_append.mp member).elim (chain record) (answer record)
  extended _ _ _ _ _ chain answer := extendChain_all chain answer

end Provenance

/-- Every record that a resolution inserts in the cache or returns is taken from a message that was
delivered in its own traffic and whose response code is not the one for a name that does not exist. The
run with the record of the traffic is the run itself. -/
theorem resolveRecursive_taken (fuel : Nat) (name : DnsName) (recordType : RecordType) (depth : Nat)
    (cache : DnsCache) (world : W) :
    ∃ out after wire,
      self.resolveRecursive fuel name recordType depth ⟨cache, world, []⟩ = (out, after) ∧
      self.recorded.resolveRecursive fuel name recordType depth ⟨cache, (world, []), []⟩ =
        (out, ⟨after.cache, (after.world, wire), after.log⟩) ∧
      (∃ calls, after.cache = cache.run calls ∧ self.InsertsTaken wire calls) ∧
      ∀ records, out = .ok records → ∀ record ∈ records, self.Taken wire record := by
  let start : State (W × List (Wire D)) := ⟨cache, (world, []), []⟩
  rcases run : self.recorded.resolveRecursive fuel name recordType depth start with
    ⟨out, cache', ⟨world', wire⟩, log⟩
  have keeping : Alike (fun s t => SameRun s t ∧ self.Heeded t) self self.recorded := {
    lookup := fun name recordType => (recorded_alike.lookup name recordType).keeping fun _ heeded => heeded
    insert := fun name recordType records =>
      (recorded_alike.insert name recordType records).keeping fun _ heeded => heeded
    validate := fun name recordType response =>
      (recorded_alike.validate name recordType response).keeping (by
        unfold validateAnswers
        split
        · refine .bind (ask_heeded fun _ => List.prefix_rfl) fun now => ?_
          refine .bind (note_heeded fun _ => trivial) fun _ => ?_
          split <;> exact fun _ heeded => heeded
        · exact fun _ heeded => heeded)
    query := fun name recordType nameservers =>
      (recorded_alike.query name recordType nameservers).keeping
        (queryNameservers_heeded name recordType nameservers) }
  obtain ⟨same, state, heeded⟩ := resolveRecursive_mirrors keeping fuel name recordType depth
    ⟨cache, world, []⟩ start ⟨rfl, fun _ member => absurd member List.not_mem_nil⟩
  rw [run] at same state heeded
  have plain : self.resolveRecursive fuel name recordType depth ⟨cache, world, []⟩ =
      (out, ⟨cache', world', log⟩) := Prod.ext same state
  have ensures := self.resolveRecursive_ensures (taken_closed self wire cache) self.heard_log fuel name
    recordType depth
  have kept := ensures.keeps ⟨cache, world, []⟩ trivial (by rw [plain]; exact heeded)
    ⟨[], rfl, fun _ _ _ _ member => absurd member List.not_mem_nil⟩
  rw [plain] at kept
  exact ⟨out, ⟨cache', world', log⟩, wire, plain, rfl, kept.1, kept.2⟩

open Upstream

/-- A truncated message with an answer, whose response code says that the server refuses to give one. -/
def refusal : DnsMessage :=
  { answering [DnsRecord.new www .A 300 (.A ⟨192, 0, 2, 7⟩)] with
    header := { DnsHeader.newQuery 0 with isResponse := true, truncated := true, responseCode := .refused } }

/-- The servers answer with that message, over UDP and over TCP. -/
def refusing : Upstream := fun _ _ _ => some refusal

/-- The record of the message comes back to the client, and stands in the cache. -/
theorem resolveRecursive_refusal_taken :
    let run := refusing.resolver.resolveRecursive 1 www .A 0 ⟨DnsCache.new 10, blankTape, []⟩
    run.1 = .ok refusal.answers ∧
      (run.2.cache.peek ⟨www, .A⟩).map CacheEntry.records = some refusal.answers ∧
      refusal.header.truncated = true ∧ refusal.header.responseCode ≠ .noError ∧
      refusal.header.responseCode ≠ .nameError := by
  rw [resolveRecursive]
  exact ⟨rfl, rfl, rfl, by decide, by decide⟩

end Resolver

end DnsServer
