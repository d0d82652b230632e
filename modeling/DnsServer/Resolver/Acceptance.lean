import DnsServer.Resolver.Upstream

namespace DnsServer

namespace Resolver

variable {W D : Type} (self : Resolver W D) {name : DnsName} {recordType : RecordType}
  {server : SocketAddr}

/-- What the query over TCP gets from the server: a message, or nothing. -/
inductive StreamReply (name : DnsName) (recordType : RecordType) (server : SocketAddr) :
    W → Option DnsMessage → W → Prop
  | refused {w w₁ : W} : self.network.connect server w = (false, w₁) →
      StreamReply name recordType server w none w₁
  | broken {w w₁ w₂ w₃ : W} {id : UInt16} : self.network.connect server w = (true, w₁) →
      self.network.randomU16 w₁ = (id, w₂) →
      self.network.exchange (tcpQuery id name recordType) server w₂ = (none, w₃) →
      StreamReply name recordType server w none w₃
  | garbled {w w₁ w₂ w₃ : W} {id : UInt16} {payload : D} {error : DnsError} :
      self.network.connect server w = (true, w₁) → self.network.randomU16 w₁ = (id, w₂) →
      self.network.exchange (tcpQuery id name recordType) server w₂ = (some payload, w₃) →
      self.network.decode payload = .err error → StreamReply name recordType server w none w₃
  | read {w w₁ w₂ w₃ : W} {id : UInt16} {payload : D} {response : DnsMessage} :
      self.network.connect server w = (true, w₁) → self.network.randomU16 w₁ = (id, w₂) →
      self.network.exchange (tcpQuery id name recordType) server w₂ = (some payload, w₃) →
      self.network.decode payload = .ok response →
      StreamReply name recordType server w (some response) w₃

/-- A datagram that comes in after the query with the identifier was sent to the server, and that has
this identifier. -/
structure Datagram (id : UInt16) (name : DnsName) (recordType : RecordType) (server : SocketAddr)
    (w : W) (message : DnsMessage) (w' : W) : Prop where
  received : ∃ w₁ payload, self.network.sendTo (self.udpQuery id name recordType) server w = (true, w₁) ∧
    self.network.recvFrom w₁ = (some payload, w') ∧ self.network.decode payload = .ok message
  matching : message.header.id = id

/-- The ways in which a try with the server comes to a response: the datagram, the datagram although it
is truncated when the query over TCP fails, or else what comes over TCP. -/
inductive Accepts (id : UInt16) (name : DnsName) (recordType : RecordType) (server : SocketAddr) :
    W → DnsMessage → W → Prop
  | datagram {w w' : W} {response : DnsMessage} :
      self.Datagram id name recordType server w response w' → response.header.truncated = false →
      Accepts id name recordType server w response w'
  | fallback {w w₁ w' : W} {response : DnsMessage} :
      self.Datagram id name recordType server w response w₁ → response.header.truncated = true →
      self.StreamReply name recordType server w₁ none w' →
      Accepts id name recordType server w response w'
  | stream {w w₁ w' : W} {message response : DnsMessage} :
      self.Datagram id name recordType server w message w₁ → message.header.truncated = true →
      self.StreamReply name recordType server w₁ (some response) w' →
      Accepts id name recordType server w response w'

/-- The tries at these indices end without a response, one after the other. -/
inductive Fruitless (id : UInt16) (name : DnsName) (recordType : RecordType)
    (nameservers : List SocketAddr) : List Nat → State W → State W → Prop
  | start (s : State W) : Fruitless id name recordType nameservers [] s s
  | next {i : Nat} {is : List Nat} {server : SocketAddr} {s s₁ s₂ : State W} :
      nameservers[i]? = some server →
      self.tryServer id name recordType server s = (.ok none, s₁) →
      Fruitless id name recordType nameservers is s₁ s₂ →
      Fruitless id name recordType nameservers (i :: is) s s₂

section Runs

variable {cache : DnsCache} {w : W} {log : List Event} {s' : State W}

theorem ask_run {α β : Type} {call : W → α × W} {a : α} {w' : W} (f : α → Resolution W β)
    (called : call w = (a, w')) : (ask call >>= f) ⟨cache, w, log⟩ = f a ⟨cache, w', log⟩ := by
  rw [ask_bind, called]

theorem note_run {β : Type} (event : Event) (f : Unit → Resolution W β) :
    (note event >>= f) ⟨cache, w, log⟩ = f () ⟨cache, w, log ++ [event]⟩ := rfl

/-- The query over TCP comes back with the reply that it gets. -/
theorem queryTcp_reply :
    (∀ response, self.queryTcp name recordType server ⟨cache, w, log⟩ = (.ok response, s') →
      self.StreamReply name recordType server w (some response) s'.world) ∧
    (∀ code, self.queryTcp name recordType server ⟨cache, w, log⟩ = (.err code, s') →
      self.StreamReply name recordType server w none s'.world) := by
  rcases connecting : self.network.connect server w with ⟨_ | _, w₁⟩
  · rw [queryTcp, ask_run _ connecting]
    constructor <;> intro _ run <;> cases run
    exact .refused connecting
  rcases drawing : self.network.randomU16 w₁ with ⟨id, w₂⟩
  rcases exchanging : self.network.exchange (tcpQuery id name recordType) server w₂ with ⟨reply, w₃⟩
  rw [queryTcp, ask_run _ connecting, if_pos rfl, ask_run _ drawing, note_run, ask_run _ exchanging]
  rcases reply with _ | payload
  · constructor <;> intro _ run <;> cases run
    exact .broken connecting drawing exchanging
  dsimp only
  rw [decoded]
  rcases decoding : self.network.decode payload with response | error | _ | _
  · constructor <;> intro _ run <;> cases run
    exact .read connecting drawing exchanging decoding
  · constructor <;> intro _ run <;> cases run
    exact .garbled connecting drawing exchanging decoding
  · constructor <;> intro _ run <;> cases run
  · constructor <;> intro _ run <;> cases run

/-- A try that ends with a response has accepted it. -/
theorem tryServer_accepts {id : UInt16} {response : DnsMessage}
    (run : self.tryServer id name recordType server ⟨cache, w, log⟩ = (.ok (some response), s')) :
    self.Accepts id name recordType server w response s'.world := by
  rcases sending : self.network.sendTo (self.udpQuery id name recordType) server w with ⟨_ | _, w₁⟩
  · rw [tryServer, note_run, ask_run _ sending] at run
    cases run
  rcases receiving : self.network.recvFrom w₁ with ⟨_ | payload, w₂⟩
  · rw [tryServer, note_run, ask_run _ sending, if_pos rfl, ask_run _ receiving] at run
    cases run
  rw [tryServer, note_run, ask_run _ sending, if_pos rfl, ask_run _ receiving] at run
  dsimp only at run
  rw [decoded] at run
  rcases decoding : self.network.decode payload with message | error | _ | _ <;> rw [decoding] at run
  · rw [Prog.pure_bind_apply] at run
    dsimp only at run
    split at run
    · rename_i matching
      have datagram : self.Datagram id name recordType server w message w₂ :=
        ⟨⟨w₁, payload, sending, receiving, decoding⟩, matching⟩
      split at run
      · rename_i truncated
        obtain ⟨_, _, caught, rest⟩ := Prog.bind_eq_ok.mp run
        rcases Prog.attempt_eq_ok.mp caught with ⟨_, rfl, replied⟩ | ⟨_, rfl, failed⟩ <;> cases rest
        · exact .stream datagram truncated (self.queryTcp_reply.1 _ replied)
        · exact .fallback datagram truncated (self.queryTcp_reply.2 _ failed)
      · rename_i whole
        cases run
        exact .datagram datagram (Bool.eq_false_iff.mpr whole)
    · cases run
  · cases run
  · cases run
  · cases run

variable {s : State W}

/-- The tries come to a response in the first one that is not fruitless. -/
theorem tryServers_accepts {id : UInt16} {nameservers : List SocketAddr} {indices : List Nat}
    {response : DnsMessage}
    (run : self.tryServers id name recordType nameservers indices s = (.ok response, s')) :
    ∃ tried chosen untried server s₁, indices = tried ++ chosen :: untried ∧
      self.Fruitless id name recordType nameservers tried s s₁ ∧
      nameservers[chosen]? = some server ∧
      self.Accepts id name recordType server s₁.world response s'.world := by
  induction indices generalizing s with
  | nil => cases run
  | cons i is ih =>
    rcases chosen : nameservers[i]? with _ | server
    · rw [tryServers, chosen] at run
      cases run
    · rw [tryServers, chosen] at run
      obtain ⟨reply, s₁, first, rest⟩ := Prog.bind_eq_ok.mp run
      rcases reply with _ | reply
      · obtain ⟨tried, last, untried, server', s₂, split, fruitless, found, accepts⟩ := ih rest
        exact ⟨i :: tried, last, untried, server', s₂, by rw [split, List.cons_append],
          .next chosen first fruitless, found, accepts⟩
      · cases rest
        have accepts := self.tryServer_accepts first
        exact ⟨[], i, is, server, s, rfl, .start s, chosen, accepts⟩

/-- Whatever comes back from the servers was accepted in one of the tries: a query with the name, the
type and a fresh identifier went out to one of them, the datagram that came in next carries that
identifier, and it is this datagram that comes back, or, when it is truncated, what the same server
replies over TCP. -/
theorem queryNameservers_accepts {nameservers : List SocketAddr} {response : DnsMessage}
    (run : self.queryNameservers name recordType nameservers s = (.ok response, s')) :
    ∃ w₁ id w₂ indices s₂ tried chosen untried server s₃,
      self.network.bind s.world = (true, w₁) ∧ self.network.randomU16 w₁ = (id, w₂) ∧
      self.offsets nameservers.length (List.range MAX_RETRIES) { s with world := w₂ } =
        (.ok indices, s₂) ∧
      indices = tried ++ chosen :: untried ∧
      self.Fruitless id name recordType nameservers tried s₂ s₃ ∧
      nameservers[chosen]? = some server ∧
      (self.udpQuery id name recordType).header.id = id ∧
      (self.udpQuery id name recordType).questions = [⟨name, recordType, .IN⟩] ∧
      self.Accepts id name recordType server s₃.world response s'.world := by
  obtain ⟨cache, w, log⟩ := s
  rcases binding : self.network.bind w with ⟨_ | _, w₁⟩
  · rw [queryNameservers, ask_run _ binding] at run
    cases run
  rcases drawing : self.network.randomU16 w₁ with ⟨id, w₂⟩
  rw [queryNameservers, ask_run _ binding, if_pos rfl, ask_run _ drawing] at run
  obtain ⟨indices, s₂, drawn, rest⟩ := Prog.bind_eq_ok.mp run
  obtain ⟨tried, chosen, untried, server, s₃, split, fruitless, found, accepts⟩ :=
    self.tryServers_accepts rest
  exact ⟨w₁, id, w₂, indices, s₂, tried, chosen, untried, server, s₃, rfl, drawing, drawn, split,
    fruitless, found, rfl, rfl, accepts⟩

end Runs

open Upstream

/-- A server that answers every question with the same message, under the identifier of the query. -/
theorem queryNameservers_accepts_aliased :
    ∃ w₁ id w₂ indices s₂ tried chosen untried server s₃,
      wholeChain.resolver.network.bind blankTape = (true, w₁) ∧
      wholeChain.resolver.network.randomU16 w₁ = (id, w₂) ∧
      wholeChain.resolver.offsets rootServers.length (List.range MAX_RETRIES)
        ⟨DnsCache.new 10, w₂, []⟩ = (.ok indices, s₂) ∧
      indices = tried ++ chosen :: untried ∧
      wholeChain.resolver.Fruitless id www .A rootServers tried s₂ s₃ ∧
      rootServers[chosen]? = some server ∧
      (wholeChain.resolver.udpQuery id www .A).header.id = id ∧
      (wholeChain.resolver.udpQuery id www .A).questions = [⟨www, .A, .IN⟩] ∧
      wholeChain.resolver.Accepts id www .A server s₃.world (answering aliasWithAddress) blankTape :=
  have run : wholeChain.resolver.queryNameservers www .A rootServers ⟨DnsCache.new 10, blankTape, []⟩ =
      (.ok (answering aliasWithAddress), ⟨_, blankTape, _⟩) := rfl
  wholeChain.resolver.queryNameservers_accepts run

/-- A message that says it is a query, and that asks for another name and type. -/
def foreignQuery : DnsMessage :=
  { answering aliasWithAddress with
    header := DnsHeader.newQuery 0
    questions := [DnsQuestion.new bank .MX] }

/-- The servers answer every question with that message. -/
def confused : Upstream := fun _ _ _ => some foreignQuery

/-- The message comes back although its QR bit is clear and its question is not the one that was sent. -/
theorem queryNameservers_foreignQuery_returned :
    ∃ s', confused.resolver.queryNameservers www .A rootServers ⟨DnsCache.new 10, blankTape, []⟩ =
        (.ok foreignQuery, s') ∧
      foreignQuery.header.isResponse = false ∧
      foreignQuery.questions ≠ [DnsQuestion.new www .A] :=
  ⟨_, rfl, rfl, by decide⟩

end Resolver

end DnsServer
