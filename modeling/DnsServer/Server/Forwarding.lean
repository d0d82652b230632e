import DnsServer.Resolver.Choice
import DnsServer.Resolver.Resolution
import DnsServer.Server.PacketLoop
import DnsServer.Zone.Served

/-! A resolver that asks another instance of the server, over UDP and over TCP. -/

namespace DnsServer

open Bytes

/-- The numbers and the clocks of the resolver, the datagram that waits for it, and the state of the
instance behind every address. -/
structure PeerWorld (σ : Type) where
  tape : Tape
  pending : Option (List UInt8)
  peer : σ

namespace Peer

variable {σ : Type} (resolve : DnsName → RecordType → Prog σ ResponseCode (List DnsRecord))

/-- What comes back to a datagram, when anything does. -/
def datagramReply (payload : List UInt8) (peer : σ) : Option (List UInt8) × σ :=
  match Server.serveUdp resolve (payload.take Server.BUFFER_SIZE) peer with
  | (.ok (some sent), peer) => (some (sent.take Server.BUFFER_SIZE), peer)
  | (_, peer) => (none, peer)

/-- `read_exact` of the length, and then of a message of this length. -/
def readMessage : List UInt8 → Option (List UInt8)
  | high :: low :: rest =>
    if rest.length < (fromBe16 high low).toNat then none else some (rest.take (fromBe16 high low).toNat)
  | _ => none

/-- What comes back over a connection on which the message was written behind its length. -/
def streamReply (payload : List UInt8) (peer : σ) : Option (List UInt8) × σ :=
  match Server.serveTcp resolve (toBe16 (UInt16.ofNat payload.length) ++ payload) peer with
  | (.ok written, peer) => (readMessage written.flatten, peer)
  | (_, peer) => (none, peer)

/-- Everything that is sent arrives. -/
def network : Network (PeerWorld σ) (List UInt8) where
  decode := DnsMessage.parse
  bind w := (true, w)
  randomU16 w := (w.tape.ids 0, { w with tape := { w.tape with ids := fun i => w.tape.ids (i + 1) } })
  randomUsize w := (w.tape.draws 0, { w with tape := { w.tape with draws := fun i => w.tape.draws (i + 1) } })
  sendTo query _ w :=
    (true, { w with
      pending := (datagramReply resolve query.serialize w.peer).1
      peer := (datagramReply resolve query.serialize w.peer).2 })
  recvFrom w := (w.pending, { w with pending := none })
  connect _ w := (true, w)
  exchange query _ w :=
    ((streamReply resolve query.serialize w.peer).1,
      { w with peer := (streamReply resolve query.serialize w.peer).2 })
  instant w :=
    (w.tape.instants 0, { w with tape := { w.tape with instants := fun i => w.tape.instants (i + 1) } })
  unixTime w :=
    (w.tape.seconds 0, { w with tape := { w.tape with seconds := fun i => w.tape.seconds (i + 1) } })

theorem network_pending (query : DnsMessage) (server : SocketAddr) (w : PeerWorld σ) :
    ((network resolve).sendTo query server w).2.pending =
      (datagramReply resolve query.serialize w.peer).1 := by
  dsimp only [network]

theorem network_exchange (query : DnsMessage) (server : SocketAddr) (w : PeerWorld σ) :
    ((network resolve).exchange query server w).1 =
      (streamReply resolve query.serialize w.peer).1 := by
  dsimp only [network]

/-- The instance has this outcome for the question in every state. -/
def Serves (name : DnsName) (recordType : RecordType) (outcome : Except ResponseCode (List DnsRecord)) :
    Prop :=
  ∀ s, ∃ s', (Prog.rescue (resolve name recordType) : Prog σ DnsError _) s = (.ok outcome, s')

section Outcomes

variable (outcome : Except ResponseCode (List DnsRecord))

def codeOf : Except ResponseCode (List DnsRecord) → ResponseCode
  | .ok _ => .noError
  | .error code => code

def recordsOf : Except ResponseCode (List DnsRecord) → List DnsRecord
  | .ok records => records
  | .error _ => []

/-- The reply with this outcome can be written, and its length fits in front of it. -/
structure Portable (name : DnsName) : Prop where
  code : (codeOf outcome).Canonical
  readable : ∀ record ∈ recordsOf outcome, record.Readable
  fits : name.toWire.length + 16 + ((recordsOf outcome).flatMap DnsRecord.serialize).length ≤ 65535

/-- The response says what the outcome was. -/
structure Delivered (response : DnsMessage) : Prop where
  code : response.header.responseCode = codeOf outcome
  answers : response.answers = (recordsOf outcome).map DnsRecord.reread
  authorities : response.authorities = []
  additional : response.additional = []

theorem answer_written (query : DnsMessage) :
    query.answer outcome =
      ⟨{ query.header with isResponse := true, recursionAvailable := true, responseCode := codeOf outcome },
        query.questions, recordsOf outcome, [], []⟩ := by
  cases outcome with
  | error code => rfl
  | ok records =>
    cases records with
    | nil => rfl
    | cons record records => rfl

end Outcomes

theorem length_le_serialized (records : List DnsRecord) :
    records.length ≤ (records.flatMap DnsRecord.serialize).length := by
  induction records with
  | nil => exact le_rfl
  | cons record records ih =>
    have some : 0 < record.serialize.length := by
      simp only [DnsRecord.serialize, List.length_append, toBe16_length]
      omega
    rw [List.flatMap_cons, List.length_append, List.length_cons]
    omega

section Replies

variable {resolve} {name : DnsName} {recordType : RecordType} {outcome : Except ResponseCode (List DnsRecord)}
  {query : DnsMessage}

/-- A query with one question, whose reply is not cut off for its name alone. -/
structure Asks (query : DnsMessage) (name : DnsName) (recordType : RecordType) : Prop where
  readable : query.Readable
  questions : query.questions = [DnsQuestion.new name recordType]
  whole : query.header.truncated = false
  short : query.serialize.length ≤ Server.BUFFER_SIZE
  named : name.toWire.length ≤ 255

theorem Asks.questionBytes (asks : Asks query name recordType) :
    query.questionBytes = name.toWire.length + 4 := by
  rw [DnsMessage.questionBytes, asks.questions]
  simp [DnsQuestion.serialize, DnsQuestion.new]

theorem Asks.reply_length (asks : Asks query name recordType) :
    (query.reread.answer outcome).serialize.length =
      name.toWire.length + 16 + ((recordsOf outcome).flatMap DnsRecord.serialize).length := by
  have asked : query.reread.questionBytes = query.questionBytes := rfl
  have given : outcome.toOption.getD [] = recordsOf outcome := by cases outcome <;> rfl
  rw [(query.reread.answer_replies outcome).length, asked, asks.questionBytes, given]
  omega

theorem Asks.reply_readable (asks : Asks query name recordType) (portable : Portable outcome name) :
    (query.reread.answer outcome).Readable := by
  have few := length_le_serialized (recordsOf outcome)
  have fits := portable.fits
  rw [answer_written]
  exact {
    header := ⟨asks.readable.header.opcode, portable.code⟩
    questions := asks.readable.questions
    answers := portable.readable
    authorities := fun _ member => absurd member List.not_mem_nil
    additional := fun _ member => absurd member List.not_mem_nil
    questionCount := asks.readable.questionCount
    answerCount := by
      show (recordsOf outcome).length ≤ 65535
      omega
    authorityCount := Nat.zero_le _
    additionalCount := Nat.zero_le _ }

theorem delivered_reply (query : DnsMessage) : Delivered outcome (query.answer outcome).reread := by
  rw [answer_written]
  exact ⟨rfl, rfl, rfl, rfl⟩

theorem handleQuery_serves (serves : Serves resolve name recordType outcome)
    (asks : Asks query name recordType) (peer : σ) :
    ∃ peer', Server.handleQuery resolve query.serialize peer =
      (.ok (query.reread.answer outcome).serialize, peer') := by
  obtain ⟨peer', resolved⟩ := serves peer
  exact ⟨peer', Server.handleQuery_asked (DnsMessage.parse_readable asks.readable) asks.questions resolved⟩

/-- A datagram brings the outcome, or says that it was too long for one. -/
theorem datagramReply_serves (serves : Serves resolve name recordType outcome)
    (asks : Asks query name recordType) (portable : Portable outcome name) (peer : σ) :
    ∃ payload response peer', datagramReply resolve query.serialize peer = (some payload, peer') ∧
      DnsMessage.parse payload = .ok response ∧ response.header.id = query.header.id ∧
      (response.header.truncated = false → Delivered outcome response) := by
  obtain ⟨peer', handled⟩ := handleQuery_serves serves asks peer
  have readable := asks.reply_readable portable
  have parsed := DnsMessage.parse_readable readable
  have taken : query.serialize.take Server.BUFFER_SIZE = query.serialize := List.take_of_length_le asks.short
  have named := asks.named
  have delivered : Delivered outcome (query.reread.answer outcome).reread := delivered_reply query.reread
  have same : (query.reread.answer outcome).reread.header.id = query.header.id := by
    rw [answer_written]
    rfl
  rcases Nat.lt_or_ge Server.UDP_LIMIT (query.reread.answer outcome).serialize.length with long | short
  · have served := Server.serveUdp_long handled long
    rw [parsed] at served
    have cutReadable : (query.reread.answer outcome).reread.truncate.Readable :=
      ⟨⟨readable.header.opcode, readable.header.responseCode⟩, readable.questions,
        fun _ member => absurd member List.not_mem_nil, fun _ member => absurd member List.not_mem_nil,
        fun _ member => absurd member List.not_mem_nil, readable.questionCount, Nat.zero_le _,
        Nat.zero_le _, Nat.zero_le _⟩
    have cutLength :
        (query.reread.answer outcome).reread.truncate.serialize.length ≤ Server.BUFFER_SIZE := by
      have asked : (query.reread.answer outcome).reread.questionBytes = query.questionBytes := by
        rw [answer_written]
        rfl
      rw [DnsMessage.truncate_length, asked, asks.questionBytes, Server.BUFFER_SIZE]
      omega
    refine ⟨_, _, peer', ?_, DnsMessage.parse_readable cutReadable, same, fun whole => ?_⟩
    · rw [datagramReply, taken, served]
      dsimp only
      rw [List.take_of_length_le cutLength]
    · cases whole
  · have served := Server.serveUdp_short handled short
    refine ⟨_, _, peer', ?_, parsed, same, fun _ => delivered⟩
    rw [datagramReply, taken, served]
    dsimp only
    rw [List.take_of_length_le (short.trans (by decide))]

/-- A connection brings the outcome. -/
theorem streamReply_serves (serves : Serves resolve name recordType outcome)
    (asks : Asks query name recordType) (portable : Portable outcome name) (peer : σ) :
    ∃ payload response peer', streamReply resolve query.serialize peer = (some payload, peer') ∧
      DnsMessage.parse payload = .ok response ∧ Delivered outcome response := by
  obtain ⟨peer', handled⟩ := handleQuery_serves serves asks peer
  have parsed := DnsMessage.parse_readable (asks.reply_readable portable)
  have served := Server.serveTcp_handled (asks.short.trans (by decide)) handled []
  have fits : (query.reread.answer outcome).serialize.length ≤ 65535 :=
    asks.reply_length.trans_le portable.fits
  refine ⟨_, _, peer', ?_, parsed, delivered_reply query.reread⟩
  rw [List.append_nil] at served
  rw [streamReply, served]
  have size : (fromBe16
      (UInt8.ofNat ((UInt16.ofNat (query.reread.answer outcome).serialize.length).toNat / 256))
      (UInt8.ofNat (UInt16.ofNat (query.reread.answer outcome).serialize.length).toNat)).toNat =
        (query.reread.answer outcome).serialize.length := by
    rw [fromBe16_toBe16, UInt16.toNat_ofNat']
    omega
  simp only [List.flatten_cons, List.flatten_nil, List.append_nil, toBe16, List.cons_append, List.nil_append,
    readMessage, size]
  rw [if_neg (Nat.lt_irrefl _), List.take_length]

end Replies

section Client

variable {resolve} {self : Resolver (PeerWorld σ) (List UInt8)} {name : DnsName} {recordType : RecordType}
  {outcome : Except ResponseCode (List DnsRecord)}

/-- The question can be asked, and its name is of the length that names may have. -/
structure Askable (name : DnsName) (recordType : RecordType) : Prop where
  named : name.Readable
  typed : recordType.Canonical
  short : name.toWire.length ≤ 255

theorem dnssecOption_readable : Resolver.dnssecOption.Readable where
  name := fun _ member => absurd member List.not_mem_nil
  recordType := fun _ unknown => by cases unknown
  recordClass := by decide
  selected := rfl
  rdata := ⟨fun _ member => absurd member List.not_mem_nil, trivial⟩
  short := by decide

theorem asks_query (askable : Askable name recordType) {header : DnsHeader} (standard : header.Encodable)
    (whole : header.truncated = false) {additional : List DnsRecord}
    (optional : additional = [] ∨ additional = [Resolver.dnssecOption]) :
    Asks ⟨header, [DnsQuestion.new name recordType], [], [], additional⟩ name recordType := by
  have question : (DnsQuestion.new name recordType).Readable :=
    ⟨askable.named, askable.typed, fun _ unknown => by cases unknown⟩
  have readable : ∀ record ∈ additional, record.Readable := by
    rcases optional with rfl | rfl
    · exact fun _ member => absurd member List.not_mem_nil
    · exact List.forall_mem_singleton.mpr dnssecOption_readable
  have few : additional.length ≤ 65535 := by rcases optional with rfl | rfl <;> decide
  have small : (additional.flatMap DnsRecord.serialize).length ≤ 11 := by
    rcases optional with rfl | rfl <;> decide
  have named := askable.short
  refine ⟨⟨standard, List.forall_mem_singleton.mpr question, fun _ member => absurd member List.not_mem_nil,
    fun _ member => absurd member List.not_mem_nil, readable, ?_, Nat.zero_le _, Nat.zero_le _, few⟩,
    rfl, whole, ?_, named⟩
  · show 1 ≤ 65535
    decide
  · rw [DnsMessage.serialize_length, DnsMessage.questionBytes, Server.BUFFER_SIZE]
    simp only [List.flatMap_cons, List.flatMap_nil, List.append_nil, List.length_nil, DnsQuestion.serialize,
      DnsQuestion.new, List.length_append, toBe16_length]
    omega

theorem newQuery_encodable (id : UInt16) : (DnsHeader.newQuery id).Encodable :=
  ⟨(by decide : (DnsHeader.newQuery 0).opcode.Canonical),
    (by decide : (DnsHeader.newQuery 0).responseCode.Canonical)⟩

theorem udpQuery_asks (self : Resolver (PeerWorld σ) (List UInt8)) (askable : Askable name recordType)
    (id : UInt16) : Asks (self.udpQuery id name recordType) name recordType := by
  have standard : (self.udpQuery id name recordType).header.Encodable :=
    ⟨(newQuery_encodable id).opcode, (newQuery_encodable id).responseCode⟩
  refine asks_query askable standard rfl ?_
  by_cases enabled : self.enableDnssec
  · exact Or.inr (if_pos enabled)
  · exact Or.inl (if_neg enabled)

theorem tcpQuery_asks (askable : Askable name recordType) (id : UInt16) :
    Asks (Resolver.tcpQuery id name recordType) name recordType := by
  have standard : (Resolver.tcpQuery id name recordType).header.Encodable :=
    ⟨(newQuery_encodable id).opcode, (newQuery_encodable id).responseCode⟩
  exact asks_query askable standard rfl (Or.inl rfl)

section Asked

variable (connected : self.network = network resolve) (serves : Serves resolve name recordType outcome)
  (portable : Portable outcome name) (askable : Askable name recordType)

section

include connected

theorem decoded_parsed {payload : List UInt8} {response : DnsMessage}
    (parsed : DnsMessage.parse payload = .ok response) (s : State (PeerWorld σ)) :
    self.decoded payload s = (.ok (.ok response), s) := by
  have decode : self.network.decode payload = .ok response := by
    rw [connected]
    exact parsed
  rw [Resolver.decoded, decode]
  rfl

end

include connected serves portable askable

/-- Whatever the state, the connection brings the outcome. -/
theorem queryTcp_serves (server : SocketAddr) (s : State (PeerWorld σ)) :
    ∃ response s', self.queryTcp name recordType server s = (.ok response, s') ∧
      Delivered outcome response := by
  obtain ⟨payload, response, peer', replied, parsed, delivered⟩ := streamReply_serves serves
    (tcpQuery_asks askable (s.world.tape.ids 0)) portable s.world.peer
  have connect : ask (self.network.connect server) s = (.ok true, s) := by
    rw [connected]
    rfl
  obtain ⟨s₁, drawn, same⟩ : ∃ s₁, ask self.network.randomU16 s = (.ok (s.world.tape.ids 0), s₁) ∧
      s₁.world.peer = s.world.peer := by
    rw [connected]
    exact ⟨_, rfl, rfl⟩
  let query := Resolver.tcpQuery (s.world.tape.ids 0) name recordType
  obtain ⟨s₂, noted, same'⟩ : ∃ s₂, note (.stream server query) s₁ =
      ((.ok (), s₂) : Outcome ResponseCode Unit × _) ∧ s₂.world = s₁.world := ⟨_, rfl, rfl⟩
  obtain ⟨s₃, exchanged⟩ : ∃ s₃, ask (self.network.exchange query server) s₂ = (.ok (some payload), s₃) := by
    refine ⟨_, Prod.ext (congrArg Outcome.ok ?_) rfl⟩
    rw [connected]
    rw [network_exchange, same', same, replied]
  refine ⟨response, s₃, ?_, delivered⟩
  rw [Resolver.queryTcp, Prog.bind_ok connect, if_pos rfl, Prog.bind_ok drawn, Prog.bind_ok noted,
    Prog.bind_ok exchanged]
  dsimp only
  rw [Prog.bind_ok (decoded_parsed connected parsed s₃)]
  rfl

/-- The first try is enough: it brings the outcome, over a connection when a datagram is too short for it. -/
theorem tryServer_serves (id : UInt16) (server : SocketAddr) (s : State (PeerWorld σ)) :
    ∃ response s', self.tryServer id name recordType server s = (.ok (some response), s') ∧
      Delivered outcome response := by
  obtain ⟨payload, response, peer', replied, parsed, own, delivered⟩ := datagramReply_serves serves
    (udpQuery_asks self askable id) portable s.world.peer
  let query := self.udpQuery id name recordType
  obtain ⟨s₁, noted, same⟩ : ∃ s₁, note (.datagram server query) s =
      ((.ok (), s₁) : Outcome ResponseCode Unit × _) ∧ s₁.world = s.world := ⟨_, rfl, rfl⟩
  obtain ⟨s₂, sent, waiting⟩ : ∃ s₂, ask (self.network.sendTo query server) s₁ = (.ok true, s₂) ∧
      s₂.world.pending = some payload := by
    rw [connected]
    refine ⟨_, rfl, ?_⟩
    rw [network_pending, same, replied]
  obtain ⟨s₃, received⟩ : ∃ s₃, ask self.network.recvFrom s₂ = (.ok (some payload), s₃) := by
    refine ⟨_, Prod.ext (congrArg Outcome.ok ?_) rfl⟩
    rw [connected]
    exact waiting
  have same' : response.header.id = id := own
  rw [Resolver.tryServer, Prog.bind_ok noted, Prog.bind_ok sent, if_pos rfl, Prog.bind_ok received]
  dsimp only
  rw [Prog.bind_ok (decoded_parsed connected parsed s₃)]
  dsimp only
  rw [if_pos same']
  by_cases cut : response.header.truncated
  · obtain ⟨tcpResponse, s₄, fetched, whole⟩ := queryTcp_serves connected serves portable askable server s₃
    refine ⟨tcpResponse, s₄, ?_, whole⟩
    rw [if_pos cut, Prog.bind_ok (Prog.attempt_ok fetched)]
    rfl
  · refine ⟨response, s₃, ?_, delivered (Bool.eq_false_of_not_eq_true cut)⟩
    rw [if_neg cut]
    rfl

theorem queryNameservers_serves {nameservers : List SocketAddr} (some : nameservers ≠ [])
    (s : State (PeerWorld σ)) : ∃ response s', self.queryNameservers name recordType nameservers s =
      (.ok response, s') ∧ Delivered outcome response := by
  have bound : ask self.network.bind s = (.ok true, s) := by
    rw [connected]
    rfl
  obtain ⟨id, s₁, drawn⟩ : ∃ id s₁, ask self.network.randomU16 s = (.ok id, s₁) := ⟨_, _, rfl⟩
  obtain ⟨indices, s₂, offsets, count, inside⟩ := self.offsets_drawn (List.length_pos_of_ne_nil some)
    (List.range MAX_RETRIES) s₁
  cases indices with
  | nil => cases count
  | cons i indices =>
    have here := inside i List.mem_cons_self
    have chosen := List.getElem?_eq_getElem here
    obtain ⟨response, s₃, tried, delivered⟩ :=
      tryServer_serves connected serves portable askable id nameservers[i] s₂
    obtain ⟨s₄, noted⟩ : ∃ s₄, note (.accepted nameservers[i] name recordType response) s₃ =
      ((.ok (), s₄) : Outcome ResponseCode Unit × _) := ⟨_, rfl⟩
    refine ⟨response, s₄, ?_, delivered⟩
    rw [Resolver.queryNameservers, Prog.bind_ok bound, if_pos rfl, Prog.bind_ok drawn, Prog.bind_ok offsets,
      Resolver.tryServers, chosen]
    dsimp only
    rw [Prog.bind_ok tried]
    dsimp only
    rw [Prog.bind_ok noted]
    rfl

end Asked

/-- The answer has records of the type that was asked for, unless it has none at all. -/
def Typed (recordType : RecordType) (outcome : Except ResponseCode (List DnsRecord)) : Prop :=
  recordsOf outcome = [] ∨ ∃ record ∈ recordsOf outcome, record.recordType = recordType

/-- What becomes of an outcome on its way through the resolver: the records of the type, as they are read,
and a failure when there is nothing but an empty answer. -/
def relayed (recordType : RecordType) (outcome : Except ResponseCode (List DnsRecord)) :
    Outcome ResponseCode (List DnsRecord) :=
  if codeOf outcome = .nameError then .err .nameError
  else if (recordsOf outcome).isEmpty then .err .serverFailure
  else .ok (((recordsOf outcome).map DnsRecord.reread).filter fun record => record.recordType = recordType)

theorem Delivered.typedAnswers {response : DnsMessage} (delivered : Delivered outcome response) :
    response.typedAnswers recordType =
      ((recordsOf outcome).map DnsRecord.reread).filter fun record => record.recordType = recordType := by
  rw [DnsMessage.typedAnswers, delivered.answers]

theorem codeOf_records (some : recordsOf outcome ≠ []) : codeOf outcome = .noError := by
  cases outcome with
  | error code => exact absurd rfl some
  | ok records => rfl

/-- What a level of the resolution makes of the response. -/
theorem continueWith_delivered (typed : Typed recordType outcome)
    (rec : DnsName → RecordType → Resolution (PeerWorld σ) (List DnsRecord)) (walk : Walk)
    {response : DnsMessage} (delivered : Delivered outcome response) (s : State (PeerWorld σ)) :
    ∃ s', (self.absorb name recordType response >>= self.continueWith rec recordType walk response.hasSoa) s =
      (Prog.lift (relayed recordType outcome) >>= fun records => pure (.inr records)) s' := by
  by_cases missing : codeOf outcome = .nameError
  · refine ⟨s, ?_⟩
    rw [Resolver.absorb, if_pos (delivered.code.trans missing), relayed, if_pos missing]
    rfl
  by_cases none : recordsOf outcome = []
  · have noAnswers : response.answers = [] := by rw [delivered.answers, none]; rfl
    have noServers : response.nsNames = [] := by rw [DnsMessage.nsNames, delivered.authorities]; rfl
    have noSoa : response.hasSoa = false := by rw [DnsMessage.hasSoa, delivered.authorities]; rfl
    obtain ⟨s', absorbed⟩ := self.absorb_unanswered name recordType (by rwa [delivered.code]) noAnswers s
    refine ⟨s', ?_⟩
    rw [Prog.bind_ok absorbed, Resolver.continueWith, Resolver.followReferral, noServers, noSoa, relayed,
      if_neg missing, none]
    rfl
  · obtain ⟨record, member, own⟩ := typed.resolve_left none
    have some : response.typedAnswers recordType ≠ [] := by
      rw [delivered.typedAnswers]
      exact List.ne_nil_of_mem (List.mem_filter.mpr ⟨List.mem_map_of_mem member, decide_eq_true own⟩)
    obtain ⟨s', absorbed⟩ := self.absorb_typed name (delivered.code.trans (codeOf_records none)) some s
    refine ⟨s', ?_⟩
    rw [Prog.bind_ok absorbed, Resolver.continueWith, delivered.typedAnswers, relayed, if_neg missing,
      if_neg (by simpa using none)]
    rfl

section Asking

variable (connected : self.network = network resolve) (serves : Serves resolve name recordType outcome)
  (portable : Portable outcome name) (askable : Askable name recordType) (typed : Typed recordType outcome)

include connected serves portable askable typed

theorem resolveRecursive_serves (fuel : Nat) {depth : Nat} (shallow : depth ≤ MAX_RECURSION_DEPTH)
    (s : State (PeerWorld σ)) :
    (self.resolveRecursive (fuel + 1) name recordType depth s).1 = relayed recordType outcome := by
  obtain ⟨response, s₁, asked, delivered⟩ := queryNameservers_serves connected serves portable askable
    (show rootServers ≠ [] by decide) s
  obtain ⟨s', continued⟩ := continueWith_delivered typed
    (fun name recordType => self.resolveRecursive (fuel + 1) name recordType (depth + 1)) ⟨rootServers, []⟩
    delivered s₁
  rw [Resolver.resolveRecursive, if_neg (by omega), Prog.loop_succ, Prog.bind_apply, Resolver.referralStep,
    Prog.bind_ok asked, continued, Prog.bind_apply, Prog.lift]
  cases relayed recordType outcome <;> rfl

/-- A resolver that knows nothing of the question gets what another instance has for it, in however many
records it comes: what does not fit in a datagram is asked for again over a connection. -/
theorem resolve_serves (elsewhere : self.zoneStore.zoneResult name recordType = .notFound)
    {s : State (PeerWorld σ)} (cold : s.cache.peek ⟨name, recordType⟩ = none)
    (cold' : s.cache.peek ⟨name, .CNAME⟩ = none) (fuel : Nat) :
    (self.resolve (fuel + 1) name recordType s).1 = relayed recordType outcome := by
  obtain ⟨s', upward⟩ := self.resolve_cold elsewhere cold cold' (fuel + 1)
  rw [upward]
  exact resolveRecursive_serves connected serves portable askable typed fuel (Nat.zero_le _) s'

end Asking

end Client

section Instances

variable {W D : Type} {other : Resolver W D} {below : Nat}
  {self : Resolver (PeerWorld (State W)) (List UInt8)} {name : DnsName} {recordType : RecordType}

theorem serves_found {records : List DnsRecord}
    (found : other.zoneStore.zoneResult name recordType = .found records) :
    Serves (other.resolve below) name recordType (.ok records) := by
  intro s
  refine ⟨s, Prog.rescue_ok ?_⟩
  rw [Resolver.resolve, found]
  rfl

theorem serves_noData (noData : other.zoneStore.zoneResult name recordType = .noData) :
    Serves (other.resolve below) name recordType (.ok []) := by
  intro s
  refine ⟨s, Prog.rescue_ok ?_⟩
  rw [Resolver.resolve, noData]
  rfl

theorem noError_canonical : (ResponseCode.noError).Canonical := by decide

theorem relayed_found {records : List DnsRecord} (some : records ≠ [])
    (typed : ∀ record ∈ records, record.recordType = recordType) :
    relayed recordType (.ok records) = .ok (records.map DnsRecord.reread) := by
  have all : ∀ record ∈ records.map DnsRecord.reread, decide (record.recordType = recordType) = true := by
    intro record member
    obtain ⟨given, listed, rfl⟩ := List.mem_map.mp member
    exact decide_eq_true (typed given listed)
  have kept : (records.map DnsRecord.reread).filter (fun record => record.recordType = recordType) =
      records.map DnsRecord.reread := List.filter_eq_self.mpr all
  rw [relayed, if_neg ResponseCode.noConfusion, if_neg (by simpa [recordsOf] using some), recordsOf, kept]

/-- What the zones of an instance have for a question is what a resolver gets that asks the instance. But
that a name has no such records is a failure for it, since the instance sends no SOA record along. -/
theorem resolve_instance {config : ZoneConfig} {store : ZoneStore}
    (loaded : ZoneStore.loadConfig config ⟨[]⟩ = (.ok (), store))
    (writable : ∀ definition ∈ config.zones, definition.Writable) (held : other.zoneStore = store)
    (connected : self.network = network (other.resolve below))
    (elsewhere : self.zoneStore.zoneResult name recordType = .notFound)
    {s : State (PeerWorld (State W))} (cold : s.cache.peek ⟨name, recordType⟩ = none)
    (cold' : s.cache.peek ⟨name, .CNAME⟩ = none) (askable : Askable name recordType) (fuel : Nat) :
    (∀ records, store.zoneResult name recordType = .found records →
      name.toWire.length + 16 + (records.flatMap DnsRecord.serialize).length ≤ 65535 →
      (self.resolve (fuel + 1) name recordType s).1 = .ok (records.map DnsRecord.reread)) ∧
    (store.zoneResult name recordType = .noData →
      (self.resolve (fuel + 1) name recordType s).1 = .err .serverFailure) := by
  subst held
  constructor
  · intro records found fits
    obtain ⟨some, each⟩ := ZoneStore.found_readable loaded writable found
    obtain ⟨first, member⟩ := List.exists_mem_of_ne_nil _ some
    have portable : Portable (.ok records) name :=
      ⟨noError_canonical, fun record member => (each record member).2, fits⟩
    have typed : Typed recordType (.ok records) := Or.inr ⟨first, member, (each first member).1⟩
    rw [resolve_serves connected (serves_found found) portable askable typed elsewhere cold cold' fuel]
    exact relayed_found some fun record member => (each record member).1
  · intro noData
    have named := askable.short
    have portable : Portable (.ok []) name := by
      refine ⟨noError_canonical, fun _ member => absurd member List.not_mem_nil, ?_⟩
      simp only [recordsOf, List.flatMap_nil, List.length_nil]
      omega
    rw [resolve_serves connected (serves_noData noData) portable askable (Or.inl rfl) elsewhere cold cold'
      fuel]
    rfl

/-- An instance with a zone that delegates, and a resolver that knows of nothing else. -/
def instanceResolver : Resolver Tape DnsMessage :=
  { ZoneStore.silence.resolver with zoneStore := .delegatingStore }

def askingResolver : Resolver (PeerWorld (State Tape)) (List UInt8) where
  network := network (instanceResolver.resolve 0)
  zoneStore := ⟨[]⟩
  dnssecValidator := Upstream.distrustful
  enableDnssec := true

def askingState : State (PeerWorld (State Tape)) :=
  ⟨DnsCache.new 10, ⟨Upstream.blankTape, none, ⟨DnsCache.new 10, Upstream.blankTape, []⟩⟩, []⟩

theorem askable_subzone (recordType : RecordType) (canonical : recordType.Canonical) :
    Askable Zone.subzone recordType :=
  ⟨DnsName.Plain.readable (by decide +kernel), canonical, by decide +kernel⟩

theorem resolve_instance_subzone :
    (askingResolver.resolve 1 Zone.subzone .NS askingState).1 = .ok [Zone.delegation] ∧
      (askingResolver.resolve 1 Zone.subzone .MX askingState).1 = .err .serverFailure := by
  have writable : ∀ definition ∈ [Zone.delegatingZone], definition.Writable :=
    List.forall_mem_singleton.mpr Zone.writable_delegatingZone
  have connected : askingResolver.network = network (instanceResolver.resolve 0) := rfl
  have cold : ∀ key, askingState.cache.peek key = none := fun _ => rfl
  constructor
  · exact (resolve_instance ZoneStore.loadConfig_delegatingZone writable rfl connected rfl (cold _) (cold _)
      (askable_subzone .NS (by decide)) 0).1 [Zone.delegation] ZoneStore.found_delegation (by decide +kernel)
  · exact (resolve_instance ZoneStore.loadConfig_delegatingZone writable rfl connected rfl (cold _) (cold _)
      (askable_subzone .MX (by decide)) 0).2 ZoneStore.noData_subzone

end Instances

end Peer

end DnsServer
