import DnsServer.Dns.QuestionWire
import DnsServer.Server.Flags

namespace DnsServer

open Bytes Utf8 Lowercase

/-- What the fields of a header are read from. -/
theorem DnsHeader.parse_fields {data : List UInt8} {header : DnsHeader} {o' : Nat}
    (read : DnsHeader.parse data 0 = (.ok header, o')) :
    o' = 12 ∧ header.id = word16 data 0 ∧ header.isResponse = Server.qrBit data ∧
      header.opcode = .fromU8 (Server.opcodeBits data) ∧ header.recursionDesired = Server.rdBit data ∧
      header.questionCount = word16 data 4 := by
  obtain ⟨_, _, located, read⟩ := Prog.bind_eq_ok.mp read
  cases located
  by_cases short : 0 + 12 > data.length
  · rw [if_pos short] at read
    cases read
  · rw [if_neg short, Prog.bind_ok (u16At_apply (by omega) 0), Prog.bind_ok (byteAt_apply (by omega) 0),
      Prog.bind_ok (byteAt_apply (by omega) 0), Prog.bind_ok (u16At_apply (by omega) 0),
      Prog.bind_ok (u16At_apply (by omega) 0), Prog.bind_ok (u16At_apply (by omega) 0),
      Prog.bind_ok (u16At_apply (by omega) 0)] at read
    cases read
    have third : data.getD 2 0 = data[2] := List.getD_eq_getElem _ _ (by omega)
    rw [Server.qrBit, Server.opcodeBits, Server.rdBit, third]
    exact ⟨rfl, rfl, rfl, rfl, rfl, rfl⟩

namespace DnsMessage

variable {data : List UInt8} {query : DnsMessage}

/-- What an accepted message begins with. -/
theorem parse_begins (accepted : parse data = .ok query) :
    ∃ o₁ o₂, DnsHeader.parse data 0 = (.ok query.header, o₁) ∧
      parseQuestions data query.header.questionCount.toNat o₁ = (.ok query.questions, o₂) := by
  have run : parseFrom data 0 = (.ok query, (parseFrom data 0).2) := Prod.ext accepted rfl
  obtain ⟨header, o₁, first, run⟩ := Prog.bind_eq_ok.mp run
  obtain ⟨questions, o₂, second, run⟩ := Prog.bind_eq_ok.mp run
  obtain ⟨_, _, _, run⟩ := Prog.bind_eq_ok.mp run
  obtain ⟨_, _, _, run⟩ := Prog.bind_eq_ok.mp run
  obtain ⟨_, _, _, run⟩ := Prog.bind_eq_ok.mp run
  cases run
  exact ⟨o₁, o₂, first, second⟩

theorem parse_isResponse (accepted : parse data = .ok query) :
    query.header.isResponse = Server.qrBit data := by
  obtain ⟨_, _, first, _⟩ := parse_begins accepted
  exact (DnsHeader.parse_fields first).2.2.1

/-- An accepted query has the header and the questions that stand in its bytes. -/
theorem parse_asks (accepted : parse data = .ok query) :
    ∃ wire, Asks data 12 wire ∧ wire.length = (word16 data 4).toNat ∧
      query.questions = wire.map WireQuestion.decode ∧ query.header.id = word16 data 0 ∧
      query.header.opcode = .fromU8 (Server.opcodeBits data) ∧
      query.header.recursionDesired = Server.rdBit data := by
  obtain ⟨_, _, first, second⟩ := parse_begins accepted
  obtain ⟨rfl, id, _, opcode, recursionDesired, count⟩ := DnsHeader.parse_fields first
  obtain ⟨wire, asks, size, decoded⟩ := Asks.of_parseQuestions second
  exact ⟨wire, asks, size.trans (congrArg UInt16.toNat count), decoded, id, opcode, recursionDesired⟩

end DnsMessage

/-- A label of UTF-8 text comes back in lower case. -/
def EchoesLabel (raw raw' : List UInt8) : Prop :=
  ∀ text, raw = asBytes text → raw' = asBytes (toLowercase text)

structure Echoes (question question' : WireQuestion) : Prop where
  raws : List.Forall₂ EchoesLabel question.raws question'.raws
  recordType : question'.recordType = question.recordType
  recordClass : question'.recordClass = question.recordClass

theorem WireQuestion.echoes_echo (question : WireQuestion) : Echoes question question.echo where
  raws := by
    rw [echo, List.forall₂_map_right_iff, List.forall₂_same]
    rintro raw _ text rfl
    rw [DnsName.decodeLabel, fromUtf8Lossy_asBytes]
  recordType := rfl
  recordClass := rfl

/-- What the bytes of a reply repeat of the bytes of the query, whose questions are given: the
questions of the reply follow its header, and where their labels are of 1 to 63 bytes they are what a
reader finds there. -/
structure Repeats (data reply : List UInt8) (questions questions' : List WireQuestion) : Prop where
  id : word16 reply 0 = word16 data 0
  isResponse : Server.qrBit reply
  opcode : Server.opcodeBits reply = Server.opcodeBits data
  recursionDesired : Server.rdBit reply = Server.rdBit data
  asked : Asks data 12 questions
  count : questions.length = (word16 data 4).toNat
  counted : word16 reply 4 = word16 data 4
  echoes : List.Forall₂ Echoes questions questions'
  written : questions'.flatMap WireQuestion.bytes <+: reply.drop 12
  read : (∀ question ∈ questions', DnsName.Sized question.raws) → Asks reply 12 questions'

namespace DnsMessage

theorem serialize_head (message : DnsMessage) :
    word16 message.serialize 0 = message.header.id ∧
      word16 message.serialize 4 = UInt16.ofNat message.questions.length :=
  ⟨fromBe16_toBe16 _, fromBe16_toBe16 _⟩

theorem serialize_questions (message : DnsMessage) :
    message.questions.flatMap DnsQuestion.serialize <+: message.serialize.drop 12 :=
  List.prefix_append _ _

/-- What the reply to a query keeps of its header and of its questions. -/
theorem answer_keeps (query : DnsMessage) (outcome : Except ResponseCode (List DnsRecord)) :
    (query.answer outcome).header.id = query.header.id ∧ (query.answer outcome).header.isResponse = true ∧
      (query.answer outcome).header.opcode = query.header.opcode ∧
      (query.answer outcome).header.recursionDesired = query.header.recursionDesired ∧
      (query.answer outcome).questions = query.questions := by
  unfold answer
  cases outcome with
  | ok records => dsimp only; split <;> exact ⟨rfl, rfl, rfl, rfl, rfl⟩
  | error code => exact ⟨rfl, rfl, rfl, rfl, rfl⟩

end DnsMessage

namespace Server

variable {σ : Type} {resolve : DnsName → RecordType → Prog σ ResponseCode (List DnsRecord)}
  {data : List UInt8} {query : DnsMessage} {s : σ}

theorem repeats_answer (accepted : DnsMessage.parse data = .ok query)
    (outcome : Except ResponseCode (List DnsRecord)) :
    ∃ questions questions', Repeats data (query.answer outcome).serialize questions questions' := by
  obtain ⟨wire, asks, size, decoded, id, opcode, desired⟩ := DnsMessage.parse_asks accepted
  obtain ⟨sameId, response, sameOpcode, sameDesired, sameQuestions⟩ := query.answer_keeps outcome
  obtain ⟨head, count⟩ := (query.answer outcome).serialize_head
  have bytes : (query.answer outcome).questions.flatMap DnsQuestion.serialize =
      (wire.map WireQuestion.echo).flatMap WireQuestion.bytes := by
    rw [sameQuestions, decoded, List.flatMap_map, List.flatMap_map]
    exact List.flatMap_congr fun question _ => question.serialize_decode
  have written := (query.answer outcome).serialize_questions
  rw [bytes] at written
  refine ⟨wire, wire.map WireQuestion.echo, ?_⟩
  exact {
    id := by rw [head, sameId, id]
    isResponse := (qrBit_serialize _).trans response
    opcode := by
      rw [opcodeBits_serialize, sameOpcode, opcode, OpCode.toU8_fromU8, opcodeBits, UInt8.and_assoc, UInt8.and_self]
    recursionDesired := (rdBit_serialize _).trans (sameDesired.trans desired)
    asked := asks
    count := size
    counted := by rw [count, sameQuestions, decoded, List.length_map, size, UInt16.ofNat_toNat]
    echoes := by
      rw [List.forall₂_map_right_iff, List.forall₂_same]
      exact fun question _ => question.echoes_echo
    written := written
    read := fun sized => Asks.of_bytes sized written }

/-- The reply to an accepted query with questions repeats the identifier, the opcode and the RD bit, and
the questions in their order with their types and classes, the text of their labels in lower case. -/
theorem handleQuery_repeats (accepted : DnsMessage.parse data = .ok query) (some : query.questions ≠ [])
    (returns : ∀ question ∈ query.questions.head?,
      (resolve question.name question.recordType s).1.Returns) :
    ∃ reply s' questions questions', handleQuery resolve data s = (.ok reply, s') ∧
      Repeats data reply questions questions' := by
  obtain ⟨question, rest, asked⟩ := List.exists_cons_of_ne_nil some
  have back := returns question (by rw [asked]; rfl)
  rcases run : resolve question.name question.recordType s with ⟨records | code | _ | _, s'⟩ <;> rw [run] at back
  · obtain ⟨questions, questions', repeats⟩ := repeats_answer accepted (.ok records)
    exact ⟨_, s', questions, questions', handleQuery_asked accepted asked (Prog.rescue_ok run), repeats⟩
  · obtain ⟨questions, questions', repeats⟩ := repeats_answer accepted (.error code)
    exact ⟨_, s', questions, questions', handleQuery_asked accepted asked (Prog.rescue_err run), repeats⟩
  · exact back.elim
  · exact back.elim

/-- A query for the addresses of a host and for the mail exchanges of another in the same domain, with
capitals and with a pointer to the labels of the first question. -/
def mixedQuery : List UInt8 :=
  [0, 9, 1, 0, 0, 2, 0, 0, 0, 0, 0, 0] ++
    [3, 0x57, 0x77, 0x57, 7, 0x45, 0x78, 0x61, 0x6D, 0x70, 0x6C, 0x65, 0, 0, 1, 0, 1] ++
    [4, 0x4D, 0x41, 0x49, 0x4C, 0xC0, 16, 0, 15, 0, 1]

def mixedMessage : DnsMessage where
  header := { DnsHeader.newQuery 9 with questionCount := 2 }
  questions := [DnsQuestion.new ⟨["www", "example"]⟩ .A, DnsQuestion.new ⟨["mail", "example"]⟩ .MX]
  answers := []
  authorities := []
  additional := []

theorem parse_mixedQuery : DnsMessage.parse mixedQuery = .ok mixedMessage := by
  decide +kernel

theorem handleQuery_repeats_mixedQuery :
    ∃ reply s' questions questions', handleQuery failing mixedQuery () = (.ok reply, s') ∧
      Repeats mixedQuery reply questions questions' :=
  have returns : ∀ question ∈ mixedMessage.questions.head?,
      (failing question.name question.recordType ()).1.Returns := fun _ _ => trivial
  handleQuery_repeats parse_mixedQuery (List.cons_ne_nil _ _) returns

/-- A query for the addresses of a name of one capital letter. -/
def capitalQuery : List UInt8 := [0, 7, 1, 0, 0, 1, 0, 0, 0, 0, 0, 0, 1, 0x41, 0, 0, 1, 0, 1]

def capitalMessage : DnsMessage where
  header := { DnsHeader.newQuery 7 with questionCount := 1 }
  questions := [DnsQuestion.new ⟨["a"]⟩ .A]
  answers := []
  authorities := []
  additional := []

/-- The question that comes back has a small letter. -/
theorem handleQuery_capitalQuery_lowered :
    ∃ reply, handleQuery failing capitalQuery () = (.ok reply, ()) ∧
      ¬∃ questions, questions.length = 1 ∧ Asks capitalQuery 12 questions ∧ Asks reply 12 questions := by
  have accepted : DnsMessage.parse capitalQuery = .ok capitalMessage := by decide +kernel
  have handled : handleQuery failing capitalQuery () =
      (.ok (capitalMessage.answer (.error .serverFailure)).serialize, ()) :=
    handleQuery_asked accepted rfl (Prog.rescue_err rfl)
  refine ⟨_, handled, ?_⟩
  rintro ⟨questions, one, sent, returned⟩
  have capital : Asks capitalQuery 12 [⟨[[0x41]], 1, 1⟩] :=
    Asks.of_bytes (by simp [DnsName.Sized]) (show _ <+: _ by decide +kernel)
  have small : Asks (capitalMessage.answer (.error .serverFailure)).serialize 12 [⟨[[0x61]], 1, 1⟩] :=
    Asks.of_bytes (by simp [DnsName.Sized]) (show _ <+: _ by decide +kernel)
  have same := (sent.unique capital one).symm.trans (returned.unique small one)
  exact absurd same (by decide)

end Server

end DnsServer
