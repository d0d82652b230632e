import DnsServer.Dns.Delimiting
import DnsServer.Server.Handler

namespace DnsServer

open Bytes

theorem DnsHeader.serialize_length (header : DnsHeader) : header.serialize.length = 12 := rfl

namespace DnsMessage

/-- The bytes that the question section takes. -/
def questionBytes (message : DnsMessage) : Nat := (message.questions.flatMap DnsQuestion.serialize).length

theorem serialize_length (message : DnsMessage) :
    message.serialize.length = 12 + message.questionBytes +
      (message.answers.flatMap DnsRecord.serialize).length +
      (message.authorities.flatMap DnsRecord.serialize).length +
      (message.additional.flatMap DnsRecord.serialize).length := by
  simp only [serialize, questionBytes, List.length_append, DnsHeader.serialize_length]
  omega

/-- The reply has the questions of the query, the resolver's records for answers, and nothing else. -/
structure Replies (query : DnsMessage) (records : List DnsRecord) (reply : DnsMessage) : Prop where
  questions : reply.questions = query.questions
  answers : reply.answers = records
  authorities : reply.authorities = []
  additional : reply.additional = []

theorem makeErrorResponse_replies (query : DnsMessage) (code : ResponseCode) :
    query.Replies [] (query.makeErrorResponse code) :=
  ⟨rfl, rfl, rfl, rfl⟩

theorem answer_replies (query : DnsMessage) (outcome : Except ResponseCode (List DnsRecord)) :
    query.Replies (outcome.toOption.getD []) (query.answer outcome) := by
  cases outcome with
  | ok records =>
    unfold answer
    dsimp only
    split
    · rename_i none
      exact ⟨rfl, (List.isEmpty_iff.mp none).symm, rfl, rfl⟩
    · exact ⟨rfl, rfl, rfl, rfl⟩
  | error code => exact ⟨rfl, rfl, rfl, rfl⟩

theorem Replies.length {query reply : DnsMessage} {records : List DnsRecord} (replies : query.Replies records reply) :
    reply.serialize.length = 12 + query.questionBytes + (records.flatMap DnsRecord.serialize).length := by
  rw [serialize_length, questionBytes, replies.questions, replies.answers, replies.authorities,
    replies.additional, ← questionBytes]
  rfl

/-- A reply without records can be parsed again, when its questions can. -/
theorem Replies.reparsed {query reply : DnsMessage} (replies : query.Replies [] reply)
    (few : query.questions.length ≤ 65535) (asked : ∀ question ∈ query.questions, question.Readable) :
    ∃ again, parse reply.serialize = .ok again ∧ again.questions = query.questions := by
  rw [← replies.questions] at few asked ⊢
  have none : ∀ record ∈ reply.answers, record.Delimited := by
    rw [replies.answers]
    exact fun _ member => absurd member List.not_mem_nil
  have clean := not_overruns_delimited asked few none replies.authorities replies.additional
  rcases parse_asked asked few with ⟨overruns, _⟩ | ⟨_, again⟩
  · exact absurd overruns clean
  · exact again

theorem truncate_length (response : DnsMessage) :
    response.truncate.serialize.length = 12 + response.questionBytes := by
  rw [serialize_length]
  rfl

end DnsMessage

namespace Server

variable {σ : Type} {resolve : DnsName → RecordType → Prog σ ResponseCode (List DnsRecord)}
  {data : List UInt8} {query : DnsMessage} {s : σ}

/-- An accepted query is answered whenever the resolver comes back, with a list of records or with
a response code. -/
theorem handleQuery_answers (accepted : DnsMessage.parse data = .ok query)
    (returns : ∀ question ∈ query.questions.head?,
      (resolve question.name question.recordType s).1.Returns) :
    ∃ reply s', handleQuery resolve data s = (.ok reply.serialize, s') ∧
      query.Replies (answersTo resolve query s) reply := by
  rcases asked : query.questions with _ | ⟨question, rest⟩
  · refine ⟨_, s, handleQuery_bare accepted asked, ?_⟩
    have none : answersTo resolve query s = [] := by rw [answersTo, asked]
    rw [none]
    exact query.makeErrorResponse_replies .formatError
  · have back := returns question (by rw [asked]; rfl)
    rcases run : resolve question.name question.recordType s with ⟨records | code | _ | _, s'⟩
    · refine ⟨_, s', handleQuery_asked accepted asked (Prog.rescue_ok run), ?_⟩
      have given : answersTo resolve query s = records := by
        rw [answersTo, asked]
        dsimp only
        rw [run]
      rw [given]
      exact query.answer_replies (.ok records)
    · refine ⟨_, s', handleQuery_asked accepted asked (Prog.rescue_err run), ?_⟩
      have none : answersTo resolve query s = [] := by
        rw [answersTo, asked]
        dsimp only
        rw [run]
      rw [none]
      exact query.answer_replies (.error code)
    · rw [run] at back
      exact back.elim
    · rw [run] at back
      exact back.elim

/-- What the handler answers comes from a query that was accepted, and has the length of its parts. -/
theorem handleQuery_ok {reply : List UInt8} {s' : σ}
    (handled : handleQuery resolve data s = (.ok reply, s')) :
    ∃ query, DnsMessage.parse data = .ok query ∧
      reply.length = 12 + query.questionBytes +
        ((answersTo resolve query s).flatMap DnsRecord.serialize).length := by
  obtain ⟨query, middle, read, rest⟩ := Prog.bind_eq_ok.mp handled
  have accepted : DnsMessage.parse data = .ok query := congrArg Prod.fst read
  refine ⟨query, accepted, ?_⟩
  have returns : ∀ question ∈ query.questions.head?,
      (resolve question.name question.recordType s).1.Returns := by
    intro question first
    have same : middle = s := (congrArg Prod.snd read).symm
    obtain ⟨others, asked⟩ := List.head?_eq_some_iff.mp first
    rw [asked, same] at rest
    obtain ⟨outcome, _, back, _⟩ := Prog.bind_eq_ok.mp rest
    rcases run : resolve question.name question.recordType s with ⟨records | code | _ | _, s''⟩
    · trivial
    · trivial
    · rw [Prog.rescue, run] at back
      cases back
    · rw [Prog.rescue, run] at back
      cases back
  obtain ⟨reply', s'', handled', replies⟩ := handleQuery_answers accepted returns
  have same := handled.symm.trans handled'
  cases same
  exact replies.length

section Udp

/-- The TC bit of a serialised message. -/
def tcBit (bytes : List UInt8) : Bool := bytes.getD 2 0 &&& 0x02 != 0

/-- A reply is sent for the datagram, it keeps the limit, and it is marked as truncated when the whole
reply does not. -/
def UdpFits (resolve : DnsName → RecordType → Prog σ ResponseCode (List DnsRecord))
    (data : List UInt8) (s : σ) (reply : List UInt8) : Prop :=
  ∃ sent s', serveUdp resolve data s = (.ok (some sent), s') ∧ sent.length ≤ UDP_LIMIT ∧
    (UDP_LIMIT < reply.length → tcBit sent)

/-- A bit that was set stays set under the other bits of a byte. -/
theorem or_and_self (x y mask : UInt8) : (x ||| mask ||| y) &&& mask = mask := by
  apply UInt8.toBitVec_inj.mp
  ext i inside
  simp only [UInt8.toBitVec_and, UInt8.toBitVec_or, BitVec.getElem_and, BitVec.getElem_or]
  cases mask.toBitVec[i] <;> simp

theorem tcBit_truncate (response : DnsMessage) : tcBit response.truncate.serialize := by
  have third : response.truncate.serialize.getD 2 0 = response.truncate.countedHeader.flags1 := rfl
  have set : response.truncate.countedHeader.flags1 &&& 0x02 = 0x02 := or_and_self _ _ 0x02
  rw [tcBit, third, set]
  decide

theorem serveUdp_short {reply : List UInt8} {s' : σ}
    (handled : handleQuery resolve data s = (.ok reply, s')) (short : reply.length ≤ UDP_LIMIT) :
    serveUdp resolve data s = (.ok (some reply), s') := by
  rw [serveUdp, Prog.bind_ok (Prog.attempt_ok handled)]
  dsimp only
  rw [if_neg (by omega)]
  rfl

/-- A long reply is parsed again, and what is sent is the header and the questions that this gives. -/
theorem serveUdp_long {reply : List UInt8} {s' : σ}
    (handled : handleQuery resolve data s = (.ok reply, s')) (long : UDP_LIMIT < reply.length) :
    serveUdp resolve data s =
      (match DnsMessage.parse reply with
        | .ok response => .ok (some response.truncate.serialize)
        | .err _ => .ok none
        | .panic => .panic
        | .hang => .hang, s') := by
  rw [serveUdp, Prog.bind_ok (Prog.attempt_ok handled)]
  dsimp only
  rw [if_pos long]
  have lifted : (Prog.lift (DnsMessage.parse reply) : Prog σ DnsError DnsMessage) s' =
      (DnsMessage.parse reply, s') := rfl
  rcases again : DnsMessage.parse reply with response | error | _ | _ <;> rw [again] at lifted
  · rw [Prog.bind_ok (Prog.attempt_ok lifted)]
    rfl
  · rw [Prog.bind_ok (Prog.attempt_err lifted)]
    rfl
  · rw [Prog.bind_panic (Prog.attempt_panic lifted)]
  · rw [Prog.bind_apply, Prog.attempt, lifted]

theorem udpFits_short {reply : List UInt8} {s' : σ} (handled : handleQuery resolve data s = (.ok reply, s'))
    (short : reply.length ≤ UDP_LIMIT) : UdpFits resolve data s reply := by
  refine ⟨reply, s', serveUdp_short handled short, short, ?_⟩
  intro long
  omega

/-- A long reply that parses again leaves the header and the questions of this parse. -/
theorem udpFits_reparsed {reply : List UInt8} {s' : σ} {again : DnsMessage}
    (handled : handleQuery resolve data s = (.ok reply, s')) (long : UDP_LIMIT < reply.length)
    (parsed : DnsMessage.parse reply = .ok again) :
    UdpFits resolve data s reply ↔ 12 + again.questionBytes ≤ UDP_LIMIT := by
  have served := serveUdp_long handled long
  rw [parsed] at served
  rw [← DnsMessage.truncate_length]
  constructor
  · rintro ⟨sent, s'', run, fits, _⟩
    have same := congrArg Prod.fst (served.symm.trans run)
    rwa [Option.some.inj (Outcome.ok.inj same)]
  · exact fun fits => ⟨_, s', served, fits, fun _ => tcBit_truncate again⟩

/-- A long reply that a record overruns is not sent. -/
theorem udpFits_overrun {reply : List UInt8} {s' : σ}
    (handled : handleQuery resolve data s = (.ok reply, s')) (long : UDP_LIMIT < reply.length)
    (panics : DnsMessage.parse reply = .panic) : ¬UdpFits resolve data s reply := by
  have served := serveUdp_long handled long
  rw [panics] at served
  rintro ⟨sent, s'', run, _⟩
  cases served.symm.trans run

/-- What goes out over UDP keeps the limit when header, questions and records together do. When they do
not, and no label of the questions is longer than its length byte can say, it keeps the limit exactly
when header and questions alone do and no record is met that overruns its RDATA; delimited records
never overrun. -/
theorem serveUdp_fits_iff (accepted : DnsMessage.parse data = .ok query)
    (returns : ∀ question ∈ query.questions.head?,
      (resolve question.name question.recordType s).1.Returns) :
    ∃ reply s', handleQuery resolve data s = (.ok reply, s') ∧
      (12 + query.questionBytes + ((answersTo resolve query s).flatMap DnsRecord.serialize).length ≤ UDP_LIMIT →
        UdpFits resolve data s reply) ∧
      (query.QuestionsFit →
        (UdpFits resolve data s reply ↔ 12 + query.questionBytes ≤ UDP_LIMIT ∧
          (12 + query.questionBytes + ((answersTo resolve query s).flatMap DnsRecord.serialize).length ≤ UDP_LIMIT ∨
            ¬DnsMessage.Overruns reply)) ∧
        ((∀ record ∈ answersTo resolve query s, record.Delimited) →
          (UdpFits resolve data s reply ↔ 12 + query.questionBytes ≤ UDP_LIMIT))) := by
  obtain ⟨reply, s', handled, replies⟩ := handleQuery_answers accepted returns
  rw [← replies.length]
  refine ⟨reply.serialize, s', handled, udpFits_short handled, fun labels => ?_⟩
  obtain ⟨few, asked⟩ := labels.readable accepted
  rw [← replies.questions] at few asked
  have exactly : UdpFits resolve data s reply.serialize ↔ 12 + query.questionBytes ≤ UDP_LIMIT ∧
      (reply.serialize.length ≤ UDP_LIMIT ∨ ¬DnsMessage.Overruns reply.serialize) := by
    rcases Nat.lt_or_ge UDP_LIMIT reply.serialize.length with long | short
    · rcases DnsMessage.parse_asked asked few with ⟨overruns, panics⟩ | ⟨clean, again, parsed, same⟩
      · refine iff_of_false (udpFits_overrun handled long panics) ?_
        rintro ⟨_, short | clean⟩
        · omega
        · exact clean overruns
      · rw [udpFits_reparsed handled long parsed, DnsMessage.questionBytes, same, replies.questions]
        exact (and_iff_left (Or.inr clean)).symm
    · have size := replies.length
      exact iff_of_true (udpFits_short handled short) ⟨by omega, Or.inl short⟩
  refine ⟨exactly, fun delimited => ?_⟩
  rw [← replies.answers] at delimited
  have clean := DnsMessage.not_overruns_delimited asked few delimited replies.authorities replies.additional
  rw [exactly]
  exact and_iff_left (Or.inr clean)

/-- The resolver gives up on every question. -/
def failing : DnsName → RecordType → Prog Unit ResponseCode (List DnsRecord) :=
  fun _ _ => Prog.fail .serverFailure

/-- A query for the addresses of the root. -/
def rootQuery : DnsMessage where
  header := { DnsHeader.newQuery 0 with questionCount := 1 }
  questions := [DnsQuestion.new DnsName.root .A]
  answers := []
  authorities := []
  additional := []

theorem parse_rootQuery : DnsMessage.parse rootQuery.serialize = .ok rootQuery := by
  decide +kernel

/-- A query for the addresses and the mail exchanges of a host. -/
def hostQuery : DnsMessage where
  header := { DnsHeader.newQuery 0 with questionCount := 2 }
  questions := [DnsQuestion.new ⟨["www", "example", "com"]⟩ .A, DnsQuestion.new ⟨["example", "com"]⟩ .MX]
  answers := []
  authorities := []
  additional := []

theorem parse_hostQuery : DnsMessage.parse hostQuery.serialize = .ok hostQuery := by
  decide +kernel

/-- Addresses that do not fit in a datagram, with a signature that does not cover them. -/
def hostAnswers : List DnsRecord :=
  DnsRecord.new ⟨["www", "example", "com"]⟩ .RRSIG 300
      (.RRSIG .A 13 3 300 1700000000 1600000000 42 ⟨["example", "com"]⟩ [1, 2, 3]) ::
    List.replicate 20 (DnsRecord.new ⟨["www", "example", "com"]⟩ .A 300 (.A ⟨192, 0, 2, 1⟩))

theorem hostAnswers_delimited : ∀ record ∈ hostAnswers, record.Delimited := by
  have encodable : ∀ record ∈ hostAnswers, record.Encodable := by decide +kernel
  exact fun record member => (encodable record member).readable.delimited

def hostResolver : DnsName → RecordType → Prog Unit ResponseCode (List DnsRecord) :=
  fun _ _ => pure hostAnswers

theorem serveUdp_fits_iff_hostQuery :
    UDP_LIMIT < 12 + hostQuery.questionBytes + (hostAnswers.flatMap DnsRecord.serialize).length ∧
      ∃ reply s', handleQuery hostResolver hostQuery.serialize () = (.ok reply, s') ∧
        UdpFits hostResolver hostQuery.serialize () reply := by
  have returns : ∀ question ∈ hostQuery.questions.head?,
      (hostResolver question.name question.recordType ()).1.Returns := fun _ _ => trivial
  have labels : hostQuery.QuestionsFit := by
    simp only [DnsMessage.QuestionsFit, DnsName.LabelsFit]
    decide +kernel
  obtain ⟨reply, s', handled, _, fits⟩ := serveUdp_fits_iff parse_hostQuery returns
  exact ⟨by decide +kernel, reply, s', handled, ((fits labels).2 hostAnswers_delimited).mpr (by decide +kernel)⟩

/-- The same question so often that the echo alone is longer than the limit. -/
def manyQuestions : DnsMessage where
  header := { DnsHeader.newQuery 0 with questionCount := 101 }
  questions := List.replicate 101 (DnsQuestion.new DnsName.root .A)
  answers := []
  authorities := []
  additional := []

/-- What the server makes of these questions when the resolver gives up. -/
def manyFailed : DnsMessage := manyQuestions.answer (.error .serverFailure)

theorem parse_manyQuestions {header : DnsHeader} (encodable : header.Encodable)
    (counted : { manyQuestions with header := header }.countedHeader = header) :
    DnsMessage.parse { manyQuestions with header := header }.serialize =
      .ok { manyQuestions with header := header } := by
  have zero : ([] : List DnsRecord).length ≤ 65535 := Nat.zero_le _
  have count : manyQuestions.questions.length ≤ 65535 := by decide
  have whole : DnsMessage.Encodable { manyQuestions with header := header } := {
    header := encodable
    questions := by
      intro question member
      rw [List.eq_of_mem_replicate member]
      decide
    answers := fun _ member => absurd member List.not_mem_nil
    authorities := fun _ member => absurd member List.not_mem_nil
    additional := fun _ member => absurd member List.not_mem_nil
    questionCount := count
    answerCount := zero
    authorityCount := zero
    additionalCount := zero }
  have parsed := DnsMessage.parse_encodable whole
  rwa [counted] at parsed

theorem manyQuestions_questionBytes : manyQuestions.questionBytes = 505 := by
  decide +kernel

/-- The reply echoes the questions without compression, and is as long after the truncation as before. -/
theorem serveUdp_manyQuestions_unfit :
    manyQuestions.serialize.length ≤ 4096 ∧
      DnsMessage.parse manyQuestions.serialize = .ok manyQuestions ∧
      handleQuery failing manyQuestions.serialize () = (.ok manyFailed.serialize, ()) ∧
      ¬UdpFits failing manyQuestions.serialize () manyFailed.serialize := by
  have accepted : DnsMessage.parse manyQuestions.serialize = .ok manyQuestions :=
    parse_manyQuestions (by decide) (by decide +kernel)
  have asked : manyQuestions.questions = DnsQuestion.new DnsName.root .A ::
      List.replicate 100 (DnsQuestion.new DnsName.root .A) := List.replicate_succ
  have handled : handleQuery failing manyQuestions.serialize () = (.ok manyFailed.serialize, ()) :=
    handleQuery_asked accepted asked (Prog.rescue_err rfl)
  have again : DnsMessage.parse manyFailed.serialize = .ok manyFailed := by
    have failed : { manyQuestions with header := manyFailed.header } = manyFailed := rfl
    have counted : manyFailed.countedHeader = manyFailed.header := by decide +kernel
    rw [← failed] at counted ⊢
    exact parse_manyQuestions (by decide) counted
  have size : manyFailed.serialize.length = 517 := by
    rw [manyFailed, (manyQuestions.answer_replies (.error .serverFailure)).length, manyQuestions_questionBytes]
    rfl
  refine ⟨?_, accepted, handled, ?_⟩
  · rw [DnsMessage.serialize_length, manyQuestions_questionBytes]
    decide
  rintro ⟨sent, s', run, fits, _⟩
  have long : UDP_LIMIT < manyFailed.serialize.length := by
    rw [size]
    decide
  rw [serveUdp_long handled long, again] at run
  have same : some manyFailed.truncate.serialize = some sent := Outcome.ok.inj (congrArg Prod.fst run)
  rw [← Option.some.inj same, DnsMessage.truncate_length] at fits
  have echoed : manyFailed.questionBytes = 505 := manyQuestions_questionBytes
  rw [echoed, UDP_LIMIT] at fits
  omega

end Udp

section Tcp

/-- The client that sent the query, and more after it, is sent a prefix and the reply, and the prefix
says how long the reply is. -/
def TcpFramed (resolve : DnsName → RecordType → Prog σ ResponseCode (List DnsRecord))
    (data : List UInt8) (s : σ) (reply : List UInt8) : Prop :=
  ∀ more, ∃ framing s',
    serveTcp resolve (toBe16 (UInt16.ofNat data.length) ++ (data ++ more)) s = (.ok [framing, reply], s') ∧
      framing.length = 2 ∧ (word16 framing 0).toNat = reply.length

theorem word16_toBe16 (x : UInt16) : word16 (toBe16 x) 0 = x := fromBe16_toBe16 x

/-- The server reads the whole query, whatever follows it, and casts the length of its reply. -/
theorem serveTcp_handled {reply : List UInt8} {s' : σ} (short : data.length ≤ 65535)
    (handled : handleQuery resolve data s = (.ok reply, s')) (more : List UInt8) :
    serveTcp resolve (toBe16 (UInt16.ofNat data.length) ++ (data ++ more)) s =
      (.ok [toBe16 (UInt16.ofNat reply.length), reply], s') := by
  have size : (fromBe16 (UInt8.ofNat ((UInt16.ofNat data.length).toNat / 256))
      (UInt8.ofNat (UInt16.ofNat data.length).toNat)).toNat = data.length := by
    rw [fromBe16_toBe16, UInt16.toNat_ofNat']
    omega
  have enough : ¬(data ++ more).length < data.length := by
    rw [List.length_append]
    omega
  simp only [toBe16, List.cons_append, List.nil_append, serveTcp, size]
  rw [if_neg (by omega), if_neg enough, List.take_left, Prog.bind_ok (Prog.attempt_ok handled)]
  rfl

/-- The prefix is the length of the reply exactly when header, echoed questions and answers take no
more than 65535 bytes. -/
theorem serveTcp_framed_iff {reply : List UInt8} {s' : σ} (short : data.length ≤ 65535)
    (handled : handleQuery resolve data s = (.ok reply, s')) :
    ∃ query, DnsMessage.parse data = .ok query ∧
      (TcpFramed resolve data s reply ↔ 12 + query.questionBytes +
        ((answersTo resolve query s).flatMap DnsRecord.serialize).length ≤ 65535) := by
  obtain ⟨query, accepted, size⟩ := handleQuery_ok handled
  refine ⟨query, accepted, ?_⟩
  rw [← size]
  have cast : (word16 (toBe16 (UInt16.ofNat reply.length)) 0).toNat = reply.length % 65536 := by
    rw [word16_toBe16, UInt16.toNat_ofNat']
  constructor
  · intro framed
    obtain ⟨framing, s'', run, _, counts⟩ := framed []
    have served := (serveTcp_handled short handled []).symm.trans run
    cases served
    rw [cast] at counts
    omega
  · intro fits more
    refine ⟨_, s', serveTcp_handled short handled more, rfl, ?_⟩
    rw [cast]
    omega

theorem serveTcp_framed_iff_rootQuery :
    ∃ query, DnsMessage.parse rootQuery.serialize = .ok query ∧
      (TcpFramed failing rootQuery.serialize () (rootQuery.answer (.error .serverFailure)).serialize ↔
        12 + query.questionBytes +
          ((answersTo failing query ()).flatMap DnsRecord.serialize).length ≤ 65535) :=
  have failed : handleQuery failing rootQuery.serialize () =
      (.ok (rootQuery.answer (.error .serverFailure)).serialize, ()) :=
    handleQuery_asked parse_rootQuery rfl (Prog.rescue_err rfl)
  serveTcp_framed_iff (by decide +kernel) failed

/-- So many addresses of the root that they alone take 65535 bytes. -/
def manyAddresses : List DnsRecord :=
  List.replicate 4369 (DnsRecord.new DnsName.root .A 300 (.A ⟨192, 0, 2, 1⟩))

theorem manyAddresses_length : (manyAddresses.flatMap DnsRecord.serialize).length = 65535 := by
  have one : (DnsRecord.new DnsName.root .A 300 (.A ⟨192, 0, 2, 1⟩)).serialize.length = 15 := rfl
  simp only [manyAddresses, List.length_flatMap, List.map_replicate, List.sum_replicate_nat, one]

/-- A short query whose reply is longer than the prefix can say. -/
theorem serveTcp_manyAddresses_unframed :
    ∃ reply, handleQuery (fun _ _ => pure manyAddresses) rootQuery.serialize () = (.ok reply, ()) ∧
      ¬TcpFramed (fun _ _ => pure manyAddresses) rootQuery.serialize () reply := by
  let given : DnsName → RecordType → Prog Unit ResponseCode (List DnsRecord) := fun _ _ => pure manyAddresses
  have handled : handleQuery given rootQuery.serialize () =
      (.ok (rootQuery.answer (.ok manyAddresses)).serialize, ()) :=
    handleQuery_asked parse_rootQuery rfl (Prog.rescue_ok rfl)
  refine ⟨_, handled, fun framed => ?_⟩
  have size : (rootQuery.answer (.ok manyAddresses)).serialize.length = 65552 := by
    have asked : rootQuery.questionBytes = 5 := rfl
    have all : (Except.ok manyAddresses : Except ResponseCode _).toOption.getD [] = manyAddresses := rfl
    rw [(rootQuery.answer_replies (.ok manyAddresses)).length, asked, all, manyAddresses_length]
  have short : rootQuery.serialize.length ≤ 65535 := by decide +kernel
  obtain ⟨framing, s', run, _, counts⟩ := framed []
  have served := (serveTcp_handled short handled []).symm.trans run
  have prefixed : toBe16 (UInt16.ofNat 65552) = framing := by
    have frames := Outcome.ok.inj (congrArg Prod.fst served)
    rw [size] at frames
    exact (List.cons.inj frames).1
  rw [size, ← prefixed] at counts
  exact absurd counts (by decide)

end Tcp

end Server

end DnsServer
