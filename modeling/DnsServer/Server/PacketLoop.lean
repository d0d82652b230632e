import DnsServer.Lib.PacketNetwork
import DnsServer.Server.Echo

namespace DnsServer

open PacketNetwork

namespace Server

variable {σ : Type} {resolve : DnsName → RecordType → Prog σ ResponseCode (List DnsRecord)}
  {data : List UInt8} {s s' : σ}

/-- Every reply of the handler says that it is one. -/
theorem handleQuery_marks {reply : List UInt8} (handled : handleQuery resolve data s = (.ok reply, s')) :
    qrBit reply := by
  obtain ⟨query, _, _, rest⟩ := Prog.bind_eq_ok.mp handled
  rcases asked : query.questions with _ | ⟨question, others⟩
  · rw [asked] at rest
    cases rest
    exact qrBit_serialize (query.makeErrorResponse .formatError)
  · rw [asked] at rest
    obtain ⟨outcome, _, _, replied⟩ := Prog.bind_eq_ok.mp rest
    cases replied
    exact (qrBit_serialize _).trans (query.answer_keeps outcome).2.1

/-- Truncation keeps the mark. -/
theorem serveUdp_marks {sent : List UInt8} (served : serveUdp resolve data s = (.ok (some sent), s')) :
    qrBit sent := by
  obtain ⟨caught, s₁, attempted, rest⟩ := Prog.bind_eq_ok.mp served
  rcases Prog.attempt_eq_ok.mp attempted with ⟨reply, rfl, handled⟩ | ⟨_, rfl, _⟩
  · have marked := handleQuery_marks handled
    dsimp only at rest
    split at rest
    · obtain ⟨caught, _, again, back⟩ := Prog.bind_eq_ok.mp rest
      rcases Prog.attempt_eq_ok.mp again with ⟨response, rfl, parsed⟩ | ⟨_, rfl, _⟩ <;> cases back
      have accepted : DnsMessage.parse reply = .ok response := congrArg Prod.fst parsed
      exact (qrBit_serialize _).trans ((DnsMessage.parse_isResponse accepted).trans marked)
    · cases rest
      exact marked
  · cases rest

/-- `vec![0u8; 4096]`: what a datagram holds beyond is not received. -/
def BUFFER_SIZE : Nat := 4096

/-- The task for a received payload sends the reply, for some behaviour of the resolver. -/
def Sends (payload reply : List UInt8) : Prop :=
  ∃ (resolve : DnsName → RecordType → Prog Unit ResponseCode (List DnsRecord)),
    serveUdp resolve (payload.take BUFFER_SIZE) () = (.ok (some reply), ())

/-- The resolver with the same outcome, and no state. -/
def outcomeOf (resolve : DnsName → RecordType → Prog σ ResponseCode (List DnsRecord)) (s : σ)
    (name : DnsName) (recordType : RecordType) : Prog Unit ResponseCode (List DnsRecord) :=
  Prog.lift (resolve name recordType s).1

theorem handleQuery_outcomeOf :
    handleQuery (outcomeOf resolve s) data () = ((handleQuery resolve data s).1, ()) := by
  unfold handleQuery
  rcases read : DnsMessage.parse data with query | error | _ | _
  · have lifted : (Prog.lift (.ok query) : Prog σ DnsError DnsMessage) s = (.ok query, s) := rfl
    have lifted' : (Prog.lift (.ok query) : Prog Unit DnsError DnsMessage) () = (.ok query, ()) := rfl
    rw [Prog.bind_ok lifted, Prog.bind_ok lifted']
    rcases query.questions with _ | ⟨question, rest⟩
    · rfl
    · dsimp only
      rw [Prog.bind_apply, Prog.bind_apply, Prog.rescue, Prog.rescue, outcomeOf, Prog.lift]
      rcases resolve question.name question.recordType s with ⟨records | code | _ | _, s''⟩ <;> rfl
  · rfl
  · rfl
  · rfl

/-- What the task for a payload sends does not depend on more than the outcome of the resolver. -/
theorem sends_of_serveUdp {payload reply : List UInt8}
    (served : serveUdp resolve (payload.take BUFFER_SIZE) s = (.ok (some reply), s')) : Sends payload reply := by
  refine ⟨outcomeOf resolve s, ?_⟩
  obtain ⟨caught, s₁, attempted, rest⟩ := Prog.bind_eq_ok.mp served
  rcases Prog.attempt_eq_ok.mp attempted with ⟨bytes, rfl, handled⟩ | ⟨_, rfl, _⟩
  · have handled' : handleQuery (outcomeOf resolve s) (payload.take BUFFER_SIZE) () = (.ok bytes, ()) := by
      rw [handleQuery_outcomeOf, handled]
    dsimp only at rest
    by_cases long : bytes.length > UDP_LIMIT
    · rw [if_pos long] at rest
      rw [serveUdp_long handled' long]
      obtain ⟨caught, _, again, back⟩ := Prog.bind_eq_ok.mp rest
      rcases Prog.attempt_eq_ok.mp again with ⟨response, rfl, parsed⟩ | ⟨_, rfl, _⟩ <;> cases back
      have accepted : DnsMessage.parse bytes = .ok response := congrArg Prod.fst parsed
      rw [accepted]
    · rw [if_neg long] at rest
      cases rest
      exact serveUdp_short handled' (by omega)
  · cases rest

theorem qrBit_of_sends {payload reply : List UInt8} (sends : Sends payload reply) : qrBit reply :=
  serveUdp_marks sends.choose_spec

section Accepted

variable {payload : List UInt8} {message : DnsMessage}

/-- What the parser rejects is not answered. -/
theorem accepted_of_answerable (answerable : Answerable Sends payload) :
    ∃ message, DnsMessage.parse (payload.take BUFFER_SIZE) = .ok message := by
  obtain ⟨_, resolve, served⟩ := answerable
  obtain ⟨caught, _, attempted, rest⟩ := Prog.bind_eq_ok.mp served
  rcases Prog.attempt_eq_ok.mp attempted with ⟨_, rfl, handled⟩ | ⟨_, rfl, _⟩
  · obtain ⟨message, accepted, _⟩ := handleQuery_ok handled
    exact ⟨message, accepted⟩
  · cases rest

/-- What the parser rejects is harmless, and so is a query that comes from elsewhere. -/
theorem harmless_of_query {A : Type} {isInstance : A → Prop} {datagram : Datagram A (List UInt8)}
    (query : isInstance datagram.destination →
      (∃ message, DnsMessage.parse (datagram.payload.take BUFFER_SIZE) = .ok message) →
      ¬qrBit datagram.payload ∧ ¬isInstance datagram.source) :
    Harmless isInstance Sends (fun payload => qrBit payload = true) datagram := by
  rintro ⟨here, answerable⟩
  obtain ⟨unmarked, elsewhere⟩ := query here (accepted_of_answerable answerable)
  exact ⟨unmarked, fun _ _ live => elsewhere live.1⟩

/-- A server that cannot resolve anything still repeats the questions, and a long reply is cut to them. -/
theorem sends_echo (accepted : DnsMessage.parse (payload.take BUFFER_SIZE) = .ok message)
    (labels : message.QuestionsFit) : ∃ reply, Sends payload reply.serialize ∧ message.Replies [] reply := by
  have returns : ∀ question ∈ message.questions.head?,
      (failing question.name question.recordType ()).1.Returns := fun _ _ => trivial
  obtain ⟨reply, ⟨⟩, handled, replies⟩ := handleQuery_answers accepted returns
  have none : answersTo failing message () = [] := by
    unfold answersTo
    cases message.questions <;> rfl
  rw [none] at replies
  rcases Nat.lt_or_ge UDP_LIMIT reply.serialize.length with long | short
  · obtain ⟨few, asked⟩ := labels.readable accepted
    obtain ⟨again, parsed, same⟩ := replies.reparsed few asked
    have served := serveUdp_long handled long
    rw [parsed] at served
    exact ⟨again.truncate, ⟨failing, served⟩, same, rfl, rfl, rfl⟩
  · exact ⟨reply, ⟨failing, serveUdp_short handled short⟩, replies⟩

/-- A payload is answered for some behaviour of the resolver exactly when the parser accepts it. -/
theorem answerable_iff
    (labels : ∀ message, DnsMessage.parse (payload.take BUFFER_SIZE) = .ok message → message.QuestionsFit) :
    Answerable Sends payload ↔ ∃ message, DnsMessage.parse (payload.take BUFFER_SIZE) = .ok message := by
  refine ⟨accepted_of_answerable, ?_⟩
  rintro ⟨message, accepted⟩
  obtain ⟨reply, sends, _⟩ := sends_echo accepted (labels message accepted)
  exact ⟨reply.serialize, sends⟩

/-- A datagram is harmless exactly when an instance that gets it and accepts it finds a query in it, and
no instance for its source, provided that the questions can be repeated in one datagram. -/
theorem harmless_iff {A : Type} {isInstance : A → Prop} {datagram : Datagram A (List UInt8)}
    (readable : ∀ message, DnsMessage.parse (datagram.payload.take BUFFER_SIZE) = .ok message →
      message.QuestionsFit ∧ 12 + message.questionBytes ≤ BUFFER_SIZE) :
    Harmless isInstance Sends (fun payload => qrBit payload = true) datagram ↔
      (isInstance datagram.destination →
        (∃ message, DnsMessage.parse (datagram.payload.take BUFFER_SIZE) = .ok message) →
        ¬qrBit datagram.payload ∧ ¬isInstance datagram.source) := by
  refine ⟨?_, harmless_of_query⟩
  rintro harmless here ⟨message, accepted⟩
  obtain ⟨labels, short⟩ := readable message accepted
  obtain ⟨reply, sends, replies⟩ := sends_echo accepted labels
  obtain ⟨unmarked, dead⟩ := harmless ⟨here, reply.serialize, sends⟩
  refine ⟨unmarked, fun source => dead reply.serialize sends ⟨source, ?_⟩⟩
  -- the reply has the questions of the query, so that the source accepts it as a query of its own
  obtain ⟨few, asked⟩ := labels.readable accepted
  obtain ⟨again, parsed, same⟩ := replies.reparsed few asked
  have whole : reply.serialize.take BUFFER_SIZE = reply.serialize := by
    refine List.take_of_length_le ?_
    rw [replies.length]
    exact short
  rw [← whole] at parsed
  obtain ⟨_, sends', _⟩ := sends_echo parsed (by rwa [DnsMessage.QuestionsFit, same])
  exact ⟨_, sends'⟩

end Accepted

/-- However the instances and their datagrams interleave, no reply is sent to a reply and there are no
more replies than injected datagrams, exactly when each injected datagram that an instance answers is
marked as a query, and names no instance as its source that answers the reply. -/
theorem udp_quiet_iff {A : Type} (isInstance : A → Prop) (injected : List (Datagram A (List UInt8))) :
    (∀ net, Reaches isInstance Sends injected net → Quiet (fun payload => qrBit payload = true) injected net) ↔
      ∀ datagram ∈ injected, Harmless isInstance Sends (fun payload => qrBit payload = true) datagram :=
  quiet_iff fun _ _ sends => qrBit_of_sends sends

/-- The reply of a server that cannot resolve the query, and its reply to this reply. -/
def failedReply : DnsMessage := rootQuery.answer (.error .serverFailure)

theorem sends_rootQuery : Sends rootQuery.serialize failedReply.serialize := by
  have handled : handleQuery failing (rootQuery.serialize.take BUFFER_SIZE) () = (.ok failedReply.serialize, ()) :=
    handleQuery_asked parse_rootQuery rfl (Prog.rescue_err rfl)
  exact ⟨failing, serveUdp_short handled (by decide +kernel)⟩

theorem sends_failedReply : Sends failedReply.serialize failedReply.serialize := by
  have accepted : DnsMessage.parse (failedReply.serialize.take BUFFER_SIZE) = .ok failedReply := by decide +kernel
  have handled : handleQuery failing (failedReply.serialize.take BUFFER_SIZE) () =
      (.ok (failedReply.answer (.error .serverFailure)).serialize, ()) :=
    handleQuery_asked accepted rfl (Prog.rescue_err rfl)
  exact ⟨failing, serveUdp_short handled (by decide +kernel)⟩

/-- A query that one of two instances gets, with the other as its source. -/
def forgedDatagram : Datagram Bool (List UInt8) := ⟨true, false, rootQuery.serialize⟩

/-- The two instances answer each other for as long as one likes. -/
theorem udp_loops : ∀ count, ∃ net, Reaches (fun _ => True) Sends [forgedDatagram] net ∧
    net.answered.length = count + 1 ∧ (0 < count → ∃ entry ∈ net.answered, qrBit entry.1.payload) := by
  intro count
  have sent : ∃ source entries, Reaches (fun _ => True) Sends [forgedDatagram]
      ⟨[⟨source, !source, failedReply.serialize⟩], [], entries⟩ ∧ entries.length = count + 1 ∧
        (0 < count → ∃ entry ∈ entries, qrBit entry.1.payload) := by
    induction count with
    | zero =>
      have sends : Sends forgedDatagram.payload failedReply.serialize := sends_rootQuery
      have injected : Reaches (fun _ => True) Sends [forgedDatagram] ⟨[] ++ forgedDatagram :: [], [], []⟩ := .start
      exact ⟨false, _, injected.answered [] [] trivial sends, rfl, fun none => absurd none (Nat.lt_irrefl 0)⟩
    | succ count ih =>
      obtain ⟨source, entries, reaches, length, _⟩ := ih
      have again := Reaches.answered [] [] reaches trivial sends_failedReply
      rw [Datagram.answer] at again
      refine ⟨!source, (⟨source, !source, failedReply.serialize⟩, failedReply.serialize) :: entries, ?_,
        congrArg Nat.succ length, fun _ => ⟨_, List.mem_cons_self, ?_⟩⟩
      · rw [Bool.not_not]
        exact again
      · exact qrBit_of_sends sends_rootQuery
  obtain ⟨_, _, reaches, answered⟩ := sent
  exact ⟨_, reaches, answered⟩

/-- One forged query is too much for two instances. -/
theorem udp_forgedDatagram_unquiet : ¬∀ net, Reaches (fun _ => True) Sends [forgedDatagram] net →
    Quiet (fun payload => qrBit payload) [forgedDatagram] net := by
  intro quiet
  obtain ⟨net, reaches, twice, _⟩ := udp_loops 1
  have few := (quiet net reaches).few
  rw [twice, List.length_singleton] at few
  exact absurd few (by decide)

end Server

end DnsServer
