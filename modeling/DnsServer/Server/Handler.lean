import DnsServer.Dns.Message

namespace DnsServer

namespace DnsMessage

/-- The reply to a query with questions, for what the resolver gave. -/
def answer (query : DnsMessage) (outcome : Except ResponseCode (List DnsRecord)) : DnsMessage :=
  let response := query.makeResponse
  match outcome with
  | .ok records =>
    if records.isEmpty then { response with header := { response.header with responseCode := .noError } }
    else
      { response with header := { response.header with responseCode := .noError }, answers := records }
  | .error code => { response with header := { response.header with responseCode := code } }

/-- `header.truncated = true`, and the three record sections emptied. -/
def truncate (response : DnsMessage) : DnsMessage :=
  { response with
    header := { response.header with truncated := true }
    answers := []
    authorities := []
    additional := [] }

end DnsMessage

namespace Server

variable {σ : Type} (resolve : DnsName → RecordType → Prog σ ResponseCode (List DnsRecord))

/-- Only the first question is resolved; a query without questions is a format error. -/
def handleQuery (data : List UInt8) : Prog σ DnsError (List UInt8) := do
  let query ← Prog.lift (DnsMessage.parse data)
  match query.questions with
  | [] => return (query.makeErrorResponse .formatError).serialize
  | question :: _ =>
    let outcome ← Prog.rescue (resolve question.name question.recordType)
    return (query.answer outcome).serialize

def UDP_LIMIT : Nat := 512

/-- The task of `run_udp` for one datagram: what it hands to `send_to`, if anything. -/
def serveUdp (data : List UInt8) : Prog σ DnsError (Option (List UInt8)) := do
  match ← Prog.attempt (handleQuery resolve data) with
  | .ok responseBytes =>
    if responseBytes.length > UDP_LIMIT then
      match ← Prog.attempt (Prog.lift (DnsMessage.parse responseBytes)) with
      | .ok response => return some response.truncate.serialize
      | .error _ => return none
    else return some responseBytes
  | .error _ => return none

/-- The task of `run_tcp` for one connection, with all that the client sends: what it hands to
`write_all`, one element a call. -/
def serveTcp (received : List UInt8) : Prog σ DnsError (List (List UInt8)) :=
  match received with
  | high :: low :: rest =>
    let msgLen := (Bytes.fromBe16 high low).toNat
    if msgLen > 65535 then return []
    else if rest.length < msgLen then return []
    else do
      match ← Prog.attempt (handleQuery resolve (rest.take msgLen)) with
      | .ok responseBytes =>
        return [Bytes.toBe16 (UInt16.ofNat responseBytes.length), responseBytes]
      | .error _ => return []
  | _ => return []

variable {resolve} {data : List UInt8} {query : DnsMessage} {s : σ}

/-- The records that the reply gives to a query, once the resolver has come back in the state. -/
def answersTo (resolve : DnsName → RecordType → Prog σ ResponseCode (List DnsRecord))
    (query : DnsMessage) (s : σ) : List DnsRecord :=
  match query.questions with
  | [] => []
  | question :: _ =>
    match (resolve question.name question.recordType s).1 with
    | .ok records => records
    | _ => []

theorem handleQuery_bare (accepted : DnsMessage.parse data = .ok query) (bare : query.questions = []) :
    handleQuery resolve data s = (.ok (query.makeErrorResponse .formatError).serialize, s) := by
  have read : (Prog.lift (DnsMessage.parse data) : Prog σ DnsError DnsMessage) s = (.ok query, s) := by
    rw [Prog.lift, accepted]
  rw [handleQuery, Prog.bind_ok read, bare]
  rfl

theorem handleQuery_asked {question : DnsQuestion} {rest : List DnsQuestion}
    {outcome : Except ResponseCode (List DnsRecord)} {s' : σ}
    (accepted : DnsMessage.parse data = .ok query) (asked : query.questions = question :: rest)
    (resolved : (Prog.rescue (resolve question.name question.recordType) : Prog σ DnsError _) s =
      (.ok outcome, s')) :
    handleQuery resolve data s = (.ok (query.answer outcome).serialize, s') := by
  have read : (Prog.lift (DnsMessage.parse data) : Prog σ DnsError DnsMessage) s = (.ok query, s) := by
    rw [Prog.lift, accepted]
  rw [handleQuery, Prog.bind_ok read, asked]
  dsimp only
  rw [Prog.bind_ok resolved]
  rfl

end Server

end DnsServer
