import DnsServer.Server.Handler

namespace DnsServer

open Utf8

namespace Doh

def DNS_MESSAGE_TYPE : String := "application/dns-message"

/-- The errors that a handler boxes: its own, those of the parser, and those of the libraries. -/
inductive Error (E : Type) where
  | text (message : String)
  | dns (error : DnsError)
  | library (error : E)
  deriving DecidableEq, Repr

/-- What the handlers call of other packages: `URL_SAFE_NO_PAD` and `HeaderValue::to_str`. -/
structure Engine (E : Type) where
  encode : List UInt8 → String
  decode : String → Except E (List UInt8)
  toStr : List UInt8 → Option String

inductive Method where
  | GET
  | POST
  | other (name : String)
  deriving DecidableEq, Repr

/-- What the handlers look at in a request. The body is what collecting it gives. -/
structure Request (E : Type) where
  method : Method
  path : String
  query : Option String
  contentType : Option (List UInt8)
  body : Except E (List UInt8)

inductive StatusCode where
  | OK
  | NOT_FOUND
  | UNSUPPORTED_MEDIA_TYPE
  | INTERNAL_SERVER_ERROR
  deriving DecidableEq, Repr

structure Response where
  status : StatusCode
  headers : List (String × String)
  body : List UInt8
  deriving DecidableEq, Repr

/-- `pair.splitn(2, '=')`, when it has two parts. -/
def keyValue (pair : List Char) : Option (List Char × List Char) :=
  match pair.dropWhile (· ≠ '=') with
  | _ :: value => some (pair.takeWhile (· ≠ '='), value)
  | [] => none

/-- The value of the first pair of the query string with the key `dns`. -/
def dnsParam (queryString : String) : Option String :=
  (queryString.toList.splitOn '&').findSome? fun pair =>
    match keyValue pair with
    | some (key, value) => if key = ['d', 'n', 's'] then some (String.ofList value) else none
    | none => none

/-- The reply to a query with questions, for what the resolver gave. -/
def answer (query : DnsMessage) (outcome : Except ResponseCode (List DnsRecord)) : DnsMessage :=
  let response := query.makeResponse
  match outcome with
  | .ok records => { response with answers := records, header := { response.header with responseCode := .noError } }
  | .error code => { response with header := { response.header with responseCode := code } }

section Handlers

variable {σ E : Type} (engine : Engine E)
  (resolve : DnsName → RecordType → Prog σ ResponseCode (List DnsRecord))

def processDnsQuery (queryBytes : List UInt8) : Prog σ (Error E) Response := do
  match ← Prog.rescue (Prog.lift (DnsMessage.parse queryBytes)) with
  | .error error => Prog.fail (.dns error)
  | .ok query =>
    match query.questions with
    | [] =>
      return ⟨.OK, [("content-type", DNS_MESSAGE_TYPE)], (query.makeErrorResponse .formatError).serialize⟩
    | question :: _ =>
      let outcome ← Prog.rescue (resolve question.name question.recordType)
      return ⟨.OK, [("content-type", DNS_MESSAGE_TYPE), ("cache-control", "max-age=300")],
        (answer query outcome).serialize⟩

def handleGet (request : Request E) : Prog σ (Error E) Response :=
  match dnsParam (request.query.getD "") with
  | none => Prog.fail (.text "Missing 'dns' query parameter")
  | some param =>
    match engine.decode param with
    | .ok dnsBytes => processDnsQuery resolve dnsBytes
    | .error error => Prog.fail (.library error)

def handlePost (request : Request E) : Prog σ (Error E) Response :=
  if (request.contentType.bind engine.toStr).getD "" ≠ DNS_MESSAGE_TYPE then
    return ⟨.UNSUPPORTED_MEDIA_TYPE, [], asBytes "Expected application/dns-message"⟩
  else
    match request.body with
    | .ok body => processDnsQuery resolve body
    | .error error => Prog.fail (.library error)

/-- The paths of the service. -/
def route (request : Request E) : Prog σ (Error E) Response :=
  if request.method = .GET ∧ request.path = "/dns-query" then handleGet engine resolve request
  else if request.method = .POST ∧ request.path = "/dns-query" then handlePost engine resolve request
  else if request.method = .GET ∧ request.path = "/health" then return ⟨.OK, [], asBytes "OK"⟩
  else return ⟨.NOT_FOUND, [], asBytes "Not Found"⟩

/-- An error of a handler is a response too. -/
def handleRequest (request : Request E) : Prog σ Empty Response := do
  match ← Prog.rescue (route engine resolve request) with
  | .ok response => return response
  | .error _ => return ⟨.INTERNAL_SERVER_ERROR, [], asBytes "Internal Server Error"⟩

end Handlers

/-- An empty answer is no different from one that is filled in. -/
theorem answer_eq (query : DnsMessage) (outcome : Except ResponseCode (List DnsRecord)) :
    answer query outcome = query.answer outcome := by
  rcases outcome with code | records
  · rfl
  · unfold answer DnsMessage.answer
    dsimp only
    split
    · rename_i none
      rw [List.isEmpty_iff.mp none]
      rfl
    · rfl

section Runs

variable {σ E : Type} {engine : Engine E} {resolve : DnsName → RecordType → Prog σ ResponseCode (List DnsRecord)}
  {data : List UInt8} {query : DnsMessage} {s s' : σ}

/-- The handlers of both servers come back with the same bytes. -/
theorem processDnsQuery_of_handleQuery {reply : List UInt8}
    (handled : Server.handleQuery resolve data s = (.ok reply, s')) :
    ∃ headers, (processDnsQuery resolve data : Prog σ (Error E) Response) s = (.ok ⟨.OK, headers, reply⟩, s') := by
  obtain ⟨query, middle, read, rest⟩ := Prog.bind_eq_ok.mp handled
  have accepted : DnsMessage.parse data = .ok query := congrArg Prod.fst read
  obtain rfl : s = middle := congrArg Prod.snd read
  have parsed : (Prog.rescue (Prog.lift (DnsMessage.parse data)) : Prog σ (Error E) (Except DnsError DnsMessage)) s =
      (.ok (.ok query), s) := Prog.rescue_ok (by rw [Prog.lift, accepted])
  rw [processDnsQuery, Prog.bind_ok parsed]
  dsimp only
  rcases asked : query.questions with _ | ⟨question, others⟩
  · rw [asked] at rest
    cases rest
    exact ⟨_, rfl⟩
  · rw [asked] at rest
    obtain ⟨outcome, _, resolved, replied⟩ := Prog.bind_eq_ok.mp rest
    cases replied
    refine ⟨[("content-type", DNS_MESSAGE_TYPE), ("cache-control", "max-age=300")], ?_⟩
    dsimp only
    rcases run : resolve question.name question.recordType s with ⟨records | code | _ | _, s''⟩ <;>
      rw [Prog.rescue, run] at resolved <;> cases resolved
    · rw [Prog.bind_ok (Prog.rescue_ok run), answer_eq]
      rfl
    · rw [Prog.bind_ok (Prog.rescue_err run), answer_eq]
      rfl

theorem handleRequest_of_route {request : Request E} {response : Response}
    (routed : route engine resolve request s = (.ok response, s')) :
    handleRequest engine resolve request s = (.ok response, s') := by
  rw [handleRequest, Prog.bind_ok (Prog.rescue_ok routed)]
  rfl

end Runs

end Doh

end DnsServer
