import DnsServer.Doh.Service
import DnsServer.Resolver.Provenance

/-! The tasks that the listeners spawn: one for a datagram, one for a connection, one for an HTTP request. -/

namespace DnsServer

namespace Task

abbrev ServerTask (ε α : Type) := Process Call (Call.Answer (List UInt8)) ε α

variable {E : Type} (engine : Doh.Engine E)
  (resolve : DnsName → RecordType → ServerTask ResponseCode (List DnsRecord))

def handleQuery (data : List UInt8) : ServerTask DnsError (List UInt8) := do
  let query ← Process.lift (DnsMessage.parse data)
  match query.questions with
  | [] => return (query.makeErrorResponse .formatError).serialize
  | question :: _ =>
    let outcome ← Process.rescue (resolve question.name question.recordType)
    return (query.answer outcome).serialize

def serveUdp (data : List UInt8) : ServerTask DnsError (Option (List UInt8)) := do
  match ← Process.attempt (handleQuery resolve data) with
  | .ok responseBytes =>
    if responseBytes.length > Server.UDP_LIMIT then
      match ← Process.attempt (Process.lift (DnsMessage.parse responseBytes)) with
      | .ok response => return some response.truncate.serialize
      | .error _ => return none
    else return some responseBytes
  | .error _ => return none

def serveTcp (received : List UInt8) : ServerTask DnsError (List (List UInt8)) :=
  match received with
  | high :: low :: rest =>
    let msgLen := (Bytes.fromBe16 high low).toNat
    if msgLen > 65535 then return []
    else if rest.length < msgLen then return []
    else do
      match ← Process.attempt (handleQuery resolve (rest.take msgLen)) with
      | .ok responseBytes =>
        return [Bytes.toBe16 (UInt16.ofNat responseBytes.length), responseBytes]
      | .error _ => return []
  | _ => return []

def processDnsQuery (queryBytes : List UInt8) : ServerTask (Doh.Error E) Doh.Response := do
  match ← Process.rescue (Process.lift (DnsMessage.parse queryBytes)) with
  | .error error => Process.fail (.dns error)
  | .ok query =>
    match query.questions with
    | [] =>
      return ⟨.OK, [("content-type", Doh.DNS_MESSAGE_TYPE)],
        (query.makeErrorResponse .formatError).serialize⟩
    | question :: _ =>
      let outcome ← Process.rescue (resolve question.name question.recordType)
      return ⟨.OK, [("content-type", Doh.DNS_MESSAGE_TYPE), ("cache-control", "max-age=300")],
        (Doh.answer query outcome).serialize⟩

def handleGet (request : Doh.Request E) : ServerTask (Doh.Error E) Doh.Response :=
  match Doh.dnsParam (request.query.getD "") with
  | none => Process.fail (.text "Missing 'dns' query parameter")
  | some param =>
    match engine.decode param with
    | .ok dnsBytes => processDnsQuery resolve dnsBytes
    | .error error => Process.fail (.library error)

def handlePost (request : Doh.Request E) : ServerTask (Doh.Error E) Doh.Response :=
  if (request.contentType.bind engine.toStr).getD "" ≠ Doh.DNS_MESSAGE_TYPE then
    return ⟨.UNSUPPORTED_MEDIA_TYPE, [], Utf8.asBytes "Expected application/dns-message"⟩
  else
    match request.body with
    | .ok body => processDnsQuery resolve body
    | .error error => Process.fail (.library error)

def route (request : Doh.Request E) : ServerTask (Doh.Error E) Doh.Response :=
  if request.method = .GET ∧ request.path = "/dns-query" then handleGet engine resolve request
  else if request.method = .POST ∧ request.path = "/dns-query" then handlePost engine resolve request
  else if request.method = .GET ∧ request.path = "/health" then return ⟨.OK, [], Utf8.asBytes "OK"⟩
  else return ⟨.NOT_FOUND, [], Utf8.asBytes "Not Found"⟩

def handleRequest (request : Doh.Request E) : ServerTask Empty Doh.Response := do
  match ← Process.rescue (route engine resolve request) with
  | .ok response => return response
  | .error _ => return ⟨.INTERNAL_SERVER_ERROR, [], Utf8.asBytes "Internal Server Error"⟩

end Task

end DnsServer
