import DnsServer.Cache
import DnsServer.Dnssec.Validator
import DnsServer.Zone

namespace DnsServer

structure SocketAddr where
  ip : Ipv4Addr
  port : UInt16
  deriving DecidableEq, Repr

/-- What the resolver asks of its surroundings, whose state is `W`: sockets, random numbers and
clocks. A received payload is a `D`, and `decode` is what `DnsMessage::parse` makes of it. -/
structure Network (W D : Type) where
  decode : D → Outcome DnsError DnsMessage
  bind : W → Bool × W
  randomU16 : W → UInt16 × W
  randomUsize : W → UInt64 × W
  /-- Whether the datagram with the serialised query was sent. -/
  sendTo : DnsMessage → SocketAddr → W → Bool × W
  /-- The next datagram, or nothing after an error or a timeout. -/
  recvFrom : W → Option D × W
  connect : SocketAddr → W → Bool × W
  /-- The reply to a query over the connection, or nothing after an I/O error. -/
  exchange : DnsMessage → SocketAddr → W → Option D × W
  instant : W → Nat × W
  unixTime : W → UInt32 × W

/-- The upstream traffic and the verdicts of validation, as an observer would note them down. The code
keeps no such record. -/
inductive Event where
  | datagram (server : SocketAddr) (query : DnsMessage)
  | stream (server : SocketAddr) (query : DnsMessage)
  | accepted (server : SocketAddr) (name : DnsName) (recordType : RecordType) (response : DnsMessage)
  | validated (name : DnsName) (recordType : RecordType) (answers : List DnsRecord)
    (verdict : ValidationResult)

structure State (W : Type) where
  cache : DnsCache
  world : W
  log : List Event

structure Resolver (W D : Type) where
  network : Network W D
  zoneStore : ZoneStore
  dnssecValidator : DnssecValidator
  enableDnssec : Bool

/-- A part of the resolver, which fails with the response code for its client. -/
abbrev Resolution (W α : Type) := Prog (State W) ResponseCode α

def MAX_RECURSION_DEPTH : Nat := 32
def MAX_CNAME_CHAIN : Nat := 16
def MAX_RETRIES : Nat := 3

variable {W D : Type}

/-- One call to the surroundings. -/
def ask {α : Type} (call : W → α × W) : Resolution W α := fun s =>
  (.ok (call s.world).1, { s with world := (call s.world).2 })

def note (event : Event) : Resolution W Unit := Prog.modify fun s => { s with log := s.log ++ [event] }

theorem ask_bind {α β : Type} (call : W → α × W) (f : α → Resolution W β) (s : State W) :
    (ask call >>= f) s = f (call s.world).1 { s with world := (call s.world).2 } := rfl

namespace Resolver

variable (self : Resolver W D)

def cacheLookup (name : DnsName) (recordType : RecordType) : Resolution W (Option (List DnsRecord)) := do
  let now ← ask self.network.instant
  let later ← ask self.network.instant
  fun s => (.ok (s.cache.lookup name recordType now later).1,
    { s with cache := (s.cache.lookup name recordType now later).2 })

def cacheInsert (name : DnsName) (recordType : RecordType) (records : List DnsRecord) :
    Resolution W Unit := do
  let now ← ask self.network.instant
  Prog.modify fun s => { s with cache := s.cache.insert name recordType records now }

/-- `DnsMessage::parse` of a received payload, whose errors the callers treat in their own way. -/
def decoded (payload : D) : Resolution W (Except DnsError DnsMessage) :=
  match self.network.decode payload with
  | .ok message => pure (.ok message)
  | .err error => pure (.error error)
  | .panic => Prog.panic
  | .hang => Prog.hang

/-- `OPT` with the DO bit set. -/
def dnssecOption : DnsRecord := ⟨DnsName.root, .OPT, .Unknown 4096, 0x00008000, .OPT []⟩

def udpQuery (id : UInt16) (name : DnsName) (recordType : RecordType) : DnsMessage where
  header := { DnsHeader.newQuery id with recursionDesired := false, authenticData := self.enableDnssec }
  questions := [DnsQuestion.new name recordType]
  answers := []
  authorities := []
  additional := if self.enableDnssec then [dnssecOption] else []

def tcpQuery (id : UInt16) (name : DnsName) (recordType : RecordType) : DnsMessage where
  header := { DnsHeader.newQuery id with recursionDesired := false }
  questions := [DnsQuestion.new name recordType]
  answers := []
  authorities := []
  additional := []

/-- Neither the identifier nor the flags of the reply are looked at. -/
def queryTcp (name : DnsName) (recordType : RecordType) (server : SocketAddr) :
    Resolution W DnsMessage := do
  if ← ask (self.network.connect server) then
    let id ← ask self.network.randomU16
    let query := tcpQuery id name recordType
    note (.stream server query)
    match ← ask (self.network.exchange query server) with
    | some payload =>
      match ← self.decoded payload with
      | .ok response => return response
      | .error _ => Prog.fail .serverFailure
    | none => Prog.fail .serverFailure
  else Prog.fail .serverFailure

/-- `(i + rng.gen::<usize>()) % nameservers.len()` for each try, with the sum taken modulo 2^64 as in
the release profile. The remainder panics when there is no nameserver. -/
def offsets (count : Nat) : List Nat → Resolution W (List Nat)
  | [] => return []
  | i :: is => do
    let random ← ask self.network.randomUsize
    if count = 0 then Prog.panic
    else
      let rest ← offsets count is
      return (UInt64.ofNat i + random).toNat % count :: rest

/-- One try with one server: the response it accepts, or nothing when the next try is due. -/
def tryServer (id : UInt16) (name : DnsName) (recordType : RecordType) (server : SocketAddr) :
    Resolution W (Option DnsMessage) := do
  let query := self.udpQuery id name recordType
  note (.datagram server query)
  if ← ask (self.network.sendTo query server) then
    match ← ask self.network.recvFrom with
    | some payload =>
      match ← self.decoded payload with
      | .ok response =>
        if response.header.id = id then
          if response.header.truncated then
            match ← Prog.attempt (self.queryTcp name recordType server) with
            | .ok tcpResponse => return some tcpResponse
            | .error _ => return some response
          else return some response
        else return none
      | .error _ => return none
    | none => return none
  else return none

/-- The retry loop over the chosen indices. -/
def tryServers (id : UInt16) (name : DnsName) (recordType : RecordType) (nameservers : List SocketAddr) :
    List Nat → Resolution W DnsMessage
  | [] => Prog.fail .serverFailure
  | i :: is =>
    match nameservers[i]? with
    | some server => do
      match ← self.tryServer id name recordType server with
      | some response =>
        note (.accepted server name recordType response)
        return response
      | none => tryServers id name recordType nameservers is
    | none => Prog.panic

def queryNameservers (name : DnsName) (recordType : RecordType) (nameservers : List SocketAddr) :
    Resolution W DnsMessage := do
  if ← ask self.network.bind then
    let id ← ask self.network.randomU16
    let indices ← self.offsets nameservers.length (List.range MAX_RETRIES)
    self.tryServers id name recordType nameservers indices
  else Prog.fail .serverFailure

/-- The calls that one try consists of keep a property of the state. -/
structure Undisturbed (resolver : Resolver W D) (J : State W → Prop) : Prop where
  datagram : ∀ server query, Prog.Keeps J (note (.datagram server query) : Resolution W Unit)
  sendTo : ∀ query server, Prog.Keeps J (ask (resolver.network.sendTo query server))
  recvFrom : Prog.Keeps J (ask resolver.network.recvFrom)
  connect : ∀ server, Prog.Keeps J (ask (resolver.network.connect server))
  randomU16 : Prog.Keeps J (ask resolver.network.randomU16)
  stream : ∀ server query, Prog.Keeps J (note (.stream server query) : Resolution W Unit)
  exchange : ∀ query server, Prog.Keeps J (ask (resolver.network.exchange query server))

section Undisturbed

variable {self} {J : State W → Prop}

theorem decoded_keeps (payload : D) : Prog.Keeps J (self.decoded payload) := by
  unfold decoded
  split <;> exact fun _ same => same

variable (undisturbed : self.Undisturbed J)

include undisturbed

theorem queryTcp_keeps (name : DnsName) (recordType : RecordType) (server : SocketAddr) :
    Prog.Keeps J (self.queryTcp name recordType server) := by
  refine .bind (undisturbed.connect server) fun connected => ?_
  cases connected with
  | false => exact fun _ same => same
  | true =>
    refine .bind undisturbed.randomU16 fun id => ?_
    refine .bind (undisturbed.stream server _) fun _ => ?_
    refine .bind (undisturbed.exchange _ server) fun reply => ?_
    cases reply with
    | none => exact fun _ same => same
    | some payload =>
      refine .bind (decoded_keeps payload) fun message => ?_
      cases message <;> exact fun _ same => same

/-- A try accepts nothing by itself, so that it keeps what its calls keep. -/
theorem tryServer_keeps (id : UInt16) (name : DnsName) (recordType : RecordType) (server : SocketAddr) :
    Prog.Keeps J (self.tryServer id name recordType server) := by
  refine .bind (undisturbed.datagram server _) fun _ => ?_
  refine .bind (undisturbed.sendTo _ server) fun sent => ?_
  cases sent with
  | false => exact fun _ same => same
  | true =>
    refine .bind undisturbed.recvFrom fun reply => ?_
    cases reply with
    | none => exact fun _ same => same
    | some payload =>
      refine .bind (decoded_keeps payload) fun message => ?_
      cases message with
      | error _ => exact fun _ same => same
      | ok response =>
        dsimp only
        split
        · split
          · refine .bind (queryTcp_keeps undisturbed name recordType server).attempt fun caught => ?_
            cases caught <;> exact fun _ same => same
          · exact fun _ same => same
        · exact fun _ same => same

end Undisturbed

end Resolver

end DnsServer
