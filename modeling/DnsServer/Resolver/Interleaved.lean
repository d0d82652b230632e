import DnsServer.Lib.Process
import DnsServer.Resolver.Resolve

/-! The resolver as the tasks of the server run it: all of them at once, over one cache. What one
statement does with the cache, a socket, a clock or a random number is one call. -/

namespace DnsServer

/-- The calls of a task. An insertion reads the clock before it takes the lock of the cache. -/
inductive Call where
  | cacheLookup (name : DnsName) (recordType : RecordType)
  | cachePut (name : DnsName) (recordType : RecordType) (records : List DnsRecord) (now : Nat)
  | instant
  | unixTime
  | bind
  | randomU16
  | randomUsize
  | sendTo (query : DnsMessage) (server : SocketAddr)
  | recvFrom
  | connect (server : SocketAddr)
  | exchange (query : DnsMessage) (server : SocketAddr)
  | note (event : Event)

/-- What a call gives back. A received payload is a `D`. -/
abbrev Call.Answer (D : Type) : Call → Type
  | .cacheLookup _ _ => Option (List DnsRecord)
  | .cachePut _ _ _ _ => Unit
  | .instant => Nat
  | .unixTime => UInt32
  | .bind => Bool
  | .randomU16 => UInt16
  | .randomUsize => UInt64
  | .sendTo _ _ => Bool
  | .recvFrom => Option D
  | .connect _ => Bool
  | .exchange _ _ => Option D
  | .note _ => Unit

/-- What the tasks share of the resolver and never change. -/
structure SharedResolver (D : Type) where
  decode : D → Outcome DnsError DnsMessage
  zoneStore : ZoneStore
  dnssecValidator : DnssecValidator
  enableDnssec : Bool

/-- A part of the resolver inside a task. -/
abbrev Tasked (D α : Type) := Process Call (Call.Answer D) ResponseCode α

namespace SharedResolver

variable {D : Type} (self : SharedResolver D)

def perform (c : Call) : Tasked D (c.Answer D) := Process.perform c

def cacheLookup (name : DnsName) (recordType : RecordType) : Tasked D (Option (List DnsRecord)) :=
  perform (.cacheLookup name recordType)

def cacheInsert (name : DnsName) (recordType : RecordType) (records : List DnsRecord) : Tasked D Unit := do
  let now ← perform .instant
  perform (.cachePut name recordType records now)

def decoded (payload : D) : Tasked D (Except DnsError DnsMessage) :=
  match self.decode payload with
  | .ok message => pure (.ok message)
  | .err error => pure (.error error)
  | .panic => Process.panic
  | .hang => Process.hang

def udpQuery (id : UInt16) (name : DnsName) (recordType : RecordType) : DnsMessage where
  header := { DnsHeader.newQuery id with recursionDesired := false, authenticData := self.enableDnssec }
  questions := [DnsQuestion.new name recordType]
  answers := []
  authorities := []
  additional := if self.enableDnssec then [Resolver.dnssecOption] else []

def queryTcp (name : DnsName) (recordType : RecordType) (server : SocketAddr) : Tasked D DnsMessage := do
  if ← perform (.connect server) then
    let id ← perform .randomU16
    let query := Resolver.tcpQuery id name recordType
    perform (.note (.stream server query))
    match ← perform (.exchange query server) with
    | some payload =>
      match ← self.decoded payload with
      | .ok response => return response
      | .error _ => Process.fail .serverFailure
    | none => Process.fail .serverFailure
  else Process.fail .serverFailure

def offsets (count : Nat) : List Nat → Tasked D (List Nat)
  | [] => return []
  | i :: is => do
    let random ← perform .randomUsize
    if count = 0 then Process.panic
    else
      let rest ← offsets count is
      return (UInt64.ofNat i + random).toNat % count :: rest

def tryServer (id : UInt16) (name : DnsName) (recordType : RecordType) (server : SocketAddr) :
    Tasked D (Option DnsMessage) := do
  let query := self.udpQuery id name recordType
  perform (.note (.datagram server query))
  if ← perform (.sendTo query server) then
    match ← perform .recvFrom with
    | some payload =>
      match ← self.decoded payload with
      | .ok response =>
        if response.header.id = id then
          if response.header.truncated then
            match ← Process.attempt (self.queryTcp name recordType server) with
            | .ok tcpResponse => return some tcpResponse
            | .error _ => return some response
          else return some response
        else return none
      | .error _ => return none
    | none => return none
  else return none

def tryServers (id : UInt16) (name : DnsName) (recordType : RecordType) (nameservers : List SocketAddr) :
    List Nat → Tasked D DnsMessage
  | [] => Process.fail .serverFailure
  | i :: is =>
    match nameservers[i]? with
    | some server => do
      match ← self.tryServer id name recordType server with
      | some response =>
        perform (.note (.accepted server name recordType response))
        return response
      | none => tryServers id name recordType nameservers is
    | none => Process.panic

def queryNameservers (name : DnsName) (recordType : RecordType) (nameservers : List SocketAddr) :
    Tasked D DnsMessage := do
  if ← perform .bind then
    let id ← perform .randomU16
    let indices ← offsets nameservers.length (List.range MAX_RETRIES)
    self.tryServers id name recordType nameservers indices
  else Process.fail .serverFailure

def validateAnswers (name : DnsName) (recordType : RecordType) (response : DnsMessage) : Tasked D Unit :=
  if self.enableDnssec then do
    let now ← perform .unixTime
    let validation := self.dnssecValidator.validateResponse now response.allRecords name recordType
    perform (.note (.validated name recordType response.answers validation))
    if validation = .Bogus then Process.fail .serverFailure
    else return ()
  else return ()

def cacheAnswers (name : DnsName) (recordType : RecordType) (response : DnsMessage) :
    Tasked D Absorbed :=
  if ¬(response.typedAnswers recordType).isEmpty then do
    cacheInsert name recordType (response.typedAnswers recordType)
    return .answers (response.typedAnswers recordType)
  else if ¬(response.aliasAnswers recordType).isEmpty then do
    cacheInsert name .CNAME (response.aliasAnswers recordType)
    return .aliases (response.aliasAnswers recordType)
  else return .answers []

def processAnswers (name : DnsName) (recordType : RecordType) (response : DnsMessage) :
    Tasked D Absorbed := do
  self.validateAnswers name recordType response
  cacheAnswers name recordType response

def cacheEach {α : Type} (recordType : RecordType) (pick : DnsRecord → Option α) :
    List DnsRecord → Tasked D (List α)
  | [] => return []
  | record :: records =>
    match pick record with
    | some found => do
      cacheInsert record.name recordType [record]
      let rest ← cacheEach recordType pick records
      return found :: rest
    | none => cacheEach recordType pick records

def absorb (name : DnsName) (recordType : RecordType) (response : DnsMessage) : Tasked D Absorbed :=
  if response.header.responseCode = .nameError then Process.fail .nameError
  else if ¬response.answers.isEmpty then self.processAnswers name recordType response
  else do
    let newNsNames ← cacheEach .NS DnsRecord.nsTarget response.authorities
    let glueAddrs ← cacheEach .A (fun record => record.glueFor newNsNames) response.additional
    return .referral newNsNames glueAddrs

section Recursion

variable (rec : DnsName → RecordType → Tasked D (List DnsRecord))

def nsAddress (nsName : DnsName) : Tasked D (List SocketAddr) := do
  match ← cacheLookup nsName .A with
  | some cached => return addressesOf cached
  | none =>
    match ← Process.attempt (rec nsName .A) with
    | .ok records => return addressesOf records
    | .error _ => return []

def nsAddresses : List DnsName → Tasked D (List SocketAddr)
  | [] => return []
  | nsName :: nsNames => do
    let found ← nsAddress rec nsName
    if found.isEmpty then nsAddresses nsNames else return found

def chainRounds (targetType : RecordType) : Nat → List DnsRecord → DnsName → Tasked D (List DnsRecord)
  | 0, chain, _ => return chain
  | rounds + 1, chain, currentName => do
    let records ← rec currentName targetType
    if ¬records.isEmpty then return chain ++ records
    else
      match ← Process.attempt (rec currentName .CNAME) with
      | .ok cnameRecords =>
        let extended := Resolver.extendChain chain currentName cnameRecords
        chainRounds targetType rounds extended.1 extended.2
      | .error _ => return chain

def followCnameChain (cnames : List DnsRecord) (targetType : RecordType) : Tasked D (List DnsRecord) :=
  match cnames.getLast? with
  | some record =>
    match record.rdata with
    | .CNAME name => chainRounds rec targetType MAX_CNAME_CHAIN cnames name
    | _ => Process.fail .serverFailure
  | none => Process.fail .serverFailure

def followReferral (walk : Walk) (hasSoa : Bool) (newNsNames : List DnsName)
    (glueAddrs : List SocketAddr) : Tasked D (Walk ⊕ List DnsRecord) :=
  if newNsNames.isEmpty then
    if hasSoa then return .inr [] else Process.fail .serverFailure
  else if newNsNames = walk.lastNsNames then Process.fail .serverFailure
  else if ¬glueAddrs.isEmpty then return .inl ⟨glueAddrs, newNsNames⟩
  else do
    let resolvedAddrs ← nsAddresses rec newNsNames
    if resolvedAddrs.isEmpty then Process.fail .serverFailure
    else return .inl ⟨resolvedAddrs, newNsNames⟩

def continueWith (recordType : RecordType) (walk : Walk) (hasSoa : Bool) :
    Absorbed → Tasked D (Walk ⊕ List DnsRecord)
  | .answers result => return .inr result
  | .aliases cnames => do
    let result ← followCnameChain rec cnames recordType
    return .inr result
  | .referral newNsNames glueAddrs => followReferral rec walk hasSoa newNsNames glueAddrs

def referralStep (name : DnsName) (recordType : RecordType) (walk : Walk) :
    Tasked D (Walk ⊕ List DnsRecord) := do
  let response ← self.queryNameservers name recordType walk.nameservers
  let absorbed ← self.absorb name recordType response
  continueWith rec recordType walk response.hasSoa absorbed

end Recursion

/-- The loop runs on `fuel`. Every part of a run that is finite has enough of it. -/
def resolveRecursive (fuel : Nat) (name : DnsName) (recordType : RecordType) (depth : Nat) :
    Tasked D (List DnsRecord) :=
  if depth > MAX_RECURSION_DEPTH then Process.fail .serverFailure
  else
    Process.loop
      (self.referralStep (fun name recordType => resolveRecursive fuel name recordType (depth + 1))
        name recordType)
      fuel ⟨rootServers, []⟩
termination_by MAX_RECURSION_DEPTH + 1 - depth

def resolveUpstream (fuel : Nat) (name : DnsName) (recordType : RecordType) : Tasked D (List DnsRecord) := do
  match ← cacheLookup name recordType with
  | some records => return records
  | none =>
    if recordType ≠ .CNAME then
      match ← cacheLookup name .CNAME with
      | some cnames =>
        followCnameChain (fun name recordType => self.resolveRecursive fuel name recordType 1) cnames
          recordType
      | none => self.resolveRecursive fuel name recordType 0
    else self.resolveRecursive fuel name recordType 0

def resolve (fuel : Nat) (name : DnsName) (recordType : RecordType) : Tasked D (List DnsRecord) :=
  match self.zoneStore.zoneResult name recordType with
  | .found records => return records
  | .followCname cnames =>
    followCnameChain (fun name recordType => self.resolveRecursive fuel name recordType 1) cnames
      recordType
  | .noData => return []
  | .notFound => self.resolveUpstream fuel name recordType

end SharedResolver

end DnsServer
