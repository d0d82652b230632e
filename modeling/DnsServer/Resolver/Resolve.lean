import DnsServer.Resolver.Network

namespace DnsServer

/-- The root hints, with their dotted addresses already parsed. -/
def ROOT_SERVERS : List (String × Ipv4Addr) :=
  [("a.root-servers.net", ⟨198, 41, 0, 4⟩), ("b.root-servers.net", ⟨170, 247, 170, 2⟩),
    ("c.root-servers.net", ⟨192, 33, 4, 12⟩), ("d.root-servers.net", ⟨199, 7, 91, 13⟩),
    ("e.root-servers.net", ⟨192, 203, 230, 10⟩), ("f.root-servers.net", ⟨192, 5, 5, 241⟩),
    ("g.root-servers.net", ⟨192, 112, 36, 4⟩), ("h.root-servers.net", ⟨198, 97, 190, 53⟩),
    ("i.root-servers.net", ⟨192, 36, 148, 17⟩), ("j.root-servers.net", ⟨192, 58, 128, 30⟩),
    ("k.root-servers.net", ⟨193, 0, 14, 129⟩), ("l.root-servers.net", ⟨199, 7, 83, 42⟩),
    ("m.root-servers.net", ⟨202, 12, 27, 33⟩)]

def rootServers : List SocketAddr := ROOT_SERVERS.map fun root => ⟨root.2, 53⟩

/-- The server addresses among the records of an answer. -/
def addressesOf (records : List DnsRecord) : List SocketAddr :=
  records.filterMap fun record =>
    match record.rdata with
    | .A addr => some ⟨addr, 53⟩
    | _ => none

/-- What one response means for the loop, once its records have been cached. -/
inductive Absorbed where
  | answers (result : List DnsRecord)
  | aliases (cnames : List DnsRecord)
  | referral (newNsNames : List DnsName) (glueAddrs : List SocketAddr)

/-- The variables of the referral loop. -/
structure Walk where
  nameservers : List SocketAddr
  lastNsNames : List DnsName

/-- The name server that a record of the authority section delegates to. -/
def DnsRecord.nsTarget (record : DnsRecord) : Option DnsName :=
  if record.recordType = .NS then
    match record.rdata with
    | .NS name => some name
    | _ => none
  else none

/-- The address that a record of the additional section gives to one of the name servers. -/
def DnsRecord.glueFor (record : DnsRecord) (nsNames : List DnsName) : Option SocketAddr :=
  if record.recordType = .A then
    match record.rdata with
    | .A addr => if nsNames.any fun ns => ns = record.name then some ⟨addr, 53⟩ else none
    | _ => none
  else none

namespace DnsMessage

def allRecords (response : DnsMessage) : List DnsRecord :=
  response.answers ++ response.authorities ++ response.additional

/-- The answers of the type that was asked for. -/
def typedAnswers (response : DnsMessage) (recordType : RecordType) : List DnsRecord :=
  response.answers.filter fun record => record.recordType = recordType

/-- The CNAME records among the other answers. -/
def aliasAnswers (response : DnsMessage) (recordType : RecordType) : List DnsRecord :=
  response.answers.filter fun record => record.recordType ≠ recordType ∧ record.recordType = .CNAME

/-- The name servers that the authority section delegates to. -/
def nsNames (response : DnsMessage) : List DnsName := response.authorities.filterMap DnsRecord.nsTarget

/-- The addresses that the additional section gives to these name servers. -/
def glueAddrs (response : DnsMessage) : List SocketAddr :=
  response.additional.filterMap fun record => record.glueFor response.nsNames

def hasSoa (response : DnsMessage) : Bool :=
  response.authorities.any fun record => record.recordType = .SOA

theorem aliasAnswers_cname (response : DnsMessage) : response.aliasAnswers .CNAME = [] := by
  apply List.filter_eq_nil_iff.mpr
  intro record _ both
  have split := of_decide_eq_true both
  exact split.1 split.2

end DnsMessage

namespace Resolver

variable {W D : Type} (self : Resolver W D)

def validateAnswers (name : DnsName) (recordType : RecordType) (response : DnsMessage) :
    Resolution W Unit :=
  if self.enableDnssec then do
    let now ← ask self.network.unixTime
    let validation := self.dnssecValidator.validateResponse now response.allRecords name recordType
    note (.validated name recordType response.answers validation)
    if validation = .Bogus then Prog.fail .serverFailure
    else return ()
  else return ()

def cacheAnswers (name : DnsName) (recordType : RecordType) (response : DnsMessage) :
    Resolution W Absorbed :=
  if ¬(response.typedAnswers recordType).isEmpty then do
    self.cacheInsert name recordType (response.typedAnswers recordType)
    return .answers (response.typedAnswers recordType)
  else if ¬(response.aliasAnswers recordType).isEmpty then do
    self.cacheInsert name .CNAME (response.aliasAnswers recordType)
    return .aliases (response.aliasAnswers recordType)
  else return .answers []

def processAnswers (name : DnsName) (recordType : RecordType) (response : DnsMessage) :
    Resolution W Absorbed := do
  self.validateAnswers name recordType response
  self.cacheAnswers name recordType response

/-- A loop over one section: what `pick` finds is collected, and its record is cached on its own. -/
def cacheEach {α : Type} (recordType : RecordType) (pick : DnsRecord → Option α) :
    List DnsRecord → Resolution W (List α)
  | [] => return []
  | record :: records =>
    match pick record with
    | some found => do
      self.cacheInsert record.name recordType [record]
      let rest ← cacheEach recordType pick records
      return found :: rest
    | none => cacheEach recordType pick records

/-- The loop over the authority section. -/
def cacheReferrals (authorities : List DnsRecord) : Resolution W (List DnsName) :=
  self.cacheEach .NS DnsRecord.nsTarget authorities

/-- The loop over the additional section. -/
def cacheGlue (newNsNames : List DnsName) (additional : List DnsRecord) :
    Resolution W (List SocketAddr) :=
  self.cacheEach .A (fun record => record.glueFor newNsNames) additional

def absorb (name : DnsName) (recordType : RecordType) (response : DnsMessage) :
    Resolution W Absorbed :=
  if response.header.responseCode = .nameError then Prog.fail .nameError
  else if ¬response.answers.isEmpty then self.processAnswers name recordType response
  else do
    let newNsNames ← self.cacheReferrals response.authorities
    let glueAddrs ← self.cacheGlue newNsNames response.additional
    return .referral newNsNames glueAddrs

section Recursion

/-! The parts of the mutual recursion, over `rec`, the resolution of one level down. -/

variable (rec : DnsName → RecordType → Resolution W (List DnsRecord))

def nsAddress (nsName : DnsName) : Resolution W (List SocketAddr) := do
  match ← self.cacheLookup nsName .A with
  | some cached => return addressesOf cached
  | none =>
    match ← Prog.attempt (rec nsName .A) with
    | .ok records => return addressesOf records
    | .error _ => return []

/-- The addresses of the first name server that has any. -/
def nsAddresses : List DnsName → Resolution W (List SocketAddr)
  | [] => return []
  | nsName :: nsNames => do
    let found ← self.nsAddress rec nsName
    if found.isEmpty then nsAddresses nsNames else return found

/-- The CNAME records of an answer, and the name that the last of them leads to. -/
def extendChain (chain : List DnsRecord) (currentName : DnsName) :
    List DnsRecord → List DnsRecord × DnsName
  | [] => (chain, currentName)
  | record :: records =>
    match record.rdata with
    | .CNAME name => extendChain (chain ++ [record]) name records
    | _ => extendChain chain currentName records

/-- `for _ in 0..MAX_CNAME_CHAIN`. -/
def chainRounds (targetType : RecordType) : Nat → List DnsRecord → DnsName →
    Resolution W (List DnsRecord)
  | 0, chain, _ => return chain
  | rounds + 1, chain, currentName => do
    let records ← rec currentName targetType
    if ¬records.isEmpty then return chain ++ records
    else
      match ← Prog.attempt (rec currentName .CNAME) with
      | .ok cnameRecords =>
        let extended := extendChain chain currentName cnameRecords
        chainRounds targetType rounds extended.1 extended.2
      | .error _ => return chain

def followCnameChain (cnames : List DnsRecord) (targetType : RecordType) :
    Resolution W (List DnsRecord) :=
  match cnames.getLast? with
  | some record =>
    match record.rdata with
    | .CNAME name => chainRounds rec targetType MAX_CNAME_CHAIN cnames name
    | _ => Prog.fail .serverFailure
  | none => Prog.fail .serverFailure

/-- What the loop does with a response that has no answers. -/
def followReferral (walk : Walk) (hasSoa : Bool) (newNsNames : List DnsName)
    (glueAddrs : List SocketAddr) : Resolution W (Walk ⊕ List DnsRecord) :=
  if newNsNames.isEmpty then
    if hasSoa then return .inr [] else Prog.fail .serverFailure
  else if newNsNames = walk.lastNsNames then Prog.fail .serverFailure
  else if ¬glueAddrs.isEmpty then return .inl ⟨glueAddrs, newNsNames⟩
  else do
    let resolvedAddrs ← self.nsAddresses rec newNsNames
    if resolvedAddrs.isEmpty then Prog.fail .serverFailure
    else return .inl ⟨resolvedAddrs, newNsNames⟩

def continueWith (recordType : RecordType) (walk : Walk) (hasSoa : Bool) :
    Absorbed → Resolution W (Walk ⊕ List DnsRecord)
  | .answers result => return .inr result
  | .aliases cnames => do
    let result ← followCnameChain rec cnames recordType
    return .inr result
  | .referral newNsNames glueAddrs => self.followReferral rec walk hasSoa newNsNames glueAddrs

/-- One round of the referral loop. -/
def referralStep (name : DnsName) (recordType : RecordType) (walk : Walk) :
    Resolution W (Walk ⊕ List DnsRecord) := do
  let response ← self.queryNameservers name recordType walk.nameservers
  let absorbed ← self.absorb name recordType response
  self.continueWith rec recordType walk response.hasSoa absorbed

end Recursion

/-- The loop has no bound of its own, so it runs on `fuel` and hangs when that is spent. -/
def resolveRecursive (fuel : Nat) (name : DnsName) (recordType : RecordType) (depth : Nat) :
    Resolution W (List DnsRecord) :=
  if depth > MAX_RECURSION_DEPTH then Prog.fail .serverFailure
  else
    Prog.loop
      (self.referralStep (fun name recordType => resolveRecursive fuel name recordType (depth + 1))
        name recordType)
      fuel ⟨rootServers, []⟩
termination_by MAX_RECURSION_DEPTH + 1 - depth

inductive ZoneResult where
  | found (records : List DnsRecord)
  | followCname (cnames : List DnsRecord)
  | noData
  | notFound

end Resolver

def ZoneStore.zoneResult (zones : ZoneStore) (name : DnsName) (recordType : RecordType) :
    Resolver.ZoneResult :=
  match zones.lookup name recordType with
  | some records => .found records
  | none =>
    match zones.findZone name with
    | some zone =>
      if zone.hasName name ∧ recordType ≠ .CNAME then
        match zone.lookup name .CNAME with
        | some cnames => .followCname cnames
        | none => .noData
      else .notFound
    | none => .notFound

namespace Resolver

variable {W D : Type} (self : Resolver W D)

/-- The cache, its CNAME entry, and then the root servers. -/
def resolveUpstream (fuel : Nat) (name : DnsName) (recordType : RecordType) :
    Resolution W (List DnsRecord) := do
  match ← self.cacheLookup name recordType with
  | some records => return records
  | none =>
    if recordType ≠ .CNAME then
      match ← self.cacheLookup name .CNAME with
      | some cnames =>
        followCnameChain (fun name recordType => self.resolveRecursive fuel name recordType 1) cnames
          recordType
      | none => self.resolveRecursive fuel name recordType 0
    else self.resolveRecursive fuel name recordType 0

def resolve (fuel : Nat) (name : DnsName) (recordType : RecordType) : Resolution W (List DnsRecord) :=
  match self.zoneStore.zoneResult name recordType with
  | .found records => return records
  | .followCname cnames =>
    followCnameChain (fun name recordType => self.resolveRecursive fuel name recordType 1) cnames
      recordType
  | .noData => return []
  | .notFound => self.resolveUpstream fuel name recordType

end Resolver

end DnsServer
