import DnsServer.Dns.Name

namespace DnsServer

open Bytes Utf8

inductive RecordType where
  | A
  | AAAA
  | CNAME
  | MX
  | TXT
  | NS
  | SOA
  | SRV
  | PTR
  | DS
  | DNSKEY
  | RRSIG
  | NSEC
  | OPT
  | Unknown (code : UInt16)
  deriving DecidableEq, Repr

namespace RecordType

def fromU16 (val : UInt16) : RecordType :=
  match val.toNat with
  | 1 => .A
  | 28 => .AAAA
  | 5 => .CNAME
  | 15 => .MX
  | 16 => .TXT
  | 2 => .NS
  | 6 => .SOA
  | 33 => .SRV
  | 12 => .PTR
  | 43 => .DS
  | 48 => .DNSKEY
  | 46 => .RRSIG
  | 47 => .NSEC
  | 41 => .OPT
  | _ => .Unknown val

def toU16 : RecordType → UInt16
  | .A => 1
  | .AAAA => 28
  | .CNAME => 5
  | .MX => 15
  | .TXT => 16
  | .NS => 2
  | .SOA => 6
  | .SRV => 33
  | .PTR => 12
  | .DS => 43
  | .DNSKEY => 48
  | .RRSIG => 46
  | .NSEC => 47
  | .OPT => 41
  | .Unknown n => n

/-- `Unknown(n)` only for the codes that `from_u16` has no name for. -/
def Canonical (t : RecordType) : Prop := ∀ n, t = .Unknown n → fromU16 n = .Unknown n

theorem fromU16_toU16 {t : RecordType} (canonical : t.Canonical) : fromU16 t.toU16 = t := by
  cases t with
  | Unknown n => exact canonical n rfl
  | _ => rfl

theorem canonical_iff {t : RecordType} : t.Canonical ↔ fromU16 t.toU16 = t := by
  refine ⟨fromU16_toU16, fun same n unknown => ?_⟩
  subst unknown
  exact same

instance (t : RecordType) : Decidable t.Canonical := decidable_of_iff _ canonical_iff.symm

end RecordType

structure Ipv4Addr where
  a : UInt8
  b : UInt8
  c : UInt8
  d : UInt8
  deriving DecidableEq, Repr

def Ipv4Addr.octets (addr : Ipv4Addr) : List UInt8 := [addr.a, addr.b, addr.c, addr.d]

structure Ipv6Addr where
  octets : List UInt8
  octets_length : octets.length = 16
  deriving DecidableEq, Repr

inductive RData where
  | A (addr : Ipv4Addr)
  | AAAA (addr : Ipv6Addr)
  | CNAME (name : DnsName)
  | MX (preference : UInt16) (exchange : DnsName)
  | TXT (texts : List String)
  | NS (name : DnsName)
  | SOA (mname rname : DnsName) (serial refresh retry expire minimum : UInt32)
  | SRV (priority weight port : UInt16) (target : DnsName)
  | PTR (name : DnsName)
  | DS (keyTag : UInt16) (algorithm digestType : UInt8) (digest : List UInt8)
  | DNSKEY (flags : UInt16) (protocol algorithm : UInt8) (publicKey : List UInt8)
  | RRSIG (typeCovered : RecordType) (algorithm labels : UInt8)
      (originalTtl signatureExpiration signatureInception : UInt32) (keyTag : UInt16)
      (signerName : DnsName) (signature : List UInt8)
  | NSEC (nextDomain : DnsName) (typeBitmaps : List UInt8)
  | OPT (data : List UInt8)
  | Unknown (data : List UInt8)
  deriving DecidableEq, Repr

namespace RData

section Arms

/-! The arms of `RData::parse`. Each runs with the offset at `start`, and `stop` is the end of the
RDATA, which lies inside `data`. -/

variable (data : List UInt8) (start stop : Nat) (rdlength : UInt16)

def parseA : Parser RData :=
  if rdlength ≠ 4 then Prog.fail (.parseError "Invalid A record length")
  else do
    let a ← byteAt data start
    let b ← byteAt data (start + 1)
    let c ← byteAt data (start + 2)
    let d ← byteAt data (start + 3)
    seek stop
    return .A ⟨a, b, c, d⟩

def parseAAAA : Parser RData :=
  if rdlength ≠ 16 then Prog.fail (.parseError "Invalid AAAA record length")
  else do
    let octets ← slice data start (start + 16)
    -- `copy_from_slice` panics on any other length
    if sixteen : octets.length = 16 then
      seek stop
      return .AAAA ⟨octets, sixteen⟩
    else Prog.panic

/-- The arms of `CNAME`, `NS` and `PTR`. -/
def parseSingleName (wrap : DnsName → RData) : Parser RData := do
  let name ← DnsName.parse data
  seek stop
  return wrap name

def parseMX : Parser RData :=
  if rdlength < 3 then Prog.fail (.parseError "Invalid MX record")
  else do
    let preference ← u16At data start
    seek (start + 2)
    let exchange ← DnsName.parse data
    seek stop
    return .MX preference exchange

/-- One round of `while pos < end`. -/
def txtStep (s : Nat × List String) : Parser ((Nat × List String) ⊕ List String) :=
  if s.1 < stop then do
    let txtLen := (← byteAt data s.1).toNat
    let pos := s.1 + 1
    if pos + txtLen > stop then Prog.fail (.parseError "TXT record overflow")
    else
      let bytes ← slice data pos (pos + txtLen)
      return .inl (pos + txtLen, s.2 ++ [fromUtf8Lossy bytes])
  else return .inr s.2

def parseTXT : Parser RData := do
  let texts ← Prog.loop (txtStep data stop) (stop - start + 1) (start, [])
  seek stop
  return .TXT texts

def parseSOA : Parser RData := do
  let mname ← DnsName.parse data
  let rname ← DnsName.parse data
  let offset ← position
  if offset + 20 > stop then Prog.fail (.parseError "Invalid SOA record")
  else
    let serial ← u32At data offset
    let refresh ← u32At data (offset + 4)
    let retry ← u32At data (offset + 8)
    let expire ← u32At data (offset + 12)
    let minimum ← u32At data (offset + 16)
    seek stop
    return .SOA mname rname serial refresh retry expire minimum

def parseSRV : Parser RData :=
  if rdlength < 7 then Prog.fail (.parseError "Invalid SRV record")
  else do
    let priority ← u16At data start
    let weight ← u16At data (start + 2)
    let port ← u16At data (start + 4)
    seek (start + 6)
    let target ← DnsName.parse data
    seek stop
    return .SRV priority weight port target

def parseDS : Parser RData :=
  if rdlength < 5 then Prog.fail (.parseError "Invalid DS record")
  else do
    let keyTag ← u16At data start
    let algorithm ← byteAt data (start + 2)
    let digestType ← byteAt data (start + 3)
    let digest ← slice data (start + 4) stop
    seek stop
    return .DS keyTag algorithm digestType digest

def parseDNSKEY : Parser RData :=
  if rdlength < 5 then Prog.fail (.parseError "Invalid DNSKEY record")
  else do
    let flags ← u16At data start
    let protocol ← byteAt data (start + 2)
    let algorithm ← byteAt data (start + 3)
    let publicKey ← slice data (start + 4) stop
    seek stop
    return .DNSKEY flags protocol algorithm publicKey

/-- A word, two bytes and the rest of the RDATA: what `parseDS` and `parseDNSKEY` have in common. -/
def parseWordBytes (message : String) (wrap : UInt16 → UInt8 → UInt8 → List UInt8 → RData) : Parser RData :=
  if rdlength < 5 then Prog.fail (.parseError message)
  else do
    let word ← u16At data start
    let first ← byteAt data (start + 2)
    let second ← byteAt data (start + 3)
    let rest ← slice data (start + 4) stop
    seek stop
    return wrap word first second rest

def parseRRSIG : Parser RData :=
  if rdlength < 19 then Prog.fail (.parseError "Invalid RRSIG record")
  else do
    let typeCovered ← u16At data start
    let algorithm ← byteAt data (start + 2)
    let labels ← byteAt data (start + 3)
    let originalTtl ← u32At data (start + 4)
    let signatureExpiration ← u32At data (start + 8)
    let signatureInception ← u32At data (start + 12)
    let keyTag ← u16At data (start + 16)
    seek (start + 18)
    let signerName ← DnsName.parse data
    let offset ← position
    let signature ← slice data offset stop
    seek stop
    return .RRSIG (RecordType.fromU16 typeCovered) algorithm labels originalTtl
      signatureExpiration signatureInception keyTag signerName signature

def parseNSEC : Parser RData := do
  let nextDomain ← DnsName.parse data
  let offset ← position
  let typeBitmaps ← slice data offset stop
  seek stop
  return .NSEC nextDomain typeBitmaps

/-- The arms of `OPT` and of the unknown types. -/
def parseRaw (wrap : List UInt8 → RData) : Parser RData := do
  let raw ← slice data start stop
  seek stop
  return wrap raw

end Arms

def parse (recordType : RecordType) (data : List UInt8) (rdlength : UInt16) : Parser RData := do
  let start ← position
  let stop := start + rdlength.toNat
  if stop > data.length then Prog.fail .bufferTooShort
  else
    match recordType with
    | .A => parseA data start stop rdlength
    | .AAAA => parseAAAA data start stop rdlength
    | .CNAME => parseSingleName data stop .CNAME
    | .NS => parseSingleName data stop .NS
    | .PTR => parseSingleName data stop .PTR
    | .MX => parseMX data start stop rdlength
    | .TXT => parseTXT data start stop
    | .SOA => parseSOA data stop
    | .SRV => parseSRV data start stop rdlength
    | .DS => parseDS data start stop rdlength
    | .DNSKEY => parseDNSKEY data start stop rdlength
    | .RRSIG => parseRRSIG data start stop rdlength
    | .NSEC => parseNSEC data stop
    | .OPT => parseRaw data start stop .OPT
    | .Unknown _ => parseRaw data start stop .Unknown

/-- `bytes.chunks(size)`, within as many rounds as there are bytes. -/
def chunks (size : Nat) : Nat → List UInt8 → List (List UInt8)
  | 0, _ => []
  | fuel + 1, bytes =>
    if bytes.isEmpty then [] else bytes.take size :: chunks size fuel (bytes.drop size)

/-- One text of a TXT record, in length-prefixed chunks of at most 255 bytes. -/
def textWire (text : String) : List UInt8 :=
  let bytes := asBytes text
  (chunks 255 bytes.length bytes).flatMap (fun chunk => UInt8.ofNat chunk.length :: chunk) ++
    if bytes.isEmpty then [0] else []

def serialize : RData → List UInt8
  | .A addr => addr.octets
  | .AAAA addr => addr.octets
  | .CNAME name => name.toWire
  | .NS name => name.toWire
  | .PTR name => name.toWire
  | .MX preference exchange => toBe16 preference ++ exchange.toWire
  | .TXT texts => texts.flatMap textWire
  | .SOA mname rname serial refresh retry expire minimum =>
    mname.toWire ++ (rname.toWire ++ (toBe32 serial ++ (toBe32 refresh ++ (toBe32 retry ++
      (toBe32 expire ++ toBe32 minimum)))))
  | .SRV priority weight port target =>
    toBe16 priority ++ (toBe16 weight ++ (toBe16 port ++ target.toWire))
  | .DS keyTag algorithm digestType digest =>
    toBe16 keyTag ++ (algorithm :: digestType :: digest)
  | .DNSKEY flags protocol algorithm publicKey =>
    toBe16 flags ++ (protocol :: algorithm :: publicKey)
  | .RRSIG typeCovered algorithm labels originalTtl signatureExpiration signatureInception keyTag
      signerName signature =>
    toBe16 typeCovered.toU16 ++ (algorithm :: labels :: (toBe32 originalTtl ++
      (toBe32 signatureExpiration ++ (toBe32 signatureInception ++ (toBe16 keyTag ++
        (signerName.toWire ++ signature))))))
  | .NSEC nextDomain typeBitmaps => nextDomain.toWire ++ typeBitmaps
  | .OPT data => data
  | .Unknown data => data

end RData

end DnsServer
