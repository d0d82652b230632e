import DnsServer.Dns.RData
import DnsServer.Lib.Uppercase

/-! The texts of a zone file: record types, addresses, and the wording of the errors. -/

namespace DnsServer

open Utf8

/-- `Display` for the errors. -/
def DnsError.text : DnsError → String
  | .parseError message => "Parse error: " ++ message
  | .nameTooLong => "Domain name exceeds 255 bytes"
  | .labelTooLong => "Label exceeds 63 bytes"
  | .bufferTooShort => "Buffer too short"
  | .invalidPointer => "Invalid compression pointer"
  | .pointerLoop => "Compression pointer loop detected"

def RecordType.fromStrType (s : String) : Option RecordType :=
  match Uppercase.toUppercase s with
  | "A" => some .A
  | "AAAA" => some .AAAA
  | "CNAME" => some .CNAME
  | "MX" => some .MX
  | "TXT" => some .TXT
  | "NS" => some .NS
  | "SOA" => some .SOA
  | "SRV" => some .SRV
  | "PTR" => some .PTR
  | "DS" => some .DS
  | "DNSKEY" => some .DNSKEY
  | _ => none

/-! The address parser of the standard library. A reader takes the bytes that are left and gives what
it read with the bytes after it; one that fails has read nothing. -/

abbrev AddrReader (α : Type) := List UInt8 → Option (α × List UInt8)

/-- `char::to_digit`. -/
def toDigit (radix : Nat) (b : UInt8) : Option Nat :=
  let value :=
    if '0'.toNat ≤ b.toNat ∧ b.toNat ≤ '9'.toNat then b.toNat - '0'.toNat
    else if 'a'.toNat ≤ b.toNat ∧ b.toNat ≤ 'z'.toNat then b.toNat - 'a'.toNat + 10
    else if 'A'.toNat ≤ b.toNat ∧ b.toNat ≤ 'Z'.toNat then b.toNat - 'A'.toNat + 10
    else radix
  if value < radix then some value else none

def readGivenChar (c : Char) : AddrReader Unit
  | b :: rest => if b.toNat = c.toNat then some ((), rest) else none
  | [] => none

/-- All digits that follow: their count, their value, and what is left. -/
def readDigits (radix count value : Nat) : List UInt8 → Nat × Nat × List UInt8
  | [] => (count, value, [])
  | b :: rest =>
    match toDigit radix b with
    | some digit => readDigits radix (count + 1) (value * radix + digit) rest
    | none => (count, value, b :: rest)

/-- A number of at most `maxDigits` digits below `bound`. -/
def readNumber (radix maxDigits bound : Nat) (allowZeroPrefix : Bool) : AddrReader Nat := fun bytes =>
  match readDigits radix 0 0 bytes with
  | (count, value, rest) =>
    if count = 0 ∨ count > maxDigits then none
    else if ¬allowZeroPrefix ∧ bytes.head? = some (UInt8.ofNat '0'.toNat) ∧ count > 1 then none
    else if value < bound then some (value, rest) else none

/-- The separator stands before each part but the first. -/
def readSeparator {α : Type} (sep : Char) (index : Nat) (inner : AddrReader α) : AddrReader α := fun bytes =>
  if index > 0 then
    match readGivenChar sep bytes with
    | some ((), rest) => inner rest
    | none => none
  else inner bytes

def readOctet (index : Nat) : AddrReader UInt8 :=
  readSeparator '.' index fun bytes =>
    (readNumber 10 3 256 false bytes).map fun (value, rest) => (UInt8.ofNat value, rest)

def readIpv4Addr : AddrReader Ipv4Addr := fun bytes => do
  let (a, bytes) ← readOctet 0 bytes
  let (b, bytes) ← readOctet 1 bytes
  let (c, bytes) ← readOctet 2 bytes
  let (d, bytes) ← readOctet 3 bytes
  return (⟨a, b, c, d⟩, bytes)

def readGroup (index : Nat) : AddrReader UInt16 :=
  readSeparator ':' index fun bytes =>
    (readNumber 16 4 65536 true bytes).map fun (value, rest) => (UInt16.ofNat value, rest)

/-- `read_groups` with room for `room` groups, `index` of them read: the groups from there on, whether
the last two are an IPv4 address, and what is left. -/
def readGroups : (room index : Nat) → List UInt8 → List UInt16 × Bool × List UInt8
  | 0, _, bytes => ([], false, bytes)
  | room + 1, index, bytes =>
    match if room > 0 then readSeparator ':' index readIpv4Addr bytes else none with
    | some (v4, rest) =>
      ([UInt16.ofNat (v4.a.toNat * 256 + v4.b.toNat), UInt16.ofNat (v4.c.toNat * 256 + v4.d.toNat)],
        true, rest)
    | none =>
      match readGroup index bytes with
      | some (group, rest) =>
        match readGroups room (index + 1) rest with
        | (groups, ipv4, rest) => (group :: groups, ipv4, rest)
      | none => ([], false, bytes)

/-- The address of the eight groups that begin with `head` and end with `tail`, zeros between. -/
def Ipv6Addr.ofGroups (head tail : List UInt16) : Ipv6Addr where
  octets := (List.range 8).flatMap fun i =>
    Bytes.toBe16 (if 8 - tail.length ≤ i then tail.getD (i - (8 - tail.length)) 0 else head.getD i 0)
  octets_length := by simp

def readIpv6Addr : AddrReader Ipv6Addr := fun bytes =>
  match readGroups 8 0 bytes with
  | (head, headIpv4, rest) =>
    if head.length = 8 then some (.ofGroups head [], rest)
    else if headIpv4 then none
    else do
      let ((), rest) ← readGivenChar ':' rest
      let ((), rest) ← readGivenChar ':' rest
      match readGroups (8 - (head.length + 1)) 0 rest with
      | (tail, _, rest) => return (.ofGroups head tail, rest)

/-- The whole text is read. -/
def parseWith {α : Type} (reader : AddrReader α) (bytes : List UInt8) : Option α :=
  match reader bytes with
  | some (addr, []) => some addr
  | _ => none

/-- `Ipv4Addr::from_str`. -/
def Ipv4Addr.fromStr (s : String) : Option Ipv4Addr :=
  if byteLen s > 15 then none else parseWith readIpv4Addr (asBytes s)

/-- `Ipv6Addr::from_str`. -/
def Ipv6Addr.fromStr (s : String) : Option Ipv6Addr := parseWith readIpv6Addr (asBytes s)

example : Ipv4Addr.fromStr "192.0.2.1" = some ⟨192, 0, 2, 1⟩ ∧ Ipv4Addr.fromStr "192.0.2.01" = none ∧
    Ipv4Addr.fromStr "192.0.2.256" = none := by decide +kernel

example : (Ipv6Addr.fromStr "2001:db8::192.0.2.1").map Ipv6Addr.octets =
    some [0x20, 0x01, 0x0d, 0xb8, 0, 0, 0, 0, 0, 0, 0, 0, 192, 0, 2, 1] := by decide +kernel

example : Ipv6Addr.fromStr "1:2:3:4:5:6:7:8::" = none ∧ Ipv6Addr.fromStr ":::" = none := by
  decide +kernel

end DnsServer
