import DnsServer.Dns.Name

namespace DnsServer

open Bytes

inductive OpCode where
  | query
  | iquery
  | status
  | unknown (code : UInt8)
  deriving DecidableEq, Repr

namespace OpCode

def fromU8 (val : UInt8) : OpCode :=
  match val.toNat with
  | 0 => .query
  | 1 => .iquery
  | 2 => .status
  | _ => .unknown val

def toU8 : OpCode → UInt8
  | .query => 0
  | .iquery => 1
  | .status => 2
  | .unknown n => n

/-- Below 16, and `Unknown(n)` only for the codes that `from_u8` has no name for. -/
def Canonical (code : OpCode) : Prop :=
  code.toU8.toNat < 16 ∧ ∀ n, code = .unknown n → fromU8 n = .unknown n

theorem fromU8_toU8 {code : OpCode} (canonical : code.Canonical) : fromU8 code.toU8 = code := by
  cases code with
  | unknown n => exact canonical.2 n rfl
  | _ => rfl

theorem canonical_iff {code : OpCode} :
    code.Canonical ↔ code.toU8.toNat < 16 ∧ fromU8 code.toU8 = code := by
  constructor
  · intro canonical
    exact ⟨canonical.1, fromU8_toU8 canonical⟩
  · rintro ⟨small, same⟩
    refine ⟨small, fun n unknown => ?_⟩
    subst unknown
    exact same

instance (code : OpCode) : Decidable code.Canonical := decidable_of_iff _ canonical_iff.symm

end OpCode

inductive ResponseCode where
  | noError
  | formatError
  | serverFailure
  | nameError
  | notImplemented
  | refused
  | unknown (code : UInt8)
  deriving DecidableEq, Repr

namespace ResponseCode

def fromU8 (val : UInt8) : ResponseCode :=
  match val.toNat with
  | 0 => .noError
  | 1 => .formatError
  | 2 => .serverFailure
  | 3 => .nameError
  | 4 => .notImplemented
  | 5 => .refused
  | _ => .unknown val

def toU8 : ResponseCode → UInt8
  | .noError => 0
  | .formatError => 1
  | .serverFailure => 2
  | .nameError => 3
  | .notImplemented => 4
  | .refused => 5
  | .unknown n => n

/-- Below 16, and `Unknown(n)` only for the codes that `from_u8` has no name for. -/
def Canonical (code : ResponseCode) : Prop :=
  code.toU8.toNat < 16 ∧ ∀ n, code = .unknown n → fromU8 n = .unknown n

theorem fromU8_toU8 {code : ResponseCode} (canonical : code.Canonical) :
    fromU8 code.toU8 = code := by
  cases code with
  | unknown n => exact canonical.2 n rfl
  | _ => rfl

theorem canonical_iff {code : ResponseCode} :
    code.Canonical ↔ code.toU8.toNat < 16 ∧ fromU8 code.toU8 = code := by
  constructor
  · intro canonical
    exact ⟨canonical.1, fromU8_toU8 canonical⟩
  · rintro ⟨small, same⟩
    refine ⟨small, fun n unknown => ?_⟩
    subst unknown
    exact same

instance (code : ResponseCode) : Decidable code.Canonical := decidable_of_iff _ canonical_iff.symm

end ResponseCode

structure DnsHeader where
  id : UInt16
  isResponse : Bool
  opcode : OpCode
  authoritative : Bool
  truncated : Bool
  recursionDesired : Bool
  recursionAvailable : Bool
  authenticData : Bool
  checkingDisabled : Bool
  responseCode : ResponseCode
  questionCount : UInt16
  answerCount : UInt16
  authorityCount : UInt16
  additionalCount : UInt16
  deriving DecidableEq, Repr

namespace DnsHeader

def newQuery (id : UInt16) : DnsHeader where
  id := id
  isResponse := false
  opcode := .query
  authoritative := false
  truncated := false
  recursionDesired := true
  recursionAvailable := false
  authenticData := false
  checkingDisabled := false
  responseCode := .noError
  questionCount := 0
  answerCount := 0
  authorityCount := 0
  additionalCount := 0

def parse (data : List UInt8) : Parser DnsHeader := do
  let offset ← position
  if offset + 12 > data.length then Prog.fail .bufferTooShort
  else
    let id ← u16At data offset
    let flags1 ← byteAt data (offset + 2)
    let flags2 ← byteAt data (offset + 3)
    let questionCount ← u16At data (offset + 4)
    let answerCount ← u16At data (offset + 6)
    let authorityCount ← u16At data (offset + 8)
    let additionalCount ← u16At data (offset + 10)
    seek (offset + 12)
    return {
      id := id
      isResponse := flags1 &&& 0x80 != 0
      opcode := OpCode.fromU8 ((flags1 >>> 3) &&& 0x0F)
      authoritative := flags1 &&& 0x04 != 0
      truncated := flags1 &&& 0x02 != 0
      recursionDesired := flags1 &&& 0x01 != 0
      recursionAvailable := flags2 &&& 0x80 != 0
      authenticData := flags2 &&& 0x20 != 0
      checkingDisabled := flags2 &&& 0x10 != 0
      responseCode := ResponseCode.fromU8 (flags2 &&& 0x0F)
      questionCount := questionCount
      answerCount := answerCount
      authorityCount := authorityCount
      additionalCount := additionalCount }

/-- `if flag { flags |= mask }`. -/
def bit (flag : Bool) (mask : UInt8) : UInt8 := if flag then mask else 0

def flags1 (header : DnsHeader) : UInt8 :=
  bit header.isResponse 0x80 ||| ((header.opcode.toU8 &&& 0x0F) <<< 3) |||
    bit header.authoritative 0x04 ||| bit header.truncated 0x02 |||
    bit header.recursionDesired 0x01

def flags2 (header : DnsHeader) : UInt8 :=
  bit header.recursionAvailable 0x80 ||| bit header.authenticData 0x20 |||
    bit header.checkingDisabled 0x10 ||| (header.responseCode.toU8 &&& 0x0F)

def serialize (header : DnsHeader) : List UInt8 :=
  toBe16 header.id ++ (header.flags1 :: header.flags2 ::
    (toBe16 header.questionCount ++ (toBe16 header.answerCount ++
      (toBe16 header.authorityCount ++ toBe16 header.additionalCount))))

end DnsHeader

end DnsServer
