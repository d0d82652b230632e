import DnsServer.Dns.Header
import DnsServer.Dns.RData

namespace DnsServer

open Bytes

inductive RecordClass where
  | IN
  | CH
  | HS
  | ANY
  | Unknown (code : UInt16)
  deriving DecidableEq, Repr

namespace RecordClass

def fromU16 (val : UInt16) : RecordClass :=
  match val.toNat with
  | 1 => .IN
  | 3 => .CH
  | 4 => .HS
  | 255 => .ANY
  | _ => .Unknown val

def toU16 : RecordClass → UInt16
  | .IN => 1
  | .CH => 3
  | .HS => 4
  | .ANY => 255
  | .Unknown n => n

/-- `Unknown(n)` only for the codes that `from_u16` has no name for. -/
def Canonical (c : RecordClass) : Prop := ∀ n, c = .Unknown n → fromU16 n = .Unknown n

theorem fromU16_toU16 {c : RecordClass} (canonical : c.Canonical) : fromU16 c.toU16 = c := by
  cases c with
  | Unknown n => exact canonical n rfl
  | _ => rfl

theorem canonical_iff {c : RecordClass} : c.Canonical ↔ fromU16 c.toU16 = c := by
  refine ⟨fromU16_toU16, fun same n unknown => ?_⟩
  subst unknown
  exact same

instance (c : RecordClass) : Decidable c.Canonical := decidable_of_iff _ canonical_iff.symm

end RecordClass

structure DnsQuestion where
  name : DnsName
  recordType : RecordType
  recordClass : RecordClass
  deriving DecidableEq, Repr

namespace DnsQuestion

def new (name : DnsName) (recordType : RecordType) : DnsQuestion := ⟨name, recordType, .IN⟩

def parse (data : List UInt8) : Parser DnsQuestion := do
  let name ← DnsName.parse data
  let offset ← position
  if offset + 4 > data.length then Prog.fail .bufferTooShort
  else
    let recordType ← u16At data offset
    let recordClass ← u16At data (offset + 2)
    seek (offset + 4)
    return ⟨name, RecordType.fromU16 recordType, RecordClass.fromU16 recordClass⟩

def serialize (question : DnsQuestion) : List UInt8 :=
  question.name.toWire ++ (toBe16 question.recordType.toU16 ++ toBe16 question.recordClass.toU16)

end DnsQuestion

structure DnsRecord where
  name : DnsName
  recordType : RecordType
  recordClass : RecordClass
  ttl : UInt32
  rdata : RData
  deriving DecidableEq, Repr

namespace DnsRecord

def new (name : DnsName) (recordType : RecordType) (ttl : UInt32) (rdata : RData) : DnsRecord :=
  ⟨name, recordType, .IN, ttl, rdata⟩

def parse (data : List UInt8) : Parser DnsRecord := do
  let name ← DnsName.parse data
  let offset ← position
  if offset + 10 > data.length then Prog.fail .bufferTooShort
  else
    let recordType ← u16At data offset
    let recordClass ← u16At data (offset + 2)
    let ttl ← u32At data (offset + 4)
    let rdlength ← u16At data (offset + 8)
    seek (offset + 10)
    let rdata ← RData.parse (RecordType.fromU16 recordType) data rdlength
    return ⟨name, RecordType.fromU16 recordType, RecordClass.fromU16 recordClass, ttl, rdata⟩

/-- The length field is `rdata.len() as u16`. -/
def serialize (record : DnsRecord) : List UInt8 :=
  record.name.toWire ++ (toBe16 record.recordType.toU16 ++ (toBe16 record.recordClass.toU16 ++
    (toBe32 record.ttl ++ (toBe16 (UInt16.ofNat record.rdata.serialize.length) ++
      record.rdata.serialize))))

end DnsRecord

structure DnsMessage where
  header : DnsHeader
  questions : List DnsQuestion
  answers : List DnsRecord
  authorities : List DnsRecord
  additional : List DnsRecord
  deriving DecidableEq, Repr

namespace DnsMessage

def newQuery (id : UInt16) : DnsMessage := ⟨DnsHeader.newQuery id, [], [], [], []⟩

/-- The question loop: an error ends the whole parse. -/
def parseQuestions (data : List UInt8) : Nat → Parser (List DnsQuestion)
  | 0 => return []
  | count + 1 => do
    let question ← DnsQuestion.parse data
    let rest ← parseQuestions data count
    return question :: rest

/-- A record loop: an error only breaks out of the section, with the offset where it stood. -/
def parseSection (data : List UInt8) : Nat → Parser (List DnsRecord)
  | 0 => return []
  | count + 1 => do
    match ← Prog.attempt (DnsRecord.parse data) with
    | .ok record =>
      let rest ← parseSection data count
      return record :: rest
    | .error _ => return []

section Section

variable {data : List UInt8} {count o o' : Nat}

theorem parseSection_read {record : DnsRecord} (run : DnsRecord.parse data o = (.ok record, o')) :
    parseSection data (count + 1) o =
      (parseSection data count >>= fun rest => pure (record :: rest)) o' := by
  rw [parseSection, Prog.bind_ok (Prog.attempt_ok run)]

theorem parseSection_broken {error : DnsError} (run : DnsRecord.parse data o = (.err error, o')) :
    parseSection data (count + 1) o = (.ok [], o') := by
  rw [parseSection, Prog.bind_ok (Prog.attempt_err run)]
  rfl

theorem parseSection_panics (run : DnsRecord.parse data o = (.panic, o')) :
    parseSection data (count + 1) o = (.panic, o') := by
  rw [parseSection, Prog.bind_panic (Prog.attempt_panic run)]

end Section

def parseFrom (data : List UInt8) : Parser DnsMessage := do
  let header ← DnsHeader.parse data
  let questions ← parseQuestions data header.questionCount.toNat
  let answers ← parseSection data header.answerCount.toNat
  let authorities ← parseSection data header.authorityCount.toNat
  let additional ← parseSection data header.additionalCount.toNat
  return ⟨header, questions, answers, authorities, additional⟩

/-- The offset of a parse is its own local variable, starting at 0. -/
def parse (data : List UInt8) : Outcome DnsError DnsMessage := (parseFrom data 0).1

/-- The header with the four counts of the sections, each `len() as u16`. -/
def countedHeader (message : DnsMessage) : DnsHeader :=
  { message.header with
    questionCount := UInt16.ofNat message.questions.length
    answerCount := UInt16.ofNat message.answers.length
    authorityCount := UInt16.ofNat message.authorities.length
    additionalCount := UInt16.ofNat message.additional.length }

def serialize (message : DnsMessage) : List UInt8 :=
  message.countedHeader.serialize ++ (message.questions.flatMap DnsQuestion.serialize ++
    (message.answers.flatMap DnsRecord.serialize ++
      (message.authorities.flatMap DnsRecord.serialize ++
        message.additional.flatMap DnsRecord.serialize)))

def makeResponse (message : DnsMessage) : DnsMessage where
  header := { message.header with isResponse := true, recursionAvailable := true }
  questions := message.questions
  answers := []
  authorities := []
  additional := []

def makeErrorResponse (message : DnsMessage) (code : ResponseCode) : DnsMessage :=
  let response := message.makeResponse
  { response with header := { response.header with responseCode := code } }

end DnsMessage

end DnsServer
