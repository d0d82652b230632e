import DnsServer.Dns.NameSpelling
import DnsServer.Dns.RoundTrip
import DnsServer.Lib.SmallLetters

namespace DnsServer

open Bytes Utf8 Lowercase

theorem RecordType.canonical_fromU16 (val : UInt16) : (fromU16 val).Canonical := by
  intro n unknown
  have same : n = val := by
    unfold fromU16 at unknown
    split at unknown <;> cases unknown
    rfl
  rwa [same] at unknown ⊢

theorem RecordClass.canonical_fromU16 (val : UInt16) : (fromU16 val).Canonical := by
  intro n unknown
  have same : n = val := by
    unfold fromU16 at unknown
    split at unknown <;> cases unknown
    rfl
  rwa [same] at unknown ⊢

/-- Four bits of a flags byte are one of the codes that the header has room for. -/
theorem nibble_lt (x : UInt8) : (x &&& 0x0F).toNat < 16 := by
  rw [UInt8.toNat_and]
  exact Nat.lt_of_le_of_lt Nat.and_le_right (by decide)

theorem OpCode.canonical_fromU8 (x : UInt8) : (fromU8 (x &&& 0x0F)).Canonical := by
  have all : ∀ code : Fin 16, (fromU8 (UInt8.ofNat code)).Canonical := by decide
  obtain ⟨code, same⟩ := DnsHeader.exists_nibble (nibble_lt x)
  rw [same]
  exact all code

theorem ResponseCode.canonical_fromU8 (x : UInt8) : (fromU8 (x &&& 0x0F)).Canonical := by
  have all : ∀ code : Fin 16, (fromU8 (UInt8.ofNat code)).Canonical := by decide
  obtain ⟨code, same⟩ := DnsHeader.exists_nibble (nibble_lt x)
  rw [same]
  exact all code

theorem DnsHeader.parse_gives (data : List UInt8) : Prog.Gives (DnsHeader.parse data) DnsHeader.Encodable := by
  refine .after fun offset => ?_
  split
  · exact .fail _
  · refine .after fun id => .after fun flags1 => .after fun flags2 => .after fun questionCount =>
      .after fun answerCount => .after fun authorityCount => .after fun additionalCount =>
      .after fun _ => .pure ⟨?_, ?_⟩
    · exact OpCode.canonical_fromU8 _
    · exact ResponseCode.canonical_fromU8 _

namespace DnsName

/-- The labels have at least one byte and are in lower case, as all labels that were read. -/
def Decoded (name : DnsName) : Prop := ∀ label ∈ name.labels, 1 ≤ byteLen label ∧ toLowercase label = label

/-- The labels are short enough for a length byte that is no pointer. -/
def LabelsFit (name : DnsName) : Prop := ∀ label ∈ name.labels, byteLen label ≤ 191

theorem parse_gives (data : List UInt8) : Prog.Gives (DnsName.parse data) Decoded := by
  intro o name read label member
  obtain ⟨raws, spells, labels⟩ := (parse_ok_iff o name).mp read
  rw [labels] at member
  obtain ⟨raw, within, rfl⟩ := List.mem_map.mp member
  have some := (spells.raw_length raw within).1
  have nonempty : raw ≠ [] := List.ne_nil_of_length_pos some
  refine ⟨one_le_byteLen_toLowercase.mpr ?_, toLowercase_toLowercase _⟩
  rw [fromUtf8Lossy, String.toList_ofList]
  exact lossyChars_ne_nil nonempty

theorem Decoded.readable {name : DnsName} (decoded : name.Decoded) (fits : name.LabelsFit) : name.Readable :=
  fun label member => ⟨(decoded label member).1, fits label member, (decoded label member).2⟩

end DnsName

namespace RData

/-- What the arm of a record type returns: its own variant, made of names that were read and of a
digest or a key that is there. -/
structure Decoded (recordType : RecordType) (rdata : RData) : Prop where
  selected : Selected recordType rdata
  names : ∀ name ∈ rdata.names, name.Decoded
  filled : rdata.Filled

section Arms

variable {data : List UInt8} {start stop : Nat} {rdlength : UInt16}

theorem slice_gives : Prog.Gives (slice data start stop : Parser _) fun bytes => bytes.length = stop - start := by
  intro s bytes read
  unfold slice at read
  split at read
  · cases read
    rw [List.length_take, List.length_drop]
    omega
  · cases read

theorem parseA_gives : Prog.Gives (parseA data start stop rdlength) (Decoded .A) := by
  unfold parseA
  split
  · exact .fail _
  · exact .after fun a => .after fun b => .after fun c => .after fun d => .after fun _ =>
      .pure ⟨rfl, fun _ member => absurd member List.not_mem_nil, trivial⟩

theorem parseAAAA_gives : Prog.Gives (parseAAAA data start stop rdlength) (Decoded .AAAA) := by
  unfold parseAAAA
  split
  · exact .fail _
  · refine .after fun octets => ?_
    split
    · exact .after fun _ => .pure ⟨rfl, fun _ member => absurd member List.not_mem_nil, trivial⟩
    · exact .panic

theorem parseSingleName_gives {recordType : RecordType} {wrap : DnsName → RData}
    (decoded : ∀ name : DnsName, name.Decoded → Decoded recordType (wrap name)) :
    Prog.Gives (parseSingleName data stop wrap) (Decoded recordType) :=
  .bind (DnsName.parse_gives data) fun name named => .after fun _ => .pure (decoded name named)

theorem parseMX_gives : Prog.Gives (parseMX data start stop rdlength) (Decoded .MX) := by
  unfold parseMX
  split
  · exact .fail _
  · refine .after fun preference => .after fun _ => .bind (DnsName.parse_gives data) fun exchange named =>
      .after fun _ => .pure ⟨rfl, ?_, trivial⟩
    exact List.forall_mem_singleton.mpr named

theorem parseTXT_gives : Prog.Gives (parseTXT data start stop) (Decoded .TXT) :=
  .after fun _ => .after fun _ => .pure ⟨rfl, fun _ member => absurd member List.not_mem_nil, trivial⟩

theorem parseSOA_gives : Prog.Gives (parseSOA data stop) (Decoded .SOA) := by
  refine .bind (DnsName.parse_gives data) fun mname primary => .bind (DnsName.parse_gives data)
    fun rname mailbox => .after fun offset => ?_
  split
  · exact .fail _
  · refine .after fun serial => .after fun refresh => .after fun retry => .after fun expire =>
      .after fun minimum => .after fun _ => .pure ⟨rfl, ?_, trivial⟩
    exact List.forall_mem_cons.mpr ⟨primary, List.forall_mem_singleton.mpr mailbox⟩

theorem parseSRV_gives : Prog.Gives (parseSRV data start stop rdlength) (Decoded .SRV) := by
  unfold parseSRV
  split
  · exact .fail _
  · refine .after fun priority => .after fun weight => .after fun port => .after fun _ =>
      .bind (DnsName.parse_gives data) fun target named => .after fun _ => .pure ⟨rfl, ?_, trivial⟩
    exact List.forall_mem_singleton.mpr named

theorem parseWordBytes_gives {recordType : RecordType} {message : String}
    {wrap : UInt16 → UInt8 → UInt8 → List UInt8 → RData} (ends : stop = start + rdlength.toNat)
    (decoded : ∀ word b c rest, rest ≠ [] → Decoded recordType (wrap word b c rest)) :
    Prog.Gives (parseWordBytes data start stop rdlength message wrap) (Decoded recordType) := by
  unfold parseWordBytes
  split
  · exact .fail _
  · rename_i long
    have atLeast : 5 ≤ rdlength.toNat := by simpa [UInt16.lt_iff_toNat_lt] using long
    refine .after fun word => .after fun b => .after fun c => .bind slice_gives fun rest size =>
      .after fun _ => .pure (decoded word b c rest ?_)
    exact List.ne_nil_of_length_pos (by omega)

theorem parseRRSIG_gives : Prog.Gives (parseRRSIG data start stop rdlength) (Decoded .RRSIG) := by
  unfold parseRRSIG
  split
  · exact .fail _
  · refine .after fun typeCovered => .after fun algorithm => .after fun labels => .after fun originalTtl =>
      .after fun expiration => .after fun inception => .after fun keyTag => .after fun _ =>
      .bind (DnsName.parse_gives data) fun signerName named => .after fun offset => .after fun signature =>
      .after fun _ => .pure ⟨rfl, ?_, RecordType.canonical_fromU16 typeCovered⟩
    exact List.forall_mem_singleton.mpr named

theorem parseNSEC_gives : Prog.Gives (parseNSEC data stop) (Decoded .NSEC) := by
  refine .bind (DnsName.parse_gives data) fun nextDomain named => .after fun offset =>
    .after fun typeBitmaps => .after fun _ => .pure ⟨rfl, ?_, trivial⟩
  exact List.forall_mem_singleton.mpr named

theorem parseRaw_gives {recordType : RecordType} {wrap : List UInt8 → RData}
    (decoded : ∀ raw, Decoded recordType (wrap raw)) :
    Prog.Gives (parseRaw data start stop wrap) (Decoded recordType) :=
  .after fun raw => .after fun _ => .pure (decoded raw)

end Arms

theorem parse_gives (recordType : RecordType) (data : List UInt8) (rdlength : UInt16) :
    Prog.Gives (parse recordType data rdlength) (Decoded recordType) := by
  refine .after fun start => ?_
  dsimp only
  split
  · exact .fail _
  · have one : ∀ name : DnsName, name.Decoded → ∀ inner ∈ [name], inner.Decoded :=
      fun name named => List.forall_mem_singleton.mpr named
    have none : ∀ inner ∈ ([] : List DnsName), inner.Decoded := fun _ member => absurd member List.not_mem_nil
    cases recordType with
    | A => exact parseA_gives
    | AAAA => exact parseAAAA_gives
    | CNAME => exact parseSingleName_gives fun name named => ⟨rfl, one name named, trivial⟩
    | NS => exact parseSingleName_gives fun name named => ⟨rfl, one name named, trivial⟩
    | PTR => exact parseSingleName_gives fun name named => ⟨rfl, one name named, trivial⟩
    | MX => exact parseMX_gives
    | TXT => exact parseTXT_gives
    | SOA => exact parseSOA_gives
    | SRV => exact parseSRV_gives
    | DS | DNSKEY => exact parseWordBytes_gives rfl fun word b c rest filled => ⟨rfl, none, filled⟩
    | RRSIG => exact parseRRSIG_gives
    | NSEC => exact parseNSEC_gives
    | OPT => exact parseRaw_gives fun raw => ⟨rfl, none, trivial⟩
    | Unknown => exact parseRaw_gives fun raw => ⟨rfl, none, trivial⟩

end RData

structure DnsQuestion.Decoded (question : DnsQuestion) : Prop where
  name : question.name.Decoded
  recordType : question.recordType.Canonical
  recordClass : question.recordClass.Canonical

theorem DnsQuestion.parse_gives (data : List UInt8) : Prog.Gives (DnsQuestion.parse data) DnsQuestion.Decoded := by
  refine .bind (DnsName.parse_gives data) fun name named => .after fun offset => ?_
  split
  · exact .fail _
  · exact .after fun recordType => .after fun recordClass => .after fun _ =>
      .pure ⟨named, RecordType.canonical_fromU16 _, RecordClass.canonical_fromU16 _⟩

namespace DnsRecord

structure Decoded (record : DnsRecord) : Prop where
  name : record.name.Decoded
  recordType : record.recordType.Canonical
  recordClass : record.recordClass.Canonical
  rdata : RData.Decoded record.recordType record.rdata

/-- The owner and the names in the RDATA. -/
def names (record : DnsRecord) : List DnsName := record.name :: record.rdata.names

theorem parse_gives (data : List UInt8) : Prog.Gives (DnsRecord.parse data) Decoded := by
  refine .bind (DnsName.parse_gives data) fun name named => .after fun offset => ?_
  split
  · exact .fail _
  · exact .after fun recordType => .after fun recordClass => .after fun ttl => .after fun rdlength =>
      .after fun _ => .bind (RData.parse_gives _ data rdlength) fun rdata decoded =>
      .pure ⟨named, RecordType.canonical_fromU16 _, RecordClass.canonical_fromU16 _, decoded⟩

theorem Decoded.readable {record : DnsRecord} (decoded : record.Decoded)
    (fits : ∀ name ∈ record.names, name.LabelsFit) (short : record.rdata.serialize.length ≤ 65535) :
    record.Readable where
  name := decoded.name.readable (fits _ List.mem_cons_self)
  recordType := decoded.recordType
  recordClass := decoded.recordClass
  selected := decoded.rdata.selected
  rdata.names := fun name member =>
    (decoded.rdata.names name member).readable (fits name (List.mem_cons_of_mem _ member))
  rdata.filled := decoded.rdata.filled
  short := short

end DnsRecord

namespace DnsMessage

theorem parseQuestions_gives (data : List UInt8) (count : Nat) :
    Prog.Gives (parseQuestions data count) fun questions =>
      questions.length = count ∧ ∀ question ∈ questions, question.Decoded := by
  induction count with
  | zero => exact .pure ⟨rfl, fun _ member => absurd member List.not_mem_nil⟩
  | succ count ih =>
    exact .bind (DnsQuestion.parse_gives data) fun question decoded => .bind ih fun questions rest =>
      .pure ⟨congrArg Nat.succ rest.1, List.forall_mem_cons.mpr ⟨decoded, rest.2⟩⟩

theorem parseSection_gives (data : List UInt8) (count : Nat) :
    Prog.Gives (parseSection data count) fun records =>
      records.length ≤ count ∧ ∀ record ∈ records, record.Decoded := by
  induction count with
  | zero => exact .pure ⟨le_rfl, fun _ member => absurd member List.not_mem_nil⟩
  | succ count ih =>
    refine .bind (Prog.Gives.attempt (DnsRecord.parse_gives data)) fun caught each => ?_
    cases caught with
    | ok record =>
      exact .bind ih fun records rest =>
        .pure ⟨Nat.succ_le_succ rest.1, List.forall_mem_cons.mpr ⟨each record rfl, rest.2⟩⟩
    | error => exact .pure ⟨Nat.zero_le _, fun _ member => absurd member List.not_mem_nil⟩

/-- What a message that was read is made of. -/
structure Decoded (message : DnsMessage) : Prop where
  header : message.header.Encodable
  questions : ∀ question ∈ message.questions, question.Decoded
  records : ∀ record ∈ message.records, record.Decoded
  questionCount : message.questions.length ≤ 65535
  answerCount : message.answers.length ≤ 65535
  authorityCount : message.authorities.length ≤ 65535
  additionalCount : message.additional.length ≤ 65535

theorem parseFrom_gives (data : List UInt8) : Prog.Gives (parseFrom data) Decoded := by
  have counts : ∀ count : UInt16, count.toNat ≤ 65535 := fun count => Nat.le_of_lt_succ count.toNat_lt
  refine .bind (DnsHeader.parse_gives data) fun header encodable =>
    .bind (parseQuestions_gives data _) fun questions asked => .bind (parseSection_gives data _) fun answers first =>
    .bind (parseSection_gives data _) fun authorities second =>
    .bind (parseSection_gives data _) fun additional third => .pure ?_
  exact {
    header := encodable
    questions := asked.2
    records := List.forall_mem_append.mpr ⟨first.2, List.forall_mem_append.mpr ⟨second.2, third.2⟩⟩
    questionCount := asked.1.le.trans (counts _)
    answerCount := first.1.trans (counts _)
    authorityCount := second.1.trans (counts _)
    additionalCount := third.1.trans (counts _) }

/-- All names of the message. -/
def names (message : DnsMessage) : List DnsName :=
  message.questions.map DnsQuestion.name ++ message.records.flatMap DnsRecord.names

/-- The length bytes of all labels are their lengths, and no pointers. -/
def LabelsFit (message : DnsMessage) : Prop := ∀ name ∈ message.names, name.LabelsFit

/-- The length fields of all records are the lengths of their RDATA. -/
def RDataFits (message : DnsMessage) : Prop :=
  ∀ record ∈ message.records, record.rdata.serialize.length ≤ 65535

/-- All texts of all TXT records fit in one chunk. -/
def TextsFit (message : DnsMessage) : Prop := ∀ record ∈ message.records, record.rdata.TextsFit

theorem Decoded.readable {message : DnsMessage} (decoded : message.Decoded) (labels : message.LabelsFit)
    (rdata : message.RDataFits) : message.Readable := by
  have record : ∀ record ∈ message.records, record.Readable := by
    intro record member
    refine (decoded.records record member).readable (fun name within => ?_) (rdata record member)
    exact labels name (List.mem_append_right _ (List.mem_flatMap.mpr ⟨record, member, within⟩))
  obtain ⟨answers, rest⟩ := List.forall_mem_append.mp record
  obtain ⟨authorities, additional⟩ := List.forall_mem_append.mp rest
  refine ⟨decoded.header, ?_, answers, authorities, additional, decoded.questionCount, decoded.answerCount,
    decoded.authorityCount, decoded.additionalCount⟩
  intro question member
  obtain ⟨name, recordType, recordClass⟩ := decoded.questions question member
  have fits := labels question.name (List.mem_append_left _ (List.mem_map_of_mem member))
  exact ⟨name.readable fits, recordType, recordClass⟩

/-- Written and read again, the message has the same parts, and counts that say how long they are. -/
def Stable (message : DnsMessage) : Prop :=
  ∃ again, parse message.serialize = .ok again ∧ again.questions = message.questions ∧
    again.answers = message.answers ∧ again.authorities = message.authorities ∧
    again.additional = message.additional ∧
    again.header = { message.header with
      questionCount := UInt16.ofNat message.questions.length
      answerCount := UInt16.ofNat message.answers.length
      authorityCount := UInt16.ofNat message.authorities.length
      additionalCount := UInt16.ofNat message.additional.length } ∧
    again.header.questionCount.toNat = message.questions.length ∧
    again.header.answerCount.toNat = message.answers.length ∧
    again.header.authorityCount.toNat = message.authorities.length ∧
    again.header.additionalCount.toNat = message.additional.length

/-- An accepted message whose labels and RDATA fit their length fields is stable exactly when its texts
fit in one chunk each. -/
theorem stable_iff {data : List UInt8} {message : DnsMessage} (accepted : parse data = .ok message)
    (labels : message.LabelsFit) (rdata : message.RDataFits) : message.Stable ↔ message.TextsFit := by
  have decoded : message.Decoded := parseFrom_gives data 0 message accepted
  have read := parse_readable (decoded.readable labels rdata)
  constructor
  · rintro ⟨again, back, questions, answers, authorities, additional, header, _⟩
    obtain rfl : message.reread = again := Outcome.ok.inj (read.symm.trans back)
    refine reread_eq_iff.mp ?_
    simp only [reread, DnsMessage.mk.injEq, true_and]
    exact ⟨answers, authorities, additional⟩
  · intro fits
    rw [reread_eq_iff.mpr fits] at read
    exact ⟨_, read, rfl, rfl, rfl, rfl, rfl, count_toNat decoded.questionCount, count_toNat decoded.answerCount,
      count_toNat decoded.authorityCount, count_toNat decoded.additionalCount⟩

/-- An answer with one text of two bytes. -/
def greeting : List UInt8 :=
  [0, 1, 0x80, 0, 0, 0, 0, 1, 0, 0, 0, 0, 0, 0, 16, 0, 1, 0, 0, 0, 60, 0, 3, 2, 0x68, 0x69]

def greetingMessage : DnsMessage where
  header := { DnsHeader.newQuery 1 with isResponse := true, recursionDesired := false, answerCount := 1 }
  questions := []
  answers := [DnsRecord.new DnsName.root .TXT 60 (.TXT ["hi"])]
  authorities := []
  additional := []

theorem stable_iff_greeting : greetingMessage.Stable ↔ greetingMessage.TextsFit :=
  stable_iff (show parse greeting = .ok greetingMessage by decide +kernel)
    (by simp [LabelsFit, DnsName.LabelsFit, names, records, greetingMessage, DnsRecord.names, DnsRecord.new,
      RData.names, DnsName.root])
    (show ∀ record ∈ greetingMessage.records, record.rdata.serialize.length ≤ 65535 by decide +kernel)

/-- A query for a label of 64 bytes, none of them text. -/
def overgrownQuery : List UInt8 :=
  [0, 1, 1, 0, 0, 1, 0, 0, 0, 0, 0, 0] ++ DnsName.wireOf [List.replicate 64 0xFF] ++ [0, 1, 0, 1]

def overgrownMessage : DnsMessage where
  header := { DnsHeader.newQuery 1 with questionCount := 1 }
  questions := [DnsQuestion.new ⟨[DnsName.decodeLabel (List.replicate 64 0xFF)]⟩ .A]
  answers := []
  authorities := []
  additional := []

theorem asBytes_overgrown : asBytes (DnsName.decodeLabel (List.replicate 64 0xFF)) =
    (List.replicate 64 [0xEF, 0xBF, 0xBD]).flatten := by
  have decoded : lossyChars 0 (List.replicate 64 0xFF) = List.replicate 64 replacement := by decide +kernel
  have small : Small replacement := by decide +kernel
  have text : ∀ c ∈ List.replicate 64 replacement, Small c := by
    intro c member
    rwa [List.eq_of_mem_replicate member]
  rw [DnsName.decodeLabel, toLowercase, fromUtf8Lossy, String.toList_ofList, decoded,
    lowerChars_small text, asBytes, String.toList_ofList]
  decide +kernel

theorem serialize_overgrown : overgrownMessage.serialize = overgrownMessage.countedHeader.serialize ++
    (0xC0 :: (List.replicate 64 [0xEF, 0xBF, 0xBD]).flatten ++ [0, 0, 1, 0, 1]) := by
  have name : DnsName.toWire ⟨[DnsName.decodeLabel (List.replicate 64 0xFF)]⟩ =
      0xC0 :: (List.replicate 64 [0xEF, 0xBF, 0xBD]).flatten ++ [0] := by
    rw [DnsName.toWire, List.flatMap_singleton, DnsName.labelWire, byteLen, asBytes_overgrown]
    rfl
  have question : DnsQuestion.serialize (DnsQuestion.new ⟨[DnsName.decodeLabel (List.replicate 64 0xFF)]⟩ .A) =
      0xC0 :: (List.replicate 64 [0xEF, 0xBF, 0xBD]).flatten ++ [0, 0, 1, 0, 1] := by
    rw [DnsQuestion.serialize, DnsQuestion.new, name, List.append_assoc]
    rfl
  rw [serialize, ← question]
  simp only [overgrownMessage, List.flatMap_cons, List.flatMap_nil, List.append_nil]

/-- Decoded, the label has 192 bytes, which is the length byte of a pointer. -/
theorem parse_overgrownQuery_unstable :
    parse overgrownQuery = .ok overgrownMessage ∧ ¬overgrownMessage.Stable := by
  have refused : parse (overgrownMessage.countedHeader.serialize ++
      (0xC0 :: (List.replicate 64 [0xEF, 0xBF, 0xBD]).flatten ++ [0, 0, 1, 0, 1])) =
        .err .invalidPointer := by decide +kernel
  rw [← serialize_overgrown] at refused
  refine ⟨rfl, ?_⟩
  rintro ⟨again, back, _⟩
  rw [refused] at back
  cases back

end DnsMessage

end DnsServer
