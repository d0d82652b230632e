import DnsServer.Dns.ParseSafety
import DnsServer.Dns.Reserialise

namespace DnsServer

open Bytes

namespace RData

/-- The two record types whose readers slice from behind a name to the end of the RDATA. -/
def SlicesBehindName (recordType : RecordType) : Prop := recordType = .RRSIG ∨ recordType = .NSEC

/-- Such RDATA is that of its type, and the length bytes of the name in it are lengths. -/
def Delimited (recordType : RecordType) (rdata : RData) : Prop :=
  SlicesBehindName recordType → Selected recordType rdata ∧ ∀ name ∈ rdata.names, name.Delimited

variable {data : List UInt8} {recordType : RecordType} {rdata : RData} {o : Nat}

theorem Delimited.not_overruns (delimited : Delimited recordType rdata)
    (short : rdata.serialize.length ≤ 65535) (held : Holds data o rdata.serialize) :
    ¬Overruns data recordType (UInt16.ofNat rdata.serialize.length) o := by
  rintro ⟨_, overrun⟩
  rw [rdlength_toNat short] at overrun
  cases recordType with
  | RRSIG =>
    obtain ⟨_, name, s, read, behind⟩ := overrun
    obtain ⟨selected, named⟩ := delimited (Or.inl rfl)
    cases rdata with
    | RRSIG typeCovered algorithm labels originalTtl expiration inception keyTag signerName signature =>
      obtain ⟨_, held⟩ := Holds.u16_append_iff.mp held
      obtain ⟨_, held⟩ := Holds.cons_iff.mp held
      obtain ⟨_, held⟩ := Holds.cons_iff.mp held
      obtain ⟨_, held⟩ := Holds.u32_append_iff.mp held
      obtain ⟨_, held⟩ := Holds.u32_append_iff.mp held
      obtain ⟨_, held⟩ := Holds.u32_append_iff.mp held
      obtain ⟨_, held⟩ := Holds.u16_append_iff.mp held
      obtain ⟨inner, _⟩ := Holds.append_iff.mp held
      have ends := DnsName.parse_delimited (named signerName (List.mem_singleton_self _)) inner
      cases read.symm.trans ends
      simp only [serialize, List.length_append, List.length_cons, toBe16_length, toBe32_length] at behind
      omega
    | _ => cases selected
  | NSEC =>
    obtain ⟨name, s, read, behind⟩ := overrun
    obtain ⟨selected, named⟩ := delimited (Or.inr rfl)
    cases rdata with
    | NSEC nextDomain typeBitmaps =>
      obtain ⟨inner, _⟩ := Holds.append_iff.mp held
      have ends := DnsName.parse_delimited (named nextDomain (List.mem_singleton_self _)) inner
      cases read.symm.trans ends
      simp only [serialize, List.length_append] at behind
      omega
    | _ => cases selected
  | _ => exact overrun

end RData

namespace DnsRecord

/-- The lengths in the wire form of the record are those of its labels and of its RDATA. -/
structure Delimited (record : DnsRecord) : Prop where
  owner : record.name.Delimited
  short : record.rdata.serialize.length ≤ 65535
  rdata : RData.Delimited (RecordType.fromU16 record.recordType.toU16) record.rdata

theorem Readable.delimited {record : DnsRecord} (readable : record.Readable) : record.Delimited where
  owner := readable.name.delimited
  short := readable.short
  rdata := by
    intro _
    rw [RecordType.fromU16_toU16 readable.recordType]
    exact ⟨readable.selected, fun name member => (readable.rdata.names name member).delimited⟩

variable {data : List UInt8} {record : DnsRecord} {o : Nat}

/-- Where such a record stands, a record is read that ends with it, or an error is. -/
theorem Delimited.parse (delimited : record.Delimited) (held : Holds data o record.serialize) :
    (∃ again, DnsRecord.parse data o = (.ok again, o + record.serialize.length)) ∨
      ∃ error s, DnsRecord.parse data o = (.err error, s) := by
  have fits := held.length_le (by simp [serialize, toBe16])
  obtain ⟨name, fields⟩ := Holds.append_iff.mp held
  obtain ⟨typeHeld, fields⟩ := Holds.u16_append_iff.mp fields
  obtain ⟨_, fields⟩ := Holds.u16_append_iff.mp fields
  obtain ⟨_, fields⟩ := Holds.u32_append_iff.mp fields
  obtain ⟨lengthHeld, rdataHeld⟩ := Holds.u16_append_iff.mp fields
  simp only [serialize, List.length_append, toBe16_length, toBe32_length] at fits ⊢
  have owner := DnsName.parse_delimited delimited.owner name
  have run := DnsRecord.parse_rdata owner (by omega)
  rw [typeHeld.word16, lengthHeld.word16] at run
  have confined := RData.parse_confined (RecordType.fromU16 record.recordType.toU16) data
    (UInt16.ofNat record.rdata.serialize.length) (o + record.name.toWire.length + 10)
  rcases rdata : RData.parse (RecordType.fromU16 record.recordType.toU16) data
    (UInt16.ofNat record.rdata.serialize.length) (o + record.name.toWire.length + 10) with
    ⟨rdata | error | _ | _, s⟩ <;> rw [rdata] at confined
  · have ends : s = _ := confined
    rw [RData.rdlength_toNat delimited.short] at ends
    rw [Prog.bind_ok rdata] at run
    refine Or.inl ⟨_, run.trans (Prod.ext rfl ?_)⟩
    change s = _
    omega
  · rw [Prog.bind_err rdata] at run
    exact Or.inr ⟨error, s, run⟩
  · exact absurd confined (delimited.rdata.not_overruns delimited.short rdataHeld)
  · exact confined.elim

end DnsRecord

namespace DnsMessage

variable {data : List UInt8}

/-- A section of such records is read up to its count, or up to a record that is refused. -/
theorem parseSection_delimited {records : List DnsRecord} {count o : Nat}
    (delimited : ∀ record ∈ records, record.Delimited)
    (held : Holds data o (records.flatMap DnsRecord.serialize)) (few : count ≤ records.length) :
    ∃ found s, parseSection data count o = (.ok found, s) := by
  induction records generalizing count o with
  | nil =>
    obtain rfl : count = 0 := Nat.le_zero.mp few
    exact ⟨[], o, rfl⟩
  | cons record records ih =>
    cases count with
    | zero => exact ⟨[], o, rfl⟩
    | succ count =>
      obtain ⟨first, rest⟩ := Holds.append_iff.mp held
      rcases (delimited record List.mem_cons_self).parse first with ⟨again, read⟩ | ⟨error, s, broken⟩
      · obtain ⟨found, s, tail⟩ := ih (fun record member => delimited record (List.mem_cons_of_mem _ member))
          rest (Nat.le_of_succ_le_succ few)
        rw [parseSection_read read, Prog.bind_ok tail]
        exact ⟨again :: found, s, rfl⟩
      · exact ⟨[], s, parseSection_broken broken⟩

/-- The questions of a written message are read where they stand, whatever its header says, and the
record loops start at its answers. -/
theorem recordsStart_asked {message : DnsMessage} (asked : ∀ question ∈ message.questions, question.Readable)
    (few : message.questions.length ≤ 65535) :
    ∃ o, RecordsStart message.serialize message.countedHeader.reread message.questions o ∧
      Holds message.serialize o (message.answers.flatMap DnsRecord.serialize) := by
  have whole : Holds message.serialize 0 message.serialize := List.prefix_rfl
  obtain ⟨headerHeld, rest⟩ := Holds.append_iff.mp whole
  obtain ⟨questionsHeld, rest⟩ := Holds.append_iff.mp rest
  have header := DnsHeader.parse_written headerHeld
  have questions := parseQuestions_serialize asked questionsHeld
  have count : message.countedHeader.reread.questionCount.toNat = message.questions.length := count_toNat few
  rw [← count] at questions
  exact ⟨_, ⟨_, header, questions⟩, (Holds.append_iff.mp rest).1⟩

/-- Its records alone decide whether it parses again, and its questions come back. -/
theorem parse_asked {message : DnsMessage} (asked : ∀ question ∈ message.questions, question.Readable)
    (few : message.questions.length ≤ 65535) :
    (Overruns message.serialize ∧ parse message.serialize = .panic) ∨
      (¬Overruns message.serialize ∧
        ∃ again, parse message.serialize = .ok again ∧ again.questions = message.questions) := by
  obtain ⟨o, start, _⟩ := recordsStart_asked asked few
  rcases parse_cases message.serialize with ⟨_, _, none⟩ | ⟨header, questions, o', start', records⟩
  · exact absurd start (none _ _ _)
  obtain ⟨rfl, rfl, rfl⟩ := start.unique start'
  rw [start.overruns_iff, records]
  rcases parseRecords_ends message.serialize message.countedHeader.reread message.questions o with
    ⟨panics, overruns⟩ | ⟨⟨again, ok⟩, clean⟩
  · exact Or.inl ⟨overruns, panics⟩
  · exact Or.inr ⟨clean, again, ok, parseRecords_questions ok⟩

/-- Delimited answers with nothing behind them do not overrun. -/
theorem not_overruns_delimited {message : DnsMessage} (asked : ∀ question ∈ message.questions, question.Readable)
    (few : message.questions.length ≤ 65535) (delimited : ∀ record ∈ message.answers, record.Delimited)
    (authorities : message.authorities = []) (additional : message.additional = []) :
    ¬Overruns message.serialize := by
  obtain ⟨o, start, held⟩ := recordsStart_asked asked few
  have answerCount : message.countedHeader.reread.answerCount.toNat ≤ message.answers.length := by
    change (UInt16.ofNat message.answers.length).toNat ≤ _
    rw [UInt16.toNat_ofNat']
    exact Nat.mod_le _ _
  have none : ∀ records : List DnsRecord, records = [] → (UInt16.ofNat records.length).toNat = 0 := by
    rintro _ rfl
    rfl
  have authorityCount : message.countedHeader.reread.authorityCount.toNat = 0 := none _ authorities
  have additionalCount : message.countedHeader.reread.additionalCount.toNat = 0 := none _ additional
  obtain ⟨found, s, answers⟩ := parseSection_delimited delimited held answerCount
  have ends := parseSection_ends message.serialize message.countedHeader.reread.answerCount.toNat o
  rw [answers] at ends
  rw [start.overruns_iff, sectionCounts, ends, authorityCount, additionalCount, MeetsOverrun.done_iff,
    MeetsOverrun.done_iff]
  exact fun meets => by cases meets

/-- No label of the questions is longer than a length byte can say. -/
def QuestionsFit (message : DnsMessage) : Prop := ∀ question ∈ message.questions, question.name.LabelsFit

/-- Such questions of an accepted message come back. -/
theorem QuestionsFit.readable {message : DnsMessage} (labels : message.QuestionsFit)
    (accepted : parse data = .ok message) :
    message.questions.length ≤ 65535 ∧ ∀ question ∈ message.questions, question.Readable := by
  have decoded : message.Decoded := parseFrom_gives data 0 message accepted
  refine ⟨decoded.questionCount, fun question member => ?_⟩
  obtain ⟨name, recordType, recordClass⟩ := decoded.questions question member
  exact ⟨name.readable (labels question member), recordType, recordClass⟩

end DnsMessage

end DnsServer
