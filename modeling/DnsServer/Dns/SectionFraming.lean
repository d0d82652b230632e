import DnsServer.Dns.ParseSafety

namespace DnsServer

open Bytes

/-- A record that was read ends where its length field says, behind its owner and ten more bytes. -/
theorem DnsRecord.parse_ends {data : List UInt8} {o s : Nat} {record : DnsRecord}
    (read : DnsRecord.parse data o = (.ok record, s)) :
    ∃ name o₁, DnsName.parse data o = (.ok name, o₁) ∧ ∃ _inside : o₁ + 10 ≤ data.length,
      s = o₁ + 10 + (data[o₁ + 8].toNat * 256 + data[o₁ + 9].toNat) ∧ o < s ∧ s ≤ data.length := by
  have leaves := DnsRecord.parse_leaves data o
  rw [read] at leaves
  obtain ⟨name, o₁, owner, rest⟩ := Prog.bind_eq_ok.mp read
  by_cases inside : o₁ + 10 ≤ data.length
  · rw [DnsRecord.parse_rdata owner inside] at read
    obtain ⟨rdata, end', parsed, returned⟩ := Prog.bind_eq_ok.mp read
    have confined := RData.parse_confined (RecordType.fromU16 (word16 data o₁)) data
      (word16 data (o₁ + 8)) (o₁ + 10)
    rw [parsed] at confined
    have ends : end' = o₁ + 10 + (word16 data (o₁ + 8)).toNat := confined
    rw [word16_toNat (by omega) (by omega)] at ends
    cases returned
    exact ⟨name, o₁, owner, inside, ends, leaves⟩
  · change (if o₁ + 10 > data.length then _ else _ : Parser DnsRecord) o₁ = _ at rest
    rw [if_pos (by omega)] at rest
    cases rest

/-- The root, with an address. -/
def rootAddress : List UInt8 := [0, 0, 1, 0, 1, 0, 0, 0, 9, 0, 4, 6, 6, 6, 6]

theorem DnsRecord.parse_ends_rootAddress :
    ∃ name o₁, DnsName.parse rootAddress 0 = (.ok name, o₁) ∧ ∃ _inside : o₁ + 10 ≤ rootAddress.length,
      15 = o₁ + 10 + (rootAddress[o₁ + 8].toNat * 256 + rootAddress[o₁ + 9].toNat) ∧ 0 < 15 ∧
        15 ≤ rootAddress.length := by
  have read : DnsRecord.parse rootAddress 0 =
      (.ok (DnsRecord.new DnsName.root .A 9 (.A ⟨6, 6, 6, 6⟩)), 15) := by decide +kernel
  exact parse_ends read

/-- Records read one after the other: each starts exactly where the one before it ended. -/
inductive RecordRun (data : List UInt8) : Nat → List DnsRecord → Nat → Prop
  | nil {o} : RecordRun data o [] o
  | cons {o record o₁ records o₂} : DnsRecord.parse data o = (.ok record, o₁) →
      RecordRun data o₁ records o₂ → RecordRun data o (record :: records) o₂

namespace RecordRun

variable {data : List UInt8} {o o₁ o₂ : Nat} {xs ys : List DnsRecord}

theorem append (first : RecordRun data o xs o₁) (second : RecordRun data o₁ ys o₂) :
    RecordRun data o (xs ++ ys) o₂ := by
  induction first with
  | nil => exact second
  | cons run _ ih => exact .cons run (ih second)

/-- A run cannot be continued past a record that does not parse. -/
theorem append_stuck {error : DnsError} (first : RecordRun data o xs o₁)
    (stuck : DnsRecord.parse data o₁ = (.err error, o₂)) {o₃ : Nat}
    (whole : RecordRun data o (xs ++ ys) o₃) : ys = [] := by
  induction first with
  | nil =>
    cases ys with
    | nil => rfl
    | cons y ys =>
      cases whole with
      | cons run _ => cases stuck.symm.trans run
  | cons run _ ih =>
    cases whole with
    | cons run' rest =>
      cases run.symm.trans run'
      exact ih stuck rest

end RecordRun

/-- From the offset `o`, with the given record counts left in the sections not yet started, some
record does parse. -/
inductive Resumes (data : List UInt8) : List Nat → Nat → Prop
  | here {count counts o record o'} : DnsRecord.parse data o = (.ok record, o') →
      Resumes data ((count + 1) :: counts) o
  | broken {count counts o error o'} : DnsRecord.parse data o = (.err error, o') →
      Resumes data counts o' → Resumes data ((count + 1) :: counts) o
  | done {counts o} : Resumes data counts o → Resumes data (0 :: counts) o

/-- The first record that fails to parse leaves the offset where a later section, by its own
count, finds a record again. -/
inductive ResumesInside (data : List UInt8) : List Nat → Nat → Prop
  | read {count counts o record o'} : DnsRecord.parse data o = (.ok record, o') →
      ResumesInside data (count :: counts) o' → ResumesInside data ((count + 1) :: counts) o
  | broken {count counts o error o'} : DnsRecord.parse data o = (.err error, o') →
      Resumes data counts o' → ResumesInside data ((count + 1) :: counts) o
  | done {counts o} : ResumesInside data counts o → ResumesInside data (0 :: counts) o

section Inversion

variable {data : List UInt8} {count o o' : Nat} {counts : List Nat} {record : DnsRecord}
  {error : DnsError}

theorem Resumes.done_iff : Resumes data (0 :: counts) o ↔ Resumes data counts o :=
  ⟨fun resumes => by cases resumes; assumption, .done⟩

theorem Resumes.broken_iff (run : DnsRecord.parse data o = (.err error, o')) :
    Resumes data ((count + 1) :: counts) o ↔ Resumes data counts o' := by
  refine ⟨fun resumes => ?_, .broken run⟩
  cases resumes with
  | here run' => cases run.symm.trans run'
  | broken run' resumes =>
    cases run.symm.trans run'
    exact resumes

theorem ResumesInside.done_iff : ResumesInside data (0 :: counts) o ↔ ResumesInside data counts o :=
  ⟨fun resumes => by cases resumes; assumption, .done⟩

theorem ResumesInside.read_iff (run : DnsRecord.parse data o = (.ok record, o')) :
    ResumesInside data ((count + 1) :: counts) o ↔ ResumesInside data (count :: counts) o' := by
  refine ⟨fun resumes => ?_, .read run⟩
  cases resumes with
  | read run' resumes =>
    cases run.symm.trans run'
    exact resumes
  | broken run' => cases run.symm.trans run'

theorem ResumesInside.broken_iff (run : DnsRecord.parse data o = (.err error, o')) :
    ResumesInside data ((count + 1) :: counts) o ↔ Resumes data counts o' := by
  refine ⟨fun resumes => ?_, .broken run⟩
  cases resumes with
  | read run' => cases run.symm.trans run'
  | broken run' resumes =>
    cases run.symm.trans run'
    exact resumes

end Inversion

namespace DnsMessage

/-- A section read in step with its records: all of them, or the run up to one that fails. -/
theorem parseSection_framed {data : List UInt8} {count o o' : Nat} {records : List DnsRecord}
    (run : parseSection data count o = (.ok records, o')) :
    (RecordRun data o records o' ∧
      ∀ counts, ResumesInside data (count :: counts) o ↔ ResumesInside data counts o') ∨
    ∃ stop error, RecordRun data o records stop ∧ DnsRecord.parse data stop = (.err error, o') ∧
      ∀ counts, ResumesInside data (count :: counts) o ↔ Resumes data counts o' := by
  induction count generalizing o records with
  | zero =>
    cases run
    exact Or.inl ⟨.nil, fun _ => ResumesInside.done_iff⟩
  | succ count ih =>
    rcases first : DnsRecord.parse data o with ⟨record | error | _ | _, middle⟩
    · rw [parseSection_read first] at run
      obtain ⟨rest, _, tail, built⟩ := Prog.bind_eq_ok.mp run
      cases built
      rcases ih tail with ⟨framed, resumes⟩ | ⟨stop, error, framed, stuck, resumes⟩
      · exact Or.inl ⟨.cons first framed,
          fun counts => (ResumesInside.read_iff first).trans (resumes counts)⟩
      · exact Or.inr ⟨stop, error, .cons first framed, stuck,
          fun counts => (ResumesInside.read_iff first).trans (resumes counts)⟩
    · rw [parseSection_broken first] at run
      cases run
      exact Or.inr ⟨o, error, .nil, first, fun _ => ResumesInside.broken_iff first⟩
    · rw [parseSection_panics first] at run
      cases run
    · have leaves := DnsRecord.parse_leaves data o
      rw [first] at leaves
      exact leaves.elim

/-- A section that starts where a failed record stopped: nothing, or records out of step. -/
theorem parseSection_resumed {data : List UInt8} {count o o' : Nat} {records : List DnsRecord}
    (run : parseSection data count o = (.ok records, o')) :
    (records = [] ∧ ∀ counts, Resumes data (count :: counts) o ↔ Resumes data counts o') ∨
    (records ≠ [] ∧ ∀ counts, Resumes data (count :: counts) o) := by
  cases count with
  | zero =>
    cases run
    exact Or.inl ⟨rfl, fun _ => Resumes.done_iff⟩
  | succ count =>
    rcases first : DnsRecord.parse data o with ⟨record | error | _ | _, middle⟩
    · rw [parseSection_read first] at run
      obtain ⟨rest, _, _, built⟩ := Prog.bind_eq_ok.mp run
      cases built
      exact Or.inr ⟨List.cons_ne_nil _ _, fun _ => .here first⟩
    · rw [parseSection_broken first] at run
      cases run
      exact Or.inl ⟨rfl, fun _ => Resumes.broken_iff first⟩
    · rw [parseSection_panics first] at run
      cases run
    · have leaves := DnsRecord.parse_leaves data o
      rw [first] at leaves
      exact leaves.elim

/-- The records of the three sections are consecutive records of the buffer, starting at `o`. -/
def Framed (data : List UInt8) (o : Nat) (message : DnsMessage) : Prop :=
  ∃ stop, RecordRun data o (message.answers ++ message.authorities ++ message.additional) stop

/-- Once one section has failed, what the later sections return is what breaks the framing. -/
theorem resumed_sections {data : List UInt8} {count₁ count₂ o o₁ o₂ : Nat}
    {authorities additional : List DnsRecord}
    (second : parseSection data count₁ o = (.ok authorities, o₁))
    (third : parseSection data count₂ o₁ = (.ok additional, o₂)) :
    authorities ++ additional = [] ↔ ¬Resumes data [count₁, count₂] o := by
  rcases parseSection_resumed second with ⟨none, resumes⟩ | ⟨some, resumes⟩
  · rw [none, List.nil_append, resumes]
    rcases parseSection_resumed third with ⟨none', resumes'⟩ | ⟨some', resumes'⟩
    · rw [none', resumes']
      exact iff_of_true rfl fun ended => by cases ended
    · exact iff_of_false some' (not_not_intro (resumes' []))
  · exact iff_of_false (fun none => some (List.append_eq_nil_iff.mp none).1)
      (not_not_intro (resumes _))

theorem parseRecords_keeps {data : List UInt8} {header : DnsHeader} {questions : List DnsQuestion}
    {o o' : Nat} {message : DnsMessage} (run : parseRecords data header questions o = (.ok message, o')) :
    message.header = header ∧ message.questions = questions := by
  obtain ⟨_, _, _, run⟩ := Prog.bind_eq_ok.mp run
  obtain ⟨_, _, _, run⟩ := Prog.bind_eq_ok.mp run
  obtain ⟨_, _, _, run⟩ := Prog.bind_eq_ok.mp run
  cases run
  exact ⟨rfl, rfl⟩

theorem parseRecords_framed_iff {data : List UInt8} {header : DnsHeader}
    {questions : List DnsQuestion} {o o' : Nat} {message : DnsMessage}
    (run : parseRecords data header questions o = (.ok message, o')) :
    Framed data o message ↔ ¬ResumesInside data (sectionCounts header) o := by
  obtain ⟨answers, o₁, first, run⟩ := Prog.bind_eq_ok.mp run
  obtain ⟨authorities, o₂, second, run⟩ := Prog.bind_eq_ok.mp run
  obtain ⟨additional, o₃, third, run⟩ := Prog.bind_eq_ok.mp run
  cases run
  unfold Framed sectionCounts
  dsimp only
  rcases parseSection_framed first with ⟨framed, resumes⟩ | ⟨stop, error, framed, stuck, resumes⟩
  · rw [resumes]
    rcases parseSection_framed second with ⟨framed₁, resumes₁⟩ | ⟨stop, error, framed₁, stuck, resumes₁⟩
    · rw [resumes₁]
      rcases parseSection_framed third with ⟨framed₂, resumes₂⟩ | ⟨stop, error, framed₂, stuck, resumes₂⟩
      · rw [resumes₂]
        exact iff_of_true ⟨_, (framed.append framed₁).append framed₂⟩ fun ended => by cases ended
      · rw [resumes₂]
        exact iff_of_true ⟨_, (framed.append framed₁).append framed₂⟩ fun ended => by cases ended
    · rw [resumes₁]
      rcases parseSection_resumed third with ⟨none, resumes₂⟩ | ⟨some, resumes₂⟩
      · rw [none, List.append_nil, resumes₂]
        exact iff_of_true ⟨_, framed.append framed₁⟩ fun ended => by cases ended
      · refine iff_of_false ?_ (not_not_intro (resumes₂ []))
        rintro ⟨_, whole⟩
        exact some ((framed.append framed₁).append_stuck stuck whole)
  · rw [resumes, ← resumed_sections second third, List.append_assoc]
    constructor
    · rintro ⟨_, whole⟩
      exact framed.append_stuck stuck whole
    · intro none
      rw [none, List.append_nil]
      exact ⟨_, framed⟩

/-- The records of an accepted message are consecutive records from the offset behind the last
question exactly when no later section finds a record where a failed record stopped. -/
theorem parse_framed_iff {data : List UInt8} {message : DnsMessage}
    (accepted : parse data = .ok message) :
    ∃ o, RecordsStart data message.header message.questions o ∧
      (Framed data o message ↔ ¬ResumesInside data (sectionCounts message.header) o) := by
  rcases parse_cases data with ⟨error, refused, _⟩ | ⟨header, questions, o, start, records⟩
  · cases refused.symm.trans accepted
  · have run : parseRecords data header questions o =
        (.ok message, (parseRecords data header questions o).2) :=
      Prod.ext (records.symm.trans accepted) rfl
    obtain ⟨sameHeader, sameQuestions⟩ := parseRecords_keeps run
    rw [sameHeader, sameQuestions]
    exact ⟨o, start, parseRecords_framed_iff run⟩

/-- One answer, an A record whose RDATA of 15 bytes is refused, and one authority record, which is
then read from inside that RDATA: its owner is the root and its address 6.6.6.6. -/
def recordInsideRData : List UInt8 :=
  [0, 0, 0x80, 0, 0, 0, 0, 1, 0, 1, 0, 0] ++ [0, 0, 1, 0, 1, 0, 0, 0, 0, 0, 15] ++
    [0, 0, 1, 0, 1, 0, 0, 0, 9, 0, 4, 6, 6, 6, 6]

theorem parse_framed_at_recordInsideRData :
    ∃ message, parse recordInsideRData = .ok message ∧
      ∃ o, RecordsStart recordInsideRData message.header message.questions o ∧
        (Framed recordInsideRData o message ↔
          ¬ResumesInside recordInsideRData (sectionCounts message.header) o) :=
  ⟨_, rfl, parse_framed_iff rfl⟩

theorem parse_recordInsideRData_unframed :
    ∃ message o, parse recordInsideRData = .ok message ∧
      RecordsStart recordInsideRData message.header message.questions o ∧
      ¬Framed recordInsideRData o message := by
  refine ⟨_, 12, rfl, ⟨12, rfl, rfl⟩, ?_⟩
  rintro ⟨_, whole⟩
  have stuck : DnsRecord.parse recordInsideRData 12 =
      (.err (.parseError "Invalid A record length"), 23) := by decide +kernel
  have start : RecordRun recordInsideRData 12 [] 12 := .nil
  have none := start.append_stuck stuck whole
  cases none

end DnsMessage

end DnsServer
