import DnsServer.Dns.Message
import DnsServer.Dns.NameSpelling

namespace DnsServer

open Bytes Utf8

theorem RecordType.toU16_fromU16 (val : UInt16) : (fromU16 val).toU16 = val := by
  unfold fromU16
  split <;> first | rfl | exact UInt16.toNat_inj.mp (Eq.symm ‹_›)

theorem RecordClass.toU16_fromU16 (val : UInt16) : (fromU16 val).toU16 = val := by
  unfold fromU16
  split <;> first | rfl | exact UInt16.toNat_inj.mp (Eq.symm ‹_›)

theorem OpCode.toU8_fromU8 (val : UInt8) : (fromU8 val).toU8 = val := by
  unfold fromU8
  split <;> first | rfl | exact UInt8.toNat_inj.mp (Eq.symm ‹_›)

namespace DnsName

variable {data : List UInt8}

/-- Where the name that begins at a position ends: behind its zero byte, or behind its first pointer. -/
inductive Ends (data : List UInt8) : Nat → Nat → Prop
  | stop {pos : Nat} (inside : pos < data.length) : data[pos] = 0 → Ends data pos (pos + 1)
  | label {pos o' : Nat} (inside : pos < data.length) : 0 < data[pos].toNat → data[pos].toNat < 0xC0 →
      Ends data (pos + 1 + data[pos].toNat) o' → Ends data pos o'
  | pointer {pos : Nat} (inside : pos < data.length) (second : pos + 1 < data.length) :
      0xC0 ≤ data[pos].toNat → Ends data pos (pos + 2)

/-- The byte at a position decides how the name goes on there. -/
theorem Spells.unique {pos jumps : Nat} {raws raws' : List (List UInt8)} (spells : Spells data pos jumps raws)
    (other : Spells data pos jumps raws') : raws = raws' := by
  induction spells generalizing raws' with
  | stop inside zero =>
    cases other with
    | stop => rfl
    | label _ positive => exact absurd zero (not_zero_of_pos positive)
    | pointer _ tag => exact absurd zero (not_zero_of_pos (by omega))
  | label inside positive plain _ _ ih =>
    cases other with
    | stop _ zero => exact absurd zero (not_zero_of_pos positive)
    | label _ _ _ _ rest => rw [ih rest]
    | pointer _ tag => omega
  | pointer inside tag _ _ _ ih =>
    cases other with
    | stop _ zero => exact absurd zero (not_zero_of_pos (by omega))
    | label _ _ plain => omega
    | pointer _ _ _ _ rest => exact ih rest

theorem Ends.unique {pos o' o'' : Nat} (ends : Ends data pos o') (other : Ends data pos o'') : o' = o'' := by
  induction ends generalizing o'' with
  | stop inside zero =>
    cases other with
    | stop => rfl
    | label _ positive => exact absurd zero (not_zero_of_pos positive)
    | pointer _ _ tag => exact absurd zero (not_zero_of_pos (by omega))
  | label inside positive plain _ ih =>
    cases other with
    | stop _ zero => exact absurd zero (not_zero_of_pos positive)
    | label _ _ _ rest => exact ih rest
    | pointer _ _ tag => omega
  | pointer inside second tag =>
    cases other with
    | stop _ zero => exact absurd zero (not_zero_of_pos (by omega))
    | label _ _ plain => omega
    | pointer => rfl

/-- The loop leaves the caller's offset alone once it has jumped, and moves it to the end of the name
otherwise. -/
theorem ends_of_loop {fuel : Nat} {c : Cursor} {s s' : Nat} {name : DnsName}
    (read : Prog.loop (parseStep data) fuel c s = (.ok name, s')) :
    (c.jumped = true → s' = s) ∧ (c.jumped = false → Ends data c.current s') := by
  induction fuel generalizing c s with
  | zero => cases read
  | succ fuel ih =>
    obtain ⟨next, t, step, rest⟩ := Prog.bind_eq_ok.mp read
    cases advances_of_parseStep step with
    | stop inside zero =>
      cases rest
      exact ⟨fun jumped => by simp only [jumped, if_true], fun plainly => by
        simp only [plainly, Bool.false_eq_true, if_false]
        exact .stop inside zero⟩
    | label inside positive plain fits =>
      obtain ⟨stays, ends⟩ := ih rest
      exact ⟨stays, fun plainly => .label inside positive plain (ends plainly)⟩
    | pointer inside second tag near few =>
      have stays := (ih rest).1 rfl
      rw [stays]
      exact ⟨fun jumped => by simp only [jumped, if_true], fun plainly => by
        simp only [plainly, Bool.false_eq_true, if_false]
        exact .pointer inside second tag⟩

/-- A name that was read stands in the buffer, and the offset is moved to its end. -/
theorem parse_reads {o o' : Nat} {name : DnsName} (read : parse data o = (.ok name, o')) :
    ∃ raws, Spells data o 0 raws ∧ Ends data o o' ∧ name.labels = raws.map decodeLabel := by
  obtain ⟨raws, spells, labels⟩ := (parse_ok_iff o name).mp (congrArg Prod.fst read)
  exact ⟨raws, spells, (ends_of_loop read).2 rfl, labels⟩

/-- The labels that stand in the buffer and the place where they end are what reading the name gives. -/
theorem parse_of_spells {o o' : Nat} {raws : List (List UInt8)} (spells : Spells data o 0 raws)
    (ends : Ends data o o') : parse data o = (.ok ⟨raws.map decodeLabel⟩, o') := by
  have named := (parse_ok_iff o ⟨raws.map decodeLabel⟩).mpr ⟨raws, spells, rfl⟩
  obtain ⟨_, _, ends', _⟩ := parse_reads (Prod.ext named rfl)
  exact Prod.ext named (ends'.unique ends)

theorem ends_labels {raws : List (List UInt8)} {rest : List UInt8} {o o' : Nat} (sized : Sized raws)
    (more : rest ≠ []) (held : Holds data o (labelsWire raws ++ rest))
    (ends : Ends data (o + (labelsWire raws).length) o') : Ends data o o' := by
  induction raws generalizing o with
  | nil => exact ends
  | cons raw raws ih =>
    obtain ⟨inside, positive, plain, _, _, behind, same⟩ := held_label sized more held
    rw [← same] at ends
    exact .label inside positive plain
      (ih (fun raw member => sized raw (List.mem_cons_of_mem _ member)) behind ends)

theorem ends_wireOf {raws : List (List UInt8)} {o : Nat} (sized : Sized raws)
    (held : Holds data o (wireOf raws)) : Ends data o (o + (wireOf raws).length) := by
  obtain ⟨_, last⟩ := Holds.append_iff.mp held
  have inside := last.length_le (List.cons_ne_nil _ _)
  have size : o + (wireOf raws).length = o + (labelsWire raws).length + 1 := by
    rw [wireOf, List.length_append, ← Nat.add_assoc]
    rfl
  rw [size]
  exact ends_labels sized (List.cons_ne_nil _ _) held (.stop inside (last.getElem inside))

end DnsName

/-- A question as it stands on the wire, with the bytes of its labels. -/
structure WireQuestion where
  raws : List (List UInt8)
  recordType : UInt16
  recordClass : UInt16
  deriving DecidableEq, Repr

namespace WireQuestion

def bytes (question : WireQuestion) : List UInt8 :=
  DnsName.wireOf question.raws ++ (toBe16 question.recordType ++ toBe16 question.recordClass)

/-- What reading the question gives. -/
def decode (question : WireQuestion) : DnsQuestion :=
  ⟨⟨question.raws.map DnsName.decodeLabel⟩, .fromU16 question.recordType, .fromU16 question.recordClass⟩

/-- The question after it was read and written again. -/
def echo (question : WireQuestion) : WireQuestion :=
  { question with raws := question.raws.map fun raw => asBytes (DnsName.decodeLabel raw) }

theorem serialize_decode (question : WireQuestion) : question.decode.serialize = question.echo.bytes := by
  simp only [DnsQuestion.serialize, decode, bytes, echo, DnsName.toWire, DnsName.wireOf, DnsName.labelWire, byteLen,
    List.flatMap_map, RecordType.toU16_fromU16, RecordClass.toU16_fromU16]

end WireQuestion

/-- The questions that stand in the buffer from an offset on, one after the other. -/
inductive Asks (data : List UInt8) : Nat → List WireQuestion → Prop
  | done {o : Nat} : Asks data o []
  | next {o o' : Nat} {raws : List (List UInt8)} {rest : List WireQuestion} : DnsName.Spells data o 0 raws →
      DnsName.Ends data o o' → o' + 4 ≤ data.length → Asks data (o' + 4) rest →
      Asks data o (⟨raws, word16 data o', word16 data (o' + 2)⟩ :: rest)

namespace Asks

variable {data : List UInt8} {o : Nat}

theorem unique {wire wire' : List WireQuestion} (asks : Asks data o wire) (other : Asks data o wire')
    (count : wire.length = wire'.length) : wire = wire' := by
  induction asks generalizing wire' with
  | done => exact (List.length_eq_zero_iff.mp count.symm).symm
  | next spells ends _ _ ih =>
    cases other with
    | done => cases count
    | next spells' ends' _ rest =>
      obtain rfl := ends.unique ends'
      rw [spells.unique spells', ih rest (Nat.succ.inj count)]

theorem of_parseQuestions {count o' : Nat} {questions : List DnsQuestion}
    (read : DnsMessage.parseQuestions data count o = (.ok questions, o')) :
    ∃ wire, Asks data o wire ∧ wire.length = count ∧ questions = wire.map WireQuestion.decode := by
  induction count generalizing o questions with
  | zero =>
    cases read
    exact ⟨[], .done, rfl, rfl⟩
  | succ count ih =>
    obtain ⟨question, o₁, first, more⟩ := Prog.bind_eq_ok.mp read
    obtain ⟨others, o₂, further, back⟩ := Prog.bind_eq_ok.mp more
    cases back
    obtain ⟨name, o₃, named, first⟩ := Prog.bind_eq_ok.mp first
    obtain ⟨_, _, located, first⟩ := Prog.bind_eq_ok.mp first
    cases located
    by_cases short : o₃ + 4 > data.length
    · rw [if_pos short] at first
      cases first
    · rw [if_neg short, Prog.bind_ok (u16At_apply (by omega) o₃), Prog.bind_ok (u16At_apply (by omega) o₃)] at first
      cases first
      obtain ⟨raws, spells, ends, labels⟩ := DnsName.parse_reads named
      obtain ⟨wire, asks, size, decoded⟩ := ih further
      refine ⟨_, .next spells ends (by omega) asks, congrArg Nat.succ size, ?_⟩
      rw [List.map_cons, ← decoded, WireQuestion.decode, ← labels]

theorem of_bytes {wire : List WireQuestion} (sized : ∀ question ∈ wire, DnsName.Sized question.raws)
    (held : Holds data o (wire.flatMap WireQuestion.bytes)) : Asks data o wire := by
  induction wire generalizing o with
  | nil => exact .done
  | cons question wire ih =>
    obtain ⟨raws, recordType, recordClass⟩ := question
    rw [List.flatMap_cons, WireQuestion.bytes, List.append_assoc, List.append_assoc] at held
    obtain ⟨name, held⟩ := Holds.append_iff.mp held
    obtain ⟨type, held⟩ := Holds.u16_append_iff.mp held
    obtain ⟨class', rest⟩ := Holds.u16_append_iff.mp held
    have named := sized _ List.mem_cons_self
    have room := class'.length_le (by simp [toBe16])
    rw [toBe16_length] at room
    have typed : word16 data (o + (DnsName.wireOf raws).length) = recordType := by
      have read := (u16At_apply (σ := Unit) (ε := Unit) (by omega) ()).symm.trans (type.u16 ())
      exact Outcome.ok.inj (congrArg Prod.fst read)
    have classed : word16 data (o + (DnsName.wireOf raws).length + 2) = recordClass := by
      have read := (u16At_apply (σ := Unit) (ε := Unit) (by omega) ()).symm.trans (class'.u16 ())
      exact Outcome.ok.inj (congrArg Prod.fst read)
    have asks := Asks.next (DnsName.spells_wireOf named name) (DnsName.ends_wireOf named name) room
      (ih (fun question member => sized question (List.mem_cons_of_mem _ member)) rest)
    rwa [typed, classed] at asks

end Asks

end DnsServer
