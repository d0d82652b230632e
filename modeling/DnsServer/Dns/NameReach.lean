import DnsServer.Dns.QuestionWire
import DnsServer.Lib.Fronts

namespace DnsServer

open Bytes

namespace DnsName

/-- The name at a position is read to its end, or to the pointer that is one too many, without a look
behind these bytes, when so many pointers have been followed on the way there. -/
inductive StaysWithin (front : List UInt8) : Nat → Nat → Prop
  | stop {pos jumps : Nat} (inside : pos < front.length) : front[pos] = 0 → StaysWithin front pos jumps
  | label {pos jumps : Nat} (inside : pos < front.length) : 0 < front[pos].toNat → front[pos].toNat < 0xC0 →
      pos + 1 + front[pos].toNat ≤ front.length → StaysWithin front (pos + 1 + front[pos].toNat) jumps →
      StaysWithin front pos jumps
  | pointer {pos jumps : Nat} (inside : pos < front.length) (second : pos + 1 < front.length) :
      0xC0 ≤ front[pos].toNat → target front[pos] front[pos + 1] < front.length → jumps < MAX_JUMPS →
      StaysWithin front (target front[pos] front[pos + 1]) (jumps + 1) → StaysWithin front pos jumps
  | tooMany {pos jumps : Nat} (inside : pos < front.length) (second : pos + 1 < front.length) :
      0xC0 ≤ front[pos].toNat → target front[pos] front[pos + 1] < front.length → MAX_JUMPS ≤ jumps →
      StaysWithin front pos jumps

variable {front data : List UInt8}

section Agreement

variable {c : Cursor} {s : Nat}

/-- A round does the same in a buffer that goes on behind these bytes. -/
theorem StaysWithin.step (stays : StaysWithin front c.current c.jumps) (begins : front <+: data) (s : Nat) :
    parseStep data c s = parseStep front c s := by
  have longer := begins.length_le
  obtain ⟨before, jumped, pos, jumps⟩ := c
  let c : Cursor := ⟨before, jumped, pos, jumps⟩
  change StaysWithin front pos jumps at stays
  cases stays with
  | stop inside zero =>
    have within : c.current < data.length := inside.trans_le longer
    have zero' : data[c.current] = 0 := (begins.getElem inside).symm.trans zero
    rw [parseStep_end (c := c) inside zero s, parseStep_end within zero' s]
  | label inside positive plain fits =>
    have within : c.current < data.length := inside.trans_le longer
    have same : data[c.current] = front[pos] := (begins.getElem inside).symm
    have step := parseStep_label (c := c) inside positive plain s
    have step' := parseStep_label (c := c) within (by rwa [same]) (by rwa [same]) s
    rw [if_neg (not_lt.mpr fits)] at step
    rw [same, take_drop_extends begins fits, if_neg (not_lt.mpr (fits.trans longer))] at step'
    exact step'.trans step.symm
  | pointer _ inside tag near | tooMany _ inside tag near =>
    have within : c.current + 1 < data.length := inside.trans_le longer
    have high : data[c.current] = front[pos] := (begins.getElem _).symm
    have low : data[c.current + 1] = front[pos + 1] := (begins.getElem inside).symm
    have step := parseStep_pointer (c := c) inside tag s
    have step' := parseStep_pointer (c := c) within (by rwa [high]) s
    rw [if_neg (not_le.mpr near)] at step
    rw [high, low, if_neg (not_le.mpr (near.trans_le longer))] at step'
    exact step'.trans step.symm

theorem StaysWithin.next {next : Cursor} {s' : Nat} (stays : StaysWithin front c.current c.jumps)
    (advances : Advances front c s (.inl next) s') : StaysWithin front next.current next.jumps := by
  obtain ⟨before, jumped, pos, jumps⟩ := c
  change StaysWithin front pos jumps at stays
  cases advances with
  | label inside positive plain =>
    dsimp only at positive plain
    cases stays with
    | stop _ zero => exact absurd zero (not_zero_of_pos positive)
    | label _ _ _ _ rest => exact rest
    | pointer _ _ tag => omega
    | tooMany _ _ tag => omega
  | pointer inside second tag near few =>
    dsimp only at tag few
    cases stays with
    | stop _ zero => exact absurd zero (not_zero_of_pos (by omega))
    | label _ _ plain => omega
    | pointer _ _ _ _ _ rest => exact rest
    | tooMany _ _ _ _ many => omega

/-- The whole name is read alike, though the longer buffer has more fuel. -/
theorem StaysWithin.parse {o : Nat} (stays : StaysWithin front o 0) (begins : front <+: data) :
    DnsName.parse data o = DnsName.parse front o := by
  have longer := begins.length_le
  have enough := remaining_start front.length o
  refine Prog.loop_agree (Cursor.remaining front.length) (fun c s stays => StaysWithin.step stays begins s)
    (fun c next s s' stays step => ?_) stays (by omega) enough o
  have advances := advances_of_parseStep step
  exact ⟨stays.next advances, advances.remaining_lt⟩

end Agreement

/-- The errors of a reader that has come to the end of the buffer. -/
def Early (error : DnsError) : Prop := error = .bufferTooShort ∨ error = .invalidPointer

/-- The outcome is not for want of a longer buffer. -/
def Late {α : Type} (out : Outcome DnsError α) : Prop := ∀ error, out = .err error → ¬Early error

theorem Late.ok {α : Type} (a : α) : Late (.ok a : Outcome DnsError α) := fun _ failed => by cases failed

theorem Late.panic {α : Type} : Late (.panic : Outcome DnsError α) := fun _ failed => by cases failed

/-- A name that is read without coming to the end of the buffer stays within it. -/
theorem staysWithin_of_loop {fuel : Nat} {c : Cursor} {s : Nat} (enough : c.remaining front.length < fuel)
    (late : Late (Prog.loop (parseStep front) fuel c s).1) : StaysWithin front c.current c.jumps := by
  induction fuel generalizing c s with
  | zero => exact absurd enough (Nat.not_lt_zero _)
  | succ fuel ih =>
    rw [Prog.loop] at late
    rcases parseStep_cases c s with ⟨next, s', step, advances⟩ | ⟨error, s', step, fails⟩
    · rw [Prog.bind_ok step] at late
      rcases next with next | name
      · have rest := ih (by have less := advances.remaining_lt; omega) late
        cases advances with
        | label inside positive plain fits => exact .label inside positive plain fits rest
        | pointer inside second tag near few => exact .pointer inside second tag near few rest
      · cases advances with
        | stop inside zero => exact .stop inside zero
    · rw [Prog.bind_err step] at late
      cases fails with
      | tooMany inside second tag near many => exact .tooMany inside second tag near many
      | far => exact absurd (Or.inr rfl) (late _ rfl)
      | _ => exact absurd (Or.inl rfl) (late _ rfl)

theorem staysWithin_of_parse {o : Nat} (late : Late (parse front o).1) : StaysWithin front o 0 :=
  staysWithin_of_loop (remaining_start front.length o) late

/-- These bytes and so many zeros behind them that every pointer leads into the buffer. -/
def padded (front : List UInt8) : List UInt8 := front ++ List.replicate 16384 0

theorem begins_padded : front <+: padded front := List.prefix_append _ _

theorem padded_length : (padded front).length = front.length + 16384 := by
  rw [padded, List.length_append, List.length_replicate]

theorem padded_zero {i : Nat} (inside : i < (padded front).length) (behind : front.length ≤ i) :
    (padded front)[i] = 0 :=
  (List.getElem_append_right behind).trans (List.getElem_replicate _)

theorem padded_inside {i : Nat} (inside : i < (padded front).length) (some : 0 < (padded front)[i].toNat) :
    i < front.length := by
  by_contra behind
  exact not_zero_of_pos some (padded_zero inside (not_lt.mp behind))

theorem target_lt (high low : UInt8) : target high low < 16384 := by
  have six : high.toNat &&& 0x3F < 2 ^ 6 := Nat.and_lt_two_pow _ (by decide)
  have shifted : (high.toNat &&& 0x3F) <<< 8 < 2 ^ 14 := by
    rw [Nat.shiftLeft_eq]
    omega
  exact Nat.or_lt_two_pow shifted (low.toNat_lt.trans (by decide))

/-- A name in a padded buffer ends no further than a byte behind the bound, unless it follows too many
pointers. -/
def EndsBy (bound : Nat) : Outcome DnsError DnsName → Nat → Prop
  | .ok _, s => s ≤ bound + 1
  | .err error, _ => error = .pointerLoop
  | _, _ => True

/-- No label and no pointer begins among the zeros, so the loop never comes to their end. -/
theorem loop_padded {bound fuel : Nat} (low : front.length + 191 ≤ bound) (high : bound < front.length + 16384)
    {c : Cursor} {s : Nat} (inside : c.current < (padded front).length)
    (jumped : c.jumped = true → s ≤ bound + 1) (plainly : c.jumped = false → c.current ≤ bound) :
    EndsBy bound (Prog.loop (parseStep (padded front)) fuel c s).1
      (Prog.loop (parseStep (padded front)) fuel c s).2 := by
  have size : (padded front).length = front.length + 16384 := padded_length
  induction fuel generalizing c s with
  | zero => trivial
  | succ fuel ih =>
    have leaves : ∀ next, (c.jumped = false → next ≤ bound + 1) → (if c.jumped then s else next) ≤ bound + 1 := by
      intro next ahead
      split
      · exact jumped ‹_›
      · exact ahead (Bool.not_eq_true _ ▸ ‹_›)
    rw [Prog.loop]
    rcases parseStep_cases c s with ⟨next, s', step, advances⟩ | ⟨error, s', step, fails⟩
    · rw [Prog.bind_ok step]
      cases advances with
      | stop => exact leaves _ fun plain => Nat.succ_le_succ (plainly plain)
      | label _ positive plain fits =>
        have held := padded_inside inside positive
        have next : c.current + 1 + (padded front)[c.current].toNat ≤ bound := by omega
        exact ih (by dsimp only; omega) jumped fun _ => next
      | pointer _ second tag near few =>
        have held := padded_inside inside (by omega)
        exact ih near (fun _ => leaves _ fun _ => by omega) fun plain => by cases plain
    · rw [Prog.bind_err step]
      cases fails with
      | outside outside => omega
      | cutPointer _ tag last =>
        have held := padded_inside inside (by omega)
        omega
      | cutLabel _ positive plain cut =>
        have held := padded_inside inside positive
        omega
      | far _ _ _ far =>
        have leads := target_lt (padded front)[c.current] (padded front)[c.current + 1]
        omega
      | tooMany => rfl

/-- What follows a name in a padded buffer decides whether the whole reading is late. -/
theorem late_padded {α : Type} {f : DnsName → Parser α} {bound o : Nat} (low : front.length + 191 ≤ bound)
    (high : bound < front.length + 16384) (start : o ≤ bound)
    (rest : ∀ name s, s ≤ bound + 1 → Late (f name s).1) : Late ((parse (padded front) >>= f) o).1 := by
  have ends : EndsBy bound (parse (padded front) o).1 (parse (padded front) o).2 :=
    loop_padded low high (by rw [padded_length]; dsimp only; omega) (fun jumped => by cases jumped) fun _ => start
  have leaves := parse_leaves (padded front) o
  rcases run : parse (padded front) o with ⟨name | error | _ | _, s⟩ <;> rw [run] at ends leaves
  · rw [Prog.bind_ok run]
    exact rest name s ends
  · rw [Prog.bind_err run]
    intro _ failed
    cases failed
    rw [show error = .pointerLoop from ends]
    rintro (early | early) <;> cases early
  · exact leaves.elim
  · exact leaves.elim

/-- A reading that begins with a name is fixed by the bytes before some end exactly when the name stays
within them and what follows it is fixed by them too. -/
theorem fixedBy_name_iff {α : Type} {f : List UInt8 → DnsName → Parser α} {o : Nat} (start : o ≤ front.length)
    (late : ∀ name s, s ≤ front.length + 192 → Late (f (padded front) name s).1) :
    FixedBy front (fun data => ((parse data >>= f data) o).1) ↔
      StaysWithin front o 0 ∧ ∀ name s, parse front o = (.ok name, s) →
        FixedBy front fun data => (f data name s).1 := by
  constructor
  · intro fixed
    have whole : Late (parse front o).1 := by
      have far : Late ((parse (padded front) >>= f (padded front)) o).1 :=
        late_padded le_rfl (by omega) (by omega) late
      have same : ((parse (padded front) >>= f (padded front)) o).1 = ((parse front >>= f front) o).1 :=
        fixed (padded front) front begins_padded List.prefix_rfl
      intro error failed
      have stopped := congrArg Prod.fst (Prog.bind_err (f := f front) (Prod.ext failed rfl))
      exact far error (same.trans stopped)
    have stays := staysWithin_of_parse whole
    refine ⟨stays, fun name s read => (FixedBy.iff_of_eq fun data begins => ?_).mp fixed⟩
    rw [Prog.bind_ok ((stays.parse begins).trans read)]
  · rintro ⟨stays, rest⟩ data data' begins begins'
    have same := stays.parse begins
    have same' := stays.parse begins'
    rcases run : parse front o with ⟨name | error | _ | _, s⟩ <;> rw [run] at same same'
    · dsimp only
      rw [Prog.bind_ok same, Prog.bind_ok same']
      exact rest name s run data data' begins begins'
    · dsimp only
      rw [Prog.bind_err same, Prog.bind_err same']
    · dsimp only
      rw [Prog.bind_panic same, Prog.bind_panic same']
    · dsimp only
      rw [Prog.bind_hang same, Prog.bind_hang same']

end DnsName

end DnsServer
