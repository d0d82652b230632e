import DnsServer.Lib.Bytes
import DnsServer.Lib.Lowercase
import DnsServer.Lib.Rounds
import Mathlib.Algebra.GroupWithZero.Nat

namespace DnsServer

open Bytes Utf8 Lowercase

/-- The errors the modelled functions raise. -/
inductive DnsError where
  | parseError (message : String)
  | nameTooLong
  | labelTooLong
  | bufferTooShort
  | invalidPointer
  | pointerLoop
  deriving DecidableEq, Repr

/-- A reader of a message: the state is the offset that the source passes as `&mut usize`. -/
abbrev Parser := Prog Nat DnsError

def seek (offset : Nat) : Parser Unit := Prog.set offset

def position : Parser Nat := Prog.get

structure DnsName where
  labels : List String
  deriving DecidableEq, Repr

namespace DnsName

def root : DnsName := ⟨[]⟩

def labelCount (name : DnsName) : Nat := name.labels.length

/-- `strip_suffix('.').unwrap_or(name)`. -/
def stripDot (name : List Char) : List Char :=
  if name.getLast? = some '.' then name.dropLast else name

def new (name : String) : Except DnsError DnsName :=
  if name = "" ∨ name = "." then .ok root
  else
    let labels := ((stripDot name.toList).splitOn '.').map fun l => toLowercase (String.ofList l)
    if labels.any (fun label => byteLen label > 63) then .error .labelTooLong
    else if (labels.map fun l => byteLen l + 1).sum + 1 > 255 then .error .nameTooLong
    else .ok ⟨labels⟩

def parent (name : DnsName) : Option DnsName :=
  if name.labels.length ≤ 1 then
    if name.labels.isEmpty then none else some root
  else some ⟨name.labels.drop 1⟩

def isSubdomainOf (name other : DnsName) : Bool :=
  if name.labels.length < other.labels.length then false
  else name.labels.drop (name.labels.length - other.labels.length) = other.labels

/-- A label on the wire: `label.len() as u8`, then its bytes. -/
def labelWire (label : String) : List UInt8 := UInt8.ofNat (byteLen label) :: asBytes label

def toWire (name : DnsName) : List UInt8 := name.labels.flatMap labelWire ++ [0]

def MAX_JUMPS : Nat := 128

/-- The local variables of the loop in `parse`. -/
structure Cursor where
  labels : List String
  jumped : Bool
  current : Nat
  jumps : Nat

/-- `if !jumped { *offset = next }`: only what stands before the first pointer moves the caller. -/
def Cursor.leave (c : Cursor) (next : Nat) : Parser Unit :=
  if c.jumped then pure () else seek next

/-- One round of the loop: the end of the name, a compression pointer, or a label. -/
def parseStep (data : List UInt8) (c : Cursor) : Parser (Cursor ⊕ DnsName) :=
  if c.current ≥ data.length then Prog.fail .bufferTooShort
  else do
    let len := (← byteAt data c.current).toNat
    if len = 0 then
      c.leave (c.current + 1)
      return .inr ⟨c.labels⟩
    else if len &&& 0xC0 = 0xC0 then
      if c.current + 1 ≥ data.length then Prog.fail .bufferTooShort
      else
        -- the caller's offset moves before the pointer is found to be valid
        c.leave (c.current + 2)
        let low ← byteAt data (c.current + 1)
        let pointer := ((len &&& 0x3F) <<< 8) ||| low.toNat
        if pointer ≥ data.length then Prog.fail .invalidPointer
        else if c.jumps + 1 > MAX_JUMPS then Prog.fail .pointerLoop
        else return .inl ⟨c.labels, true, pointer, c.jumps + 1⟩
    else
      let start := c.current + 1
      if start + len > data.length then Prog.fail .bufferTooShort
      else
        let bytes ← slice data start (start + len)
        return .inl ⟨c.labels ++ [toLowercase (fromUtf8Lossy bytes)], c.jumped, start + len, c.jumps⟩

/-- The fuel exceeds the rounds the loop can take, so it never runs out. -/
def parse (data : List UInt8) : Parser DnsName := do
  let start ← position
  Prog.loop (parseStep data) (129 * (data.length + 1)) ⟨[], false, start, 0⟩

theorem pointerTag_iff : ∀ len < 256, len &&& 0xC0 = 0xC0 ↔ 0xC0 ≤ len := by
  decide +kernel

theorem Cursor.leave_apply (c : Cursor) (next s : Nat) :
    c.leave next s = (.ok (), if c.jumped then s else next) := by
  unfold leave
  split <;> rfl

section Rounds

variable {data : List UInt8} {c : Cursor}

theorem parseStep_outside (outside : data.length ≤ c.current) (s : Nat) :
    parseStep data c s = (.err .bufferTooShort, s) := by
  simp only [parseStep, ge_iff_le, outside, if_true, Prog.fail_apply]

theorem parseStep_end (inside : c.current < data.length) (zero : data[c.current] = 0) (s : Nat) :
    parseStep data c s = (.ok (.inr ⟨c.labels⟩), if c.jumped then s else c.current + 1) := by
  rw [parseStep, if_neg (by omega), Prog.bind_ok (byteAt_apply inside s), zero]
  simp only [UInt8.toNat_zero, if_true]
  rw [Prog.bind_ok (c.leave_apply _ s), Prog.pure_apply]

theorem parseStep_label (inside : c.current < data.length) (positive : 0 < data[c.current].toNat)
    (plain : data[c.current].toNat < 0xC0) (s : Nat) :
    parseStep data c s =
      if c.current + 1 + data[c.current].toNat > data.length then (.err .bufferTooShort, s)
      else (.ok (.inl ⟨c.labels ++ [toLowercase (fromUtf8Lossy
        ((data.drop (c.current + 1)).take data[c.current].toNat))], c.jumped,
        c.current + 1 + data[c.current].toNat, c.jumps⟩), s) := by
  have tag := (pointerTag_iff _ data[c.current].toNat_lt).not.mpr (by omega)
  rw [parseStep, if_neg (by omega), Prog.bind_ok (byteAt_apply inside s)]
  simp only [show data[c.current].toNat ≠ 0 by omega, tag, if_false]
  split
  · rfl
  · rw [Prog.bind_ok (slice_apply (by omega) (by omega) s), Nat.add_sub_cancel_left]
    rfl

/-- Where a pointer leads: the low six bits of its first byte over its second byte. -/
def target (high low : UInt8) : Nat := ((high.toNat &&& 0x3F) <<< 8) ||| low.toNat

theorem parseStep_pointer_short (inside : c.current < data.length) (last : c.current + 1 = data.length)
    (tag : 0xC0 ≤ data[c.current].toNat) (s : Nat) :
    parseStep data c s = (.err .bufferTooShort, s) := by
  have pointer := (pointerTag_iff _ data[c.current].toNat_lt).mpr tag
  rw [parseStep, if_neg (by omega), Prog.bind_ok (byteAt_apply inside s)]
  simp only [show data[c.current].toNat ≠ 0 by omega, pointer, if_true, if_false, last,
    ge_iff_le, le_refl, Prog.fail_apply]

theorem parseStep_pointer (inside : c.current + 1 < data.length)
    (tag : 0xC0 ≤ data[c.current].toNat) (s : Nat) :
    parseStep data c s =
      (if target data[c.current] data[c.current + 1] ≥ data.length then .err .invalidPointer
      else if c.jumps + 1 > MAX_JUMPS then .err .pointerLoop
      else .ok (.inl ⟨c.labels, true, target data[c.current] data[c.current + 1], c.jumps + 1⟩),
        if c.jumped then s else c.current + 2) := by
  have pointer := (pointerTag_iff _ data[c.current].toNat_lt).mpr tag
  rw [parseStep, if_neg (by omega), Prog.bind_ok (byteAt_apply (by omega) s)]
  simp only [show data[c.current].toNat ≠ 0 by omega, pointer, if_true, if_false]
  rw [if_neg (by omega), Prog.bind_ok (c.leave_apply _ s), Prog.bind_ok (byteAt_apply inside _)]
  change (if target data[c.current] data[c.current + 1] ≥ data.length then _ else _ : Parser _) _ = _
  by_cases far : target data[c.current] data[c.current + 1] ≥ data.length
  · simp only [far, if_true, Prog.fail_apply]
  by_cases many : c.jumps + 1 > MAX_JUMPS
  · simp only [far, many, if_true, if_false, Prog.fail_apply]
  · simp only [far, many, if_false]
    rfl

/-- What the bytes of a label become: lossy UTF-8, and then the lower case. -/
def decodeLabel (raw : List UInt8) : String := toLowercase (fromUtf8Lossy raw)

/-- What a round has done that came back with a value: it was at the end of the name, it followed a
pointer, or it read a label. -/
inductive Advances (data : List UInt8) (c : Cursor) (s : Nat) : Cursor ⊕ DnsName → Nat → Prop
  | stop (inside : c.current < data.length) : data[c.current] = 0 →
      Advances data c s (.inr ⟨c.labels⟩) (if c.jumped then s else c.current + 1)
  | label (inside : c.current < data.length) : 0 < data[c.current].toNat → data[c.current].toNat < 0xC0 →
      c.current + 1 + data[c.current].toNat ≤ data.length →
      Advances data c s (.inl ⟨c.labels ++ [decodeLabel ((data.drop (c.current + 1)).take
        data[c.current].toNat)], c.jumped, c.current + 1 + data[c.current].toNat, c.jumps⟩) s
  | pointer (inside : c.current < data.length) (second : c.current + 1 < data.length) :
      0xC0 ≤ data[c.current].toNat → target data[c.current] data[c.current + 1] < data.length →
      c.jumps < MAX_JUMPS →
      Advances data c s (.inl ⟨c.labels, true, target data[c.current] data[c.current + 1], c.jumps + 1⟩)
        (if c.jumped then s else c.current + 2)

/-- Why a round failed: there were no bytes left for what it reads, a pointer led out of the buffer, or it
was one pointer too many. -/
inductive Fails (data : List UInt8) (c : Cursor) (s : Nat) : DnsError → Nat → Prop
  | outside : data.length ≤ c.current → Fails data c s .bufferTooShort s
  | cutPointer (inside : c.current < data.length) : 0xC0 ≤ data[c.current].toNat →
      c.current + 1 = data.length → Fails data c s .bufferTooShort s
  | cutLabel (inside : c.current < data.length) : 0 < data[c.current].toNat → data[c.current].toNat < 0xC0 →
      data.length < c.current + 1 + data[c.current].toNat → Fails data c s .bufferTooShort s
  | far (inside : c.current < data.length) (second : c.current + 1 < data.length) :
      0xC0 ≤ data[c.current].toNat → data.length ≤ target data[c.current] data[c.current + 1] →
      Fails data c s .invalidPointer (if c.jumped then s else c.current + 2)
  | tooMany (inside : c.current < data.length) (second : c.current + 1 < data.length) :
      0xC0 ≤ data[c.current].toNat → target data[c.current] data[c.current + 1] < data.length →
      MAX_JUMPS ≤ c.jumps → Fails data c s .pointerLoop (if c.jumped then s else c.current + 2)

/-- All that a round can do. -/
theorem parseStep_cases (c : Cursor) (s : Nat) :
    (∃ next s', parseStep data c s = (.ok next, s') ∧ Advances data c s next s') ∨
      ∃ error s', parseStep data c s = (.err error, s') ∧ Fails data c s error s' := by
  rcases Nat.lt_or_ge c.current data.length with inside | outside
  · by_cases zero : data[c.current] = 0
    · exact Or.inl ⟨_, _, parseStep_end inside zero s, .stop inside zero⟩
    have positive : 0 < data[c.current].toNat := by
      have nonzero : data[c.current].toNat ≠ 0 := fun none => zero (UInt8.toNat_inj.mp none)
      omega
    by_cases tag : 0xC0 ≤ data[c.current].toNat
    · by_cases last : c.current + 1 = data.length
      · exact Or.inr ⟨_, _, parseStep_pointer_short inside last tag s, .cutPointer inside tag last⟩
      have second : c.current + 1 < data.length := by omega
      have step := parseStep_pointer second tag s
      by_cases far : target data[c.current] data[c.current + 1] ≥ data.length
      · rw [if_pos far] at step
        exact Or.inr ⟨_, _, step, .far inside second tag far⟩
      by_cases many : c.jumps + 1 > MAX_JUMPS
      · rw [if_neg far, if_pos many] at step
        exact Or.inr ⟨_, _, step, .tooMany inside second tag (by omega) (by omega)⟩
      · rw [if_neg far, if_neg many] at step
        exact Or.inl ⟨_, _, step, .pointer inside second tag (by omega) (by omega)⟩
    · have step := parseStep_label inside positive (by omega) s
      by_cases cut : c.current + 1 + data[c.current].toNat > data.length
      · rw [if_pos cut] at step
        exact Or.inr ⟨_, _, step, .cutLabel inside positive (by omega) cut⟩
      · rw [if_neg cut] at step
        exact Or.inl ⟨_, _, step, .label inside positive (by omega) (by omega)⟩
  · exact Or.inr ⟨_, _, parseStep_outside outside s, .outside outside⟩

theorem advances_of_parseStep {s s' : Nat} {next : Cursor ⊕ DnsName}
    (run : parseStep data c s = (.ok next, s')) : Advances data c s next s' := by
  rcases parseStep_cases c s with ⟨next', t, step, advances⟩ | ⟨error, t, step, _⟩
  · cases run.symm.trans step
    exact advances
  · cases run.symm.trans step

/-- Each round that goes on leaves fewer jumps, or as many jumps and fewer bytes ahead. -/
theorem Advances.descends {s s' : Nat} {next : Cursor} (advances : Advances data c s (.inl next) s') :
    Prod.Lex (· < ·) (· < ·) (MAX_JUMPS - next.jumps, data.length - next.current)
      (MAX_JUMPS - c.jumps, data.length - c.current) := by
  cases advances with
  | label inside => exact .right _ (by dsimp only; omega)
  | pointer inside second tag near few => exact .left _ _ (by dsimp only; omega)

/-- Rounds left: the jumps still allowed, then the bytes still ahead. -/
def Cursor.remaining (size : Nat) (c : Cursor) : Nat :=
  (MAX_JUMPS - c.jumps) * (size + 1) + (size - c.current)

theorem remaining_start (size o : Nat) : Cursor.remaining size ⟨[], false, o, 0⟩ < 129 * (size + 1) := by
  simp only [Cursor.remaining, MAX_JUMPS]
  omega

theorem Advances.remaining_lt {s s' : Nat} {next : Cursor} (advances : Advances data c s (.inl next) s') :
    next.remaining data.length < c.remaining data.length :=
  Prog.lexRank_lt (Nat.sub_le _ _) advances.descends

end Rounds

/-- The caller's offset while the name that starts at `o` is read. -/
def Cursor.Offset (data : List UInt8) (o : Nat) (c : Cursor) (s : Nat) : Prop :=
  if c.jumped then o < s ∧ s ≤ data.length else s = o ∧ o ≤ c.current

/-- Where a call that started at `o` may leave the caller's offset. It neither panics nor hangs. -/
def Leaves (data : List UInt8) (o : Nat) : Outcome DnsError DnsName → Nat → Prop
  | .ok _, s => o < s ∧ s ≤ data.length
  | .err _, s => o ≤ s
  | .panic, _ => False
  | .hang, _ => False

theorem parseStep_round (data : List UInt8) (o : Nat) (c : Cursor) :
    Prog.Triple (c.Offset data o) (parseStep data c)
      (Prog.Round (fun c' s => c'.Offset data o s ∧ c'.remaining data.length < c.remaining data.length)
        (Leaves data o)) := by
  intro s offset
  have stays : o ≤ s := by
    unfold Cursor.Offset at offset
    split at offset <;> omega
  have leaves : ∀ next, c.current < next → next ≤ data.length →
      o < (if c.jumped then s else next) ∧ (if c.jumped then s else next) ≤ data.length := by
    intro next above bound
    cases jumped : c.jumped
    · simp only [Cursor.Offset, jumped, Bool.false_eq_true, if_false] at offset ⊢
      omega
    · simpa only [Cursor.Offset, jumped, if_true] using offset
  rcases parseStep_cases c s with ⟨next, s', step, advances⟩ | ⟨error, s', step, fails⟩ <;> rw [step]
  · cases advances with
    | stop inside => exact leaves _ (Nat.lt_succ_self _) inside
    | label inside positive plain fits =>
      refine ⟨?_, (Advances.label (s := s) inside positive plain fits).remaining_lt⟩
      cases jumped : c.jumped
      · simp only [Cursor.Offset, jumped, Bool.false_eq_true, if_false] at offset ⊢
        omega
      · simpa only [Cursor.Offset, jumped, if_true] using offset
    | pointer inside second tag near few =>
      have moved := leaves (c.current + 2) (by omega) second
      exact ⟨by simpa only [Cursor.Offset, if_true] using moved,
        (Advances.pointer (s := s) inside second tag near few).remaining_lt⟩
  · cases fails with
    | far _ second => exact (leaves (c.current + 2) (by omega) second).1.le
    | tooMany _ second => exact (leaves (c.current + 2) (by omega) second).1.le
    | _ => exact stays

/-- Reading a name always ends in a name or an error, a name was at least one byte long, and the
offset it leaves is inside the buffer. -/
theorem parse_leaves (data : List UInt8) (o : Nat) :
    Leaves data o (parse data o).1 (parse data o).2 :=
  Prog.loop_total (Cursor.remaining data.length) (parseStep_round data o) (remaining_start data.length o) o
    ⟨rfl, le_rfl⟩

end DnsName

end DnsServer
