import Mathlib.Data.List.Basic
import Mathlib.Tactic.Common

/-! UTF-8 text as bytes: `as_bytes`, `len` and `from_utf8_lossy` on strings. -/

namespace Utf8

/-- `str::as_bytes`. -/
def asBytes (s : String) : List UInt8 := s.toList.flatMap String.utf8EncodeChar

/-- `str::len`, which counts bytes. -/
def byteLen (s : String) : Nat := (asBytes s).length

/-- U+FFFD, what a malformed sequence decodes to. -/
def replacement : Char := Char.ofNat 0xFFFD

def Continues (b : UInt8) : Prop := 0x80 ≤ b.toNat ∧ b.toNat ≤ 0xBF

instance (b : UInt8) : Decidable (Continues b) := inferInstanceAs (Decidable (_ ∧ _))

/-- The second bytes a three-byte sequence may have after its first byte. -/
def SecondOfThree (a b : UInt8) : Prop :=
  (a.toNat = 0xE0 ∧ 0xA0 ≤ b.toNat ∧ b.toNat ≤ 0xBF) ∨
    (0xE1 ≤ a.toNat ∧ a.toNat ≤ 0xEC ∧ Continues b) ∨
    (a.toNat = 0xED ∧ 0x80 ≤ b.toNat ∧ b.toNat ≤ 0x9F) ∨
    (0xEE ≤ a.toNat ∧ a.toNat ≤ 0xEF ∧ Continues b)

instance (a b : UInt8) : Decidable (SecondOfThree a b) := inferInstanceAs (Decidable (_ ∨ _))

/-- The second bytes a four-byte sequence may have after its first byte. -/
def SecondOfFour (a b : UInt8) : Prop :=
  (a.toNat = 0xF0 ∧ 0x90 ≤ b.toNat ∧ b.toNat ≤ 0xBF) ∨
    (0xF1 ≤ a.toNat ∧ a.toNat ≤ 0xF3 ∧ Continues b) ∨
    (a.toNat = 0xF4 ∧ 0x80 ≤ b.toNat ∧ b.toNat ≤ 0x8F)

instance (a b : UInt8) : Decidable (SecondOfFour a b) := inferInstanceAs (Decidable (_ ∨ _))

/-- The character a sequence starting with `a` decodes to, and how many bytes after `a` it takes.
A malformed sequence is replaced as a whole: `a` and the continuations that still fitted. -/
def lossyStep (a : UInt8) (rest : List UInt8) : Char × Nat :=
  if a.toNat < 0x80 then (Char.ofNat a.toNat, 0)
  else if 0xC2 ≤ a.toNat ∧ a.toNat ≤ 0xDF then
    match rest with
    | b :: _ =>
      if Continues b then (Char.ofNat (a.toNat % 32 * 64 + b.toNat % 64), 1) else (replacement, 0)
    | [] => (replacement, 0)
  else if 0xE0 ≤ a.toNat ∧ a.toNat ≤ 0xEF then
    match rest with
    | b :: c :: _ =>
      if ¬SecondOfThree a b then (replacement, 0)
      else if ¬Continues c then (replacement, 1)
      else (Char.ofNat (a.toNat % 16 * 4096 + b.toNat % 64 * 64 + c.toNat % 64), 2)
    | [b] => if SecondOfThree a b then (replacement, 1) else (replacement, 0)
    | [] => (replacement, 0)
  else if 0xF0 ≤ a.toNat ∧ a.toNat ≤ 0xF4 then
    match rest with
    | b :: c :: d :: _ =>
      if ¬SecondOfFour a b then (replacement, 0)
      else if ¬Continues c then (replacement, 1)
      else if ¬Continues d then (replacement, 2)
      else (Char.ofNat (a.toNat % 8 * 262144 + b.toNat % 64 * 4096 + c.toNat % 64 * 64 + d.toNat % 64), 3)
    | [b, c] =>
      if ¬SecondOfFour a b then (replacement, 0)
      else if Continues c then (replacement, 2) else (replacement, 1)
    | [b] => if SecondOfFour a b then (replacement, 1) else (replacement, 0)
    | [] => (replacement, 0)
  else (replacement, 0)

/-- Decoding with `skip` bytes of the current sequence still to pass over. -/
def lossyChars : Nat → List UInt8 → List Char
  | _, [] => []
  | skip + 1, _ :: rest => lossyChars skip rest
  | 0, a :: rest => (lossyStep a rest).1 :: lossyChars (lossyStep a rest).2 rest

/-- `String::from_utf8_lossy`. -/
def fromUtf8Lossy (bytes : List UInt8) : String := String.ofList (lossyChars 0 bytes)

/-- Every character is below U+0080. -/
def Ascii (s : String) : Prop := ∀ c ∈ s.toList, c.toNat < 0x80

instance (s : String) : Decidable (Ascii s) := List.decidableBAll (fun c : Char => c.toNat < 0x80) s.toList

theorem lossyStep_ascii {a : UInt8} (ascii : a.toNat < 0x80) (rest : List UInt8) :
    lossyStep a rest = (Char.ofNat a.toNat, 0) := by
  simp only [lossyStep, ascii, if_true]

theorem SecondOfThree.continues {a b : UInt8} (second : SecondOfThree a b) : Continues b := by
  unfold SecondOfThree Continues at *
  omega

theorem SecondOfFour.continues {a b : UInt8} (second : SecondOfFour a b) : Continues b := by
  unfold SecondOfFour Continues at *
  omega

/-- What a step can make of the bytes: an ASCII character, one of two, three or four bytes, or the
replacement for a first byte and the continuations behind it that still fitted. -/
inductive LossyStep (a : UInt8) (rest : List UInt8) : Char × Nat → Prop
  | ascii : a.toNat < 0x80 → LossyStep a rest (Char.ofNat a.toNat, 0)
  | two {b : UInt8} {more : List UInt8} : rest = b :: more → 0xC2 ≤ a.toNat → a.toNat ≤ 0xDF → Continues b →
      LossyStep a rest (Char.ofNat (a.toNat % 32 * 64 + b.toNat % 64), 1)
  | three {b c : UInt8} {more : List UInt8} : rest = b :: c :: more → SecondOfThree a b → Continues c →
      LossyStep a rest (Char.ofNat (a.toNat % 16 * 4096 + b.toNat % 64 * 64 + c.toNat % 64), 2)
  | four {b c d : UInt8} {more : List UInt8} : rest = b :: c :: d :: more → SecondOfFour a b → Continues c →
      Continues d → LossyStep a rest (Char.ofNat
        (a.toNat % 8 * 262144 + b.toNat % 64 * 4096 + c.toNat % 64 * 64 + d.toNat % 64), 3)
  | malformed {taken : Nat} : 0x80 ≤ a.toNat → taken ≤ 2 → (∀ b ∈ rest.take taken, Continues b) →
      LossyStep a rest (replacement, taken)

theorem lossyStep_cases (a : UInt8) (rest : List UInt8) : LossyStep a rest (lossyStep a rest) := by
  have three := @SecondOfThree.continues a
  have four := @SecondOfFour.continues a
  by_cases ascii : a.toNat < 0x80
  · rw [lossyStep_ascii ascii]
    exact .ascii ascii
  have large : 0x80 ≤ a.toNat := by omega
  have alone : LossyStep a rest (replacement, 0) :=
    .malformed large (by decide) fun b member => absurd member List.not_mem_nil
  unfold lossyStep
  rw [if_neg ascii]
  split
  · split
    · split
      · exact .two rfl (by omega) (by omega) ‹_›
      · exact alone
    · exact alone
  split
  · split
    · split
      · exact alone
      rename_i second
      rw [not_not] at second
      split
      · exact .malformed large (by decide) (by simpa using three second)
      · exact .three rfl second (not_not.mp ‹_›)
    · split
      · exact .malformed large (by decide) (by simpa using three ‹_›)
      · exact alone
    · exact alone
  split
  · split
    · split
      · exact alone
      rename_i second
      rw [not_not] at second
      split
      · exact .malformed large (by decide) (by simpa using four second)
      rename_i third
      rw [not_not] at third
      split
      · exact .malformed large (by decide) (by simpa using ⟨four second, third⟩)
      · exact .four rfl second third (not_not.mp ‹_›)
    · split
      · exact alone
      rename_i second
      rw [not_not] at second
      split
      · exact .malformed large (by decide) (by simpa using ⟨four second, ‹_›⟩)
      · exact .malformed large (by decide) (by simpa using four second)
    · split
      · exact .malformed large (by decide) (by simpa using four ‹_›)
      · exact alone
    · exact alone
  · exact alone

theorem toNat_valid (c : Char) : c.toNat < 0xD800 ∨ (0xDFFF < c.toNat ∧ c.toNat < 0x110000) := c.valid

/-- The bytes of a character are read as that character, whatever follows. -/
theorem lossyChars_encode (c : Char) (rest : List UInt8) :
    lossyChars 0 (String.utf8EncodeChar c ++ rest) = c :: lossyChars 0 rest := by
  have valid := toNat_valid c
  have size : c.val.toNat = c.toNat := rfl
  have back : Char.ofNat c.toNat = c := Char.ofNat_toNat c
  unfold String.utf8EncodeChar
  simp only [size]
  by_cases one : c.toNat ≤ 0x7F
  · have octet : (UInt8.ofNat c.toNat).toNat = c.toNat := by
      rw [UInt8.toNat_ofNat']
      omega
    have step := lossyStep_ascii (a := UInt8.ofNat c.toNat) (by omega) rest
    rw [octet, back] at step
    simp only [one, if_true, List.singleton_append, lossyChars, step]
  by_cases two : c.toNat ≤ 0x7FF
  · have first : (UInt8.ofNat (c.toNat / 64 % 0x20 + 0xC0)).toNat = c.toNat / 64 + 0xC0 := by
      rw [UInt8.toNat_ofNat']
      omega
    have second : (UInt8.ofNat (c.toNat % 0x40 + 0x80)).toNat = c.toNat % 64 + 0x80 := by
      rw [UInt8.toNat_ofNat']
      omega
    have value : (c.toNat / 64 + 0xC0) % 32 * 64 + (c.toNat % 64 + 0x80) % 64 = c.toNat := by omega
    have step : lossyStep (UInt8.ofNat (c.toNat / 64 % 0x20 + 0xC0))
        (UInt8.ofNat (c.toNat % 0x40 + 0x80) :: rest) = (c, 1) := by
      simp only [lossyStep, Continues, first, second, value, back]
      rw [if_neg (by omega), if_pos (by omega), if_pos (by omega)]
    simp only [one, two, if_true, if_false, List.cons_append, List.nil_append, lossyChars, step]
  by_cases three : c.toNat ≤ 0xFFFF
  · have first : (UInt8.ofNat (c.toNat / 4096 % 0x10 + 0xE0)).toNat = c.toNat / 4096 + 0xE0 := by
      rw [UInt8.toNat_ofNat']
      omega
    have second : (UInt8.ofNat (c.toNat / 64 % 0x40 + 0x80)).toNat = c.toNat / 64 % 64 + 0x80 := by
      rw [UInt8.toNat_ofNat']
      omega
    have third : (UInt8.ofNat (c.toNat % 0x40 + 0x80)).toNat = c.toNat % 64 + 0x80 := by
      rw [UInt8.toNat_ofNat']
      omega
    have value : (c.toNat / 4096 + 0xE0) % 16 * 4096 + (c.toNat / 64 % 64 + 0x80) % 64 * 64 +
        (c.toNat % 64 + 0x80) % 64 = c.toNat := by omega
    have step : lossyStep (UInt8.ofNat (c.toNat / 4096 % 0x10 + 0xE0))
        (UInt8.ofNat (c.toNat / 64 % 0x40 + 0x80) :: UInt8.ofNat (c.toNat % 0x40 + 0x80) :: rest) = (c, 2) := by
      simp only [lossyStep, SecondOfThree, Continues, first, second, third, value, back]
      rw [if_neg (by omega), if_neg (by omega), if_pos (by omega), if_neg (by omega), if_neg (by omega)]
    simp only [one, two, three, if_true, if_false, List.cons_append, List.nil_append, lossyChars, step]
  · have first : (UInt8.ofNat (c.toNat / 262144 % 0x08 + 0xF0)).toNat = c.toNat / 262144 + 0xF0 := by
      rw [UInt8.toNat_ofNat']
      omega
    have second : (UInt8.ofNat (c.toNat / 4096 % 0x40 + 0x80)).toNat = c.toNat / 4096 % 64 + 0x80 := by
      rw [UInt8.toNat_ofNat']
      omega
    have third : (UInt8.ofNat (c.toNat / 64 % 0x40 + 0x80)).toNat = c.toNat / 64 % 64 + 0x80 := by
      rw [UInt8.toNat_ofNat']
      omega
    have fourth : (UInt8.ofNat (c.toNat % 0x40 + 0x80)).toNat = c.toNat % 64 + 0x80 := by
      rw [UInt8.toNat_ofNat']
      omega
    have value : (c.toNat / 262144 + 0xF0) % 8 * 262144 + (c.toNat / 4096 % 64 + 0x80) % 64 * 4096 +
        (c.toNat / 64 % 64 + 0x80) % 64 * 64 + (c.toNat % 64 + 0x80) % 64 = c.toNat := by omega
    have step : lossyStep (UInt8.ofNat (c.toNat / 262144 % 0x08 + 0xF0))
        (UInt8.ofNat (c.toNat / 4096 % 0x40 + 0x80) :: UInt8.ofNat (c.toNat / 64 % 0x40 + 0x80) ::
          UInt8.ofNat (c.toNat % 0x40 + 0x80) :: rest) = (c, 3) := by
      simp only [lossyStep, SecondOfFour, Continues, first, second, third, fourth, value, back]
      rw [if_neg (by omega), if_neg (by omega), if_neg (by omega), if_pos (by omega), if_neg (by omega),
        if_neg (by omega), if_neg (by omega)]
    simp only [one, two, three, if_false, List.cons_append, List.nil_append, lossyChars, step]

theorem lossyChars_flatMap (cs : List Char) : lossyChars 0 (cs.flatMap String.utf8EncodeChar) = cs := by
  induction cs with
  | nil => rfl
  | cons c cs ih => rw [List.flatMap_cons, lossyChars_encode, ih]

/-- Text is decoded from its own bytes without loss. -/
theorem fromUtf8Lossy_asBytes (s : String) : fromUtf8Lossy (asBytes s) = s := by
  rw [fromUtf8Lossy, asBytes, lossyChars_flatMap, String.ofList_toList]

theorem byteLen_pos {s : String} (nonempty : s.toList ≠ []) : 1 ≤ byteLen s := by
  obtain ⟨c, cs, text⟩ := List.exists_cons_of_ne_nil nonempty
  have head := List.length_pos_of_ne_nil (String.utf8EncodeChar_ne_nil (c := c))
  rw [byteLen, asBytes, text, List.flatMap_cons, List.length_append]
  omega

theorem byteLen_empty {s : String} (empty : s.toList = []) : byteLen s = 0 := by
  rw [byteLen, asBytes, empty]
  rfl

theorem lossyChars_ne_nil {bytes : List UInt8} (nonempty : bytes ≠ []) : lossyChars 0 bytes ≠ [] := by
  obtain ⟨b, rest, rfl⟩ := List.exists_cons_of_ne_nil nonempty
  exact List.cons_ne_nil _ _

end Utf8
