import DnsServer.Lib.Lowercase

/-! The case of ASCII letters, under lossy decoding and the Unicode lower-casing of text. -/

namespace Utf8

theorem toNat_ofNat_valid {n : Nat} (valid : n < 0xD800 ∨ (0xDFFF < n ∧ n < 0x110000)) :
    (Char.ofNat n).toNat = n := by
  rw [Char.ofNat, dif_pos (show n.isValidChar from valid)]
  rfl

/-- A byte outside ASCII starts no ASCII character. -/
theorem lossyStep_large {a : UInt8} (large : 0x80 ≤ a.toNat) (rest : List UInt8) :
    0x80 ≤ (lossyStep a rest).1.toNat := by
  have step := lossyStep_cases a rest
  generalize lossyStep a rest = out at step
  cases step with
  | ascii small => omega
  | @two b _ _ _ _ continued =>
    have second := b.toNat_lt
    rw [toNat_ofNat_valid (by omega)]
    omega
  | three _ second third =>
    unfold SecondOfThree Continues at second
    unfold Continues at third
    rw [toNat_ofNat_valid (by omega)]
    omega
  | four _ second third fourth =>
    unfold SecondOfFour Continues at second
    unfold Continues at third fourth
    rw [toNat_ofNat_valid (by omega)]
    omega
  | malformed =>
    have filler : 0x80 ≤ replacement.toNat := by decide
    exact filler

/-- `u8::to_ascii_lowercase`. -/
def lowerByte (b : UInt8) : UInt8 :=
  if 'A'.toNat ≤ b.toNat ∧ b.toNat ≤ 'Z'.toNat then UInt8.ofNat (b.toNat + 32) else b

/-- `char::to_ascii_lowercase`. -/
def lowerAscii (c : Char) : Char :=
  if 'A'.toNat ≤ c.toNat ∧ c.toNat ≤ 'Z'.toNat then Char.ofNat (c.toNat + 32) else c

theorem capital_bounds : 'A'.toNat = 65 ∧ 'Z'.toNat = 90 := by decide

theorem lowerByte_large {b : UInt8} (large : 0x80 ≤ b.toNat) : lowerByte b = b := by
  obtain ⟨_, last⟩ := capital_bounds
  rw [lowerByte, if_neg (by omega)]

theorem lowerByte_small {b : UInt8} (small : b.toNat < 0x80) : (lowerByte b).toNat < 0x80 := by
  obtain ⟨first, last⟩ := capital_bounds
  unfold lowerByte
  split
  · rw [UInt8.toNat_ofNat']
    omega
  · exact small

/-- What matters of a byte after the first of a sequence is not touched by the case of letters. -/
theorem lossyStep_lower {a : UInt8} (large : 0x80 ≤ a.toNat) (rest : List UInt8) :
    lossyStep a (rest.map lowerByte) = lossyStep a rest := by
  have continues : ∀ b, Continues (lowerByte b) ↔ Continues b := by
    intro b
    by_cases high : 0x80 ≤ b.toNat
    · rw [lowerByte_large high]
    · have low := lowerByte_small (b := b) (by omega)
      simp only [Continues]
      omega
  have three : ∀ b, SecondOfThree a (lowerByte b) ↔ SecondOfThree a b := by
    intro b
    by_cases high : 0x80 ≤ b.toNat
    · rw [lowerByte_large high]
    · have low := lowerByte_small (b := b) (by omega)
      simp only [SecondOfThree, Continues]
      omega
  have four : ∀ b, SecondOfFour a (lowerByte b) ↔ SecondOfFour a b := by
    intro b
    by_cases high : 0x80 ≤ b.toNat
    · rw [lowerByte_large high]
    · have low := lowerByte_small (b := b) (by omega)
      simp only [SecondOfFour, Continues]
      omega
  have same : ∀ b, Continues b → lowerByte b = b := fun b continued => lowerByte_large continued.1
  have sameThree : ∀ b, SecondOfThree a b → lowerByte b = b := by
    intro b fits
    refine lowerByte_large ?_
    simp only [SecondOfThree, Continues] at fits
    omega
  have sameFour : ∀ b, SecondOfFour a b → lowerByte b = b := by
    intro b fits
    refine lowerByte_large ?_
    simp only [SecondOfFour, Continues] at fits
    omega
  rcases rest with _ | ⟨b, _ | ⟨c, _ | ⟨d, rest⟩⟩⟩ <;>
    simp only [lossyStep, List.map_cons, List.map_nil, continues, three, four]
  all_goals grind

theorem lowerAscii_large {c : Char} (large : 0x80 ≤ c.toNat) : lowerAscii c = c := by
  obtain ⟨_, last⟩ := capital_bounds
  rw [lowerAscii, if_neg (by omega)]

theorem lowerAscii_ofNat {n : Nat} (small : n < 0x80) :
    lowerAscii (Char.ofNat n) = Char.ofNat (lowerByte (UInt8.ofNat n)).toNat := by
  have all : ∀ n < 0x80, lowerAscii (Char.ofNat n) = Char.ofNat (lowerByte (UInt8.ofNat n)).toNat := by
    decide +kernel
  exact all n small

/-- Lower-casing the ASCII letters of the bytes is lower-casing them in the decoded text. -/
theorem lossyChars_lower (skip : Nat) (bytes : List UInt8) :
    lossyChars skip (bytes.map lowerByte) = (lossyChars skip bytes).map lowerAscii := by
  induction bytes generalizing skip with
  | nil =>
    cases skip <;> rfl
  | cons a rest ih =>
    cases skip with
    | succ skip => exact ih skip
    | zero =>
      rw [List.map_cons, lossyChars, lossyChars, List.map_cons]
      by_cases large : 0x80 ≤ a.toNat
      · rw [lowerByte_large large, lossyStep_lower large, lowerAscii_large (lossyStep_large large rest), ih]
      · have small : a.toNat < 0x80 := by omega
        have first := lowerAscii_ofNat small
        rw [UInt8.ofNat_toNat] at first
        rw [lossyStep_ascii small, lossyStep_ascii (lowerByte_small small), first, ih]

end Utf8

namespace Lowercase

open CaseTables Utf8

theorem casedRanges_letters : (0x41, 0x5A) ∈ casedRanges ∧ (0x61, 0x7A) ∈ casedRanges := by
  decide +kernel

theorem caseIgnorableRanges_letters :
    ∀ range ∈ caseIgnorableRanges, range.2 < 0x41 ∨ 0x7A < range.1 ∨ (0x5B ≤ range.1 ∧ range.2 ≤ 0x60) := by
  decide +kernel

/-- The ASCII letters are cased, and none of them is case-ignorable. -/
theorem letter_cased {c : Char} (letter : (0x41 ≤ c.toNat ∧ c.toNat ≤ 0x5A) ∨ (0x61 ≤ c.toNat ∧ c.toNat ≤ 0x7A)) :
    isCased c = true ∧ isCaseIgnorable c = false := by
  obtain ⟨capitals, smalls⟩ := casedRanges_letters
  constructor
  · refine List.any_eq_true.mpr ?_
    rcases letter with capital | small
    · exact ⟨_, capitals, by simpa using capital⟩
    · exact ⟨_, smalls, by simpa using small⟩
  · refine List.any_eq_false.mpr fun range member inside => ?_
    have outside := caseIgnorableRanges_letters range member
    simp only [Bool.and_eq_true, decide_eq_true_eq] at inside
    omega

theorem lowerChar_capital {c : Char} (first : 0x41 ≤ c.toNat) (last : c.toNat ≤ 0x5A) :
    lowerChar (lowerAscii c) = lowerChar c ∧ (lowerAscii c).toNat = c.toNat + 32 := by
  obtain ⟨capitalA, capitalZ⟩ := capital_bounds
  have small : lowerAscii c = Char.ofNat (c.toNat + 32) := by
    rw [lowerAscii, if_pos (by omega)]
  have code : (lowerAscii c).toNat = c.toNat + 32 := by
    rw [small, toNat_ofNat_valid (by omega)]
  refine ⟨?_, code⟩
  rw [lowerChar_fixed (by omega) (by omega), lowerChar, if_pos (by omega), if_pos (by omega), small]

/-- The case of an ASCII letter is never looked at. -/
theorem lowerAscii_unseen (c : Char) :
    lowerChar (lowerAscii c) = lowerChar c ∧ isCased (lowerAscii c) = isCased c ∧
      isCaseIgnorable (lowerAscii c) = isCaseIgnorable c ∧
      ((lowerAscii c).toNat = 0x3A3 ↔ c.toNat = 0x3A3) := by
  by_cases capital : 0x41 ≤ c.toNat ∧ c.toNat ≤ 0x5A
  · obtain ⟨image, code⟩ := lowerChar_capital capital.1 capital.2
    obtain ⟨cased, ignorable⟩ := letter_cased (Or.inl capital)
    obtain ⟨cased', ignorable'⟩ := letter_cased (c := lowerAscii c) (by omega)
    exact ⟨image, cased'.trans cased.symm, ignorable'.trans ignorable.symm, by omega⟩
  · have same : lowerAscii c = c := by
      obtain ⟨capitalA, capitalZ⟩ := capital_bounds
      rw [lowerAscii, if_neg (by omega)]
    rw [same]
    exact ⟨rfl, rfl, rfl, Iff.rfl⟩

theorem caseIgnorableThenCased_lower (cs : List Char) :
    caseIgnorableThenCased (cs.map lowerAscii) = caseIgnorableThenCased cs := by
  induction cs with
  | nil => rfl
  | cons c cs ih =>
    obtain ⟨_, cased, ignorable, _⟩ := lowerAscii_unseen c
    unfold caseIgnorableThenCased at ih ⊢
    rw [List.map_cons, List.dropWhile_cons, List.dropWhile_cons, ignorable]
    by_cases skipped : isCaseIgnorable c
    · rw [if_pos skipped, if_pos skipped]
      exact ih
    · rw [if_neg skipped, if_neg skipped]
      exact cased

theorem lowerChars_lower (before cs : List Char) :
    lowerChars (before.map lowerAscii) (cs.map lowerAscii) = lowerChars before cs := by
  induction cs generalizing before with
  | nil => rfl
  | cons c cs ih =>
    obtain ⟨image, _, _, sigma⟩ := lowerAscii_unseen c
    have rest := ih (c :: before)
    rw [List.map_cons] at rest
    rw [List.map_cons, lowerChars, lowerChars, rest, image]
    simp only [sigma, lowerSigma, caseIgnorableThenCased_lower]

/-- Text that differs only in the case of ASCII letters has the same lower-case form. -/
theorem toLowercase_lossy_lower (bytes : List UInt8) :
    toLowercase (fromUtf8Lossy (bytes.map lowerByte)) = toLowercase (fromUtf8Lossy bytes) := by
  rw [toLowercase, toLowercase, fromUtf8Lossy, fromUtf8Lossy, String.toList_ofList, String.toList_ofList,
    lossyChars_lower]
  exact congrArg String.ofList (lowerChars_lower [] _)

theorem lossyChars_map_ascii {bytes : List UInt8} (ascii : ∀ b ∈ bytes, b.toNat < 0x80) :
    lossyChars 0 bytes = bytes.map fun b => Char.ofNat b.toNat := by
  induction bytes with
  | nil => rfl
  | cons b bytes ih =>
    have head := ascii b List.mem_cons_self
    rw [lossyChars, lossyStep_ascii head, List.map_cons,
      ih fun b member => ascii b (List.mem_cons_of_mem _ member)]

theorem lowerChar_ascii : ∀ n < 0x80, lowerChar (Char.ofNat n) = [Char.ofNat (lowerByte (UInt8.ofNat n)).toNat] := by
  decide +kernel

/-- The lower-case form of ASCII text, byte by byte. -/
theorem toLowercase_lossy_ascii {bytes : List UInt8} (ascii : ∀ b ∈ bytes, b.toNat < 0x80) :
    toLowercase (fromUtf8Lossy bytes) =
      String.ofList ((bytes.map lowerByte).map fun b => Char.ofNat b.toNat) := by
  have all : ∀ before, lowerChars before (bytes.map fun b => Char.ofNat b.toNat) =
      (bytes.map lowerByte).map fun b => Char.ofNat b.toNat := by
    induction bytes with
    | nil => exact fun _ => rfl
    | cons b bytes ih =>
      intro before
      have head := ascii b List.mem_cons_self
      have image := lowerChar_ascii b.toNat head
      rw [UInt8.ofNat_toNat] at image
      have notSigma : (Char.ofNat b.toNat).toNat ≠ 0x3A3 := by
        rw [toNat_ofNat_valid (by omega)]
        omega
      rw [List.map_cons, lowerChars, if_neg notSigma, image,
        ih fun b member => ascii b (List.mem_cons_of_mem _ member)]
      rfl
  rw [toLowercase, fromUtf8Lossy, String.toList_ofList, lossyChars_map_ascii ascii, all]

/-- ASCII text with the same lower-case form differs only in the case of letters. -/
theorem lowerByte_of_toLowercase {bytes bytes' : List UInt8} (ascii : ∀ b ∈ bytes, b.toNat < 0x80)
    (ascii' : ∀ b ∈ bytes', b.toNat < 0x80)
    (same : toLowercase (fromUtf8Lossy bytes) = toLowercase (fromUtf8Lossy bytes')) :
    bytes.map lowerByte = bytes'.map lowerByte := by
  rw [toLowercase_lossy_ascii ascii, toLowercase_lossy_ascii ascii'] at same
  have chars := String.ofList_injective same
  have read : ∀ {bytes : List UInt8}, (∀ b ∈ bytes, b.toNat < 0x80) →
      ((bytes.map lowerByte).map fun b => Char.ofNat b.toNat).map (fun c => UInt8.ofNat c.toNat) =
        bytes.map lowerByte := by
    intro bytes ascii
    rw [List.map_map, List.map_map]
    refine List.map_congr_left fun b member => ?_
    have small := lowerByte_small (ascii b member)
    simp only [Function.comp_apply]
    rw [toNat_ofNat_valid (by omega), UInt8.ofNat_toNat]
  rw [← read ascii, chars, read ascii']

end Lowercase
