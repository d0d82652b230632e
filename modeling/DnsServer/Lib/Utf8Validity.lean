import DnsServer.Lib.AsciiCase

/-! Which bytes a lossy decoding leaves as they are, and that it makes no bytes fewer. -/

namespace Utf8

/-- The bytes are those of some text. -/
def IsUtf8 (bytes : List UInt8) : Prop := ∃ text, asBytes text = bytes

/-- Decoded and encoded again, bytes come back exactly when they are the bytes of a text. -/
theorem asBytes_fromUtf8Lossy_iff {bytes : List UInt8} : asBytes (fromUtf8Lossy bytes) = bytes ↔ IsUtf8 bytes := by
  constructor
  · exact fun same => ⟨_, same⟩
  · rintro ⟨text, rfl⟩
    rw [fromUtf8Lossy_asBytes]

theorem length_encode_ofNat {n : Nat} (valid : n < 0xD800 ∨ (0xDFFF < n ∧ n < 0x110000)) :
    (String.utf8EncodeChar (Char.ofNat n)).length =
      if n ≤ 0x7F then 1 else if n ≤ 0x7FF then 2 else if n ≤ 0xFFFF then 3 else 4 := by
  have value : (Char.ofNat n).val.toNat = n := toNat_ofNat_valid valid
  have bound : ∀ m < 0x110000, ((Char.ofNat n).val ≤ UInt32.ofNat m ↔ n ≤ m) := by
    intro m small
    rw [UInt32.le_iff_toNat_le, value, UInt32.toNat_ofNat']
    omega
  have one := bound 0x7F (by omega)
  have two := bound 0x7FF (by omega)
  have three := bound 0xFFFF (by omega)
  rw [String.length_utf8EncodeChar, Char.utf8Size]
  exact if_congr one rfl (if_congr two rfl (if_congr three rfl rfl))

/-- How many bytes more than a sequence its character has: the replacement has three. -/
def stepGrowth (out : Char × Nat) : Nat := if out.1 = replacement then 2 - out.2 else 0

/-- How many bytes malformed sequences become longer by, with `skip` bytes still to pass over. -/
def lossyGrowth : Nat → List UInt8 → Nat
  | _, [] => 0
  | skip + 1, _ :: rest => lossyGrowth skip rest
  | 0, a :: rest => stepGrowth (lossyStep a rest) + lossyGrowth (lossyStep a rest).2 rest

theorem ofNat_ne_replacement {n : Nat} (small : n < 0xD800) : Char.ofNat n ≠ replacement := by
  intro same
  have value := congrArg Char.toNat same
  rw [toNat_ofNat_valid (Or.inl small), replacement, toNat_ofNat_valid (by omega)] at value
  omega

/-- The replacement stands for at most three bytes, every other character for its own. -/
theorem lossyStep_size (a : UInt8) (rest : List UInt8) :
    (String.utf8EncodeChar (lossyStep a rest).1).length =
      (lossyStep a rest).2 + 1 + stepGrowth (lossyStep a rest) := by
  have step := lossyStep_cases a rest
  generalize lossyStep a rest = out at step
  cases step with
  | ascii small =>
    have size := length_encode_ofNat (Or.inl (by omega : a.toNat < 0xD800))
    rw [if_pos (by omega)] at size
    rw [stepGrowth, if_neg (ofNat_ne_replacement (by omega))]
    exact size
  | @two b _ _ low high second =>
    unfold Continues at second
    have size := @length_encode_ofNat (a.toNat % 32 * 64 + b.toNat % 64) (by omega)
    rw [if_neg (by omega), if_pos (by omega)] at size
    rw [stepGrowth, if_neg (ofNat_ne_replacement (by omega))]
    exact size
  | @three b c _ _ second third =>
    unfold SecondOfThree Continues at second
    unfold Continues at third
    have size := @length_encode_ofNat (a.toNat % 16 * 4096 + b.toNat % 64 * 64 + c.toNat % 64) (by omega)
    rw [if_neg (by omega), if_neg (by omega), if_pos (by omega)] at size
    simp [stepGrowth, size]
  | @four b c d _ _ second third fourth =>
    unfold SecondOfFour Continues at second
    unfold Continues at third fourth
    have size := @length_encode_ofNat
      (a.toNat % 8 * 262144 + b.toNat % 64 * 4096 + c.toNat % 64 * 64 + d.toNat % 64) (by omega)
    rw [if_neg (by omega), if_neg (by omega), if_neg (by omega)] at size
    simp [stepGrowth, size]
  | malformed _ few _ =>
    have size : (String.utf8EncodeChar replacement).length = 3 := length_encode_ofNat (by omega)
    rw [stepGrowth, if_pos rfl]
    dsimp only
    omega

/-- A sequence is taken from the bytes that are there. -/
theorem lossyStep_taken (a : UInt8) (rest : List UInt8) : (lossyStep a rest).2 ≤ rest.length := by
  unfold lossyStep
  split
  · exact Nat.zero_le _
  split
  · rcases rest with _ | ⟨b, rest⟩
    · exact Nat.zero_le _
    · dsimp only
      split <;> simp
  split
  · rcases rest with _ | ⟨b, _ | ⟨c, rest⟩⟩
    · exact Nat.zero_le _
    · dsimp only
      split <;> simp
    · dsimp only
      split_ifs <;> simp
  split
  · rcases rest with _ | ⟨b, _ | ⟨c, _ | ⟨d, rest⟩⟩⟩
    · exact Nat.zero_le _
    · dsimp only
      split <;> simp
    · dsimp only
      split_ifs <;> simp
    · dsimp only
      split_ifs <;> simp
  · exact Nat.zero_le _

theorem lossyChars_size {skip : Nat} {bytes : List UInt8} (inside : skip ≤ bytes.length) :
    skip + ((lossyChars skip bytes).flatMap String.utf8EncodeChar).length =
      bytes.length + lossyGrowth skip bytes := by
  induction bytes generalizing skip with
  | nil =>
    obtain rfl : skip = 0 := Nat.le_zero.mp inside
    rfl
  | cons a rest ih =>
    cases skip with
    | succ skip =>
      have onward := ih (Nat.le_of_succ_le_succ inside)
      rw [lossyChars, lossyGrowth, List.length_cons]
      omega
    | zero =>
      have onward := ih (lossyStep_taken a rest)
      have own := lossyStep_size a rest
      rw [lossyChars, lossyGrowth, List.flatMap_cons, List.length_append, List.length_cons]
      omega

/-- Lossy decoding adds the bytes that replacements have more than what they stand for. -/
theorem byteLen_fromUtf8Lossy (bytes : List UInt8) :
    byteLen (fromUtf8Lossy bytes) = bytes.length + lossyGrowth 0 bytes := by
  have size := lossyChars_size (Nat.zero_le bytes.length)
  rwa [Nat.zero_add, ← String.toList_ofList (l := lossyChars 0 bytes)] at size

theorem length_le_fromUtf8Lossy (bytes : List UInt8) : bytes.length ≤ byteLen (fromUtf8Lossy bytes) := by
  rw [byteLen_fromUtf8Lossy]
  exact Nat.le_add_right _ _

end Utf8
