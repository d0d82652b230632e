import DnsServer.Lib.AsciiCase

/-! The lower case of text is its own lower case. -/

namespace Lowercase

open CaseTables Utf8

/-- The first row maps onto no code point that the other maps, said with the comparisons of the kernel. -/
def rowsApart (row other : Nat × Nat × Nat × Nat) : Bool :=
  Nat.blt (row.2.2.2 + (row.2.1 - row.1)) other.1 || Nat.blt other.2.1 row.2.2.2 ||
    (Nat.beq row.1 row.2.1 && Nat.blt 0 ((row.2.2.2 - other.1) % other.2.2.1)) ||
    (Nat.beq row.2.2.1 2 && Nat.beq other.2.2.1 2 && Nat.beq ((row.2.2.2 + other.1) % 2) 1)

/-- A row maps onto no code point that a row maps. -/
theorem lowercaseRows_apart : ∀ row ∈ lowercaseRows, ∀ other ∈ lowercaseRows,
    row.2.2.2 + (row.2.1 - row.1) < other.1 ∨ other.2.1 < row.2.2.2 ∨
      (row.1 = row.2.1 ∧ (row.2.2.2 - other.1) % other.2.2.1 ≠ 0) ∨
      (row.2.2.1 = 2 ∧ other.2.2.1 = 2 ∧ (row.2.2.2 + other.1) % 2 = 1) := by
  have checked : (lowercaseRows.all fun row => lowercaseRows.all (rowsApart row)) = true := by
    decide +kernel
  intro row member other otherMember
  have apart := List.all_eq_true.mp (List.all_eq_true.mp checked row member) other otherMember
  simpa [rowsApart, or_assoc, and_assoc, Nat.pos_iff_ne_zero] using apart

theorem lowercaseRows_images : ∀ row ∈ lowercaseRows,
    (row.2.2.2 = 0x6B ∧ row.1 = row.2.1 ∨ 0x80 ≤ row.2.2.2) ∧
    (row.2.2.2 + (row.2.1 - row.1) < 0x130 ∨ 0x130 < row.2.2.2) ∧
    (row.2.2.2 + (row.2.1 - row.1) < 0x3A3 ∨ 0x3A3 < row.2.2.2) ∧
    (row.2.2.2 + (row.2.1 - row.1) < 0xD800 ∨
      (0xDFFF < row.2.2.2 ∧ row.2.2.2 + (row.2.1 - row.1) < 0x110000)) := by
  decide +kernel

/-- The combining dot and the two small sigmas, which the special cases put in. -/
theorem lowercaseRows_specials : ∀ row ∈ lowercaseRows, ∀ n ∈ [0x307, 0x3C2, 0x3C3],
    ¬(row.1 ≤ n ∧ n ≤ row.2.1 ∧ (n - row.1) % row.2.2.1 = 0) := by
  decide +kernel

/-- Characters that are their own lower case, in every context. -/
def Small (c : Char) : Prop := c.toNat ≠ 0x3A3 ∧ lowerChar c = [c]

instance (c : Char) : Decidable (Small c) := inferInstanceAs (Decidable (_ ∧ _))

theorem small_of_outside {c : Char} (large : 0x80 ≤ c.toNat) (dotted : c.toNat ≠ 0x130)
    (sigma : c.toNat ≠ 0x3A3) (outside : ∀ row ∈ lowercaseRows,
      ¬(row.1 ≤ c.toNat ∧ c.toNat ≤ row.2.1 ∧ (c.toNat - row.1) % row.2.2.1 = 0)) : Small c := by
  refine ⟨sigma, ?_⟩
  rw [lowerChar, if_neg (by omega), if_neg dotted]
  split
  · rename_i found
    have mapped := List.find?_some found
    simp only [Bool.and_eq_true, decide_eq_true_eq, beq_iff_eq, and_assoc] at mapped
    exact absurd mapped (outside _ (List.mem_of_find?_eq_some found))
  · rfl

theorem small_special {n : Nat} (member : n ∈ [0x307, 0x3C2, 0x3C3]) : Small (Char.ofNat n) := by
  have bounds : ∀ n ∈ [0x307, 0x3C2, 0x3C3], 0x80 ≤ n ∧ n ≠ 0x130 ∧ n ≠ 0x3A3 ∧ n < 0xD800 := by
    decide
  obtain ⟨large, dotted, sigma, low⟩ := bounds n member
  have code : (Char.ofNat n).toNat = n := toNat_ofNat_valid (by omega)
  refine small_of_outside (by omega) (by omega) (by omega) fun row listed mapped => ?_
  rw [code] at mapped
  exact lowercaseRows_specials row listed n member mapped

/-- The image of a row is in no row. -/
theorem small_image {row : Nat × Nat × Nat × Nat} (member : row ∈ lowercaseRows) {n : Nat}
    (first : row.1 ≤ n) (last : n ≤ row.2.1) (step : (n - row.1) % row.2.2.1 = 0) :
    Small (Char.ofNat (row.2.2.2 + (n - row.1))) := by
  obtain ⟨ascii, dotted, sigma, valid⟩ := lowercaseRows_images row member
  have code : (Char.ofNat (row.2.2.2 + (n - row.1))).toNat = row.2.2.2 + (n - row.1) :=
    toNat_ofNat_valid (by omega)
  rcases ascii with ⟨kelvin, single⟩ | large
  · -- the Kelvin sign is the one character outside ASCII with an ASCII image
    have letter : row.2.2.2 + (n - row.1) = 0x6B := by omega
    rw [letter]
    decide
  refine small_of_outside (by omega) (by omega) (by omega) fun other otherMember mapped => ?_
  obtain ⟨otherFirst, otherLast, otherStep⟩ := mapped
  rw [code] at otherFirst otherLast otherStep
  rcases lowercaseRows_apart row member other otherMember with below | above | ⟨single, missed⟩ | ⟨two, otherTwo, odd⟩
  · omega
  · omega
  · have start : n - row.1 = 0 := by omega
    rw [start] at otherStep
    exact missed otherStep
  · rw [two] at step
    rw [otherTwo] at otherStep
    omega

theorem small_of_lowerChar {c c' : Char} (sigma : c.toNat ≠ 0x3A3) (member : c' ∈ lowerChar c) : Small c' := by
  obtain ⟨capitalA, capitalZ⟩ := capital_bounds
  unfold lowerChar at member
  split at member
  · rename_i ascii
    have fixed : ∀ n < 0x80, ¬('A'.toNat ≤ n ∧ n ≤ 'Z'.toNat) → Small (Char.ofNat n) := by
      decide +kernel
    split at member
    · rw [List.mem_singleton] at member
      subst member
      exact fixed _ (by omega) (by omega)
    · rename_i notCapital
      rw [List.mem_singleton] at member
      subst member
      exact ⟨sigma, lowerChar_fixed ascii notCapital⟩
  split at member
  · have dot : Small (Char.ofNat 0x307) := small_special (by decide)
    rcases List.mem_cons.mp member with same | member
    · rw [same]
      decide
    · rw [List.mem_singleton.mp member]
      exact dot
  split at member
  · rename_i first last step image found
    rw [List.mem_singleton] at member
    subst member
    have mapped := List.find?_some found
    simp only [Bool.and_eq_true, decide_eq_true_eq, beq_iff_eq] at mapped
    exact small_image (List.mem_of_find?_eq_some found) mapped.1.1 mapped.1.2 mapped.2
  · rename_i large dotted _ none
    rw [List.mem_singleton] at member
    subst member
    refine small_of_outside (by omega) dotted sigma fun row rowMember mapped => ?_
    exact List.find?_eq_none.mp none row rowMember (by simpa [and_assoc] using mapped)

theorem small_of_lowerChars {before cs : List Char} : ∀ c ∈ lowerChars before cs, Small c := by
  have sigmas : ∀ before after, Small (lowerSigma before after) := by
    intro before after
    unfold lowerSigma
    split
    · exact small_special (by decide)
    · exact small_special (by decide)
  induction cs generalizing before with
  | nil => exact fun _ member => absurd member List.not_mem_nil
  | cons first cs ih =>
    intro c member
    rw [lowerChars] at member
    rcases List.mem_append.mp member with image | rest
    · split at image
      · rw [List.mem_singleton] at image
        subst image
        exact sigmas _ _
      · rename_i sigma
        exact small_of_lowerChar sigma image
    · exact ih c rest

theorem lowerChars_small {cs : List Char} (small : ∀ c ∈ cs, Small c) (before : List Char) :
    lowerChars before cs = cs := by
  induction cs generalizing before with
  | nil => rfl
  | cons c cs ih =>
    obtain ⟨sigma, image⟩ := small c List.mem_cons_self
    rw [lowerChars, if_neg sigma, image, ih fun c member => small c (List.mem_cons_of_mem _ member)]
    rfl

/-- Lower-casing twice is lower-casing once. -/
theorem toLowercase_toLowercase (s : String) : toLowercase (toLowercase s) = toLowercase s := by
  have text : (toLowercase s).toList = lowerChars [] s.toList := String.toList_ofList
  rw [toLowercase, text, lowerChars_small small_of_lowerChars, ← text, String.ofList_toList]

/-- Lower-casing brings in no full stop. -/
theorem stop_of_lowerChar {c : Char} (member : '.' ∈ lowerChar c) : c = '.' := by
  obtain ⟨capitalA, capitalZ⟩ := capital_bounds
  have stop : '.'.toNat = 46 := rfl
  unfold lowerChar at member
  split at member
  · split at member
    · have code : (Char.ofNat (c.toNat + 32)).toNat = c.toNat + 32 := toNat_ofNat_valid (by omega)
      rw [← List.mem_singleton.mp member] at code
      omega
    · exact (List.mem_singleton.mp member).symm
  split at member
  · exact absurd member (by decide)
  split at member
  · rename_i first last step image found
    have mapped := List.find?_some found
    simp only [Bool.and_eq_true, decide_eq_true_eq, beq_iff_eq] at mapped
    obtain ⟨ascii, _, _, valid⟩ := lowercaseRows_images _ (List.mem_of_find?_eq_some found)
    dsimp only at ascii valid
    have code : (Char.ofNat (image + (c.toNat - first))).toNat = image + (c.toNat - first) :=
      toNat_ofNat_valid (by omega)
    rw [← List.mem_singleton.mp member] at code
    omega
  · exact (List.mem_singleton.mp member).symm

theorem stop_of_lowerChars {before cs : List Char} (member : '.' ∈ lowerChars before cs) : '.' ∈ cs := by
  induction cs generalizing before with
  | nil => exact member
  | cons c cs ih =>
    rw [lowerChars] at member
    rcases List.mem_append.mp member with image | rest
    · split at image
      · exfalso
        unfold lowerSigma at image
        split at image <;> exact absurd image (by decide)
      · exact List.mem_cons.mpr (Or.inl (stop_of_lowerChar image).symm)
    · exact List.mem_cons_of_mem _ (ih rest)

end Lowercase
