import DnsServer.Lib.Utf8

/-! Text whose bytes are decoded in parts: it comes back whole exactly when no part starts inside a
character. -/

namespace Utf8

/-- The bytes that a character starts with. -/
def starts (bytes : List UInt8) : Nat := bytes.countP fun b => ¬Continues b

/-- The bytes do not start inside a character. -/
def AtCharacter (bytes : List UInt8) : Prop := ∀ b, bytes.head? = some b → ¬Continues b

theorem starts_append (first second : List UInt8) : starts (first ++ second) = starts first + starts second :=
  List.countP_append

theorem starts_continues {bytes : List UInt8} (all : ∀ b ∈ bytes, Continues b) : starts bytes = 0 := by
  rw [starts, List.countP_eq_zero]
  intro b member
  simpa using all b member

/-- The bytes of a character: one that starts it, and continuations. -/
theorem utf8EncodeChar_eq (c : Char) : ∃ lead rest, String.utf8EncodeChar c = lead :: rest ∧
    ¬Continues lead ∧ ∀ b ∈ rest, Continues b := by
  have valid := toNat_valid c
  have size : c.val.toNat = c.toNat := rfl
  have tail : ∀ n, Continues (UInt8.ofNat (n % 0x40 + 0x80)) := by
    intro n
    rw [Continues, UInt8.toNat_ofNat']
    omega
  have lead : ∀ n, n < 0x80 ∨ (0xC0 ≤ n ∧ n < 0x100) → ¬Continues (UInt8.ofNat n) := by
    intro n range
    rw [Continues, UInt8.toNat_ofNat']
    omega
  unfold String.utf8EncodeChar
  simp only [size]
  split
  · exact ⟨_, [], rfl, lead _ (by omega), fun b member => absurd member List.not_mem_nil⟩
  split
  · refine ⟨_, _, rfl, lead _ (by omega), ?_⟩
    simp only [List.forall_mem_cons, tail, List.not_mem_nil, false_imp_iff, implies_true, and_self]
  split
  · refine ⟨_, _, rfl, lead _ (by omega), ?_⟩
    simp only [List.forall_mem_cons, tail, List.not_mem_nil, false_imp_iff, implies_true, and_self]
  · refine ⟨_, _, rfl, lead _ (by omega), ?_⟩
    simp only [List.forall_mem_cons, tail, List.not_mem_nil, false_imp_iff, implies_true, and_self]

theorem starts_encode (cs : List Char) : starts (cs.flatMap String.utf8EncodeChar) = cs.length := by
  induction cs with
  | nil => rfl
  | cons c cs ih =>
    obtain ⟨lead, rest, bytes, start, continues⟩ := utf8EncodeChar_eq c
    have none := starts_continues continues
    have one : starts (lead :: rest) = starts rest + 1 := List.countP_cons_of_pos (by simpa using start)
    rw [List.flatMap_cons, starts_append, bytes, one, none, ih, List.length_cons]
    omega

/-- The bytes that a sequence takes beyond its first are continuations. -/
theorem lossyStep_continues (a : UInt8) (rest : List UInt8) :
    ∀ b ∈ rest.take (lossyStep a rest).2, Continues b := by
  have step := lossyStep_cases a rest
  generalize lossyStep a rest = out at step
  cases step with
  | ascii => exact fun b member => absurd member List.not_mem_nil
  | two bytes _ _ second =>
    subst bytes
    simpa using second
  | three bytes second third =>
    subst bytes
    simpa using ⟨second.continues, third⟩
  | four bytes second third fourth =>
    subst bytes
    simpa using ⟨second.continues, third, fourth⟩
  | malformed _ _ taken => exact taken

theorem starts_after_lossyStep (a : UInt8) (rest : List UInt8) :
    starts (rest.drop (lossyStep a rest).2) = starts rest := by
  have passed := starts_continues (lossyStep_continues a rest)
  have split := starts_append (rest.take (lossyStep a rest).2) (rest.drop (lossyStep a rest).2)
  rw [List.take_append_drop, passed] at split
  omega

/-- Every byte that starts a character makes a character of its own. -/
theorem starts_le_lossyChars (skip : Nat) (bytes : List UInt8) :
    starts (bytes.drop skip) ≤ (lossyChars skip bytes).length := by
  induction bytes generalizing skip with
  | nil => simp [starts]
  | cons a rest ih =>
    cases skip with
    | succ skip => exact ih skip
    | zero =>
      have onward := ih (lossyStep a rest).2
      have first : starts (a :: rest) ≤ starts rest + 1 := by
        unfold starts
        rw [List.countP_cons]
        split <;> omega
      rw [starts_after_lossyStep] at onward
      rw [List.drop_zero, lossyChars, List.length_cons]
      omega

/-- A first byte inside a character makes one character more. -/
theorem starts_lt_lossyChars {bytes : List UInt8} (inside : ¬AtCharacter bytes) :
    starts bytes < (lossyChars 0 bytes).length := by
  cases bytes with
  | nil => exact absurd (fun b none => by cases none) inside
  | cons a rest =>
    have continues : Continues a := by
      by_contra start
      exact inside fun b same => Option.some.inj same ▸ start
    have onward := starts_le_lossyChars (lossyStep a rest).2 rest
    have first : starts (a :: rest) = starts rest := List.countP_cons_of_neg (by simpa using continues)
    rw [starts_after_lossyStep] at onward
    rw [lossyChars, List.length_cons]
    omega

theorem AtCharacter.flatten {parts : List (List UInt8)} (all : ∀ part ∈ parts, AtCharacter part) :
    AtCharacter parts.flatten := by
  induction parts with
  | nil => exact fun b none => by cases none
  | cons part parts ih =>
    have rest := ih fun p member => all p (List.mem_cons_of_mem _ member)
    cases part with
    | nil => exact rest
    | cons b part => exact all (b :: part) List.mem_cons_self

/-- Bytes of text that are cut where a character starts are text on both sides. -/
theorem encode_cut {cs : List Char} {front back : List UInt8}
    (whole : front ++ back = cs.flatMap String.utf8EncodeChar) (cut : AtCharacter back) :
    ∃ before after, cs = before ++ after ∧ front = before.flatMap String.utf8EncodeChar ∧
      back = after.flatMap String.utf8EncodeChar := by
  induction cs generalizing front with
  | nil =>
    obtain ⟨rfl, rfl⟩ := List.append_eq_nil_iff.mp whole
    exact ⟨[], [], rfl, rfl, rfl⟩
  | cons c cs ih =>
    obtain ⟨lead, rest, bytes, start, continues⟩ := utf8EncodeChar_eq c
    cases front with
    | nil => exact ⟨[], c :: cs, rfl, rfl, whole⟩
    | cons b front =>
      rw [List.flatMap_cons, bytes, List.cons_append, List.cons_append, List.cons.injEq] at whole
      obtain ⟨rfl, whole⟩ := whole
      -- either the character ends in front of the cut, or the cut lies inside it
      rcases List.append_eq_append_iff.mp whole with ⟨inner, inside, after⟩ | ⟨more, front', whole'⟩
      · have none : inner = [] := by
          cases inner with
          | nil => rfl
          | cons b' inner =>
            have within := continues b' (by rw [inside]; simp)
            exact absurd within (cut b' (by rw [after]; rfl))
        rw [none, List.append_nil] at inside
        rw [none, List.nil_append] at after
        exact ⟨[c], cs, rfl, by rw [List.flatMap_singleton, bytes, inside], after⟩
      · obtain ⟨before, after, split, first, second⟩ := ih whole'.symm
        refine ⟨c :: before, after, by rw [split]; rfl, ?_, second⟩
        rw [List.flatMap_cons, bytes, ← first, front']
        rfl

theorem starts_flatten_le (parts : List (List UInt8)) :
    starts parts.flatten ≤ (parts.flatMap (lossyChars 0)).length := by
  induction parts with
  | nil => exact Nat.le_refl _
  | cons part parts ih =>
    have first := starts_le_lossyChars 0 part
    rw [List.flatten_cons, starts_append, List.flatMap_cons, List.length_append]
    exact Nat.add_le_add first ih

theorem starts_flatten_lt {parts : List (List UInt8)} (inside : ¬∀ part ∈ parts, AtCharacter part) :
    starts parts.flatten < (parts.flatMap (lossyChars 0)).length := by
  induction parts with
  | nil => exact absurd (fun part member => absurd member List.not_mem_nil) inside
  | cons part parts ih =>
    rw [List.flatten_cons, starts_append, List.flatMap_cons, List.length_append]
    by_cases first : AtCharacter part
    · have later := ih fun all => inside (List.forall_mem_cons.mpr ⟨first, all⟩)
      have own := starts_le_lossyChars 0 part
      rw [List.drop_zero] at own
      omega
    · have own := starts_lt_lossyChars first
      have later := starts_flatten_le parts
      omega

/-- Text that is decoded in parts comes back exactly when no part starts inside a character. -/
theorem lossyChars_parts_iff {parts : List (List UInt8)} {cs : List Char}
    (whole : parts.flatten = cs.flatMap String.utf8EncodeChar) :
    parts.flatMap (lossyChars 0) = cs ↔ ∀ part ∈ parts, AtCharacter part := by
  constructor
  · intro same
    by_contra inside
    have more := starts_flatten_lt inside
    rw [whole, starts_encode, same] at more
    exact absurd more (Nat.lt_irrefl _)
  · intro cuts
    induction parts generalizing cs with
    | nil =>
      cases cs with
      | nil => rfl
      | cons c cs =>
        obtain ⟨lead, rest, bytes, _, _⟩ := utf8EncodeChar_eq c
        rw [List.flatMap_cons, bytes] at whole
        cases whole
    | cons part parts ih =>
      obtain ⟨_, others⟩ := List.forall_mem_cons.mp cuts
      obtain ⟨before, after, rfl, first, rest⟩ := encode_cut whole (AtCharacter.flatten others)
      rw [List.flatMap_cons, first, lossyChars_flatMap, ih rest others]

end Utf8
