import Mathlib.Data.List.Pairwise
import Mathlib.Data.List.Sort

/-! Words that are sorted after a key of fixed length was put in front of them. -/

namespace KeyedOrder

variable {α : Type} [LT α] [LE α] [Std.LawfulOrderLT α]

theorem append_lt_append_iff {a b u v : List α} (same : a.length = b.length) :
    a ++ u < b ++ v ↔ a < b ∨ a = b ∧ u < v := by
  induction a generalizing b with
  | nil =>
    obtain rfl := List.length_eq_zero_iff.mp same.symm
    simp only [List.nil_append, Std.lt_irrefl, true_and, false_or]
  | cons x a ih =>
    cases b with
    | nil => simp at same
    | cons y b =>
      have shorter : a.length = b.length := Nat.succ.inj same
      simp only [List.cons_append, List.cons_lt_cons_iff, ih shorter, List.cons.injEq]
      tauto

theorem append_left_lt_iff (head : List α) {u v : List α} : head ++ u < head ++ v ↔ u < v := by
  simp only [append_lt_append_iff, Std.lt_irrefl, true_and, false_or]

/-- A word behind a common head and its key. -/
def encode (head : List α) (key : List α → List α) (word : List α) : List α := head ++ (key word ++ word)

theorem encode_lt_iff {head : List α} {key : List α → List α} (size : ∀ u v, (key u).length = (key v).length)
    {u v : List α} : encode head key u < encode head key v ↔ key u < key v ∨ key u = key v ∧ u < v := by
  rw [encode, encode, append_left_lt_iff, append_lt_append_iff (size u v)]

section Sorting

variable [Std.IsLinearOrder α] {head : List α} {key : List α → List α}
  (size : ∀ u v, (key u).length = (key v).length)
include size

/-- The keys never contradict the words. -/
theorem encode_le_iff {u v : List α} (agree : u < v → key u ≤ key v) (converse : v < u → key v ≤ key u) :
    encode head key u ≤ encode head key v ↔ u ≤ v := by
  rw [← Std.not_lt, ← Std.not_lt, encode_lt_iff size, not_iff_not]
  constructor
  · rintro (less | ⟨_, less⟩)
    · rcases Std.lt_trichotomy v u with below | same | above
      · exact below
      · rw [same] at less
        exact absurd less Std.lt_irrefl
      · exact absurd (agree above) (Std.not_le.mpr less)
    · exact less
  · intro below
    rcases Std.le_iff_lt_or_eq.mp (converse below) with less | same
    · exact Or.inl less
    · exact Or.inr ⟨same, below⟩

/-- Two orders of the same words, the one by key and word, the other by the word alone: where the
encodings follow each other to the same letters, the orders are the same. -/
theorem eq_of_flatMap_eq {us vs : List (List α)} (same : us.Perm vs)
    (keyed : us.Pairwise fun u v => encode head key u ≤ encode head key v) (plain : vs.Pairwise (· ≤ ·))
    (letters : us.flatMap (encode head key) = vs.flatMap (encode head key)) : us = vs := by
  induction us generalizing vs with
  | nil => exact same.nil_eq
  | cons u us ih =>
    cases vs with
    | nil => exact absurd same.symm (List.not_perm_nil_cons _ _)
    | cons v vs =>
      have first : u = v := by
        simp only [List.flatMap_cons, encode, List.append_assoc, List.append_cancel_left_eq] at letters
        have equal : key u = key v := (List.append_inj letters (size u v)).1
        have below : v ≤ u := by
          rcases List.mem_cons.mp (same.subset List.mem_cons_self) with here | later
          · exact Std.le_of_eq here.symm
          · exact List.rel_of_pairwise_cons plain later
        have above : encode head key u ≤ encode head key v := by
          rcases List.mem_cons.mp (same.symm.subset List.mem_cons_self) with here | later
          · exact Std.le_of_eq (congrArg _ here.symm)
          · exact List.rel_of_pairwise_cons keyed later
        refine Std.le_antisymm (Std.not_lt.mp fun less => ?_) below
        exact absurd ((encode_lt_iff size).mpr (Or.inr ⟨equal.symm, less⟩)) (Std.not_lt.mpr above)
      subst first
      rw [List.flatMap_cons, List.flatMap_cons, List.append_cancel_left_eq] at letters
      rw [ih same.cons_inv keyed.of_cons plain.of_cons letters]

/-- Sorting the encodings is sorting the words exactly when of two words the smaller one never has
the greater key. -/
theorem flatten_sort_iff [DecidableEq α] [DecidableLT α] (words : List (List α)) :
    ((words.map (encode head key)).insertionSort (· ≤ ·)).flatten =
        (words.insertionSort (· ≤ ·)).flatMap (encode head key) ↔
      ∀ u ∈ words, ∀ v ∈ words, u < v → key u ≤ key v := by
  let byKey : List α → List α → Prop := fun u v => encode head key u ≤ encode head key v
  have total : Std.Total byKey := ⟨fun _ _ => Std.le_total⟩
  have trans : IsTrans (List α) byKey := ⟨fun _ _ _ => Std.le_trans⟩
  have sorted : (words.map (encode head key)).insertionSort (· ≤ ·) =
      (words.insertionSort byKey).map (encode head key) :=
    (List.map_insertionSort byKey (· ≤ ·) _ words fun _ _ _ _ => Iff.rfl).symm
  rw [sorted, ← List.flatMap_def]
  constructor
  · intro letters
    have same := eq_of_flatMap_eq size
      ((List.perm_insertionSort byKey words).trans (List.perm_insertionSort (· ≤ ·) words).symm)
      (List.pairwise_insertionSort byKey words) (List.pairwise_insertionSort (· ≤ ·) words) letters
    -- both orders hold of one and the same list, and so of any two words in either order
    let Agree : List α → List α → Prop := fun u v => (u < v → key u ≤ key v) ∧ (v < u → key v ≤ key u)
    have symm : Std.Symm Agree := ⟨fun _ _ agree => agree.symm⟩
    have agree : (words.insertionSort (· ≤ ·)).Pairwise Agree := by
      have keyed := List.pairwise_insertionSort byKey words
      rw [same] at keyed
      refine (keyed.and (List.pairwise_insertionSort (· ≤ ·) words)).imp ?_
      rintro u v ⟨above, ordered⟩
      refine ⟨fun _ => ?_, fun less => absurd less (Std.not_lt.mpr ordered)⟩
      exact Std.not_lt.mp fun less => absurd ((encode_lt_iff size).mpr (Or.inl less)) (Std.not_lt.mpr above)
    intro u left v right
    rw [← List.mem_insertionSort (· ≤ ·)] at left right
    exact (agree.forall_of_forall (fun _ _ => ⟨fun _ => Std.le_refl _, fun _ => Std.le_refl _⟩) left right).1
  · intro agree
    have same : words.insertionSort byKey = words.insertionSort (· ≤ ·) := by
      have mapped := List.map_insertionSort byKey (· ≤ ·) id words fun u left v right =>
        encode_le_iff size (agree u left v right) (agree v right u left)
      simpa only [List.map_id] using mapped
    rw [same]

end Sorting

end KeyedOrder
