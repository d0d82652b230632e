import Mathlib.Data.Stream.Init
import Mathlib.Order.Lattice.Nat
import Mathlib.Order.Monotone.Basic
import Mathlib.Data.Finset.Lattice.Fold

/-! Streams that are read in finite parts, and the stream of infinitely many parts in turn. -/

namespace Stream'

section Parts

variable {α : Type}

def firstParts (parts : Nat → List α) (n : Nat) : List α := (List.range n).flatMap parts

theorem firstParts_succ (parts : Nat → List α) (n : Nat) :
    firstParts parts (n + 1) = firstParts parts n ++ parts n := by
  simp [firstParts, List.range_succ]

variable {filler : α} {parts : Nat → List α} {i n : Nat}

end Parts

/-- The elements go up, from one bound to the other. -/
structure Climbs (lower : Nat) (part : List Nat) (upper : Nat) : Prop where
  sorted : part.Pairwise (· ≤ ·)
  above : ∀ a ∈ part, lower ≤ a
  below : ∀ a ∈ part, a ≤ upper
  le : lower ≤ upper

namespace Climbs

variable {lower middle upper : Nat} {part rest : List Nat}

theorem nil (n : Nat) : Climbs n [] n where
  sorted := .nil
  above _ member := absurd member List.not_mem_nil
  below _ member := absurd member List.not_mem_nil
  le := le_rfl

theorem append (first : Climbs lower part middle) (second : Climbs middle rest upper) :
    Climbs lower (part ++ rest) upper where
  sorted := by
    refine List.pairwise_append.mpr ⟨first.sorted, second.sorted, fun a left b right => ?_⟩
    exact (first.below a left).trans (second.above b right)
  above a member := by
    rcases List.mem_append.mp member with left | right
    · exact first.above a left
    · exact first.le.trans (second.above a right)
  below a member := by
    rcases List.mem_append.mp member with left | right
    · exact (first.below a left).trans second.le
    · exact second.below a right
  le := first.le.trans second.le

/-- What is left of a stream that goes up. -/
theorem rest_monotone {stream : Stream' Nat} (up : Monotone (appendStream' part stream)) :
    Monotone stream := by
  induction part with
  | nil => exact up
  | cons a part ih => exact ih fun i j less => up (Nat.succ_le_succ less)

/-- What is read first from a stream that goes up. -/
theorem of_monotone {stream : Stream' Nat} (up : Monotone (appendStream' part stream))
    (start : lower ≤ appendStream' part stream 0) : Climbs lower part (stream 0) := by
  induction part generalizing lower with
  | nil =>
    exact { nil _ with above := fun _ member => absurd member List.not_mem_nil, le := start }
  | cons a part ih =>
    have next : Monotone (appendStream' part stream) := fun i j less => up (Nat.succ_le_succ less)
    have rest : Climbs a part (stream 0) := ih next (up (Nat.zero_le 1))
    have head : lower ≤ a := start
    have alone : Climbs lower [a] a := ⟨List.pairwise_singleton _ _, by simpa using head, by simp, head⟩
    exact alone.append rest

/-- Anything that goes up from the upper bound can stand behind such elements. -/
theorem monotone {stream : Stream' Nat} (climbs : Climbs lower part upper) (start : upper ≤ stream 0)
    (up : Monotone stream) :
    lower ≤ appendStream' part stream 0 ∧ Monotone (appendStream' part stream) := by
  induction part generalizing lower with
  | nil => exact ⟨climbs.le.trans start, up⟩
  | cons a part ih =>
    have sorted := List.pairwise_cons.mp climbs.sorted
    have below : a ≤ upper := climbs.below a List.mem_cons_self
    have rest : a ≤ appendStream' part stream 0 ∧ Monotone (appendStream' part stream) := ih
      ⟨sorted.2, sorted.1, fun b member => climbs.below b (List.mem_cons_of_mem a member), below⟩
    refine ⟨climbs.above a List.mem_cons_self, monotone_nat_of_le_succ fun i => ?_⟩
    cases i with
    | zero => exact rest.1
    | succ i => exact rest.2 (Nat.le_succ i)

theorem firstParts {parts : Nat → List Nat} {bounds : Nat → Nat}
    (climbs : ∀ k, Climbs (bounds k) (parts k) (bounds (k + 1))) (n : Nat) :
    Climbs (bounds 0) (firstParts parts n) (bounds n) := by
  induction n with
  | zero => exact nil _
  | succ n ih =>
    rw [firstParts_succ]
    exact ih.append (climbs n)

end Climbs

end Stream'
