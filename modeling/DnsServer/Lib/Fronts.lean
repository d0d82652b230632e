import DnsServer.Lib.Bytes

/-! Reads of a buffer that see no more than the bytes it begins with. -/

namespace Bytes

open Prog

/-- The reading comes out the same for all buffers that begin with these bytes. -/
def FixedBy {α : Type} (front : List UInt8) (read : List UInt8 → α) : Prop :=
  ∀ data data', front <+: data → front <+: data' → read data = read data'

namespace FixedBy

variable {α : Type} {front : List UInt8} {read read' : List UInt8 → α}

theorem of_eq (same : ∀ data, front <+: data → read data = read front) : FixedBy front read :=
  fun data data' begins begins' => (same data begins).trans (same data' begins').symm

theorem iff_of_eq (same : ∀ data, front <+: data → read data = read' data) :
    FixedBy front read ↔ FixedBy front read' :=
  forall₄_congr fun data data' begins begins' => by rw [same data begins, same data' begins']

/-- A reading that is only done under a condition, and refused in one way otherwise. -/
theorem imp_iff {long stays : Prop} (reads : long → (FixedBy front read ↔ stays))
    (refused : ¬long → FixedBy front read) : FixedBy front read ↔ (long → stays) := by
  by_cases holds : long
  · exact (reads holds).trans (imp_iff_right holds).symm
  · exact iff_of_true (refused holds) fun holds' => absurd holds' holds

end FixedBy

section Extensions

variable {σ ε : Type} {front data : List UInt8} (begins : front <+: data) {i : Nat}

include begins

theorem byteAt_extends (inside : i < front.length) :
    (byteAt data i : Prog σ ε UInt8) = byteAt front i := by
  obtain ⟨more, rfl⟩ := begins
  rw [byteAt, byteAt, List.getElem?_append_left inside]

theorem u16At_extends (inside : i + 1 < front.length) :
    (u16At data i : Prog σ ε UInt16) = u16At front i := by
  rw [u16At, u16At, byteAt_extends begins (Nat.lt_of_succ_lt inside), byteAt_extends begins inside]

theorem u32At_extends (inside : i + 3 < front.length) :
    (u32At data i : Prog σ ε UInt32) = u32At front i := by
  rw [u32At, u32At, byteAt_extends begins (by omega : i < front.length),
    byteAt_extends begins (by omega : i + 1 < front.length),
    byteAt_extends begins (by omega : i + 2 < front.length), byteAt_extends begins inside]

theorem take_drop_extends {n : Nat} (inside : i + n ≤ front.length) :
    (data.drop i).take n = (front.drop i).take n := by
  obtain ⟨more, rfl⟩ := begins
  have room : n ≤ (front.drop i).length := by
    rw [List.length_drop]
    omega
  rw [List.drop_append_of_le_length (by omega), List.take_append_of_le_length room]

theorem slice_extends {stop : Nat} (inside : stop ≤ front.length) :
    (slice data i stop : Prog σ ε (List UInt8)) = slice front i stop := by
  have longer := begins.length_le
  by_cases ordered : i ≤ stop
  · rw [slice, slice, if_pos ⟨ordered, inside.trans longer⟩, if_pos ⟨ordered, inside⟩,
      take_drop_extends begins (by omega)]
  · rw [slice, slice, if_neg (fun both => ordered both.1), if_neg (fun both => ordered both.1)]

end Extensions

end Bytes
