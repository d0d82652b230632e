import DnsServer.Lib.Prog
import Mathlib.Data.List.GetD
import Mathlib.Data.List.Infix

/-! Indexed reads of a byte buffer, big-endian integers, and a cursor kept as the state. -/

namespace Bytes

open Prog

variable {σ ε : Type}

/-- `data[i]`: a panic outside the buffer. -/
def byteAt (data : List UInt8) (i : Nat) : Prog σ ε UInt8 :=
  match data[i]? with
  | some b => pure b
  | none => Prog.panic

/-- `&data[start..stop]`: a panic when the bounds are crossed or leave the buffer. -/
def slice (data : List UInt8) (start stop : Nat) : Prog σ ε (List UInt8) :=
  if start ≤ stop ∧ stop ≤ data.length then pure ((data.drop start).take (stop - start))
  else Prog.panic

/-- `u16::from_be_bytes`. -/
def fromBe16 (a b : UInt8) : UInt16 := UInt16.ofNat (a.toNat * 256 + b.toNat)

/-- `u32::from_be_bytes`. -/
def fromBe32 (a b c d : UInt8) : UInt32 :=
  UInt32.ofNat (((a.toNat * 256 + b.toNat) * 256 + c.toNat) * 256 + d.toNat)

/-- `u16::to_be_bytes`. -/
def toBe16 (x : UInt16) : List UInt8 := [UInt8.ofNat (x.toNat / 256), UInt8.ofNat x.toNat]

/-- `u32::to_be_bytes`. -/
def toBe32 (x : UInt32) : List UInt8 :=
  [UInt8.ofNat (x.toNat / 16777216), UInt8.ofNat (x.toNat / 65536),
    UInt8.ofNat (x.toNat / 256), UInt8.ofNat x.toNat]

def u16At (data : List UInt8) (i : Nat) : Prog σ ε UInt16 := do
  let a ← byteAt data i
  let b ← byteAt data (i + 1)
  return fromBe16 a b

def u32At (data : List UInt8) (i : Nat) : Prog σ ε UInt32 := do
  let a ← byteAt data i
  let b ← byteAt data (i + 1)
  let c ← byteAt data (i + 2)
  let d ← byteAt data (i + 3)
  return fromBe32 a b c d

/-- The big-endian word at `i`, as a pure function of the buffer. -/
def word16 (data : List UInt8) (i : Nat) : UInt16 := fromBe16 (data.getD i 0) (data.getD (i + 1) 0)

def word32 (data : List UInt8) (i : Nat) : UInt32 :=
  fromBe32 (data.getD i 0) (data.getD (i + 1) 0) (data.getD (i + 2) 0) (data.getD (i + 3) 0)

@[simp] theorem toBe16_length (x : UInt16) : (toBe16 x).length = 2 := rfl

@[simp] theorem toBe32_length (x : UInt32) : (toBe32 x).length = 4 := rfl

theorem fromBe16_toBe16 (x : UInt16) :
    fromBe16 (UInt8.ofNat (x.toNat / 256)) (UInt8.ofNat x.toNat) = x := by
  have bound := x.toNat_lt
  apply UInt16.toNat_inj.mp
  simp only [fromBe16, UInt16.toNat_ofNat', UInt8.toNat_ofNat']
  omega

theorem fromBe32_toBe32 (x : UInt32) :
    fromBe32 (UInt8.ofNat (x.toNat / 16777216)) (UInt8.ofNat (x.toNat / 65536))
      (UInt8.ofNat (x.toNat / 256)) (UInt8.ofNat x.toNat) = x := by
  have bound := x.toNat_lt
  apply UInt32.toNat_inj.mp
  simp only [fromBe32, UInt32.toNat_ofNat', UInt8.toNat_ofNat']
  omega

theorem toBe16_fromBe16 (a b : UInt8) : toBe16 (fromBe16 a b) = [a, b] := by
  have high := a.toNat_lt
  have low := b.toNat_lt
  have word : (fromBe16 a b).toNat = a.toNat * 256 + b.toNat := by
    rw [fromBe16, UInt16.toNat_ofNat']
    omega
  have first : UInt8.ofNat ((a.toNat * 256 + b.toNat) / 256) = a := by
    rw [← UInt8.toNat_inj, UInt8.toNat_ofNat']
    omega
  have second : UInt8.ofNat (a.toNat * 256 + b.toNat) = b := by
    rw [← UInt8.toNat_inj, UInt8.toNat_ofNat']
    omega
  rw [toBe16, word, first, second]

section Reads

variable {data : List UInt8} {i : Nat}

theorem byteAt_apply (inside : i < data.length) (s : σ) :
    (byteAt data i : Prog σ ε UInt8) s = (.ok data[i], s) := by
  simp only [byteAt, List.getElem?_eq_getElem inside, pure_apply]

theorem u16At_apply (inside : i + 1 < data.length) (s : σ) :
    (u16At data i : Prog σ ε UInt16) s = (.ok (word16 data i), s) := by
  rw [u16At, bind_ok (byteAt_apply (by omega) s), bind_ok (byteAt_apply inside s), pure_apply]
  simp only [word16, List.getD_eq_getElem data 0 inside, List.getD_eq_getElem data 0 (Nat.lt_of_succ_lt inside)]

theorem word16_toNat (first : i < data.length) (inside : i + 1 < data.length) :
    (word16 data i).toNat = data[i].toNat * 256 + data[i + 1].toNat := by
  have high := data[i].toNat_lt
  have low := data[i + 1].toNat_lt
  rw [word16, List.getD_eq_getElem data 0 inside, List.getD_eq_getElem data 0 first, fromBe16, UInt16.toNat_ofNat']
  omega

theorem u32At_apply (inside : i + 3 < data.length) (s : σ) :
    (u32At data i : Prog σ ε UInt32) s = (.ok (word32 data i), s) := by
  have first : i < data.length := by omega
  have second : i + 1 < data.length := by omega
  have third : i + 2 < data.length := by omega
  rw [u32At, bind_ok (byteAt_apply first s), bind_ok (byteAt_apply second s),
    bind_ok (byteAt_apply third s), bind_ok (byteAt_apply inside s), pure_apply]
  simp only [word32, List.getD_eq_getElem data 0 first, List.getD_eq_getElem data 0 second,
    List.getD_eq_getElem data 0 third, List.getD_eq_getElem data 0 inside]

theorem slice_apply {start stop : Nat} (ordered : start ≤ stop) (inside : stop ≤ data.length) (s : σ) :
    (slice data start stop : Prog σ ε (List UInt8)) s =
      (.ok ((data.drop start).take (stop - start)), s) := by
  simp only [slice, ordered, inside, and_self, if_true, pure_apply]

theorem slice_panics {start stop : Nat} (crossed : stop < start) (s : σ) :
    (slice data start stop : Prog σ ε (List UInt8)) s = (.panic, s) := by
  simp only [slice, show ¬(start ≤ stop) by omega, false_and, if_false, panic_apply]

end Reads

/-- The buffer holds the bytes `w` from position `i` on. -/
def Holds (data : List UInt8) (i : Nat) (w : List UInt8) : Prop := w <+: data.drop i

namespace Holds

variable {data : List UInt8} {i : Nat}

theorem append_iff {u v : List UInt8} :
    Holds data i (u ++ v) ↔ Holds data i u ∧ Holds data (i + u.length) v := by
  unfold Holds
  constructor
  · rintro ⟨rest, whole⟩
    rw [List.append_assoc] at whole
    refine ⟨⟨v ++ rest, whole⟩, rest, ?_⟩
    rw [← List.drop_drop, ← whole, List.drop_left]
  · rintro ⟨⟨tail, first⟩, rest, second⟩
    rw [← List.drop_drop, ← first, List.drop_left] at second
    exact ⟨rest, by rw [List.append_assoc, second, first]⟩

theorem length_le {w : List UInt8} (held : Holds data i w) (nonempty : w ≠ []) :
    i + w.length ≤ data.length := by
  have bound := List.IsPrefix.length_le held
  have positive := List.length_pos_of_ne_nil nonempty
  rw [List.length_drop] at bound
  omega

theorem take {w : List UInt8} (held : Holds data i w) : (data.drop i).take w.length = w := by
  obtain ⟨rest, whole⟩ := held
  rw [← whole, List.take_left]

theorem getElem {b : UInt8} (held : Holds data i [b]) (inside : i < data.length) : data[i] = b := by
  obtain ⟨rest, whole⟩ := held
  rw [List.drop_eq_getElem_cons inside] at whole
  exact (List.cons.inj whole).1.symm

theorem byte {b : UInt8} (held : Holds data i [b]) (s : σ) :
    (byteAt data i : Prog σ ε UInt8) s = (.ok b, s) := by
  have inside := held.length_le (by simp)
  simp only [List.length_singleton] at inside
  rw [byteAt_apply inside, held.getElem inside]

theorem cons_iff {b : UInt8} {w : List UInt8} :
    Holds data i (b :: w) ↔ Holds data i [b] ∧ Holds data (i + 1) w :=
  append_iff (u := [b])

theorem u16_append_iff {x : UInt16} {w : List UInt8} :
    Holds data i (toBe16 x ++ w) ↔ Holds data i (toBe16 x) ∧ Holds data (i + 2) w :=
  append_iff

theorem u32_append_iff {x : UInt32} {w : List UInt8} :
    Holds data i (toBe32 x ++ w) ↔ Holds data i (toBe32 x) ∧ Holds data (i + 4) w :=
  append_iff

theorem u16 {x : UInt16} (held : Holds data i (toBe16 x)) (s : σ) :
    (u16At data i : Prog σ ε UInt16) s = (.ok x, s) := by
  obtain ⟨high, low⟩ := cons_iff.mp held
  rw [u16At, bind_ok (high.byte s), bind_ok (low.byte s), pure_apply, fromBe16_toBe16]

theorem word16 {x : UInt16} (held : Holds data i (toBe16 x)) : word16 data i = x := by
  have inside := held.length_le (by simp [toBe16])
  rw [toBe16_length] at inside
  have read : (u16At data i : Prog Unit Unit UInt16) () = _ := u16At_apply (by omega) ()
  exact Outcome.ok.inj (congrArg Prod.fst (read.symm.trans (held.u16 ())))

theorem u32 {x : UInt32} (held : Holds data i (toBe32 x)) (s : σ) :
    (u32At data i : Prog σ ε UInt32) s = (.ok x, s) := by
  obtain ⟨first, held⟩ := cons_iff.mp held
  obtain ⟨second, held⟩ := cons_iff.mp held
  obtain ⟨third, fourth⟩ := cons_iff.mp held
  rw [u32At, bind_ok (first.byte s), bind_ok (second.byte s), bind_ok (third.byte s),
    bind_ok (fourth.byte s), pure_apply, fromBe32_toBe32]

theorem bytes {w : List UInt8} {stop : Nat} (held : Holds data i w) (ends : stop = i + w.length)
    (inside : stop ≤ data.length) (s : σ) :
    (slice data i stop : Prog σ ε (List UInt8)) s = (.ok w, s) := by
  rw [slice_apply (by omega) inside, show stop - i = w.length by omega, held.take]

theorem append {u v : List UInt8} {j : Nat} (first : Holds data i u) (second : Holds data j v)
    (next : j = i + u.length) : Holds data i (u ++ v) := by
  rw [next] at second
  exact append_iff.mpr ⟨first, second⟩

/-- What a read has returned stands in the buffer. -/
theorem of_byteAt {b : UInt8} {s s' : σ} (read : (byteAt data i : Prog σ ε UInt8) s = (.ok b, s')) :
    Holds data i [b] ∧ s' = s := by
  rcases found : data[i]? with _ | c
  · rw [byteAt, found] at read
    cases read
  · rw [byteAt, found] at read
    cases read
    obtain ⟨inside, same⟩ := List.getElem?_eq_some_iff.mp found
    refine ⟨⟨data.drop (i + 1), ?_⟩, rfl⟩
    rw [List.drop_eq_getElem_cons inside, same, List.singleton_append]

theorem of_u16At {x : UInt16} {s s' : σ} (read : (u16At data i : Prog σ ε UInt16) s = (.ok x, s')) :
    Holds data i (toBe16 x) ∧ s' = s := by
  obtain ⟨a, _, high, read⟩ := bind_eq_ok.mp read
  obtain ⟨b, _, low, read⟩ := bind_eq_ok.mp read
  cases read
  obtain ⟨first, rfl⟩ := of_byteAt high
  obtain ⟨second, rfl⟩ := of_byteAt low
  rw [toBe16_fromBe16]
  exact ⟨first.append second rfl, rfl⟩

theorem of_slice {w : List UInt8} {stop : Nat} {s s' : σ}
    (read : (slice data i stop : Prog σ ε (List UInt8)) s = (.ok w, s')) :
    Holds data i w ∧ i + w.length = stop ∧ s' = s := by
  unfold slice at read
  split at read
  · rename_i bounds
    cases read
    refine ⟨List.take_prefix _ _, ?_, rfl⟩
    rw [List.length_take, List.length_drop]
    omega
  · cases read

end Holds

end Bytes
