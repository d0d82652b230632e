import Mathlib.Data.List.GetD

/-! The URL-safe alphabet of base64, without padding. -/

namespace Base64

def alphabet : List Char :=
  "ABCDEFGHIJKLMNOPQRSTUVWXYZabcdefghijklmnopqrstuvwxyz0123456789-_".toList

/-- The digit of a six-bit value. -/
def digit (n : Nat) : Char := alphabet.getD n 'A'

/-- The six-bit value of a digit. -/
def value (c : Char) : Option Nat := alphabet.idxOf? c

theorem value_digit : ∀ n < 64, value (digit n) = some n := by
  decide +kernel

theorem digit_mem (n : Nat) : digit n ∈ alphabet := by
  unfold digit
  rcases Nat.lt_or_ge n alphabet.length with inside | outside
  · rw [List.getD_eq_getElem _ _ inside]
    exact List.getElem_mem inside
  · rw [List.getD_eq_default _ _ outside]
    exact List.mem_cons_self

def encode : List UInt8 → List Char
  | [] => []
  | [a] => [digit (a.toNat / 4), digit (a.toNat % 4 * 16)]
  | [a, b] => [digit (a.toNat / 4), digit (a.toNat % 4 * 16 + b.toNat / 16), digit (b.toNat % 16 * 4)]
  | a :: b :: c :: rest =>
    digit (a.toNat / 4) :: digit (a.toNat % 4 * 16 + b.toNat / 16) ::
      digit (b.toNat % 16 * 4 + c.toNat / 64) :: digit (c.toNat % 64) :: encode rest

/-- A text of no other letters; the bits that a short group leaves over are zero. -/
def decode : List Char → Option (List UInt8)
  | [] => some []
  | [_] => none
  | [w, x] => do
    let w ← value w
    let x ← value x
    if x % 16 = 0 then some [UInt8.ofNat (w * 4 + x / 16)] else none
  | [w, x, y] => do
    let w ← value w
    let x ← value x
    let y ← value y
    if y % 4 = 0 then some [UInt8.ofNat (w * 4 + x / 16), UInt8.ofNat (x % 16 * 16 + y / 4)] else none
  | w :: x :: y :: z :: rest => do
    let w ← value w
    let x ← value x
    let y ← value y
    let z ← value z
    let bytes ← decode rest
    some (UInt8.ofNat (w * 4 + x / 16) :: UInt8.ofNat (x % 16 * 16 + y / 4) ::
      UInt8.ofNat (y % 4 * 64 + z) :: bytes)

theorem ofNat_eq {n : Nat} {a : UInt8} (same : n = a.toNat) : UInt8.ofNat n = a := by
  rw [same, UInt8.ofNat_toNat]

theorem decode_encode (bytes : List UInt8) : decode (encode bytes) = some bytes := by
  induction bytes using encode.induct with
  | case1 => rfl
  | case2 a =>
    have small := a.toNat_lt
    have first : UInt8.ofNat (a.toNat / 4 * 4 + a.toNat % 4 * 16 / 16) = a := ofNat_eq (by omega)
    simp only [encode, decode, value_digit (a.toNat / 4) (by omega), value_digit (a.toNat % 4 * 16) (by omega),
      Option.bind_eq_bind, Option.bind_some, if_pos (Nat.mul_mod_left _ 16), first]
  | case3 a b =>
    have small := a.toNat_lt
    have small' := b.toNat_lt
    have first : UInt8.ofNat (a.toNat / 4 * 4 + (a.toNat % 4 * 16 + b.toNat / 16) / 16) = a :=
      ofNat_eq (by omega)
    have second : UInt8.ofNat ((a.toNat % 4 * 16 + b.toNat / 16) % 16 * 16 + b.toNat % 16 * 4 / 4) = b :=
      ofNat_eq (by omega)
    simp only [encode, decode, value_digit (a.toNat / 4) (by omega),
      value_digit (a.toNat % 4 * 16 + b.toNat / 16) (by omega), value_digit (b.toNat % 16 * 4) (by omega),
      Option.bind_eq_bind, Option.bind_some, if_pos (Nat.mul_mod_left _ 4), first, second]
  | case4 a b c rest ih =>
    have small := a.toNat_lt
    have small' := b.toNat_lt
    have small'' := c.toNat_lt
    have first : UInt8.ofNat (a.toNat / 4 * 4 + (a.toNat % 4 * 16 + b.toNat / 16) / 16) = a :=
      ofNat_eq (by omega)
    have second : UInt8.ofNat ((a.toNat % 4 * 16 + b.toNat / 16) % 16 * 16 +
        (b.toNat % 16 * 4 + c.toNat / 64) / 4) = b := ofNat_eq (by omega)
    have third : UInt8.ofNat ((b.toNat % 16 * 4 + c.toNat / 64) % 4 * 64 + c.toNat % 64) = c :=
      ofNat_eq (by omega)
    simp only [encode, decode, value_digit (a.toNat / 4) (by omega),
      value_digit (a.toNat % 4 * 16 + b.toNat / 16) (by omega),
      value_digit (b.toNat % 16 * 4 + c.toNat / 64) (by omega), value_digit (c.toNat % 64) (by omega),
      Option.bind_eq_bind, Option.bind_some, ih, first, second, third]

/-- An encoding consists of digits. -/
theorem mem_alphabet_of_mem_encode {bytes : List UInt8} : ∀ c ∈ encode bytes, c ∈ alphabet := by
  induction bytes using encode.induct with
  | case1 => exact fun c member => absurd member List.not_mem_nil
  | case2 a =>
    simp only [encode, List.forall_mem_cons, digit_mem, List.not_mem_nil, false_imp_iff, implies_true,
      and_self]
  | case3 a b =>
    simp only [encode, List.forall_mem_cons, digit_mem, List.not_mem_nil, false_imp_iff, implies_true,
      and_self]
  | case4 a b c rest ih =>
    simp only [encode, List.forall_mem_cons, digit_mem, true_and]
    exact ih

end Base64
