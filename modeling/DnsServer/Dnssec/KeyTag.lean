import DnsServer.Dns.RDataBytes
import DnsServer.Dnssec.Validator

/-! The key tag as a sum of words. -/

namespace DnsServer

/-- The sum of the big-endian words, an odd last byte counting as the high half of one. -/
def wordSum : List UInt8 → Nat
  | a :: b :: rest => a.toNat * 256 + b.toNat + wordSum rest
  | [a] => a.toNat * 256
  | [] => 0

theorem wordSum_le (bytes : List UInt8) : wordSum bytes ≤ 65535 * ((bytes.length + 1) / 2) := by
  induction bytes using wordSum.induct with
  | case1 a b rest ih =>
    have high := a.toNat_lt
    have low := b.toNat_lt
    simp only [wordSum, List.length_cons]
    omega
  | case2 a =>
    have high := a.toNat_lt
    simp only [wordSum, List.length_cons, List.length_nil]
    omega
  | case3 => exact Nat.zero_le _

/-- `+` where overflow is checked: nothing when the sum does not fit. -/
def checkedAdd (a b : UInt32) : Option UInt32 := if a.toNat + b.toNat < 4294967296 then some (a + b) else none

theorem checkedAdd_some (a b : UInt32) (fits : a.toNat + b.toNat < 4294967296) :
    checkedAdd a b = some (a + b) ∧ (a + b).toNat = a.toNat + b.toNat := by
  refine ⟨if_pos fits, ?_⟩
  rw [UInt32.toNat_add]
  omega

namespace DnssecValidator

/-- What a byte adds to the key tag sum. -/
def addend (entry : UInt8 × Nat) : UInt32 :=
  if entry.2 &&& 1 = 0 then entry.1.toUInt32 <<< 8 else entry.1.toUInt32

/-- `compute_key_tag` with every addition checked. -/
def computeKeyTagChecked (dnskey : DnsRecord) : Option UInt16 := do
  let ac ← dnskey.rdata.serialize.zipIdx.foldlM (fun ac entry => checkedAdd ac (addend entry)) 0
  let ac ← checkedAdd ac ((ac >>> 16) &&& 0xFFFF)
  return (ac &&& 0xFFFF).toUInt16

theorem addByte_eq (ac : UInt32) (entry : UInt8 × Nat) : addByte ac entry = ac + addend entry := by
  unfold addByte addend
  split <;> rfl

theorem addend_even (byte : UInt8) {n : Nat} (even : n % 2 = 0) : (addend (byte, n)).toNat = byte.toNat * 256 := by
  have bound := byte.toNat_lt
  rw [addend, if_pos (by rw [Nat.and_one_is_mod]; exact even), UInt32.toNat_shiftLeft, UInt8.toNat_toUInt32,
    show (8 : UInt32).toNat % 32 = 8 from rfl, Nat.shiftLeft_eq]
  dsimp only
  omega

theorem addend_odd (byte : UInt8) {n : Nat} (odd : n % 2 = 1) : (addend (byte, n)).toNat = byte.toNat := by
  rw [addend, if_neg (by rw [Nat.and_one_is_mod]; dsimp only; omega), UInt8.toNat_toUInt32]

/-- The loop adds up the words without an overflow as long as their sum fits, and then the checked additions
are the unchecked ones. -/
theorem foldlM_checkedAdd (bytes : List UInt8) (n : Nat) (ac : UInt32) (even : n % 2 = 0)
    (fits : ac.toNat + wordSum bytes < 4294967296) :
    (bytes.zipIdx n).foldlM (fun ac entry => checkedAdd ac (addend entry)) ac =
        some ((bytes.zipIdx n).foldl addByte ac) ∧
      ((bytes.zipIdx n).foldl addByte ac).toNat = ac.toNat + wordSum bytes := by
  induction bytes using wordSum.induct generalizing n ac with
  | case1 a b rest ih =>
    have high := addend_even a even
    have low : (addend (b, n + 1)).toNat = b.toNat := addend_odd b (by omega)
    rw [wordSum] at fits
    obtain ⟨first, sum⟩ := checkedAdd_some ac (addend (a, n)) (by omega)
    obtain ⟨second, sum'⟩ := checkedAdd_some (ac + addend (a, n)) (addend (b, n + 1)) (by omega)
    obtain ⟨checked, total⟩ := ih (n + 1 + 1) (ac + addend (a, n) + addend (b, n + 1)) (by omega)
      (by omega)
    rw [List.zipIdx_cons, List.zipIdx_cons, List.foldlM_cons, first, Option.bind_eq_bind, Option.bind_some,
      List.foldlM_cons, second, Option.bind_eq_bind, Option.bind_some, List.foldl_cons, List.foldl_cons,
      addByte_eq, addByte_eq]
    refine ⟨checked, ?_⟩
    rw [total, wordSum]
    omega
  | case2 a =>
    have high := addend_even a even
    rw [wordSum] at fits
    obtain ⟨first, sum⟩ := checkedAdd_some ac (addend (a, n)) (by omega)
    rw [List.zipIdx_cons, List.zipIdx_nil, List.foldlM_cons, first, Option.bind_eq_bind, Option.bind_some,
      List.foldlM_nil, List.foldl_cons, List.foldl_nil, addByte_eq]
    refine ⟨rfl, ?_⟩
    rw [sum, high, wordSum]
  | case3 => exact ⟨rfl, rfl⟩

/-- The last step folds the carries back in and takes the low half. -/
theorem fold_carries (ac : UInt32) (fits : ac.toNat + ac.toNat / 65536 < 4294967296) :
    checkedAdd ac ((ac >>> 16) &&& 0xFFFF) = some (ac + ((ac >>> 16) &&& 0xFFFF)) ∧
      ((ac + ((ac >>> 16) &&& 0xFFFF)) &&& 0xFFFF).toUInt16.toNat =
        (ac.toNat + ac.toNat / 65536) % 65536 := by
  have bound := ac.toNat_lt
  have carries : ((ac >>> 16) &&& 0xFFFF).toNat = ac.toNat / 65536 := by
    have sixteen : (16 : UInt32).toNat % 32 = 16 := by decide
    have mask : (0xFFFF : UInt32).toNat = 2 ^ 16 - 1 := by decide
    rw [UInt32.toNat_and, UInt32.toNat_shiftRight, sixteen, mask, Nat.and_two_pow_sub_one_eq_mod,
      Nat.shiftRight_eq_div_pow]
    omega
  obtain ⟨checked, sum⟩ := checkedAdd_some ac ((ac >>> 16) &&& 0xFFFF) (by omega)
  refine ⟨checked, ?_⟩
  have mask : (0xFFFF : UInt32).toNat = 2 ^ 16 - 1 := by decide
  rw [UInt32.toNat_toUInt16, UInt32.toNat_and, sum, carries, mask, Nat.and_two_pow_sub_one_eq_mod]
  omega

theorem computeKeyTag_words {dnskey : DnsRecord} (short : dnskey.rdata.serialize.length ≤ 65535) :
    computeKeyTagChecked dnskey = some (computeKeyTag dnskey) ∧
      (computeKeyTag dnskey).toNat =
        (wordSum dnskey.rdata.serialize + wordSum dnskey.rdata.serialize / 65536) % 65536 := by
  have bound := wordSum_le dnskey.rdata.serialize
  have zero : (0 : UInt32).toNat = 0 := rfl
  obtain ⟨checked, total⟩ := foldlM_checkedAdd dnskey.rdata.serialize 0 0 rfl (by omega)
  rw [zero, Nat.zero_add] at total
  obtain ⟨carried, tag⟩ := fold_carries (dnskey.rdata.serialize.zipIdx.foldl addByte 0) (by omega)
  rw [total] at tag
  refine ⟨?_, tag⟩
  rw [computeKeyTagChecked, checked, Option.bind_eq_bind, Option.bind_some, carried]
  rfl

/-- The tag of a key that was read is computed without an overflow, from the sum of the words of its RDATA
with the carries added back. -/
theorem computeKeyTag_parsed {data : List UInt8} {rdlength : UInt16} {o s : Nat} {dnskey : DnsRecord}
    (read : RData.parse .DNSKEY data rdlength o = (.ok dnskey.rdata, s)) :
    computeKeyTagChecked dnskey = some (computeKeyTag dnskey) ∧
      (computeKeyTag dnskey).toNat = (wordSum ((data.drop o).take rdlength.toNat) +
        wordSum ((data.drop o).take rdlength.toNat) / 65536) % 65536 := by
  have nameless : RecordType.DNSKEY.Nameless := trivial
  have written := RData.serialize_parse nameless (by decide) read
  have short : ((data.drop o).take rdlength.toNat).length ≤ 65535 :=
    (List.length_take_le _ _).trans (Nat.le_of_lt_succ rdlength.toNat_lt)
  rw [← written] at short ⊢
  exact computeKeyTag_words short

/-- The RDATA of a key of five bytes. -/
def shortKey : List UInt8 := [1, 1, 3, 15, 0xAB]

theorem computeKeyTag_parsed_shortKey :
    let dnskey := DnsRecord.new DnsName.root .DNSKEY 300 (.DNSKEY 257 3 15 [0xAB])
    computeKeyTagChecked dnskey = some (computeKeyTag dnskey) ∧
      (computeKeyTag dnskey).toNat = (wordSum ((shortKey.drop 0).take (5 : UInt16).toNat) +
        wordSum ((shortKey.drop 0).take (5 : UInt16).toNat) / 65536) % 65536 := by
  have read : RData.parse .DNSKEY shortKey 5 0 = (.ok (.DNSKEY 257 3 15 [0xAB]), 5) := by decide +kernel
  exact computeKeyTag_parsed read

end DnssecValidator

end DnsServer
