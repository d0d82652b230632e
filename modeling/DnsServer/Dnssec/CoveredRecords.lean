import DnsServer.Dnssec.SignedData
import Mathlib.Data.List.Forall2

namespace DnsServer

namespace DnssecValidator

/-- The records of the covered type as they are signed, in the order of the list. -/
def coveredWires (typeCovered : RecordType) (originalTtl : UInt32) (records : List DnsRecord) :
    List (List UInt8) :=
  (records.filter fun record => record.recordType = typeCovered).map (rrWire originalTtl)

section Wires

variable {typeCovered : RecordType} {originalTtl : UInt32} {record : DnsRecord} {records records' : List DnsRecord}

theorem coveredWires_cons (covered : record.recordType = typeCovered) :
    coveredWires typeCovered originalTtl (record :: records) =
      rrWire originalTtl record :: coveredWires typeCovered originalTtl records := by
  simp only [coveredWires, List.filter_cons, covered, decide_true, if_true, List.map_cons]

theorem coveredWires_cons_other (other : record.recordType ≠ typeCovered) :
    coveredWires typeCovered originalTtl (record :: records) = coveredWires typeCovered originalTtl records := by
  simp only [coveredWires, List.filter_cons, other, decide_false, Bool.false_eq_true, if_false]

theorem rrWires_perm : (rrWires typeCovered originalTtl records).Perm (coveredWires typeCovered originalTtl records) :=
  List.perm_insertionSort (· ≤ ·) _

theorem rrWires_congr
    (same : (coveredWires typeCovered originalTtl records).Perm (coveredWires typeCovered originalTtl records')) :
    rrWires typeCovered originalTtl records = rrWires typeCovered originalTtl records' :=
  (rrWires_perm.trans (same.trans rrWires_perm.symm)).eq_of_pairwise'
    (List.pairwise_insertionSort (· ≤ ·) _) (List.pairwise_insertionSort (· ≤ ·) _)

end Wires

section Rearranging

/-- The records in another order or with other TTLs, or records of other types added or removed, any
number of times. -/
inductive Rearranged (rrsig : DnsRecord) : List DnsRecord → List DnsRecord → Prop
  | order {records records'} : records.Perm records' → Rearranged rrsig records records'
  | ttls {records records'} :
      List.Forall₂ (fun record record' => ∃ ttl, record' = { record with ttl := ttl }) records records' →
      Rearranged rrsig records records'
  | others {records records'} :
      (records.filter fun record => rrsig.covers = some record.recordType) =
        (records'.filter fun record => rrsig.covers = some record.recordType) →
      Rearranged rrsig records records'
  | trans {records records' records''} : Rearranged rrsig records records' →
      Rearranged rrsig records' records'' → Rearranged rrsig records records''

theorem coveredWires_of_ttls (typeCovered : RecordType) (originalTtl : UInt32) {records records' : List DnsRecord}
    (changed : List.Forall₂ (fun record record' => ∃ ttl, record' = { record with ttl := ttl }) records records') :
    coveredWires typeCovered originalTtl records = coveredWires typeCovered originalTtl records' := by
  induction changed with
  | nil => rfl
  | @cons record record' records records' changed _ ih =>
    obtain ⟨ttl, same⟩ := changed
    have type : record'.recordType = record.recordType := by rw [same]
    have wire : rrWire originalTtl record' = rrWire originalTtl record := by rw [same]; rfl
    by_cases covered : record.recordType = typeCovered
    · rw [coveredWires_cons covered, coveredWires_cons (type.trans covered), wire, ih]
    · rw [coveredWires_cons_other covered, coveredWires_cons_other (type ▸ covered), ih]

theorem Rearranged.signedData_eq {rrsig : DnsRecord} {records records' : List DnsRecord}
    (rearranged : Rearranged rrsig records records') :
    signedData rrsig records = signedData rrsig records' := by
  induction rearranged with
  | order same =>
    unfold signedData
    cases rrsig.rdata with
    | RRSIG typeCovered => dsimp only; rw [rrWires_congr ((same.filter _).map _)]
    | _ => rfl
  | ttls changed =>
    unfold signedData
    cases rrsig.rdata with
    | RRSIG typeCovered _ _ originalTtl =>
      dsimp only
      rw [rrWires_congr (List.Perm.of_eq (coveredWires_of_ttls typeCovered originalTtl changed))]
    | _ => rfl
  | others same =>
    unfold signedData
    cases signed : rrsig.rdata with
    | RRSIG typeCovered =>
      have covers : rrsig.covers = some typeCovered := by rw [DnsRecord.covers, signed]
      simp only [covers, Option.some.injEq, eq_comm (a := typeCovered)] at same
      dsimp only
      rw [rrWires, rrWires, same]
    | _ => rfl
  | trans _ _ first second => exact first.trans second

/-- The verdict on a signature does not depend on the order of the records, on their TTLs or on
records of other types. -/
theorem verifyRrsig_rearranged (validator : DnssecValidator) (now : UInt32) (rrsig dnskey : DnsRecord)
    {records records' : List DnsRecord} (rearranged : Rearranged rrsig records records') :
    validator.verifyRrsig now rrsig records dnskey = validator.verifyRrsig now rrsig records' dnskey := by
  rw [verifyRrsig_eq, verifyRrsig_eq, rearranged.signedData_eq]

def zoneAddress (ttl : UInt32) (last : UInt8) : DnsRecord := DnsRecord.new zone .A ttl (.A ⟨192, 0, 2, last⟩)

/-- Two addresses, their signature and its key. -/
def addressSet : List DnsRecord := [zoneAddress 300 1, zoneAddress 300 2, addressSignature, zoneKey]

/-- The same in another order, as a cache gives them later, with a name server. -/
def agedSet : List DnsRecord :=
  [zoneKey, zoneAddress 60 2, DnsRecord.new zone .NS 300 (.NS ⟨["ns1", "example", "com"]⟩), zoneAddress 60 1,
    addressSignature]

theorem rearranged_agedSet : Rearranged addressSignature addressSet agedSet := by
  have order : addressSet.Perm [zoneKey, zoneAddress 300 2, zoneAddress 300 1, addressSignature] := by
    decide +kernel
  have ttls : Rearranged addressSignature [zoneKey, zoneAddress 300 2, zoneAddress 300 1, addressSignature]
      [zoneKey, zoneAddress 60 2, zoneAddress 60 1, addressSignature] :=
    .ttls (.cons ⟨300, rfl⟩ (.cons ⟨60, rfl⟩ (.cons ⟨60, rfl⟩ (.cons ⟨300, rfl⟩ .nil))))
  exact .trans (.order order) (.trans ttls (.others (by decide +kernel)))

theorem verifyRrsig_rearranged_agedSet :
    trusting.verifyRrsig 1500 addressSignature addressSet zoneKey =
      trusting.verifyRrsig 1500 addressSignature agedSet zoneKey :=
  verifyRrsig_rearranged trusting 1500 addressSignature zoneKey rearranged_agedSet

end Rearranging

section Riding

/-- A record of the covered type that belongs to another name. -/
def Foreign (rrsig record : DnsRecord) : Prop :=
  rrsig.covers = some record.recordType ∧ record.name ≠ rrsig.name

/-- The second list is the first with records of the covered type of other names put in. -/
inductive RidesAlong (rrsig : DnsRecord) : List DnsRecord → List DnsRecord → Prop
  | nil : RidesAlong rrsig [] []
  | keep (record) {records more} : RidesAlong rrsig records more →
      RidesAlong rrsig (record :: records) (record :: more)
  | add {record} {records more} : Foreign rrsig record → RidesAlong rrsig records more →
      RidesAlong rrsig records (record :: more)

variable {rrsig : DnsRecord} {records more : List DnsRecord}

/-- The bytes of the covered records as they are signed. -/
def coveredBytes (typeCovered : RecordType) (originalTtl : UInt32) (records : List DnsRecord) : Nat :=
  ((coveredWires typeCovered originalTtl records).map List.length).sum

theorem rrWires_length (typeCovered : RecordType) (originalTtl : UInt32) (records : List DnsRecord) :
    (rrWires typeCovered originalTtl records).flatten.length = coveredBytes typeCovered originalTtl records := by
  rw [List.length_flatten]
  exact (rrWires_perm.map List.length).sum_nat

theorem rrWire_length_pos (originalTtl : UInt32) (record : DnsRecord) : 0 < (rrWire originalTtl record).length := by
  simp only [rrWire, DnsRecord.serialize, DnsName.toWire, List.length_append, List.length_singleton]
  omega

/-- Whatever rides along makes the signed data longer. -/
theorem RidesAlong.longer {typeCovered : RecordType} (covers : rrsig.covers = some typeCovered)
    (originalTtl : UInt32) (rides : RidesAlong rrsig records more) :
    coveredBytes typeCovered originalTtl records ≤ coveredBytes typeCovered originalTtl more ∧
      (coveredBytes typeCovered originalTtl records = coveredBytes typeCovered originalTtl more →
        records = more) := by
  induction rides with
  | nil => exact ⟨le_rfl, fun _ => rfl⟩
  | keep record _ ih =>
    by_cases covered : record.recordType = typeCovered
    · simp only [coveredBytes, coveredWires_cons covered, List.map_cons, List.sum_cons]
      refine ⟨Nat.add_le_add_left ih.1 _, fun same => ?_⟩
      rw [ih.2 (Nat.add_left_cancel same)]
    · simp only [coveredBytes, coveredWires_cons_other covered]
      refine ⟨ih.1, fun same => ?_⟩
      rw [ih.2 same]
  | @add record _ more foreign _ ih =>
    have covered : record.recordType = typeCovered := Option.some.inj (foreign.1.symm.trans covers)
    have positive := rrWire_length_pos originalTtl record
    have added : coveredBytes typeCovered originalTtl (record :: more) =
        (rrWire originalTtl record).length + coveredBytes typeCovered originalTtl more := by
      simp only [coveredBytes, coveredWires_cons covered, List.map_cons, List.sum_cons]
    rw [added]
    exact ⟨by omega, fun same => by omega⟩

theorem RidesAlong.signedData_eq (rides : RidesAlong rrsig records more) (signed : rrsig.covers.isSome)
    (same : signedData rrsig more = signedData rrsig records) : more = records := by
  obtain ⟨typeCovered, covers⟩ := Option.isSome_iff_exists.mp signed
  unfold DnsRecord.covers at covers
  unfold signedData at same
  cases rdata : rrsig.rdata with
  | RRSIG covered _ _ originalTtl =>
    simp only [rdata, Option.some.injEq] at covers same
    have known : rrsig.covers = some covered := by rw [DnsRecord.covers, rdata]
    have size := congrArg List.length (List.append_cancel_left same)
    rw [rrWires_length, rrWires_length] at size
    exact ((rides.longer known originalTtl).2 size.symm).symm
  | _ => simp only [rdata, reduceCtorEq] at covers

theorem LooksAtData.covers_isSome {now : UInt32} {dnskey : DnsRecord} (looks : LooksAtData now rrsig dnskey) :
    rrsig.covers.isSome := by
  unfold LooksAtData at looks
  unfold DnsRecord.covers
  cases rdata : rrsig.rdata with
  | RRSIG => rfl
  | _ => simp only [rdata] at looks

/-- Whether records of other names may ride along: the verdict of every validator stays the same
exactly when the check is over before it looks at the data. -/
theorem verifyRrsig_ridesAlong_iff (now : UInt32) (dnskey : DnsRecord) (rides : RidesAlong rrsig records more) :
    (∀ validator : DnssecValidator, validator.verifyRrsig now rrsig more dnskey =
        validator.verifyRrsig now rrsig records dnskey) ↔
      more = records ∨ ¬LooksAtData now rrsig dnskey := by
  constructor
  · intro unchanged
    rw [or_iff_not_imp_right, not_not]
    intro looks
    have same := unchanged (recognising (signedData rrsig records))
    have secure := (verdictOn_recognising looks (signedData rrsig records) _).mpr rfl
    rw [verifyRrsig_eq, verifyRrsig_eq, secure, verdictOn_recognising looks] at same
    exact rides.signedData_eq looks.covers_isSome same
  · rintro (rfl | settled) validator
    · rfl
    · obtain ⟨verdict, _, always⟩ := verdictOn_settled settled
      rw [verifyRrsig_eq, verifyRrsig_eq, always, always]

/-- An address of another name. -/
def otherAddress : DnsRecord := DnsRecord.new ⟨["mail", "example", "com"]⟩ .A 300 (.A ⟨192, 0, 2, 2⟩)

theorem otherAddress_rides : RidesAlong addressSignature signedAddress (otherAddress :: signedAddress) := by
  refine .add ⟨rfl, by decide⟩ ?_
  exact .keep _ (.keep _ (.keep _ .nil))

theorem verifyRrsig_ridesAlong_iff_otherAddress :
    (∀ validator : DnssecValidator,
        validator.verifyRrsig 1500 addressSignature (otherAddress :: signedAddress) zoneKey =
          validator.verifyRrsig 1500 addressSignature signedAddress zoneKey) ↔
      otherAddress :: signedAddress = signedAddress ∨ ¬LooksAtData 1500 addressSignature zoneKey :=
  verifyRrsig_ridesAlong_iff 1500 zoneKey otherAddress_rides

/-- A signature that verifies over the address no longer does when the other address comes along. -/
theorem verifyRrsig_otherAddress_changed :
    ¬∀ (validator : DnssecValidator) (now : UInt32) (rrsig dnskey : DnsRecord) (records more : List DnsRecord),
      RidesAlong rrsig records more → validator.verifyRrsig now rrsig more dnskey =
        validator.verifyRrsig now rrsig records dnskey := by
  intro unchanged
  have same := unchanged (recognising (signedData addressSignature signedAddress)) 1500 addressSignature
    zoneKey _ _ otherAddress_rides
  exact absurd same (by decide +kernel)

end Riding

end DnssecValidator

end DnsServer
