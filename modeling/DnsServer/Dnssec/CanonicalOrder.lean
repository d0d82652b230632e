import DnsServer.Dnssec.SignedData
import DnsServer.Lib.KeyedOrder

namespace Bytes

theorem toBe16_lt_iff {x y : UInt16} : toBe16 x < toBe16 y ↔ x < y := by
  have left := x.toNat_lt
  have right := y.toNat_lt
  simp only [toBe16, List.cons_lt_cons_iff, List.not_lt_nil, and_false, or_false, UInt8.lt_iff_toNat_lt,
    ← UInt8.toNat_inj, UInt8.toNat_ofNat', UInt16.lt_iff_toNat_lt]
  omega

end Bytes

namespace DnsServer

open Bytes KeyedOrder

namespace DnssecValidator

/-- The length field of an RDATA. -/
def lengthField (rdata : List UInt8) : UInt16 := UInt16.ofNat rdata.length

/-- The records in the order of their RDATA as octet strings. -/
def canonicalOrder (records : List DnsRecord) : List DnsRecord :=
  records.insertionSort fun record record' => record.rdata.serialize ≤ record'.rdata.serialize

/-- What is signed: the RDATA of the signature without the signature, then the records in canonical
order, with the original TTL. -/
def canonicalData (rrsig : DnsRecord) (records : List DnsRecord) : List UInt8 :=
  match rrsig.rdata with
  | .RRSIG _ _ _ originalTtl _ _ _ _ _ =>
    unsignedRdata rrsig ++ (canonicalOrder records).flatMap (rrWire originalTtl)
  | _ => []

/-- The records all have the name and the class, and the type that the signature covers. -/
def OneSet (rrsig : DnsRecord) (name : DnsName) (recordClass : RecordClass) (records : List DnsRecord) : Prop :=
  ∀ record ∈ records, record.name = name ∧ rrsig.covers = some record.recordType ∧
    record.recordClass = recordClass

/-- No RDATA has a greater length field than one that it precedes. -/
def LengthsAgree (records : List DnsRecord) : Prop :=
  ∀ record ∈ records, ∀ record' ∈ records, record.rdata.serialize < record'.rdata.serialize →
    lengthField record.rdata.serialize ≤ lengthField record'.rdata.serialize

/-- What stands before the length field in each record of one set. -/
def setHead (name : DnsName) (recordType : RecordType) (recordClass : RecordClass) (originalTtl : UInt32) :
    List UInt8 :=
  name.toWire ++ (toBe16 recordType.toU16 ++ (toBe16 recordClass.toU16 ++ toBe32 originalTtl))

theorem rrWire_eq (originalTtl : UInt32) (record : DnsRecord) :
    rrWire originalTtl record =
      encode (setHead record.name record.recordType record.recordClass originalTtl)
        (fun rdata => toBe16 (lengthField rdata)) record.rdata.serialize := by
  simp only [rrWire, DnsRecord.serialize, encode, setHead, lengthField, List.append_assoc]

section OneSet

variable {rrsig : DnsRecord} {name : DnsName} {recordClass : RecordClass} {records : List DnsRecord}

/-- The records of one set are sorted as their RDATA behind the length field is. -/
theorem rrWires_oneSet {typeCovered : RecordType} (originalTtl : UInt32) (covers : rrsig.covers = some typeCovered)
    (oneSet : OneSet rrsig name recordClass records) :
    rrWires typeCovered originalTtl records =
      ((records.map fun record => record.rdata.serialize).map
        (encode (setHead name typeCovered recordClass originalTtl) fun rdata =>
          toBe16 (lengthField rdata))).insertionSort (· ≤ ·) := by
  have type : ∀ record ∈ records, record.recordType = typeCovered := fun record member =>
    Option.some.inj ((oneSet record member).2.1.symm.trans covers)
  have all : (records.filter fun record => record.recordType = typeCovered) = records := by
    rw [List.filter_eq_self]
    intro record member
    exact decide_eq_true (type record member)
  rw [rrWires, all, List.map_map]
  congr 1
  refine List.map_congr_left fun record member => ?_
  rw [rrWire_eq, (oneSet record member).1, type record member, (oneSet record member).2.2]
  rfl

theorem flatMap_canonicalOrder {typeCovered : RecordType} (originalTtl : UInt32)
    (covers : rrsig.covers = some typeCovered) (oneSet : OneSet rrsig name recordClass records) :
    (canonicalOrder records).flatMap (rrWire originalTtl) =
      ((records.map fun record => record.rdata.serialize).insertionSort (· ≤ ·)).flatMap
        (encode (setHead name typeCovered recordClass originalTtl) fun rdata => toBe16 (lengthField rdata)) := by
  have mapped := List.map_insertionSort
    (fun record record' : DnsRecord => record.rdata.serialize ≤ record'.rdata.serialize) (· ≤ ·)
    (fun record => record.rdata.serialize) records fun _ _ _ _ => Iff.rfl
  rw [← mapped, List.flatMap_map]
  refine List.flatMap_congr fun record sorted => ?_
  have member : record ∈ records := (List.mem_insertionSort _).mp sorted
  obtain ⟨owner, type, class'⟩ := oneSet record member
  rw [rrWire_eq, owner, Option.some.inj (type.symm.trans covers), class']

/-- The data of one set are handed over in canonical order exactly when the lengths of the RDATA agree
with the order of the RDATA. -/
theorem signedData_canonical_iff (oneSet : OneSet rrsig name recordClass records) (signed : rrsig.covers.isSome) :
    (∀ (validator : DnssecValidator) (now : UInt32) (dnskey : DnsRecord),
      validator.verifyRrsig now rrsig records dnskey =
        validator.verdictOn now rrsig dnskey (signedData rrsig records)) ∧
      (signedData rrsig records = canonicalData rrsig records ↔ LengthsAgree records) := by
  refine ⟨fun validator now dnskey => validator.verifyRrsig_eq now rrsig dnskey records, ?_⟩
  obtain ⟨typeCovered, covers⟩ := Option.isSome_iff_exists.mp signed
  unfold DnsRecord.covers at covers
  unfold signedData canonicalData
  cases rdata : rrsig.rdata with
  | RRSIG covered _ _ originalTtl =>
    have known : rrsig.covers = some covered := by rw [DnsRecord.covers, rdata]
    have size : ∀ u v, (toBe16 (lengthField u)).length = (toBe16 (lengthField v)).length := fun _ _ => rfl
    dsimp only
    rw [List.append_cancel_left_eq, rrWires_oneSet originalTtl known oneSet,
      flatMap_canonicalOrder originalTtl known oneSet, flatten_sort_iff size]
    simp only [LengthsAgree, List.forall_mem_map, ← Std.not_lt, toBe16_lt_iff]
  | _ => simp only [rdata, reduceCtorEq] at covers

/-- A signature over the servers of a zone, by the key of the zone. -/
def serverSignature : DnsRecord :=
  DnsRecord.new zone .RRSIG 300 (.RRSIG .NS 15 2 300 2000 1000 (computeKeyTag zoneKey) zone [1])

/-- Two servers, of which the first has the longer name. -/
def twoServers : List DnsRecord :=
  [DnsRecord.new zone .NS 300 (.NS ⟨["b", "a"]⟩), DnsRecord.new zone .NS 300 (.NS ⟨["c"]⟩)]

theorem twoServers_oneSet : OneSet serverSignature zone .IN twoServers := by
  intro record member
  rcases List.mem_pair.mp member with rfl | rfl <;> exact ⟨rfl, rfl, rfl⟩

theorem signedData_canonical_iff_twoServers :
    (∀ (validator : DnssecValidator) (now : UInt32) (dnskey : DnsRecord),
      validator.verifyRrsig now serverSignature twoServers dnskey =
        validator.verdictOn now serverSignature dnskey (signedData serverSignature twoServers)) ∧
      (signedData serverSignature twoServers = canonicalData serverSignature twoServers ↔
        LengthsAgree twoServers) :=
  signedData_canonical_iff twoServers_oneSet rfl

/-- The server with the longer name comes first in canonical order, and is handed over last. -/
theorem signedData_twoServers_reversed :
    ¬∀ (rrsig : DnsRecord) (name : DnsName) (recordClass : RecordClass) (records : List DnsRecord),
      OneSet rrsig name recordClass records → rrsig.covers.isSome →
        signedData rrsig records = canonicalData rrsig records := by
  intro canonical
  have same := canonical serverSignature zone .IN twoServers twoServers_oneSet rfl
  exact absurd same (by decide +kernel)

end OneSet

end DnssecValidator

end DnsServer
