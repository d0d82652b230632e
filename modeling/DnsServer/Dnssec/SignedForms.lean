import DnsServer.Dns.NameWire
import DnsServer.Dnssec.CoveredRecords
import DnsServer.Lib.SelfDelimiting

/-! What a signature covers can be told from the bytes that are signed. -/

namespace DnsServer

open Bytes Utf8

theorem sizeByte_delimiting : SelfDelimiting (fun n => [UInt8.ofNat n]) (· ≤ 255) := by
  intro m n x y left right same
  obtain ⟨byte, rest⟩ := List.cons_eq_cons.mp same
  have value := congrArg UInt8.toNat byte
  simp only [UInt8.toNat_ofNat'] at value
  exact ⟨by omega, rest⟩

theorem toBe16_injective (x y : UInt16) (same : toBe16 x = toBe16 y) : x = y := by
  rw [← fromBe16_toBe16 x, ← fromBe16_toBe16 y]
  obtain ⟨high, rest⟩ := List.cons_eq_cons.mp same
  rw [high, List.head_eq_of_cons_eq rest]

theorem toBe32_injective (x y : UInt32) (same : toBe32 x = toBe32 y) : x = y := by
  simp only [toBe32, List.cons.injEq, and_true] at same
  obtain ⟨first, second, third, fourth⟩ := same
  rw [← fromBe32_toBe32 x, ← fromBe32_toBe32 y, first, second, third, fourth]

theorem byte_delimiting : SelfDelimiting (fun b : UInt8 => [b]) fun _ => True :=
  .of_length (fun _ => rfl) fun _ _ same => List.head_eq_of_cons_eq same

theorem toBe16_delimiting : SelfDelimiting toBe16 fun _ => True := .of_length toBe16_length toBe16_injective

theorem toBe32_delimiting : SelfDelimiting toBe32 fun _ => True := .of_length toBe32_length toBe32_injective

/-- Bytes behind a word with their number. -/
theorem counted16_delimiting :
    SelfDelimiting (fun w : List UInt8 => toBe16 (UInt16.ofNat w.length) ++ w) fun w => w.length ≤ 65535 := by
  have size : SelfDelimiting (fun n => toBe16 (UInt16.ofNat n)) (· ≤ 65535) := by
    intro m n x y left right same
    obtain ⟨word, rest⟩ := toBe16_delimiting trivial trivial same
    have value := congrArg UInt16.toNat word
    simp only [UInt16.toNat_ofNat'] at value
    exact ⟨by omega, rest⟩
  exact size.counted

namespace DnsName

/-- The length bytes of the labels say how long they are, and none of them is the end mark. -/
def Framed (name : DnsName) : Prop := ∀ label ∈ name.labels, 1 ≤ byteLen label ∧ byteLen label ≤ 255

instance (name : DnsName) : Decidable name.Framed :=
  inferInstanceAs (Decidable (∀ label ∈ name.labels, _ ∧ _))

theorem labelWire_delimiting :
    SelfDelimiting labelWire fun label => 1 ≤ byteLen label ∧ byteLen label ≤ 255 := by
  refine (sizeByte_delimiting.counted.comp fun label label' same => ?_).mono fun label sizes => sizes.2
  rw [← fromUtf8Lossy_asBytes label, same, fromUtf8Lossy_asBytes]

theorem toWire_delimiting : SelfDelimiting toWire Framed := by
  have labels : SelfDelimiting (fun labels : List String => labels.flatMap labelWire ++ [0])
      fun labels => ∀ label ∈ labels, 1 ≤ byteLen label ∧ byteLen label ≤ 255 := by
    refine labelWire_delimiting.terminated fun label sizes => ⟨_, _, rfl, fun zero => ?_⟩
    have value := congrArg UInt8.toNat zero
    rw [UInt8.toNat_ofNat', UInt8.toNat_zero] at value
    omega
  exact labels.comp fun ⟨_⟩ ⟨_⟩ same => congrArg DnsName.mk same

end DnsName

/-- A record as it is signed, without the TTL, which comes from the signature. -/
structure SignedForm where
  name : DnsName
  recordType : UInt16
  recordClass : UInt16
  rdata : List UInt8
  deriving DecidableEq

namespace SignedForm

def wire (originalTtl : UInt32) (form : SignedForm) : List UInt8 :=
  form.name.toWire ++ (toBe16 form.recordType ++ (toBe16 form.recordClass ++ (toBe32 originalTtl ++
    (toBe16 (UInt16.ofNat form.rdata.length) ++ form.rdata))))

structure Framed (form : SignedForm) : Prop where
  name : form.name.Framed
  rdata : form.rdata.length ≤ 65535

theorem wire_delimiting (originalTtl : UInt32) : SelfDelimiting (wire originalTtl) Framed := by
  have ttl : SelfDelimiting (fun _ : Unit => toBe32 originalTtl) fun _ => True :=
    .of_length (fun _ => rfl) fun _ _ _ => rfl
  have parts := DnsName.toWire_delimiting.pair
    (toBe16_delimiting.pair (toBe16_delimiting.pair (ttl.pair counted16_delimiting)))
  refine (parts.comp (f := fun form : SignedForm =>
    (form.name, form.recordType, form.recordClass, (), form.rdata)) ?_).mono fun form framed =>
      ⟨framed.name, trivial, trivial, trivial, framed.rdata⟩
  rintro ⟨_, _, _, _⟩ ⟨_, _, _, _⟩ same
  simp only [Prod.mk.injEq, true_and] at same
  obtain ⟨rfl, rfl, rfl, rfl⟩ := same
  rfl

theorem wire_ne_nil (originalTtl : UInt32) (form : SignedForm) : wire originalTtl form ≠ [] := by
  simp [wire, DnsName.toWire]

end SignedForm

def DnsRecord.signedForm (record : DnsRecord) : SignedForm :=
  ⟨record.name, record.recordType.toU16, record.recordClass.toU16, record.rdata.serialize⟩

namespace DnssecValidator

/-- The name of the signer of a signature. -/
def signer (rrsig : DnsRecord) : Option DnsName :=
  match rrsig.rdata with
  | .RRSIG _ _ _ _ _ _ _ signerName _ => some signerName
  | _ => none

/-- What the signature covers of a list of records. -/
def signedForms (rrsig : DnsRecord) (records : List DnsRecord) : List SignedForm :=
  (records.filter fun record => rrsig.covers = some record.recordType).map DnsRecord.signedForm

/-- The names and the data that go into the signed bytes have lengths that fit. -/
structure Framed (rrsig : DnsRecord) (records : List DnsRecord) : Prop where
  signer : ∀ name ∈ signer rrsig, name.Framed
  covered : ∀ form ∈ signedForms rrsig records, form.Framed

variable {rrsig rrsig' : DnsRecord} {records records' : List DnsRecord}

theorem unsignedRdata_delimiting {typeCovered typeCovered' : RecordType} {x y : List UInt8}
    {algorithm labels algorithm' labels' : UInt8} {ttl expiration inception ttl' expiration' inception' : UInt32}
    {keyTag keyTag' : UInt16} {signerName signerName' : DnsName} {signature signature' : List UInt8}
    (left : rrsig.rdata =
      .RRSIG typeCovered algorithm labels ttl expiration inception keyTag signerName signature)
    (right : rrsig'.rdata =
      .RRSIG typeCovered' algorithm' labels' ttl' expiration' inception' keyTag' signerName' signature')
    (framed : signerName.Framed) (framed' : signerName'.Framed)
    (same : unsignedRdata rrsig ++ x = unsignedRdata rrsig' ++ y) :
    unsignedRdata rrsig = unsignedRdata rrsig' ∧ ttl = ttl' ∧ x = y := by
  have fields := toBe16_delimiting.pair (byte_delimiting.pair (byte_delimiting.pair (toBe32_delimiting.pair
    (toBe32_delimiting.pair (toBe32_delimiting.pair (toBe16_delimiting.pair DnsName.toWire_delimiting))))))
  have written : unsignedRdata rrsig = toBe16 typeCovered.toU16 ++ ([algorithm] ++ ([labels] ++ (toBe32 ttl ++
      (toBe32 expiration ++ (toBe32 inception ++ (toBe16 keyTag ++ signerName.toWire)))))) := by
    rw [unsignedRdata, left]
    simp only [RData.serialize, List.append_nil, List.singleton_append]
  have written' : unsignedRdata rrsig' = toBe16 typeCovered'.toU16 ++ ([algorithm'] ++ ([labels'] ++
      (toBe32 ttl' ++ (toBe32 expiration' ++ (toBe32 inception' ++
        (toBe16 keyTag' ++ signerName'.toWire)))))) := by
    rw [unsignedRdata, right]
    simp only [RData.serialize, List.append_nil, List.singleton_append]
  rw [written, written'] at same ⊢
  obtain ⟨equal, rest⟩ := fields
    (a := (typeCovered.toU16, algorithm, labels, ttl, expiration, inception, keyTag, signerName))
    (b := (typeCovered'.toU16, algorithm', labels', ttl', expiration', inception', keyTag', signerName'))
    ⟨trivial, trivial, trivial, trivial, trivial, trivial, trivial, framed⟩
    ⟨trivial, trivial, trivial, trivial, trivial, trivial, trivial, framed'⟩ same
  simp only [Prod.mk.injEq] at equal
  obtain ⟨type, rfl, rfl, rfl, rfl, rfl, rfl, rfl⟩ := equal
  exact ⟨by rw [type], rfl, rest⟩

theorem coveredWires_forms {typeCovered : RecordType} (covers : rrsig.covers = some typeCovered)
    (originalTtl : UInt32) (records : List DnsRecord) :
    coveredWires typeCovered originalTtl records =
      (signedForms rrsig records).map (SignedForm.wire originalTtl) := by
  simp only [coveredWires, signedForms, covers, Option.some.injEq, eq_comm (a := typeCovered), List.map_map]
  rfl

theorem rrWires_written {typeCovered : RecordType} (covers : rrsig.covers = some typeCovered)
    (framed : Framed rrsig records) (originalTtl : UInt32) :
    ∀ w ∈ rrWires typeCovered originalTtl records,
      ∃ form : SignedForm, form.Framed ∧ form.wire originalTtl = w := by
  intro w member
  have covered := rrWires_perm.subset member
  rw [coveredWires_forms covers] at covered
  obtain ⟨form, inside, word⟩ := List.mem_map.mp covered
  exact ⟨form, framed.covered form inside, word⟩

theorem exists_rdata (signed : rrsig.covers.isSome) :
    ∃ typeCovered algorithm labels ttl expiration inception keyTag signerName signature, rrsig.rdata =
      .RRSIG typeCovered algorithm labels ttl expiration inception keyTag signerName signature := by
  unfold DnsRecord.covers at signed
  split at signed
  · exact ⟨_, _, _, _, _, _, _, _, _, by assumption⟩
  · cases signed

/-- The signed bytes say what the signature says of itself and which records it covers, each how often, and
nothing else: not their order. -/
theorem signedData_eq_iff (signed : rrsig.covers.isSome) (signed' : rrsig'.covers.isSome)
    (framed : Framed rrsig records) (framed' : Framed rrsig' records') :
    signedData rrsig records = signedData rrsig' records' ↔
      unsignedRdata rrsig = unsignedRdata rrsig' ∧
        (signedForms rrsig records).Perm (signedForms rrsig' records') := by
  obtain ⟨type, algorithm, labels, ttl, expiration, inception, keyTag, signerName, signature, rdata⟩ :=
    exists_rdata signed
  obtain ⟨type', algorithm', labels', ttl', expiration', inception', keyTag', signerName', signature', rdata'⟩ :=
    exists_rdata signed'
  have covers : rrsig.covers = some type := by rw [DnsRecord.covers, rdata]
  have covers' : rrsig'.covers = some type' := by rw [DnsRecord.covers, rdata']
  have signerFramed : signerName.Framed := framed.signer signerName (by rw [signer, rdata]; rfl)
  have signerFramed' : signerName'.Framed := framed'.signer signerName' (by rw [signer, rdata']; rfl)
  have data : signedData rrsig records = unsignedRdata rrsig ++ (rrWires type ttl records).flatten := by
    rw [signedData, rdata]
  have data' : signedData rrsig' records' = unsignedRdata rrsig' ++ (rrWires type' ttl' records').flatten := by
    rw [signedData, rdata']
  rw [data, data']
  constructor
  · intro same
    obtain ⟨head, rfl, wires⟩ := unsignedRdata_delimiting rdata rdata' signerFramed signerFramed' same
    refine ⟨head, (SignedForm.wire_delimiting ttl).perm_of_map framed.covered framed'.covered ?_⟩
    have sorted : rrWires type ttl records = rrWires type' ttl records' := by
      refine (SignedForm.wire_delimiting ttl).words.flatMap_inj ?_ (rrWires_written covers framed ttl)
        (rrWires_written covers' framed' ttl) (by rwa [List.flatMap_id', List.flatMap_id'])
      rintro _ ⟨form, _, rfl⟩
      exact form.wire_ne_nil ttl
    rw [← coveredWires_forms covers, ← coveredWires_forms covers']
    exact rrWires_perm.symm.trans (sorted ▸ rrWires_perm)
  · rintro ⟨head, same⟩
    obtain ⟨_, rfl, _⟩ := unsignedRdata_delimiting (x := []) (y := []) rdata rdata' signerFramed signerFramed'
      (by rw [head])
    have wires : (rrWires type ttl records).Perm (rrWires type' ttl records') := by
      refine rrWires_perm.trans (.trans ?_ rrWires_perm.symm)
      rw [coveredWires_forms covers, coveredWires_forms covers']
      exact same.map _
    have sorted : rrWires type ttl records = rrWires type' ttl records' :=
      wires.eq_of_pairwise' (List.pairwise_insertionSort (· ≤ ·) _) (List.pairwise_insertionSort (· ≤ ·) _)
    rw [head, sorted]

theorem framed_addressSet : Framed addressSignature addressSet where
  signer := by
    intro name mem
    obtain rfl := Option.some.inj mem
    decide
  covered := by
    intro form member
    rcases List.mem_cons.mp member with rfl | member
    · exact ⟨by decide, by decide⟩
    · obtain rfl := List.mem_singleton.mp member
      exact ⟨by decide, by decide⟩

theorem signedData_eq_iff_agedSet :
    signedData addressSignature addressSet = signedData addressSignature agedSet ↔
      unsignedRdata addressSignature = unsignedRdata addressSignature ∧
        (signedForms addressSignature addressSet).Perm (signedForms addressSignature agedSet) := by
  have swapped : (signedForms addressSignature agedSet).Perm (signedForms addressSignature addressSet) := by
    decide +kernel
  exact signedData_eq_iff rfl rfl framed_addressSet
    ⟨framed_addressSet.signer, fun form member => framed_addressSet.covered form (swapped.mem_iff.mp member)⟩

end DnssecValidator

end DnsServer
