import DnsServer.Dnssec.SignedForms

namespace DnsServer

open Bytes

namespace DnssecValidator

section Question

variable (validator : DnssecValidator) (now : UInt32) (records : List DnsRecord) (queryName : DnsName)
  (queryType : RecordType)

/-- The list holds a record of the name and the type, and a signature over them that verifies. -/
def Secures : Prop :=
  (∃ record ∈ records, record.name = queryName ∧ record.recordType = queryType) ∧
    ∃ rrsig ∈ records, rrsig.recordType = .RRSIG ∧ rrsig.name = queryName ∧
      rrsig.covers = some queryType ∧
      ∃ dnskey ∈ records, dnskey.recordType = .DNSKEY ∧
        validator.verifyRrsig now rrsig records dnskey = .Secure

instance : Decidable (validator.Secures now records queryName queryType) :=
  inferInstanceAs (Decidable ((∃ record ∈ records, _ ∧ _) ∧ ∃ rrsig ∈ records, _ ∧ _ ∧ _ ∧
    ∃ dnskey ∈ records, _ ∧ _))

/-- The one signature is the other, over the same data. -/
def SameSignature (rrsig rrsig' : DnsRecord) : Prop :=
  signedData rrsig' records = signedData rrsig records ∧ rrsig'.signature = rrsig.signature

/-- The list holds a record of the name and the type, and the signature, for records of this name and
type. -/
def SignedFor (rrsig : DnsRecord) : Prop :=
  (∃ record ∈ records, record.name = queryName ∧ record.recordType = queryType) ∧
    ∃ rrsig' ∈ records, rrsig'.recordType = .RRSIG ∧ rrsig'.name = queryName ∧
      rrsig'.covers = some queryType ∧ SameSignature records rrsig rrsig'

/-- Every signature of the list that a key of the list is fit for, by its tag, its algorithm, its form
and the time, is for the question. -/
def SignedForOnly : Prop :=
  ∀ rrsig ∈ records, ∀ dnskey ∈ records, rrsig.SignedBy dnskey → LooksAtData now rrsig dnskey →
    SignedFor records queryName queryType rrsig

end Question

section Sound

variable {now : UInt32} {records : List DnsRecord} {rrsig rrsig' dnskey : DnsRecord}

/-- The fields that a check looks at are part of the signed data, so that it ends alike. -/
theorem SameSignature.verifyRrsig_eq (same : SameSignature records rrsig rrsig')
    (signed : rrsig.covers.isSome) (signed' : rrsig'.covers.isSome) (validator : DnssecValidator) :
    validator.verifyRrsig now rrsig' records dnskey = validator.verifyRrsig now rrsig records dnskey := by
  obtain ⟨data, signature⟩ := same
  rw [DnssecValidator.verifyRrsig_eq, DnssecValidator.verifyRrsig_eq, data]
  unfold verdictOn
  unfold DnsRecord.covers at signed signed'
  unfold signedData unsignedRdata at data
  unfold DnsRecord.signature at signature
  cases first : rrsig.rdata with
  | RRSIG typeCovered algorithm labels originalTtl expiration inception keyTag signerName bytes =>
    cases second : rrsig'.rdata with
    | RRSIG typeCovered' algorithm' labels' originalTtl' expiration' inception' keyTag' signerName' bytes' =>
      simp only [first, second, RData.serialize, List.append_assoc, List.cons_append,
        List.append_nil] at data signature
      obtain ⟨_, fields⟩ := toBe16_delimiting trivial trivial data
      simp only [List.cons.injEq] at fields
      obtain ⟨sameAlgorithm, _, fields⟩ := fields
      obtain ⟨_, fields⟩ := toBe32_delimiting trivial trivial fields
      obtain ⟨sameExpiration, fields⟩ := toBe32_delimiting trivial trivial fields
      obtain ⟨sameInception, _⟩ := toBe32_delimiting trivial trivial fields
      rw [sameAlgorithm, sameExpiration, sameInception, signature]
    | _ => simp only [second, Option.isSome_none, Bool.false_eq_true] at signed'
  | _ => simp only [first, Option.isSome_none, Bool.false_eq_true] at signed

/-- Whatever the cryptographic library makes of the signatures, `Secure` is about the question exactly
when every signature that a key of the list is fit for is. -/
theorem validateResponse_sound_iff (now : UInt32) (records : List DnsRecord) (queryName : DnsName)
    (queryType : RecordType) :
    (∀ validator : DnssecValidator,
        validator.validateResponse now records queryName queryType = .Secure →
          validator.Secures now records queryName queryType) ↔
      SignedForOnly now records queryName queryType := by
  constructor
  · intro sound rrsig member dnskey member' signed looks
    let accepts : List UInt8 → List UInt8 → Bool := fun data signature =>
      data = signedData rrsig records ∧ signature = rrsig.signature
    have verifies : (accepting accepts).verifyRrsig now rrsig records dnskey = .Secure := by
      rw [verifyRrsig_eq, verdictOn_accepting looks]
      simp [accepts]
    have secure : (accepting accepts).SomeSecure now records :=
      ⟨rrsig, member, dnskey, member', signed, verifies⟩
    obtain ⟨asked, rrsig', listed, type, owner, covers, dnskey', _, _, verifies'⟩ := sound (accepting accepts)
      (((accepting accepts).validateResponse_secure_iff now records queryName queryType).mpr secure)
    rw [verifyRrsig_eq] at verifies'
    have accepted := (verdictOn_accepting (.of_secure verifies') accepts _).mp verifies'
    have same : SameSignature records rrsig rrsig' := by
      simpa [accepts, SameSignature] using accepted
    exact ⟨asked, rrsig', listed, type, owner, covers, same⟩
  · intro only validator secure
    obtain ⟨rrsig, member, dnskey, member', signed, verifies⟩ :=
      (validator.validateResponse_secure_iff now records queryName queryType).mp secure
    have looks : LooksAtData now rrsig dnskey := by
      rw [verifyRrsig_eq] at verifies
      exact .of_secure verifies
    obtain ⟨asked, rrsig', listed, type, owner, covers, same⟩ := only rrsig member dnskey member' signed looks
    have covered : rrsig'.covers.isSome := by rw [covers]; rfl
    have verifies' : validator.verifyRrsig now rrsig' records dnskey = .Secure :=
      (same.verifyRrsig_eq looks.covers_isSome covered validator).trans verifies
    exact ⟨asked, rrsig', listed, type, owner, covers, dnskey, member', signed.2.1, verifies'⟩

/-- A question that the list says nothing about is answered securely. -/
theorem validateResponse_signedAddress_unsound :
    ¬(trusting.validateResponse 1500 signedAddress ⟨["bank", "test"]⟩ .A = .Secure →
      trusting.Secures 1500 signedAddress ⟨["bank", "test"]⟩ .A) := by
  decide +kernel

end Sound

end DnssecValidator

end DnsServer
