import DnsServer.Dnssec.Validator

namespace DnsServer

namespace DnsRecord

/-- The key tag of a signature. -/
def signatureTag (record : DnsRecord) : Option UInt16 :=
  match record.rdata with
  | .RRSIG _ _ _ _ _ _ keyTag _ _ => some keyTag
  | _ => none

/-- The type that a signature covers. -/
def covers (record : DnsRecord) : Option RecordType :=
  match record.rdata with
  | .RRSIG typeCovered _ _ _ _ _ _ _ _ => some typeCovered
  | _ => none

/-- The signature itself. -/
def signature (record : DnsRecord) : List UInt8 :=
  match record.rdata with
  | .RRSIG _ _ _ _ _ _ _ _ signature => signature
  | _ => []

/-- A signature and a key, of which the one names the other by its tag. -/
def SignedBy (rrsig dnskey : DnsRecord) : Prop :=
  rrsig.recordType = .RRSIG ∧ dnskey.recordType = .DNSKEY ∧
    rrsig.signatureTag = some (DnssecValidator.computeKeyTag dnskey)

instance (rrsig dnskey : DnsRecord) : Decidable (rrsig.SignedBy dnskey) :=
  inferInstanceAs (Decidable (_ ∧ _ ∧ _))

end DnsRecord

namespace DnssecValidator

variable (validator : DnssecValidator) (now : UInt32) (records : List DnsRecord) (queryName : DnsName)
  (queryType : RecordType)

theorem securedBy_iff (dnskeys : List DnsRecord) (rrsig : DnsRecord) :
    validator.securedBy now records dnskeys rrsig ↔
      ∃ dnskey ∈ dnskeys, rrsig.signatureTag = some (computeKeyTag dnskey) ∧
        validator.verifyRrsig now rrsig records dnskey = .Secure := by
  unfold securedBy DnsRecord.signatureTag
  cases rrsig.rdata with
  | RRSIG typeCovered algorithm labels originalTtl expiration inception keyTag signerName signature =>
    dsimp only
    rw [List.any_eq_true]
    refine exists_congr fun dnskey => and_congr_right fun _ => ?_
    rw [decide_eq_true_iff, Option.some.injEq, eq_comm]
  | _ => exact iff_of_false Bool.false_ne_true fun ⟨_, _, tag, _⟩ => by cases tag

/-- Some signature of the list verifies with a key of the list that it names. -/
def SomeSecure : Prop :=
  ∃ rrsig ∈ records, ∃ dnskey ∈ records, rrsig.SignedBy dnskey ∧
    validator.verifyRrsig now rrsig records dnskey = .Secure

instance : Decidable (validator.SomeSecure now records) :=
  inferInstanceAs (Decidable (∃ rrsig ∈ records, ∃ dnskey ∈ records, _ ∧ _))

/-- Only a signature that verifies makes a difference to the loops. -/
theorem any_securedBy_iff :
    (records.filter fun record => record.recordType = .RRSIG).any (validator.securedBy now records
        (records.filter fun record => record.recordType = .DNSKEY)) ↔
      validator.SomeSecure now records := by
  simp only [List.any_eq_true, List.mem_filter, decide_eq_true_eq, securedBy_iff, SomeSecure,
    DnsRecord.SignedBy]
  constructor
  · rintro ⟨rrsig, ⟨member, signature⟩, dnskey, ⟨member', key⟩, tag, secure⟩
    exact ⟨rrsig, member, dnskey, member', ⟨signature, key, tag⟩, secure⟩
  · rintro ⟨rrsig, member, dnskey, member', ⟨signature, key, tag⟩, secure⟩
    exact ⟨rrsig, ⟨member, signature⟩, dnskey, ⟨member', key⟩, tag, secure⟩

theorem validateResponse_cases :
    (validator.SomeSecure now records ∧
      validator.validateResponse now records queryName queryType = .Secure) ∨
    ¬validator.SomeSecure now records ∧
      (validator.validateResponse now records queryName queryType = .Insecure ∧
          (∀ record ∈ records, record.recordType ≠ .RRSIG) ∨
        validator.validateResponse now records queryName queryType = .Indeterminate) := by
  unfold validateResponse
  by_cases unsigned : (records.filter fun record => record.recordType = .RRSIG).isEmpty
  · have none : ∀ record ∈ records, record.recordType ≠ .RRSIG := by
      simpa using unsigned
    refine Or.inr ⟨?_, Or.inl ⟨if_pos unsigned, none⟩⟩
    rintro ⟨rrsig, member, _, _, signed, _⟩
    exact none rrsig member signed.1
  · by_cases secure : validator.SomeSecure now records
    · refine Or.inl ⟨secure, ?_⟩
      dsimp only
      rw [if_neg unsigned, if_pos ((validator.any_securedBy_iff now records).mpr secure)]
    · refine Or.inr ⟨secure, Or.inr ?_⟩
      dsimp only
      rw [if_neg unsigned, if_neg fun any => secure ((validator.any_securedBy_iff now records).mp any)]

theorem validateResponse_secure_iff :
    validator.validateResponse now records queryName queryType = .Secure ↔
      validator.SomeSecure now records := by
  rcases validator.validateResponse_cases now records queryName queryType with
    ⟨secure, verdict⟩ | ⟨none, ⟨verdict, _⟩ | verdict⟩
  · exact iff_of_true verdict secure
  · exact iff_of_false (by rw [verdict]; decide) none
  · exact iff_of_false (by rw [verdict]; decide) none

/-- No list of records is ever found to be bogus. -/
theorem validateResponse_ne_bogus :
    validator.validateResponse now records queryName queryType ≠ .Bogus := by
  rcases validator.validateResponse_cases now records queryName queryType with
    ⟨_, verdict⟩ | ⟨_, ⟨verdict, _⟩ | verdict⟩ <;> rw [verdict] <;> decide

/-- Every signature verifies. -/
def trusting : DnssecValidator :=
  ⟨fun _ _ _ _ _ => true, fun _ _ _ => true, fun _ _ _ => true, fun _ _ _ => true⟩

def zone : DnsName := ⟨["example", "com"]⟩

def zoneKey : DnsRecord := DnsRecord.new zone .DNSKEY 300 (.DNSKEY 256 3 15 (List.replicate 32 0))

/-- Valid from second 1000 to second 2000. -/
def addressSignature : DnsRecord :=
  DnsRecord.new zone .RRSIG 300 (.RRSIG .A 15 2 300 2000 1000 (computeKeyTag zoneKey) zone [1])

/-- An address with a signature over it and the key that made the signature. -/
def signedAddress : List DnsRecord :=
  [DnsRecord.new zone .A 300 (.A ⟨192, 0, 2, 1⟩), addressSignature, zoneKey]

end DnssecValidator

end DnsServer
