import DnsServer.Dnssec.Verdict

namespace DnsServer

open Bytes

namespace DnssecValidator

section Form

/-- The exponent leaves room for a modulus. -/
def RsaKey (publicKeyData : List UInt8) : Prop :=
  match publicKeyData with
  | [] => False
  | first :: rest =>
    if first = 0 then
      match rest with
      | high :: low :: body => (fromBe16 high low).toNat < body.length
      | _ => False
    else first.toNat < rest.length

/-- A key and a signature of the form that the algorithm asks for. -/
def WellFormed (algorithm : DnssecAlgorithm) (publicKey signature : List UInt8) : Prop :=
  match algorithm with
  | .RsaSha1 | .RsaSha256 | .RsaSha512 => RsaKey publicKey
  | .EcdsaP256Sha256 => publicKey.length = 64 ∧ signature.length = 64
  | .EcdsaP384Sha384 => publicKey.length = 96 ∧ signature.length = 96
  | .Ed25519 => publicKey.length = 32
  | .Unknown _ => False

/-- Whether a signature verifies depends on the data and the signature alone. -/
def accepting (accepts : (data signature : List UInt8) → Bool) : DnssecValidator where
  rsa := fun _ _ _ data signature => accepts data signature
  ecdsaP256 := fun _ data signature => accepts data signature
  ecdsaP384 := fun _ data signature => accepts data signature
  ed25519 := fun _ data signature => accepts data signature

/-- Every signature verifies over the expected data, and none over others. -/
def recognising (expected : List UInt8) : DnssecValidator := accepting fun data _ => data = expected

variable {publicKey signature : List UInt8}

theorem verifyRsaComponents_error {params : RsaParameters} {expLen : Nat} {body : List UInt8}
    (short : body.length ≤ expLen) (validator : DnssecValidator) (data : List UInt8) :
    validator.verifyRsaComponents params expLen body data signature =
      .error "Invalid RSA key structure" :=
  if_pos short

theorem verifyRsaComponents_accepting {params : RsaParameters} {expLen : Nat} {body : List UInt8}
    (room : expLen < body.length) (accepts : List UInt8 → List UInt8 → Bool) (data : List UInt8) :
    (accepting accepts).verifyRsaComponents params expLen body data signature =
      .ok (accepts data signature) :=
  if_neg (Nat.not_le.mpr room)

theorem verifyRsa_error (params : RsaParameters) (malformed : ¬RsaKey publicKey) :
    ∃ error, ∀ (validator : DnssecValidator) (data : List UInt8),
      validator.verifyRsa params publicKey data signature = .error error := by
  rcases publicKey with _ | ⟨first, rest⟩
  · exact ⟨_, fun _ _ => rfl⟩
  by_cases long : first = 0
  · rcases rest with _ | ⟨high, _ | ⟨low, body⟩⟩
    · exact ⟨_, fun _ _ => if_pos long⟩
    · exact ⟨_, fun _ _ => if_pos long⟩
    · have short : body.length ≤ (fromBe16 high low).toNat := by
        simpa only [RsaKey, if_pos long, not_lt] using malformed
      exact ⟨_, fun validator data => (if_pos long).trans (verifyRsaComponents_error short validator data)⟩
  · have short : rest.length ≤ first.toNat := by
      simpa only [RsaKey, if_neg long, not_lt] using malformed
    exact ⟨_, fun validator data => (if_neg long).trans (verifyRsaComponents_error short validator data)⟩

theorem verifyRsa_accepting (params : RsaParameters) (key : RsaKey publicKey)
    (accepts : List UInt8 → List UInt8 → Bool) (data : List UInt8) :
    (accepting accepts).verifyRsa params publicKey data signature = .ok (accepts data signature) := by
  rcases publicKey with _ | ⟨first, rest⟩
  · exact key.elim
  by_cases long : first = 0
  · rcases rest with _ | ⟨high, _ | ⟨low, body⟩⟩
    · simp only [RsaKey, if_pos long] at key
    · simp only [RsaKey, if_pos long] at key
    · have room : (fromBe16 high low).toNat < body.length := by
        simpa only [RsaKey, if_pos long] using key
      exact (if_pos long).trans (verifyRsaComponents_accepting room accepts data)
  · have room : first.toNat < rest.length := by
      simpa only [RsaKey, if_neg long] using key
    exact (if_neg long).trans (verifyRsaComponents_accepting room accepts data)

/-- Without the form that it asks for, an algorithm does not come to look at the data. -/
theorem verifySignature_error {algorithm : DnssecAlgorithm}
    (malformed : ¬WellFormed algorithm publicKey signature) :
    ∃ error, ∀ (validator : DnssecValidator) (data : List UInt8),
      validator.verifySignature algorithm publicKey data signature = .error error := by
  cases algorithm with
  | RsaSha1 => exact verifyRsa_error .pkcs1Sha256 malformed
  | RsaSha256 => exact verifyRsa_error .pkcs1Sha256 malformed
  | RsaSha512 => exact verifyRsa_error .pkcs1Sha512 malformed
  | EcdsaP256Sha256 =>
    by_cases key : publicKey.length = 64
    · exact ⟨_, fun _ _ => (if_neg (not_not.mpr key)).trans (if_pos fun same => malformed ⟨key, same⟩)⟩
    · exact ⟨_, fun _ _ => if_pos key⟩
  | EcdsaP384Sha384 =>
    by_cases key : publicKey.length = 96
    · exact ⟨_, fun _ _ => (if_neg (not_not.mpr key)).trans (if_pos fun same => malformed ⟨key, same⟩)⟩
    · exact ⟨_, fun _ _ => if_pos key⟩
  | Ed25519 => exact ⟨_, fun _ _ => if_pos malformed⟩
  | Unknown n => exact ⟨_, fun _ _ => rfl⟩

theorem verifySignature_accepting {algorithm : DnssecAlgorithm}
    (formed : WellFormed algorithm publicKey signature) (accepts : List UInt8 → List UInt8 → Bool)
    (data : List UInt8) :
    (accepting accepts).verifySignature algorithm publicKey data signature =
      .ok (accepts data signature) := by
  cases algorithm with
  | RsaSha1 => exact verifyRsa_accepting .pkcs1Sha256 formed accepts data
  | RsaSha256 => exact verifyRsa_accepting .pkcs1Sha256 formed accepts data
  | RsaSha512 => exact verifyRsa_accepting .pkcs1Sha512 formed accepts data
  | EcdsaP256Sha256 => exact (if_neg (not_not.mpr formed.1)).trans (if_neg (not_not.mpr formed.2))
  | EcdsaP384Sha384 => exact (if_neg (not_not.mpr formed.1)).trans (if_neg (not_not.mpr formed.2))
  | Ed25519 => exact if_neg (not_not.mpr formed)
  | Unknown n => exact formed.elim

end Form

section Data

/-- The RDATA of a signature without the signature itself. -/
def unsignedRdata (rrsig : DnsRecord) : List UInt8 :=
  match rrsig.rdata with
  | .RRSIG typeCovered algorithm labels originalTtl expiration inception keyTag signerName _ =>
    (RData.RRSIG typeCovered algorithm labels originalTtl expiration inception keyTag signerName []).serialize
  | _ => []

/-- What `verify_rrsig` hands to the signature check. -/
def signedData (rrsig : DnsRecord) (records : List DnsRecord) : List UInt8 :=
  match rrsig.rdata with
  | .RRSIG typeCovered _ _ originalTtl _ _ _ _ _ =>
    unsignedRdata rrsig ++ (rrWires typeCovered originalTtl records).flatten
  | _ => []

/-- The verdict of `verify_rrsig` when these are the data that it hands to the signature check. -/
def verdictOn (validator : DnssecValidator) (now : UInt32) (rrsig dnskey : DnsRecord)
    (data : List UInt8) : ValidationResult :=
  match rrsig.rdata with
  | .RRSIG _ algorithm _ _ expiration inception _ _ signature =>
    match dnskey.rdata with
    | .DNSKEY _ _ keyAlgorithm publicKey =>
      if algorithm ≠ keyAlgorithm then .Bogus
      else if now < inception ∨ now > expiration then .Bogus
      else
        match validator.verifySignature (.fromU8 algorithm) publicKey data signature with
        | .ok true => .Secure
        | .ok false => .Bogus
        | .error _ => .Indeterminate
    | _ => .Bogus
  | _ => .Bogus

variable (validator : DnssecValidator) (now : UInt32) (rrsig dnskey : DnsRecord)

theorem verifyRrsig_eq (records : List DnsRecord) :
    validator.verifyRrsig now rrsig records dnskey =
      validator.verdictOn now rrsig dnskey (signedData rrsig records) := by
  obtain ⟨name, recordType, recordClass, ttl, rdata⟩ := rrsig
  cases rdata with
  | RRSIG typeCovered algorithm labels originalTtl expiration inception keyTag signerName signature =>
    have data : ∀ rrsig : DnsRecord, rrsig.rdata = .RRSIG typeCovered algorithm labels originalTtl
        expiration inception keyTag signerName signature → signedData rrsig records =
          toBe16 typeCovered.toU16 ++ [algorithm] ++ [labels] ++ toBe32 originalTtl ++
            toBe32 expiration ++ toBe32 inception ++ toBe16 keyTag ++ signerName.toWire ++
            (rrWires typeCovered originalTtl records).flatten := by
      intro rrsig rdata
      simp only [signedData, unsignedRdata, rdata, RData.serialize, List.append_assoc, List.cons_append,
        List.nil_append, List.append_nil]
    rw [data]
    · rfl
    · rfl
  | _ => rfl

/-- The key is for the algorithm, the time is right, and key and signature have the form that the
algorithm asks for. -/
def LooksAtData : Prop :=
  match rrsig.rdata with
  | .RRSIG _ algorithm _ _ expiration inception _ _ signature =>
    match dnskey.rdata with
    | .DNSKEY _ _ keyAlgorithm publicKey =>
      algorithm = keyAlgorithm ∧ ¬(now < inception ∨ now > expiration) ∧
        WellFormed (.fromU8 algorithm) publicKey signature
    | _ => False
  | _ => False

variable {now rrsig dnskey}

theorem verdictOn_settled (settled : ¬LooksAtData now rrsig dnskey) :
    ∃ verdict, verdict ≠ .Secure ∧ ∀ (validator : DnssecValidator) (data : List UInt8),
      validator.verdictOn now rrsig dnskey data = verdict := by
  unfold LooksAtData at settled
  unfold verdictOn
  cases signed : rrsig.rdata with
  | RRSIG typeCovered algorithm labels originalTtl expiration inception keyTag signerName signature =>
    cases key : dnskey.rdata with
    | DNSKEY flags protocol keyAlgorithm publicKey =>
      simp only [signed, key] at settled
      by_cases same : algorithm = keyAlgorithm
      · by_cases late : now < inception ∨ now > expiration
        · exact ⟨.Bogus, by decide, fun _ _ => (if_neg (not_not.mpr same)).trans (if_pos late)⟩
        · obtain ⟨error, fails⟩ := verifySignature_error fun formed => settled ⟨same, late, formed⟩
          refine ⟨.Indeterminate, by decide, fun validator data => ?_⟩
          simp only [same, ne_eq, not_true_eq_false, if_false, late, same ▸ fails validator data]
      · exact ⟨.Bogus, by decide, fun _ _ => if_pos same⟩
    | _ => exact ⟨.Bogus, by decide, fun _ _ => rfl⟩
  | _ => exact ⟨.Bogus, by decide, fun _ _ => rfl⟩

theorem LooksAtData.of_secure {validator : DnssecValidator} {data : List UInt8}
    (secure : validator.verdictOn now rrsig dnskey data = .Secure) : LooksAtData now rrsig dnskey := by
  by_contra settled
  obtain ⟨verdict, insecure, always⟩ := verdictOn_settled settled
  exact insecure ((always validator data).symm.trans secure)

/-- A validator that goes by data and signature decides by those, once the check comes to look at them. -/
theorem verdictOn_accepting (looks : LooksAtData now rrsig dnskey)
    (accepts : List UInt8 → List UInt8 → Bool) (data : List UInt8) :
    (accepting accepts).verdictOn now rrsig dnskey data = .Secure ↔ accepts data rrsig.signature := by
  unfold LooksAtData at looks
  unfold verdictOn DnsRecord.signature
  cases signed : rrsig.rdata with
  | RRSIG typeCovered algorithm labels originalTtl expiration inception keyTag signerName signature =>
    cases key : dnskey.rdata with
    | DNSKEY flags protocol keyAlgorithm publicKey =>
      simp only [signed, key] at looks
      obtain ⟨same, timely, formed⟩ := looks
      have checked := verifySignature_accepting formed accepts data
      simp only [ne_eq, same, not_true_eq_false, if_false, timely]
      rw [same] at checked
      rw [checked]
      cases accepts data signature <;> simp
    | _ => simp only [signed, key] at looks
  | _ => simp only [signed] at looks

theorem verdictOn_recognising (looks : LooksAtData now rrsig dnskey) (expected data : List UInt8) :
    (recognising expected).verdictOn now rrsig dnskey data = .Secure ↔ data = expected := by
  rw [recognising, verdictOn_accepting looks, decide_eq_true_eq]

end Data

end DnssecValidator

end DnsServer
