import DnsServer.Dnssec.SignedForms

/-! Keys that a delegation signer record vouches for. -/

namespace DnsServer

open Bytes

inductive DigestType where
  | Sha1
  | Sha256
  | Sha384
  | Unknown (code : UInt8)
  deriving DecidableEq, Repr

def DigestType.fromU8 (val : UInt8) : DigestType :=
  match val.toNat with
  | 1 => .Sha1
  | 2 => .Sha256
  | 4 => .Sha384
  | _ => .Unknown val

/-- The digests of the cryptographic library. -/
structure Digests where
  sha1 : List UInt8 → List UInt8
  sha256 : List UInt8 → List UInt8
  sha384 : List UInt8 → List UInt8

def Digests.digest (digests : Digests) : DigestType → Option (List UInt8 → List UInt8)
  | .Sha1 => some digests.sha1
  | .Sha256 => some digests.sha256
  | .Sha384 => some digests.sha384
  | .Unknown _ => none

namespace DnssecValidator

variable (digests : Digests)

def digestInput (dnskey : DnsRecord) : List UInt8 := dnskey.name.toWire ++ dnskey.rdata.serialize

def verifyDs (ds dnskey : DnsRecord) : Bool :=
  match ds.rdata with
  | .DS keyTag algorithm digestType digest =>
    match dnskey.rdata with
    | .DNSKEY _ _ keyAlgorithm _ =>
      if algorithm ≠ keyAlgorithm then false
      else if keyTag ≠ computeKeyTag dnskey then false
      else
        match digests.digest (.fromU8 digestType) with
        | some compute => compute (digestInput dnskey) = digest
        | none => false
    | _ => false
  | _ => false

variable {digests} {ds dnskey dnskey' : DnsRecord}

/-- The key has the tag, the algorithm and the digest that the record gives. -/
def Vouches (digests : Digests) (ds dnskey : DnsRecord) (compute : List UInt8 → List UInt8) : Prop :=
  ∃ flags protocol algorithm publicKey, dnskey.rdata = .DNSKEY flags protocol algorithm publicKey ∧
    ∃ digestType, ds.rdata = .DS (computeKeyTag dnskey) algorithm digestType (compute (digestInput dnskey)) ∧
      digests.digest (.fromU8 digestType) = some compute

theorem verifyDs_iff : verifyDs digests ds dnskey ↔ ∃ compute, Vouches digests ds dnskey compute := by
  unfold verifyDs
  cases given : ds.rdata with
  | DS keyTag algorithm digestType digest =>
    cases held : dnskey.rdata with
    | DNSKEY flags protocol keyAlgorithm publicKey =>
      dsimp only
      constructor
      · intro verified
        split at verified
        · cases verified
        split at verified
        · cases verified
        rename_i sameAlgorithm sameTag
        split at verified
        · rename_i compute known
          have digested := of_decide_eq_true verified
          refine ⟨compute, flags, protocol, keyAlgorithm, publicKey, held, digestType, ?_, known⟩
          rw [given, digested, not_not.mp sameAlgorithm, not_not.mp sameTag]
        · cases verified
      · rintro ⟨compute, _, _, _, _, held', _, given', known⟩
        rw [held] at held'
        rw [given] at given'
        cases held'
        cases given'
        rw [if_neg (not_not.mpr rfl), if_neg (not_not.mpr rfl), known]
        exact decide_eq_true rfl
    | _ =>
      refine iff_of_false Bool.false_ne_true ?_
      rintro ⟨_, _, _, _, _, held', _⟩
      rw [held] at held'
      cases held'
  | _ =>
    refine iff_of_false Bool.false_ne_true ?_
    rintro ⟨_, _, _, _, _, _, _, given', _⟩
    rw [given] at given'
    cases given'

theorem digestInput_inj {compute compute' : List UInt8 → List UInt8}
    (left : Vouches digests ds dnskey compute) (right : Vouches digests ds dnskey' compute')
    (framed : dnskey.name.Framed) (framed' : dnskey'.name.Framed)
    (same : digestInput dnskey = digestInput dnskey') :
    dnskey.name = dnskey'.name ∧ dnskey.rdata = dnskey'.rdata := by
  obtain ⟨flags, protocol, algorithm, publicKey, key, _⟩ := left
  obtain ⟨flags', protocol', algorithm', publicKey', key', _⟩ := right
  obtain ⟨names, rdata⟩ := DnsName.toWire_delimiting framed framed' same
  refine ⟨names, ?_⟩
  rw [key, key'] at rdata ⊢
  obtain ⟨rfl, rest⟩ := toBe16_delimiting trivial trivial rdata
  simp only [List.cons.injEq] at rest
  obtain ⟨rfl, rfl, rfl⟩ := rest
  rfl

/-- Two keys that one record vouches for are the same key of the same owner, or their bytes collide under
the digest that the record names. -/
theorem verifyDs_pins (framed : dnskey.name.Framed) (framed' : dnskey'.name.Framed)
    (verified : verifyDs digests ds dnskey) (verified' : verifyDs digests ds dnskey') :
    dnskey.name = dnskey'.name ∧ dnskey.rdata = dnskey'.rdata ∨
      ∃ compute, Vouches digests ds dnskey compute ∧ digestInput dnskey ≠ digestInput dnskey' ∧
        compute (digestInput dnskey) = compute (digestInput dnskey') := by
  obtain ⟨compute, vouches⟩ := verifyDs_iff.mp verified
  obtain ⟨compute', vouches'⟩ := verifyDs_iff.mp verified'
  by_cases same : digestInput dnskey = digestInput dnskey'
  · exact Or.inl (digestInput_inj vouches vouches' framed framed' same)
  · refine Or.inr ⟨compute, vouches, same, ?_⟩
    obtain ⟨_, _, _, _, _, _, given, known⟩ := vouches
    obtain ⟨_, _, _, _, _, _, given', known'⟩ := vouches'
    rw [given, RData.DS.injEq] at given'
    obtain ⟨_, _, rfl, digest⟩ := given'
    rw [known] at known'
    cases known'
    exact digest

/-- The SHA-256 digest of the key of the example zone. -/
def zoneDigest : List UInt8 :=
  [0xab, 0xb7, 0x11, 0x1a, 0xd9, 0x65, 0x39, 0x34, 0x05, 0xad, 0xbe, 0x83, 0x5a, 0xf0, 0x5b, 0xd6,
    0xf7, 0xaf, 0x42, 0xa6, 0x84, 0x5b, 0xf0, 0xfc, 0xa1, 0x9a, 0xd2, 0xf1, 0x5c, 0x8b, 0x5b, 0x3a]

def zoneDs : DnsRecord := DnsRecord.new zone .DS 300 (.DS (computeKeyTag zoneKey) 15 2 zoneDigest)

def zoneDigests : Digests := ⟨fun _ => [], fun _ => zoneDigest, fun _ => []⟩

/-- The same key as a cache gives it a minute before it expires. -/
def agedKey : DnsRecord := { zoneKey with ttl := 60 }

theorem verifyDs_pins_agedKey :
    zoneKey ≠ agedKey ∧ (zoneKey.name = agedKey.name ∧ zoneKey.rdata = agedKey.rdata ∨
      ∃ compute, Vouches zoneDigests zoneDs zoneKey compute ∧ digestInput zoneKey ≠ digestInput agedKey ∧
        compute (digestInput zoneKey) = compute (digestInput agedKey)) :=
  ⟨by decide, verifyDs_pins (by decide) (by decide) (by decide +kernel) (by decide +kernel)⟩

end DnssecValidator

end DnsServer
