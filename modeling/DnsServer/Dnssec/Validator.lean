import DnsServer.Dns.Message
import Mathlib.Data.List.Sort

namespace DnsServer

open Bytes

inductive DnssecAlgorithm where
  | RsaSha1
  | RsaSha256
  | RsaSha512
  | EcdsaP256Sha256
  | EcdsaP384Sha384
  | Ed25519
  | Unknown (code : UInt8)
  deriving DecidableEq, Repr

def DnssecAlgorithm.fromU8 (val : UInt8) : DnssecAlgorithm :=
  match val.toNat with
  | 5 => .RsaSha1
  | 8 => .RsaSha256
  | 10 => .RsaSha512
  | 13 => .EcdsaP256Sha256
  | 14 => .EcdsaP384Sha384
  | 15 => .Ed25519
  | _ => .Unknown val

inductive ValidationResult where
  | Secure
  | Insecure
  | Bogus
  | Indeterminate
  deriving DecidableEq, Repr

inductive RsaParameters where
  | pkcs1Sha256
  | pkcs1Sha512
  deriving DecidableEq, Repr

/-- The signature checks of the cryptographic library, each over key, signed data and signature. -/
structure DnssecValidator where
  rsa : RsaParameters → (modulus exponent data signature : List UInt8) → Bool
  ecdsaP256 : (publicKey data signature : List UInt8) → Bool
  ecdsaP384 : (publicKey data signature : List UInt8) → Bool
  ed25519 : (publicKey data signature : List UInt8) → Bool

namespace DnssecValidator

variable (validator : DnssecValidator)

def verifyRsaComponents (params : RsaParameters) (expLen : Nat) (body data signature : List UInt8) :
    Except String Bool :=
  if expLen ≥ body.length then .error "Invalid RSA key structure"
  else .ok (validator.rsa params (body.drop expLen) (body.take expLen) data signature)

/-- The exponent length is one byte, or two bytes behind a zero byte. -/
def verifyRsa (params : RsaParameters) (publicKeyData data signature : List UInt8) : Except String Bool :=
  match publicKeyData with
  | [] => .error "Empty public key"
  | first :: rest =>
    if first = 0 then
      match rest with
      | high :: low :: body =>
        validator.verifyRsaComponents params (fromBe16 high low).toNat body data signature
      | _ => .error "RSA key too short"
    else validator.verifyRsaComponents params first.toNat rest data signature

def verifyEcdsaP256 (publicKeyData data signature : List UInt8) : Except String Bool :=
  if publicKeyData.length ≠ 64 then
    .error ("Invalid P-256 key length: " ++ toString publicKeyData.length)
  else if signature.length ≠ 64 then
    .error ("Invalid P-256 signature length: " ++ toString signature.length)
  else .ok (validator.ecdsaP256 (0x04 :: publicKeyData) data signature)

def verifyEcdsaP384 (publicKeyData data signature : List UInt8) : Except String Bool :=
  if publicKeyData.length ≠ 96 then
    .error ("Invalid P-384 key length: " ++ toString publicKeyData.length)
  else if signature.length ≠ 96 then
    .error ("Invalid P-384 signature length: " ++ toString signature.length)
  else .ok (validator.ecdsaP384 (0x04 :: publicKeyData) data signature)

def verifyEd25519 (publicKeyData data signature : List UInt8) : Except String Bool :=
  if publicKeyData.length ≠ 32 then
    .error ("Invalid Ed25519 key length: " ++ toString publicKeyData.length)
  else .ok (validator.ed25519 publicKeyData data signature)

def verifySignature (algorithm : DnssecAlgorithm) (publicKey data signature : List UInt8) :
    Except String Bool :=
  match algorithm with
  | .RsaSha256 => validator.verifyRsa .pkcs1Sha256 publicKey data signature
  | .RsaSha512 => validator.verifyRsa .pkcs1Sha512 publicKey data signature
  | .RsaSha1 => validator.verifyRsa .pkcs1Sha256 publicKey data signature
  | .EcdsaP256Sha256 => validator.verifyEcdsaP256 publicKey data signature
  | .EcdsaP384Sha384 => validator.verifyEcdsaP384 publicKey data signature
  | .Ed25519 => validator.verifyEd25519 publicKey data signature
  | .Unknown n => .error ("Unsupported DNSSEC algorithm: " ++ toString n)

/-- A record as it is signed: its TTL is the original TTL of the signature. -/
def rrWire (originalTtl : UInt32) (record : DnsRecord) : List UInt8 :=
  { record with ttl := originalTtl }.serialize

/-- The records of the covered type in the order of their wire forms. -/
def rrWires (typeCovered : RecordType) (originalTtl : UInt32) (records : List DnsRecord) :
    List (List UInt8) :=
  ((records.filter fun record => record.recordType = typeCovered).map (rrWire originalTtl)).insertionSort
    (· ≤ ·)

def verifyRrsig (now : UInt32) (rrsig : DnsRecord) (records : List DnsRecord) (dnskey : DnsRecord) :
    ValidationResult :=
  match rrsig.rdata with
  | .RRSIG typeCovered algorithm labels originalTtl expiration inception keyTag signerName signature =>
    match dnskey.rdata with
    | .DNSKEY _ _ keyAlgorithm publicKey =>
      if algorithm ≠ keyAlgorithm then .Bogus
      else if now < inception ∨ now > expiration then .Bogus
      else
        let signedData := toBe16 typeCovered.toU16 ++ [algorithm] ++ [labels] ++ toBe32 originalTtl ++
          toBe32 expiration ++ toBe32 inception ++ toBe16 keyTag ++ signerName.toWire ++
          (rrWires typeCovered originalTtl records).flatten
        match validator.verifySignature (.fromU8 algorithm) publicKey signedData signature with
        | .ok true => .Secure
        | .ok false => .Bogus
        | .error _ => .Indeterminate
    | _ => .Bogus
  | _ => .Bogus

/-- One byte of the key tag sum: the high half of a word at an even index, the low half at an odd. -/
def addByte (ac : UInt32) (entry : UInt8 × Nat) : UInt32 :=
  if entry.2 &&& 1 = 0 then ac + (entry.1.toUInt32 <<< 8) else ac + entry.1.toUInt32

def computeKeyTag (dnskey : DnsRecord) : UInt16 :=
  let ac := dnskey.rdata.serialize.zipIdx.foldl addByte 0
  let ac := ac + ((ac >>> 16) &&& 0xFFFF)
  (ac &&& 0xFFFF).toUInt16

/-- The inner loop, over the keys, for the tag of one signature. -/
def securedBy (now : UInt32) (records dnskeys : List DnsRecord) (rrsig : DnsRecord) : Bool :=
  match rrsig.rdata with
  | .RRSIG _ _ _ _ _ _ keyTag _ _ =>
    dnskeys.any fun dnskey =>
      computeKeyTag dnskey = keyTag ∧ validator.verifyRrsig now rrsig records dnskey = .Secure
  | _ => false

/-- The name and the type of the question are not looked at. -/
def validateResponse (now : UInt32) (answers : List DnsRecord) (_queryName : DnsName)
    (_queryType : RecordType) : ValidationResult :=
  let rrsigs := answers.filter fun record => record.recordType = .RRSIG
  if rrsigs.isEmpty then .Insecure
  else
    let dnskeys := answers.filter fun record => record.recordType = .DNSKEY
    if rrsigs.any (validator.securedBy now answers dnskeys) then .Secure else .Indeterminate

end DnssecValidator

end DnsServer
