import DnsServer.Dns.Reserialise
import DnsServer.Doh.Service
import DnsServer.Resolver.Authoritative
import DnsServer.Resolver.BogusAnswers
import DnsServer.Server.Replies

namespace DnsServer

namespace DnsHeader

/-- The flags are in their bits whatever the other fields are. -/
theorem flags1_read (header : DnsHeader) :
    (header.flags1 &&& 0x80 != 0) = header.isResponse ∧
      (header.flags1 >>> 3) &&& 0x0F = header.opcode.toU8 &&& 0x0F ∧
      (header.flags1 &&& 0x04 != 0) = header.authoritative ∧
      (header.flags1 &&& 0x02 != 0) = header.truncated ∧
      (header.flags1 &&& 0x01 != 0) = header.recursionDesired := by
  obtain ⟨code, nibble⟩ := exists_nibble (nibble_lt header.opcode.toU8)
  have masked : UInt8.ofNat code &&& 0x0F = UInt8.ofNat code := by
    rw [← nibble, UInt8.and_assoc, UInt8.and_self]
  have bits := flags1_bits header.isResponse header.authoritative header.truncated header.recursionDesired code
  rw [masked, ← nibble] at bits
  exact bits

end DnsHeader

namespace Server

/-- The QR bit of a serialised message. -/
def qrBit (bytes : List UInt8) : Bool := bytes.getD 2 0 &&& 0x80 != 0

/-- The RD bit of a serialised message. -/
def rdBit (bytes : List UInt8) : Bool := bytes.getD 2 0 &&& 0x01 != 0

/-- The opcode of a serialised message. -/
def opcodeBits (bytes : List UInt8) : UInt8 := (bytes.getD 2 0 >>> 3) &&& 0x0F

theorem qrBit_serialize (message : DnsMessage) : qrBit message.serialize = message.header.isResponse :=
  message.countedHeader.flags1_read.1

theorem rdBit_serialize (message : DnsMessage) : rdBit message.serialize = message.header.recursionDesired :=
  message.countedHeader.flags1_read.2.2.2.2

theorem opcodeBits_serialize (message : DnsMessage) :
    opcodeBits message.serialize = message.header.opcode.toU8 &&& 0x0F :=
  message.countedHeader.flags1_read.2.1

section Answer

variable {query query' : DnsMessage} (outcome : Except ResponseCode (List DnsRecord))

end Answer

end Server

namespace Resolver

variable {W D : Type} (self : Resolver W D)

/-- What the last validation gave of a response with the record among its answers, whatever TTL it had
there. -/
def lastVerdict (log : List Event) (record : DnsRecord) : Option ValidationResult :=
  log.reverse.findSome? fun event =>
    match event with
    | .validated _ _ answers verdict =>
      if answers.any fun given => given.withTtl record.ttl = record then some verdict else none
    | _ => none

/-- Once a response has been validated, the verdict on its answers is the one for the time that was read. -/
theorem lastVerdict_validated (name : DnsName) (recordType : RecordType) {response : DnsMessage}
    {given : DnsRecord} (member : given ∈ response.answers) (ttl : UInt32) (s : State W) :
    lastVerdict (self.validated name recordType response s).log (given.withTtl ttl) =
      some (self.dnssecValidator.validateResponse (self.network.unixTime s.world).1 response.allRecords
        name recordType) := by
  have covered : response.answers.any
      (fun record => record.withTtl (given.withTtl ttl).ttl = given.withTtl ttl) := by
    rw [List.any_eq_true]
    exact ⟨given, member, decide_eq_true rfl⟩
  rw [validated, lastVerdict, List.reverse_append, List.reverse_singleton, List.singleton_append,
    List.findSome?_cons]
  dsimp only
  rw [if_pos covered]

end Resolver

namespace Server

variable {W D E : Type} (self : Resolver W D) (fuel : Nat) {data : List UInt8} {query : DnsMessage}
  {question : DnsQuestion} {rest : List DnsQuestion} {s : State W}

end Server

end DnsServer
