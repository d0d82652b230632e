import DnsServer.Dnssec.Verdict
import DnsServer.Resolver.Upstream

namespace DnsServer

namespace Resolver

variable {W D : Type} (self : Resolver W D)

/-- The state once a response has been validated: the clock has been read, and the verdict noted. -/
def validated (name : DnsName) (recordType : RecordType) (response : DnsMessage) (s : State W) : State W :=
  { s with
    world := (self.network.unixTime s.world).2
    log := s.log ++ [.validated name recordType response.answers (self.dnssecValidator.validateResponse
      (self.network.unixTime s.world).1 response.allRecords name recordType)] }

/-- Validation lets every response pass and costs nothing but a reading of the clock. -/
theorem validateAnswers_passes (enabled : self.enableDnssec) (name : DnsName) (recordType : RecordType)
    (response : DnsMessage) (s : State W) :
    self.validateAnswers name recordType response s =
      (.ok (), self.validated name recordType response s) := by
  have read : ask self.network.unixTime s = ((.ok (self.network.unixTime s.world).1,
      { s with world := (self.network.unixTime s.world).2 }) : Outcome ResponseCode _ × _) := rfl
  have passed := self.dnssecValidator.validateResponse_ne_bogus (self.network.unixTime s.world).1
    response.allRecords name recordType
  rw [validateAnswers, if_pos enabled, Prog.bind_ok read, if_neg passed]
  rfl

theorem absorb_answers (enabled : self.enableDnssec) {name : DnsName} {recordType : RecordType}
    {response : DnsMessage} (noNameError : response.header.responseCode ≠ .nameError)
    (answered : response.answers ≠ []) (s : State W) :
    self.absorb name recordType response s =
      self.cacheAnswers name recordType response (self.validated name recordType response s) := by
  have some : ¬response.answers.isEmpty := by simpa using answered
  rw [absorb, if_neg noNameError, if_pos some, processAnswers,
    Prog.bind_ok (self.validateAnswers_passes enabled name recordType response s)]

theorem cacheAnswers_ok (name : DnsName) (recordType : RecordType) (response : DnsMessage)
    (s : State W) : ∃ absorbed, (self.cacheAnswers name recordType response s).1 = .ok absorbed := by
  unfold cacheAnswers
  split
  · exact ⟨_, rfl⟩
  split
  · exact ⟨_, rfl⟩
  · exact ⟨_, rfl⟩

end Resolver

open DnssecValidator

/-- Signatures that are bogus, with none that verifies, are not held against a list of records, and
a response with these records is cached and used like one that was never validated. -/
theorem validateResponse_overlooks_bogus (validator : DnssecValidator) (now : UInt32)
    (records : List DnsRecord) (name : DnsName) (recordType : RecordType)
    (bogus : ∃ rrsig ∈ records, ∃ dnskey ∈ records, rrsig.SignedBy dnskey ∧
      validator.verifyRrsig now rrsig records dnskey = .Bogus)
    (noneSecure : ¬validator.SomeSecure now records) :
    validator.validateResponse now records name recordType = .Indeterminate ∧
      ∀ (W D : Type) (self : Resolver W D) (response : DnsMessage) (s : State W),
        self.dnssecValidator = validator → self.enableDnssec → (self.network.unixTime s.world).1 = now →
        response.allRecords = records → response.header.responseCode ≠ .nameError →
        response.answers ≠ [] →
        self.absorb name recordType response s = self.cacheAnswers name recordType response
            { s with
              world := (self.network.unixTime s.world).2
              log := s.log ++ [.validated name recordType response.answers .Indeterminate] } ∧
          ∃ absorbed, (self.absorb name recordType response s).1 = .ok absorbed := by
  obtain ⟨rrsig, member, _, _, signed, _⟩ := bogus
  have indeterminate : validator.validateResponse now records name recordType = .Indeterminate := by
    rcases validator.validateResponse_cases now records name recordType with
      ⟨secure, _⟩ | ⟨_, ⟨_, unsigned⟩ | verdict⟩
    · exact absurd secure noneSecure
    · exact absurd signed.1 (unsigned rrsig member)
    · exact verdict
  refine ⟨indeterminate, ?_⟩
  rintro W D self response s rfl enabled rfl rfl noNameError answered
  have absorbed : self.absorb name recordType response s = _ :=
    self.absorb_answers enabled noNameError answered s
  rw [Resolver.validated, indeterminate] at absorbed
  refine ⟨absorbed, ?_⟩
  rw [absorbed]
  exact self.cacheAnswers_ok name recordType response _

theorem validateResponse_overlooks_expired :
    trusting.validateResponse 2500 signedAddress zone .A = .Indeterminate ∧
      ∀ (W D : Type) (self : Resolver W D) (response : DnsMessage) (s : State W),
        self.dnssecValidator = trusting → self.enableDnssec → (self.network.unixTime s.world).1 = 2500 →
        response.allRecords = signedAddress → response.header.responseCode ≠ .nameError →
        response.answers ≠ [] →
        self.absorb zone .A response s = self.cacheAnswers zone .A response
            { s with
              world := (self.network.unixTime s.world).2
              log := s.log ++ [.validated zone .A response.answers .Indeterminate] } ∧
          ∃ absorbed, (self.absorb zone .A response s).1 = .ok absorbed :=
  validateResponse_overlooks_bogus trusting 2500 signedAddress zone .A (by decide +kernel)
    (by decide +kernel)

/-- The only signature has expired, and the verdict is not that the list is bogus. -/
theorem validateResponse_expired_unnoticed :
    (∃ rrsig ∈ signedAddress, ∃ dnskey ∈ signedAddress, rrsig.SignedBy dnskey ∧
        trusting.verifyRrsig 2500 rrsig signedAddress dnskey = .Bogus) ∧
      ¬trusting.SomeSecure 2500 signedAddress ∧
      trusting.validateResponse 2500 signedAddress zone .A ≠ .Bogus := by
  decide +kernel

end DnsServer
