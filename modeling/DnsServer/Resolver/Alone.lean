import DnsServer.Resolver.Interleaved

namespace DnsServer

namespace Resolver

variable {W D : Type} (self : Resolver W D)

def shared : SharedResolver D :=
  ⟨self.network.decode, self.zoneStore, self.dnssecValidator, self.enableDnssec⟩

/-- The calls of a task that has the cache and the surroundings to itself. -/
def answer (c : Call) (s : State W) : c.Answer D × State W :=
  match c with
  | .cacheLookup name recordType =>
    let now := self.network.instant s.world
    let later := self.network.instant now.2
    ((s.cache.lookup name recordType now.1 later.1).1,
      { s with cache := (s.cache.lookup name recordType now.1 later.1).2, world := later.2 })
  | .cachePut name recordType records now =>
    ((), { s with cache := s.cache.insert name recordType records now })
  | .instant => ((self.network.instant s.world).1, { s with world := (self.network.instant s.world).2 })
  | .unixTime => ((self.network.unixTime s.world).1, { s with world := (self.network.unixTime s.world).2 })
  | .bind => ((self.network.bind s.world).1, { s with world := (self.network.bind s.world).2 })
  | .randomU16 => ((self.network.randomU16 s.world).1, { s with world := (self.network.randomU16 s.world).2 })
  | .randomUsize =>
    ((self.network.randomUsize s.world).1, { s with world := (self.network.randomUsize s.world).2 })
  | .sendTo query server =>
    ((self.network.sendTo query server s.world).1,
      { s with world := (self.network.sendTo query server s.world).2 })
  | .recvFrom => ((self.network.recvFrom s.world).1, { s with world := (self.network.recvFrom s.world).2 })
  | .connect server =>
    ((self.network.connect server s.world).1, { s with world := (self.network.connect server s.world).2 })
  | .exchange query server =>
    ((self.network.exchange query server s.world).1,
      { s with world := (self.network.exchange query server s.world).2 })
  | .note event => ((), { s with log := s.log ++ [event] })

end Resolver

namespace SharedResolver

open Process

variable {W D : Type} {self : Resolver W D}

theorem decoded_alone (payload : D) :
    (self.shared.decoded payload).alone self.answer = self.decoded payload := by
  unfold decoded Resolver.decoded
  rw [show self.shared.decode payload = self.network.decode payload from rfl]
  rcases self.network.decode payload with message | error | _ | _ <;> rfl

theorem queryTcp_alone (name : DnsName) (recordType : RecordType) (server : SocketAddr) :
    (self.shared.queryTcp name recordType server).alone self.answer =
      self.queryTcp name recordType server := by
  refine bind_alone rfl fun connected => ?_
  cases connected with
  | false => rfl
  | true =>
    refine bind_alone rfl fun id => ?_
    refine bind_alone rfl fun _ => ?_
    refine bind_alone rfl fun reply => ?_
    cases reply with
    | none => rfl
    | some payload =>
      refine bind_alone (decoded_alone payload) fun message => ?_
      cases message <;> rfl

theorem offsets_alone (count : Nat) (tries : List Nat) :
    (offsets count tries : Tasked D (List Nat)).alone self.answer = self.offsets count tries := by
  induction tries with
  | nil => rfl
  | cons i tries ih =>
    refine bind_alone rfl fun random => ?_
    split
    · rfl
    · exact bind_alone ih fun rest => rfl

theorem tryServer_alone (id : UInt16) (name : DnsName) (recordType : RecordType) (server : SocketAddr) :
    (self.shared.tryServer id name recordType server).alone self.answer =
      self.tryServer id name recordType server := by
  refine bind_alone rfl fun _ => ?_
  refine bind_alone rfl fun sent => ?_
  cases sent with
  | false => rfl
  | true =>
    refine bind_alone rfl fun reply => ?_
    cases reply with
    | none => rfl
    | some payload =>
      refine bind_alone (decoded_alone payload) fun message => ?_
      cases message with
      | error _ => rfl
      | ok response =>
        dsimp only
        split
        · split
          · refine bind_alone (attempt_alone (queryTcp_alone name recordType server)) fun caught => ?_
            cases caught <;> rfl
          · rfl
        · rfl

theorem tryServers_alone (id : UInt16) (name : DnsName) (recordType : RecordType)
    (nameservers : List SocketAddr) (indices : List Nat) :
    (self.shared.tryServers id name recordType nameservers indices).alone self.answer =
      self.tryServers id name recordType nameservers indices := by
  induction indices with
  | nil => rfl
  | cons i indices ih =>
    rw [tryServers, Resolver.tryServers]
    cases nameservers[i]? with
    | none => rfl
    | some server =>
      refine bind_alone (tryServer_alone id name recordType server) fun response => ?_
      cases response with
      | none => exact ih
      | some response => exact bind_alone rfl fun _ => rfl

theorem queryNameservers_alone (name : DnsName) (recordType : RecordType) (nameservers : List SocketAddr) :
    (self.shared.queryNameservers name recordType nameservers).alone self.answer =
      self.queryNameservers name recordType nameservers := by
  refine bind_alone rfl fun bound => ?_
  cases bound with
  | false => rfl
  | true =>
    refine bind_alone rfl fun id => ?_
    refine bind_alone (offsets_alone _ _) fun indices => ?_
    exact tryServers_alone id name recordType nameservers indices

theorem validateAnswers_alone (name : DnsName) (recordType : RecordType) (response : DnsMessage) :
    (self.shared.validateAnswers name recordType response).alone self.answer =
      self.validateAnswers name recordType response := by
  unfold validateAnswers Resolver.validateAnswers
  change (if self.enableDnssec then _ else _ : Tasked D Unit).alone _ = _
  split
  · refine bind_alone rfl fun now => bind_alone rfl fun _ => ?_
    change (if self.dnssecValidator.validateResponse now response.allRecords name recordType = .Bogus
      then _ else _ : Tasked D Unit).alone _ = _
    split <;> rfl
  · rfl

theorem cacheAnswers_alone (name : DnsName) (recordType : RecordType) (response : DnsMessage) :
    (cacheAnswers name recordType response).alone self.answer =
      self.cacheAnswers name recordType response := by
  unfold cacheAnswers Resolver.cacheAnswers
  split
  · exact bind_alone rfl fun _ => rfl
  split
  · exact bind_alone rfl fun _ => rfl
  · rfl

theorem cacheEach_alone {α : Type} (recordType : RecordType) (pick : DnsRecord → Option α)
    (records : List DnsRecord) :
    (cacheEach recordType pick records).alone self.answer = self.cacheEach recordType pick records := by
  induction records with
  | nil => rfl
  | cons record records ih =>
    rw [cacheEach, Resolver.cacheEach]
    cases pick record with
    | none => exact ih
    | some found => exact bind_alone rfl fun _ => bind_alone ih fun rest => rfl

theorem absorb_alone (name : DnsName) (recordType : RecordType) (response : DnsMessage) :
    (self.shared.absorb name recordType response).alone self.answer =
      self.absorb name recordType response := by
  unfold absorb Resolver.absorb
  split
  · rfl
  split
  · refine bind_alone (validateAnswers_alone name recordType response) fun _ => ?_
    exact cacheAnswers_alone name recordType response
  · refine bind_alone (cacheEach_alone _ _ _) fun newNsNames => ?_
    exact bind_alone (cacheEach_alone _ _ _) fun glueAddrs => rfl

section Recursion

variable {rec : DnsName → RecordType → Tasked D (List DnsRecord)}
  {rec' : DnsName → RecordType → Resolution W (List DnsRecord)}
  (below : ∀ name recordType, (rec name recordType).alone self.answer = rec' name recordType)

include below

theorem nsAddress_alone (nsName : DnsName) :
    (nsAddress rec nsName).alone self.answer = self.nsAddress rec' nsName := by
  refine bind_alone rfl fun cached => ?_
  cases cached with
  | some cached => rfl
  | none =>
    refine bind_alone (attempt_alone (below nsName .A)) fun caught => ?_
    cases caught <;> rfl

theorem nsAddresses_alone (nsNames : List DnsName) :
    (nsAddresses rec nsNames).alone self.answer = self.nsAddresses rec' nsNames := by
  induction nsNames with
  | nil => rfl
  | cons nsName nsNames ih =>
    refine bind_alone (nsAddress_alone below nsName) fun found => ?_
    split
    · exact ih
    · rfl

theorem chainRounds_alone (targetType : RecordType) (rounds : Nat) (chain : List DnsRecord)
    (currentName : DnsName) :
    (chainRounds rec targetType rounds chain currentName).alone self.answer =
      Resolver.chainRounds rec' targetType rounds chain currentName := by
  induction rounds generalizing chain currentName with
  | zero => rfl
  | succ rounds ih =>
    refine bind_alone (below currentName targetType) fun records => ?_
    split
    · rfl
    · refine bind_alone (attempt_alone (below currentName .CNAME)) fun caught => ?_
      cases caught with
      | ok cnameRecords => exact ih _ _
      | error _ => rfl

theorem followCnameChain_alone (cnames : List DnsRecord) (targetType : RecordType) :
    (followCnameChain rec cnames targetType).alone self.answer =
      Resolver.followCnameChain rec' cnames targetType := by
  unfold followCnameChain Resolver.followCnameChain
  cases cnames.getLast? with
  | none => rfl
  | some record =>
    dsimp only
    cases record.rdata with
    | CNAME name => exact chainRounds_alone below targetType _ _ _
    | _ => rfl

theorem followReferral_alone (walk : Walk) (hasSoa : Bool) (newNsNames : List DnsName)
    (glueAddrs : List SocketAddr) :
    (followReferral rec walk hasSoa newNsNames glueAddrs).alone self.answer =
      self.followReferral rec' walk hasSoa newNsNames glueAddrs := by
  unfold followReferral Resolver.followReferral
  split
  · split <;> rfl
  split
  · rfl
  split
  · rfl
  · refine bind_alone (nsAddresses_alone below newNsNames) fun resolvedAddrs => ?_
    split <;> rfl

theorem referralStep_alone (name : DnsName) (recordType : RecordType) (walk : Walk) :
    (self.shared.referralStep rec name recordType walk).alone self.answer =
      self.referralStep rec' name recordType walk := by
  refine bind_alone (queryNameservers_alone name recordType walk.nameservers) fun response => ?_
  refine bind_alone (absorb_alone name recordType response) fun absorbed => ?_
  cases absorbed with
  | answers result => rfl
  | aliases cnames => exact bind_alone (followCnameChain_alone below cnames recordType) fun result => rfl
  | referral newNsNames glueAddrs => exact followReferral_alone below walk _ newNsNames glueAddrs

end Recursion

theorem resolveRecursive_alone (fuel : Nat) (name : DnsName) (recordType : RecordType) (depth : Nat) :
    (self.shared.resolveRecursive fuel name recordType depth).alone self.answer =
      self.resolveRecursive fuel name recordType depth := by
  induction levels : MAX_RECURSION_DEPTH + 1 - depth generalizing name recordType depth with
  | zero =>
    rw [resolveRecursive, Resolver.resolveRecursive, if_pos (by omega), if_pos (by omega)]
    rfl
  | succ levels ih =>
    rw [resolveRecursive, Resolver.resolveRecursive, if_neg (by omega), if_neg (by omega)]
    have below : ∀ name recordType,
        (self.shared.resolveRecursive fuel name recordType (depth + 1)).alone self.answer =
          self.resolveRecursive fuel name recordType (depth + 1) :=
      fun name recordType => ih name recordType (depth + 1) (by omega)
    exact loop_alone (fun walk => referralStep_alone below name recordType walk) fuel _

/-- A task that has everything to itself resolves a name just as the sequential resolver does. -/
theorem resolve_alone (fuel : Nat) (name : DnsName) (recordType : RecordType) :
    (self.shared.resolve fuel name recordType).alone self.answer = self.resolve fuel name recordType := by
  have below : ∀ name recordType, (self.shared.resolveRecursive fuel name recordType 1).alone self.answer =
      self.resolveRecursive fuel name recordType 1 :=
    fun name recordType => resolveRecursive_alone fuel name recordType 1
  unfold resolve Resolver.resolve
  rw [show self.shared.zoneStore = self.zoneStore from rfl]
  cases self.zoneStore.zoneResult name recordType with
  | found records => rfl
  | followCname cnames => exact followCnameChain_alone below cnames recordType
  | noData => rfl
  | notFound =>
    refine bind_alone rfl fun cached => ?_
    cases cached with
    | some records => rfl
    | none =>
      dsimp only
      split
      · refine bind_alone rfl fun cnames => ?_
        cases cnames with
        | some cnames => exact followCnameChain_alone below cnames recordType
        | none => exact resolveRecursive_alone fuel name recordType 0
      · exact resolveRecursive_alone fuel name recordType 0

end SharedResolver

end DnsServer
