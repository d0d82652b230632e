import DnsServer.Lib.LruWrites
import DnsServer.Resolver.CacheKeys
import DnsServer.Resolver.Transparency

/-! What the cache gives back of the records of a referral. -/

namespace DnsServer

open DnsCache

namespace DnsRecord

def IsNs (record : DnsRecord) : Prop := record.recordType = .NS ∧ ∃ nsName, record.rdata = .NS nsName

def IsAddress (record : DnsRecord) : Prop := record.recordType = .A ∧ ∃ addr, record.rdata = .A addr

/-- The key that the resolver stores a record of a referral under. -/
def cacheKey (record : DnsRecord) : CacheKey := ⟨record.name, record.recordType⟩

/-- The entry for a record that is stored on its own. -/
def cacheEntry (record : DnsRecord) (now : Nat) : CacheEntry :=
  ⟨[record], now, min (minTtl [record]) MAX_TTL * NANOS_PER_SEC⟩

theorem nsTarget_isSome {record : DnsRecord} : record.nsTarget.isSome ↔ record.IsNs := by
  unfold nsTarget IsNs
  split
  · rename_i typed
    cases record.rdata <;> simp [typed]
  · rename_i other
    simp [other]

theorem glueFor_isSome {record : DnsRecord} {nsNames : List DnsName} :
    (record.glueFor nsNames).isSome ↔ record.IsAddress ∧ record.name ∈ nsNames := by
  unfold glueFor IsAddress
  split
  · rename_i typed
    cases record.rdata <;> simp [typed]
  · rename_i other
    simp [other]

end DnsRecord

namespace DnsMessage

/-- The records of a referral that the resolver stores: the NS records of the authority section and
the addresses of their targets in the additional section. -/
def referralRecords (response : DnsMessage) : List DnsRecord :=
  (response.authorities.filter fun record => record.nsTarget.isSome) ++
    response.additional.filter fun record => (record.glueFor response.nsNames).isSome

theorem mem_referralRecords {response : DnsMessage} {record : DnsRecord} :
    record ∈ response.referralRecords ↔ (record ∈ response.authorities ∧ record.IsNs) ∨
      (record ∈ response.additional ∧ record.IsAddress ∧ record.name ∈ response.nsNames) := by
  simp only [referralRecords, List.mem_append, List.mem_filter, DnsRecord.nsTarget_isSome,
    DnsRecord.glueFor_isSome]

/-- Two stored records of one owner and type differ in their TTLs at most. -/
def SingleRecords (response : DnsMessage) : Prop :=
  ∀ record ∈ response.referralRecords, ∀ record' ∈ response.referralRecords,
    record.cacheKey = record'.cacheKey → record.withTtl 0 = record'.withTtl 0

instance (response : DnsMessage) : Decidable response.SingleRecords :=
  inferInstanceAs (Decidable (∀ _ ∈ _, _))

end DnsMessage

namespace DnsCache

/-- A lookup gives a record back, its TTL disregarded. -/
def Gives (cache : DnsCache) (name : DnsName) (recordType : RecordType) (now later : Nat)
    (record : DnsRecord) : Prop :=
  ∃ found, (cache.lookup name recordType now later).1 = some found ∧ record.withTtl 0 ∈ untimed found

/-- The NS records and the addresses of their targets are all given back. -/
structure Intact (cache : DnsCache) (response : DnsMessage) (now later : Nat) : Prop where
  referrals : ∀ zone, ∀ record ∈ response.authorities, record.IsNs → record.name = zone →
    cache.Gives zone .NS now later record
  glue : ∀ nsName ∈ response.nsNames, ∀ record ∈ response.additional, record.IsAddress →
    record.name = nsName → cache.Gives nsName .A now later record

variable {cache : DnsCache} {now later : Nat}

theorem intact_iff {response : DnsMessage} : cache.Intact response now later ↔
    ∀ record ∈ response.referralRecords, cache.Gives record.name record.recordType now later record := by
  constructor
  · intro intact record member
    rcases DnsMessage.mem_referralRecords.mp member with ⟨held, ns⟩ | ⟨held, address, target⟩
    · rw [ns.1]
      exact intact.referrals record.name record held ns rfl
    · rw [address.1]
      exact intact.glue record.name target record held address rfl
  · intro given
    refine ⟨fun zone record held ns owner => ?_, fun nsName target record held address owner => ?_⟩
    · have found := given record (DnsMessage.mem_referralRecords.mpr (.inl ⟨held, ns⟩))
      rwa [owner, ns.1] at found
    · have found := given record
        (DnsMessage.mem_referralRecords.mpr (.inr ⟨held, address, owner ▸ target⟩))
      rwa [owner, address.1] at found

theorem lookup_fresh {name : DnsName} {recordType : RecordType} {entry : CacheEntry}
    (held : cache.peek ⟨name, recordType⟩ = some entry) (fresh : entry.elapsed now < entry.ttl) :
    (cache.lookup name recordType now later).1 =
      some (entry.records.map fun record => record.withTtl (entry.remainingTtl later)) := by
  have read := cache.get_fst ⟨name, recordType⟩
  rw [held] at read
  have lasting : ¬entry.isExpired now := by simpa [CacheEntry.isExpired] using fresh
  unfold lookup
  rcases run : cache.get ⟨name, recordType⟩ with ⟨_ | stored, used⟩ <;> rw [run] at read
  · cases read
  · cases read
    exact congrArg Prod.fst (if_neg lasting)

/-- A record stored on its own is not expired within its first second. -/
theorem gives_of_stored {name : DnsName} {recordType : RecordType} {stored record : DnsRecord}
    {reading : Nat} (held : cache.peek ⟨name, recordType⟩ = some (stored.cacheEntry reading))
    (lasting : stored.ttl ≠ 0) (soon : now < reading + NANOS_PER_SEC) :
    cache.Gives name recordType now later record ↔ record.withTtl 0 = stored.withTtl 0 := by
  have second : 1 ≤ min (minTtl [stored]) MAX_TTL := by
    have positive : stored.ttl.toNat ≠ 0 := fun zero => lasting (UInt32.toNat_inj.mp zero)
    rw [minTtl_singleton]
    unfold MAX_TTL
    omega
  have fresh : (stored.cacheEntry reading).elapsed now < (stored.cacheEntry reading).ttl := by
    have long := Nat.mul_le_mul_right NANOS_PER_SEC second
    change now - reading < _ * NANOS_PER_SEC
    unfold NANOS_PER_SEC at soon long ⊢
    omega
  unfold Gives
  rw [lookup_fresh held fresh]
  simp only [Option.some.injEq, exists_eq_left', untimed_withTtl]
  exact List.mem_singleton

end DnsCache

section Clock

variable {W D : Type} (network : Network W D)

/-- The next readings of the clock. -/
def Network.readings : Nat → W → List Nat
  | 0, _ => []
  | count + 1, world => (network.instant world).1 :: readings count (network.instant world).2

/-- The surroundings after so many readings. -/
def Network.ticked : Nat → W → W
  | 0, world => world
  | count + 1, world => ticked count (network.instant world).2

/-- The writes that store each of the records on its own. -/
def Network.writes : List DnsRecord → W → List (CacheKey × CacheEntry)
  | [], _ => []
  | record :: records, world =>
    (record.cacheKey, record.cacheEntry (network.instant world).1) ::
      writes records (network.instant world).2

theorem Network.writes_append (records records' : List DnsRecord) (world : W) :
    network.writes (records ++ records') world =
      network.writes records world ++ network.writes records' (network.ticked records.length world) := by
  induction records generalizing world with
  | nil => rfl
  | cons record records ih => exact congrArg (_ :: ·) (ih _)

theorem Network.writes_keys (records : List DnsRecord) (world : W) :
    (network.writes records world).map Prod.fst = records.map DnsRecord.cacheKey := by
  induction records generalizing world with
  | nil => rfl
  | cons record records ih => exact congrArg (_ :: ·) (ih _)

theorem Network.mem_writes {records : List DnsRecord} {world : W} {key : CacheKey} {entry : CacheEntry}
    (member : (key, entry) ∈ network.writes records world) :
    ∃ record ∈ records, ∃ reading ∈ network.readings records.length world,
      key = record.cacheKey ∧ entry = record.cacheEntry reading := by
  induction records generalizing world with
  | nil => cases member
  | cons record records ih =>
    rcases List.mem_cons.mp member with first | later
    · cases first
      exact ⟨record, List.mem_cons_self, _, List.mem_cons_self, rfl, rfl⟩
    · obtain ⟨stored, held, reading, read, same⟩ := ih later
      exact ⟨stored, List.mem_cons_of_mem _ held, reading, List.mem_cons_of_mem _ read, same⟩

end Clock

namespace Resolver

variable {W D : Type} (self : Resolver W D)

/-- What a section loop leaves behind when none of its records is refused for its TTL. -/
theorem cacheEach_writes {α : Type} {recordType : RecordType} {pick : DnsRecord → Option α}
    {records : List DnsRecord}
    (typed : ∀ record ∈ records, (pick record).isSome → record.recordType = recordType)
    (lasting : ∀ record ∈ records, (pick record).isSome → record.ttl ≠ 0) (s : State W) :
    self.cacheEach recordType pick records s = (.ok (records.filterMap pick), { s with
      cache := s.cache.putAll
        (self.network.writes (records.filter fun record => (pick record).isSome) s.world)
      world := self.network.ticked (records.filter fun record => (pick record).isSome).length
        s.world }) := by
  induction records generalizing s with
  | nil => rfl
  | cons record records ih =>
    have rest := ih (fun r member => typed r (List.mem_cons_of_mem _ member))
      (fun r member => lasting r (List.mem_cons_of_mem _ member))
    by_cases picked : (pick record).isSome
    · obtain ⟨found, picks⟩ := Option.isSome_iff_exists.mp picked
      have own := typed record List.mem_cons_self picked
      have positive : minTtl [record] ≠ 0 := by
        rw [minTtl_singleton]
        exact fun zero => lasting record List.mem_cons_self picked (UInt32.toNat_inj.mp zero)
      have taken : (record :: records).filter (fun r => (pick r).isSome) =
          record :: records.filter fun r => (pick r).isSome := List.filter_cons_of_pos picked
      have inserted := self.cacheInsert_run record.name recordType [record] s
      rw [insert_effective positive] at inserted
      rw [taken, List.filterMap_cons_some picks, cacheEach, picks]
      dsimp only
      rw [Prog.bind_ok inserted, Prog.bind_ok (rest _), ← own]
      rfl
    · have skipped : pick record = none := by simpa using picked
      have left : (record :: records).filter (fun r => (pick r).isSome) =
          records.filter fun r => (pick r).isSome := List.filter_cons_of_neg picked
      rw [left, List.filterMap_cons_none skipped, cacheEach, skipped]
      exact rest s

/-- A referral leaves the writes of its records in the cache. -/
theorem absorb_writes (name : DnsName) (recordType : RecordType) {response : DnsMessage} (s : State W)
    (noNameError : response.header.responseCode ≠ .nameError) (noAnswers : response.answers = [])
    (lasting : ∀ record ∈ response.referralRecords, record.ttl ≠ 0) :
    (self.absorb name recordType response s).2.cache =
      s.cache.putAll (self.network.writes response.referralRecords s.world) := by
  have referrals : self.cacheReferrals response.authorities s = _ :=
    self.cacheEach_writes
      (fun record _ ns => (DnsRecord.nsTarget_isSome.mp ns).1)
      (fun record member ns => lasting record
        (DnsMessage.mem_referralRecords.mpr (.inl ⟨member, DnsRecord.nsTarget_isSome.mp ns⟩))) s
  have glue : ∀ s₁, self.cacheGlue response.nsNames response.additional s₁ = _ :=
    self.cacheEach_writes
      (fun record _ address => (DnsRecord.glueFor_isSome.mp address).1.1)
      (fun record member address => lasting record
        (DnsMessage.mem_referralRecords.mpr (.inr ⟨member, DnsRecord.glueFor_isSome.mp address⟩)))
  rw [self.absorb_referral noNameError noAnswers referrals (glue _), DnsMessage.referralRecords,
    Network.writes_append, Lru.putAll_append]

/-- Right after a referral has been absorbed, with room for its keys, the cache gives all its NS
records and all the addresses of their targets back exactly when no two of them share an owner and
a type without being the same up to their TTLs. -/
theorem absorb_intact_iff (name : DnsName) (recordType : RecordType) (response : DnsMessage)
    (s : State W) (now later : Nat) (noNameError : response.header.responseCode ≠ .nameError)
    (noAnswers : response.answers = []) (lasting : ∀ record ∈ response.referralRecords, record.ttl ≠ 0)
    (room : (response.referralRecords.map DnsRecord.cacheKey).toFinset.card ≤ s.cache.capacity)
    (soon : ∀ reading ∈ self.network.readings response.referralRecords.length s.world,
      now < reading + NANOS_PER_SEC) :
    (self.absorb name recordType response s).2.cache.Intact response now later ↔
      response.SingleRecords := by
  rw [self.absorb_writes name recordType s noNameError noAnswers lasting, intact_iff]
  -- one of the records of each key is what its lookup gives
  have given : ∀ key ∈ response.referralRecords.map DnsRecord.cacheKey,
      ∃ stored ∈ response.referralRecords, key = stored.cacheKey ∧ ∀ record : DnsRecord,
        Gives (s.cache.putAll (self.network.writes response.referralRecords s.world)) key.name
          key.recordType now later record ↔ record.withTtl 0 = stored.withTtl 0 := by
    intro key member
    rw [← self.network.writes_keys _ s.world] at room member
    obtain ⟨entry, written, held⟩ := Lru.peek_putAll_of_mem room member
    obtain ⟨stored, sent, reading, read, key', entry'⟩ := self.network.mem_writes written
    rw [entry'] at held
    exact ⟨stored, sent, key', fun record => gives_of_stored held (lasting stored sent) (soon reading read)⟩
  constructor
  · intro complete record member record' member' shared
    obtain ⟨stored, _, _, gives⟩ := given record.cacheKey (List.mem_map_of_mem member)
    have found := (gives record).mp (complete record member)
    have lookup' := complete record' member'
    have found' : record'.withTtl 0 = stored.withTtl 0 := by
      apply (gives record').mp
      rw [shared]
      exact lookup'
    exact found.trans found'.symm
  · intro single record member
    obtain ⟨stored, sent, same, gives⟩ := given record.cacheKey (List.mem_map_of_mem member)
    exact (gives record).mpr (single record member stored sent same)

open Upstream

/-- A referral to two zones, the first named twice with different TTLs, with an address for each server. -/
def twoOwners : DnsMessage :=
  { bankReferral with
    authorities := [DnsRecord.new bank .NS 300 (.NS bankServer), DnsRecord.new www .NS 600 (.NS www),
      DnsRecord.new bank .NS 60 (.NS bankServer)]
    additional := [DnsRecord.new bankServer .A 300 (.A ⟨203, 0, 113, 66⟩),
      DnsRecord.new www .A 300 (.A ⟨203, 0, 113, 80⟩)] }

theorem absorb_intact_iff_twoOwners :
    (intruding.resolver.absorb www .A twoOwners ⟨DnsCache.new 10, blankTape, []⟩).2.cache.Intact
      twoOwners 0 0 :=
  (intruding.resolver.absorb_intact_iff www .A twoOwners ⟨DnsCache.new 10, blankTape, []⟩ 0 0
    (by decide) rfl (by decide) (by decide +kernel) (by decide)).mpr (by decide +kernel)

/-- The same zone with a second server, which has no address in the response. -/
def twoServers : DnsMessage :=
  { bankReferral with
    authorities := bankReferral.authorities ++ [DnsRecord.new bank .NS 300 (.NS www)] }

/-- The second NS record overwrites the first one. -/
theorem absorb_twoServers_incomplete :
    twoServers.header.responseCode ≠ .nameError ∧ twoServers.answers = [] ∧
      (∀ record ∈ twoServers.referralRecords, record.ttl ≠ 0) ∧
      (twoServers.referralRecords.map DnsRecord.cacheKey).toFinset.card ≤ (DnsCache.new 10).capacity ∧
      ¬(intruding.resolver.absorb www .A twoServers ⟨DnsCache.new 10, blankTape, []⟩).2.cache.Intact
        twoServers 0 0 := by
  refine ⟨by decide, rfl, by decide, by decide, fun intact => ?_⟩
  have first : DnsRecord.new bank .NS 300 (.NS bankServer) ∈ twoServers.authorities := by decide
  obtain ⟨found, given, member⟩ := intact.referrals bank _ first ⟨rfl, _, rfl⟩ rfl
  have last : ((intruding.resolver.absorb www .A twoServers
      ⟨DnsCache.new 10, blankTape, []⟩).2.cache.lookup bank .NS 0 0).1 =
      some [DnsRecord.new bank .NS 300 (.NS www)] := by decide +kernel
  rw [last] at given
  cases given
  exact absurd member (by decide)

end Resolver

end DnsServer
