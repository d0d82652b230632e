import DnsServer.Dns.Message
import DnsServer.Lib.Lru

namespace DnsServer

/-- Clock readings (`Instant`) and durations are in nanoseconds. -/
def NANOS_PER_SEC : Nat := 1000000000

structure CacheEntry where
  records : List DnsRecord
  insertedAt : Nat
  ttl : Nat

namespace CacheEntry

/-- `inserted_at.elapsed()`, which is zero when the clock has gone back. -/
def elapsed (entry : CacheEntry) (now : Nat) : Nat := now - entry.insertedAt

def isExpired (entry : CacheEntry) (now : Nat) : Bool := entry.elapsed now ≥ entry.ttl

def remainingTtl (entry : CacheEntry) (now : Nat) : UInt32 :=
  if entry.elapsed now ≥ entry.ttl then 0
  else UInt32.ofNat ((entry.ttl - entry.elapsed now) / NANOS_PER_SEC)

end CacheEntry

structure CacheKey where
  name : DnsName
  recordType : RecordType
  deriving DecidableEq, Repr

def DnsRecord.withTtl (record : DnsRecord) (ttl : UInt32) : DnsRecord := { record with ttl := ttl }

abbrev DnsCache := Lru CacheKey CacheEntry

namespace DnsCache

def new (maxEntries : Nat) : DnsCache :=
  if positive : 0 < maxEntries then Lru.empty maxEntries positive else Lru.empty 10000 (by decide)

/-- The clock is read once for the expiry test and again for the remaining TTL. -/
def lookup (cache : DnsCache) (name : DnsName) (recordType : RecordType) (now later : Nat) :
    Option (List DnsRecord) × DnsCache :=
  match cache.get ⟨name, recordType⟩ with
  | (some entry, used) =>
    if entry.isExpired now then (none, used.pop ⟨name, recordType⟩)
    else (some (entry.records.map fun record => record.withTtl (entry.remainingTtl later)), used)
  | (none, used) => (none, used)

def minTtl (records : List DnsRecord) : Nat := (records.map fun record => record.ttl.toNat).min?.getD 0

def MAX_TTL : Nat := 86400

def insert (cache : DnsCache) (name : DnsName) (recordType : RecordType) (records : List DnsRecord)
    (now : Nat) : DnsCache :=
  if records.isEmpty then cache
  else if minTtl records = 0 then cache
  else cache.put ⟨name, recordType⟩ ⟨records, now, min (minTtl records) MAX_TTL * NANOS_PER_SEC⟩

variable {cache : DnsCache} {name : DnsName} {recordType : RecordType} {records : List DnsRecord}
  {now later : Nat}

theorem insert_ineffective (expired : minTtl records = 0) :
    cache.insert name recordType records now = cache := by
  simp only [insert, expired, if_true, ite_self]

theorem insert_effective (lasting : minTtl records ≠ 0) :
    cache.insert name recordType records now = cache.put ⟨name, recordType⟩
      ⟨records, now, min (minTtl records) MAX_TTL * NANOS_PER_SEC⟩ := by
  have nonempty : ¬records.isEmpty := by
    intro none
    rw [List.isEmpty_iff.mp none] at lasting
    exact lasting rfl
  rw [insert, if_neg nonempty, if_neg lasting]

theorem minTtl_singleton (record : DnsRecord) : minTtl [record] = record.ttl.toNat := rfl

/-- The same key after a lookup: the entry itself, unless it had expired. -/
theorem peek_lookup_of_some {key : CacheKey} {entry : CacheEntry}
    (found : (cache.lookup name recordType now later).2.peek key = some entry) :
    cache.peek key = some entry := by
  have used := cache.peek_get ⟨name, recordType⟩ key
  unfold lookup at found
  rcases run : cache.get ⟨name, recordType⟩ with ⟨_ | held, after⟩ <;> rw [run] at used found
  · exact used.symm.trans found
  · dsimp only at found
    split at found
    · exact used.symm.trans (Lru.peek_pop_of_some found)
    · exact used.symm.trans found

/-- What a lookup gives back are the records of a fresh entry with the TTL that remains. -/
theorem lookup_records (found : (cache.lookup name recordType now later).1 = some records) :
    ∃ entry, cache.peek ⟨name, recordType⟩ = some entry ∧ entry.elapsed now < entry.ttl ∧
      records = entry.records.map fun record => record.withTtl (entry.remainingTtl later) := by
  have held := cache.get_fst ⟨name, recordType⟩
  unfold lookup at found
  rcases run : cache.get ⟨name, recordType⟩ with ⟨_ | entry, after⟩ <;> rw [run] at held found
  · cases found
  · dsimp only at found
    split at found
    · cases found
    · rename_i fresh
      have fresh : entry.elapsed now < entry.ttl := by
        simpa only [CacheEntry.isExpired, ge_iff_le, decide_eq_true_eq, not_le] using fresh
      exact ⟨entry, held.symm, fresh, (Option.some.inj found).symm⟩

/-- Every entry of the cache holds records that `P` allows under its key. -/
def Stored (P : CacheKey → List DnsRecord → Prop) (cache : DnsCache) : Prop :=
  ∀ key entry, cache.peek key = some entry → P key entry.records

section Stored

variable {P : CacheKey → List DnsRecord → Prop}

theorem stored_new (P : CacheKey → List DnsRecord → Prop) (maxEntries : Nat) :
    Stored P (new maxEntries) := by
  intro key entry found
  unfold new at found
  split at found <;> cases found

theorem Stored.lookup (stored : Stored P cache) :
    Stored P (cache.lookup name recordType now later).2 :=
  fun key entry found => stored key entry (peek_lookup_of_some found)

theorem Stored.insert (stored : Stored P cache)
    (allowed : minTtl records ≠ 0 → P ⟨name, recordType⟩ records) :
    Stored P (cache.insert name recordType records now) := by
  by_cases expired : minTtl records = 0
  · rwa [insert_ineffective expired]
  · rw [insert_effective expired]
    intro key entry found
    by_cases same : key = ⟨name, recordType⟩
    · rw [same, Lru.peek_put_self] at found
      cases found
      rw [same]
      exact allowed expired
    · exact stored key entry (Lru.peek_put_of_some same found)

end Stored

/-- At most `count` writes lie between the two caches, so with room for them no key is lost. -/
structure Kept (count : Nat) (before after : DnsCache) : Prop where
  capacity : after.capacity = before.capacity
  length : after.length ≤ before.length + count
  present : before.length + count ≤ before.capacity → ∀ key, before.peek key ≠ none →
    after.peek key ≠ none

namespace Kept

variable {before middle after : DnsCache} {m n : Nat}

theorem refl (n : Nat) (cache : DnsCache) : Kept n cache cache :=
  ⟨rfl, Nat.le_add_right _ _, fun _ _ held => held⟩

theorem trans (first : Kept m before middle) (second : Kept n middle after) :
    Kept (m + n) before after where
  capacity := second.capacity.trans first.capacity
  length := by
    have one := first.length
    have two := second.length
    omega
  present room key held := by
    have one := first.length
    have same := first.capacity
    exact second.present (by omega) key (first.present (by omega) key held)

theorem insert (cache : DnsCache) (name : DnsName) (recordType : RecordType) (records : List DnsRecord)
    (now : Nat) : Kept 1 cache (cache.insert name recordType records now) := by
  by_cases expired : minTtl records = 0
  · rw [insert_ineffective expired]
    exact refl 1 cache
  · rw [insert_effective expired]
    refine ⟨rfl, Lru.length_put_le _ _ _, fun room key held => ?_⟩
    by_cases same : key = ⟨name, recordType⟩
    · rw [same, Lru.peek_put_self]
      exact Option.some_ne_none _
    · rwa [Lru.peek_put_roomy same (by omega)]

end Kept

theorem peek_insert_ne_none {cache : DnsCache} {name : DnsName} {recordType : RecordType}
    {records : List DnsRecord} {now : Nat} (lasting : minTtl records ≠ 0) :
    (cache.insert name recordType records now).peek ⟨name, recordType⟩ ≠ none := by
  rw [insert_effective lasting, Lru.peek_put_self]
  exact Option.some_ne_none _

end DnsCache

end DnsServer
