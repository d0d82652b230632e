import DnsServer.Cache

namespace DnsServer

/-- A call of the cache from outside. -/
inductive CacheCall where
  | insert (name : DnsName) (recordType : RecordType) (records : List DnsRecord)
  | lookup (name : DnsName) (recordType : RecordType)
  | clear

namespace CacheCall

/-- The call stores records under the key: it is an insert that is not silently ignored. -/
def Writes (key : CacheKey) : CacheCall → Prop
  | .insert name recordType records =>
    (⟨name, recordType⟩ : CacheKey) = key ∧ records ≠ [] ∧ 0 < DnsCache.minTtl records
  | _ => False

end CacheCall

namespace DnsCache

/-- The cache after a call with one reading of the clock. -/
def apply (cache : DnsCache) (call : Nat × CacheCall) : DnsCache :=
  match call.2 with
  | .insert name recordType records => cache.insert name recordType records call.1
  | .lookup name recordType => (cache.lookup name recordType call.1 call.1).2
  | .clear => cache.clear

/-- The cache after a sequence of calls, each at its own time. -/
def run (cache : DnsCache) (calls : List (Nat × CacheCall)) : DnsCache := calls.foldl apply cache

/-- The second reading of the clock does not matter for what stays in the cache. -/
theorem lookup_snd (cache : DnsCache) (name : DnsName) (recordType : RecordType) (now later : Nat) :
    (cache.lookup name recordType now later).2 = cache.apply (now, .lookup name recordType) := by
  change _ = (cache.lookup name recordType now now).2
  unfold lookup
  rcases cache.get ⟨name, recordType⟩ with ⟨_ | entry, used⟩
  · rfl
  · dsimp only
    split <;> rfl

/-- Neither a clear nor an effective insert under the key is among the calls. -/
def Undisturbed (key : CacheKey) (calls : List (Nat × CacheCall)) : Prop :=
  ∀ call ∈ calls, call.2 ≠ .clear ∧ ¬call.2.Writes key

/-- The calls so far hold an insert of the records under the key, the last effective one, and no
clear after it. -/
def StoredBy (calls : List (Nat × CacheCall)) (key : CacheKey) (time : Nat) (records : List DnsRecord) :
    Prop :=
  ∃ before after, calls = before ++ (time, .insert key.name key.recordType records) :: after ∧
    records ≠ [] ∧ 0 < minTtl records ∧ Undisturbed key after

/-- Every entry of the cache is what its insert made of the records. -/
def Traced (calls : List (Nat × CacheCall)) (cache : DnsCache) : Prop :=
  ∀ key entry, cache.peek key = some entry → StoredBy calls key entry.insertedAt entry.records ∧
    entry.ttl = min (minTtl entry.records) MAX_TTL * NANOS_PER_SEC

theorem StoredBy.later {calls : List (Nat × CacheCall)} {key : CacheKey} {time : Nat}
    {records : List DnsRecord} {call : Nat × CacheCall} (stored : StoredBy calls key time records)
    (kept : call.2 ≠ .clear) (quiet : ¬call.2.Writes key) : StoredBy (calls ++ [call]) key time records := by
  obtain ⟨before, after, split, nonempty, lasting, undisturbed⟩ := stored
  refine ⟨before, after ++ [call], by rw [split, List.append_assoc, List.cons_append], nonempty, lasting, ?_⟩
  intro other member
  rcases List.mem_append.mp member with member | member
  · exact undisturbed other member
  · rw [List.mem_singleton.mp member]
    exact ⟨kept, quiet⟩

theorem Traced.kept {calls : List (Nat × CacheCall)} {cache after : DnsCache} {call : Nat × CacheCall}
    (traced : Traced calls cache) (kept : call.2 ≠ .clear)
    (same : ∀ key entry, after.peek key = some entry → ¬call.2.Writes key ∧ cache.peek key = some entry) :
    Traced (calls ++ [call]) after := by
  intro key entry found
  obtain ⟨quiet, before⟩ := same key entry found
  obtain ⟨stored, ttl⟩ := traced key entry before
  exact ⟨stored.later kept quiet, ttl⟩

theorem minTtl_pos_nonempty {records : List DnsRecord} (lasting : 0 < minTtl records) : records ≠ [] := by
  rintro rfl
  exact absurd lasting (by decide)

/-- One call keeps the cache traced. -/
theorem Traced.apply {calls : List (Nat × CacheCall)} {cache : DnsCache} (traced : Traced calls cache)
    (call : Nat × CacheCall) : Traced (calls ++ [call]) (cache.apply call) := by
  obtain ⟨time, call⟩ := call
  cases call with
  | insert name recordType records =>
    by_cases expired : minTtl records = 0
    · refine traced.kept (fun same => by cases same) fun key entry found => ?_
      have ignored : cache.apply (time, .insert name recordType records) = cache :=
        insert_ineffective expired
      rw [ignored] at found
      refine ⟨?_, found⟩
      rintro ⟨_, _, lasting⟩
      omega
    · have lasting : 0 < minTtl records := Nat.pos_of_ne_zero expired
      have written : cache.apply (time, .insert name recordType records) = cache.put ⟨name, recordType⟩
          ⟨records, time, min (minTtl records) MAX_TTL * NANOS_PER_SEC⟩ := insert_effective expired
      intro key entry found
      rw [written] at found
      by_cases same : key = ⟨name, recordType⟩
      · subst same
        rw [Lru.peek_put_self] at found
        cases found
        refine ⟨⟨calls, [], rfl, minTtl_pos_nonempty lasting, lasting, ?_⟩, rfl⟩
        exact fun _ member => absurd member List.not_mem_nil
      · obtain ⟨stored, ttl⟩ := traced key entry (Lru.peek_put_of_some same found)
        refine ⟨stored.later (fun same => by cases same) ?_, ttl⟩
        rintro ⟨written, _⟩
        exact same written.symm
  | lookup name recordType =>
    exact traced.kept (fun same => by cases same) fun key entry found => ⟨id, peek_lookup_of_some found⟩
  | clear =>
    intro key entry found
    cases found

theorem run_append (cache : DnsCache) (calls : List (Nat × CacheCall)) (call : Nat × CacheCall) :
    cache.run (calls ++ [call]) = (cache.run calls).apply call :=
  List.foldl_concat apply cache call calls

/-- After any sequence of calls every entry goes back to the insert that stored it. -/
theorem traced_run (maxEntries : Nat) (calls : List (Nat × CacheCall)) :
    Traced calls ((new maxEntries).run calls) := by
  induction calls using List.reverseRecOn with
  | nil =>
    intro key entry found
    change (new maxEntries).peek key = some entry at found
    unfold new at found
    split at found <;> cases found
  | append_singleton calls call ih =>
    rw [run_append]
    exact ih.apply call

theorem lookup_capacity (cache : DnsCache) (name : DnsName) (recordType : RecordType) (now later : Nat) :
    (cache.lookup name recordType now later).2.capacity = cache.capacity := by
  have same := cache.get_capacity ⟨name, recordType⟩
  unfold lookup
  rcases run : cache.get ⟨name, recordType⟩ with ⟨_ | entry, after⟩ <;> rw [run] at same
  · exact same
  · dsimp only
    split <;> exact same

theorem apply_capacity (cache : DnsCache) (call : Nat × CacheCall) :
    (cache.apply call).capacity = cache.capacity := by
  obtain ⟨time, call⟩ := call
  cases call with
  | insert name recordType records => exact (Kept.insert cache name recordType records time).capacity
  | lookup name recordType => exact lookup_capacity cache name recordType time time
  | clear => rfl

theorem run_capacity (cache : DnsCache) (calls : List (Nat × CacheCall)) :
    (cache.run calls).capacity = cache.capacity := by
  induction calls using List.reverseRecOn with
  | nil => rfl
  | append_singleton calls call ih => rw [run_append, apply_capacity, ih]

/-- The configured size, or the default for a size of zero. -/
theorem new_capacity (maxEntries : Nat) :
    (new maxEntries).capacity = if maxEntries = 0 then 10000 else maxEntries := by
  unfold new
  split
  · rw [if_neg (by omega)]
    rfl
  · rw [if_pos (by omega)]
    rfl

theorem minTtl_le {records : List DnsRecord} {record : DnsRecord} (member : record ∈ records) :
    minTtl records ≤ record.ttl.toNat := by
  have listed := List.mem_map_of_mem (f := fun record => record.ttl.toNat) member
  unfold minTtl
  rcases least : (records.map fun record => record.ttl.toNat).min? with _ | ttl <;> rw [least]
  · exact Nat.zero_le _
  · exact (List.min?_eq_some_iff.mp least).2 _ listed

/-- The seconds that remain of a fresh entry. -/
theorem remainingTtl_toNat {entry : CacheEntry} {now : Nat} (fresh : entry.elapsed now < entry.ttl)
    (capped : entry.ttl ≤ MAX_TTL * NANOS_PER_SEC) :
    (entry.remainingTtl now).toNat = (entry.ttl - entry.elapsed now) / NANOS_PER_SEC := by
  have small : (entry.ttl - entry.elapsed now) / NANOS_PER_SEC < 2 ^ 32 := by
    simp only [MAX_TTL, NANOS_PER_SEC] at capped ⊢
    omega
  rw [CacheEntry.remainingTtl, if_neg (by omega), UInt32.toNat_ofNat', Nat.mod_eq_of_lt small]

/-- The seconds that remain and the whole seconds that have passed are together no more than the
lifetime. -/
theorem remaining_add_elapsed {lifetime elapsed : Nat} (fresh : elapsed < lifetime * NANOS_PER_SEC) :
    (lifetime * NANOS_PER_SEC - elapsed) / NANOS_PER_SEC + elapsed / NANOS_PER_SEC ≤ lifetime := by
  simp only [NANOS_PER_SEC] at fresh ⊢
  omega

/-- What a lookup finds after any sequence of calls are the records of the last effective insert
under the key, still fresh and not cleared, each with the whole seconds that remain of the capped
least TTL. The number of entries never exceeds the capacity. -/
theorem lookup_run (maxEntries : Nat) (calls : List (Nat × CacheCall)) (name : DnsName)
    (recordType : RecordType) (now : Nat) (ordered : (calls.map Prod.fst ++ [now]).Pairwise (· ≤ ·)) :
    ((new maxEntries).run calls).length ≤ (if maxEntries = 0 then 10000 else maxEntries) ∧
      ∀ records, (((new maxEntries).run calls).lookup name recordType now now).1 = some records →
        ∃ time stored, StoredBy calls ⟨name, recordType⟩ time stored ∧ time ≤ now ∧
          now - time < min (minTtl stored) MAX_TTL * NANOS_PER_SEC ∧
          ∃ ttl : UInt32,
            ttl.toNat = (min (minTtl stored) MAX_TTL * NANOS_PER_SEC - (now - time)) / NANOS_PER_SEC ∧
            records = stored.map (fun record => record.withTtl ttl) ∧
            ∀ record ∈ stored, ttl.toNat + (now - time) / NANOS_PER_SEC ≤ record.ttl.toNat := by
  constructor
  · rw [← new_capacity, ← run_capacity (new maxEntries) calls]
    exact ((new maxEntries).run calls).bounded
  · intro records found
    obtain ⟨entry, held, fresh, rfl⟩ := lookup_records found
    obtain ⟨stored, lifetime⟩ := traced_run maxEntries calls _ entry held
    have capped : entry.ttl ≤ MAX_TTL * NANOS_PER_SEC := by
      rw [lifetime]
      exact Nat.mul_le_mul_right _ (min_le_right _ _)
    have remaining := remainingTtl_toNat fresh capped
    have earlier : entry.insertedAt ≤ now := by
      obtain ⟨before, after, split, _⟩ := stored
      rw [split, List.pairwise_append] at ordered
      refine ordered.2.2 _ ?_ now (List.mem_singleton_self now)
      exact List.mem_map_of_mem (List.mem_append_right before List.mem_cons_self)
    rw [CacheEntry.elapsed, lifetime] at fresh remaining
    refine ⟨entry.insertedAt, entry.records, stored, earlier, fresh, _, remaining, rfl, ?_⟩
    intro record member
    have least : min (minTtl entry.records) MAX_TTL ≤ record.ttl.toNat :=
      (min_le_left _ _).trans (minTtl_le member)
    rw [remaining]
    exact (remaining_add_elapsed fresh).trans least

/-- A record stored at second 5 for a minute. -/
def storedMinute : Nat × CacheCall :=
  (5 * NANOS_PER_SEC, .insert DnsName.root .A [DnsRecord.new DnsName.root .A 60 (.A ⟨192, 0, 2, 1⟩)])

/-- Half a second before it expires, the record is found with no whole second left. -/
theorem lookup_run_storedMinute :
    ((new 1).run [storedMinute]).length ≤ (if 1 = 0 then 10000 else 1) ∧
      ∀ records, (((new 1).run [storedMinute]).lookup DnsName.root .A 64500000000 64500000000).1 =
          some records →
        ∃ time stored, StoredBy [storedMinute] ⟨DnsName.root, .A⟩ time stored ∧ time ≤ 64500000000 ∧
          64500000000 - time < min (minTtl stored) MAX_TTL * NANOS_PER_SEC ∧
          ∃ ttl : UInt32,
            ttl.toNat =
              (min (minTtl stored) MAX_TTL * NANOS_PER_SEC - (64500000000 - time)) / NANOS_PER_SEC ∧
            records = stored.map (fun record => record.withTtl ttl) ∧
            ∀ record ∈ stored,
              ttl.toNat + (64500000000 - time) / NANOS_PER_SEC ≤ record.ttl.toNat :=
  lookup_run 1 [storedMinute] DnsName.root .A 64500000000 (by decide)

example : (((new 1).run [storedMinute]).lookup DnsName.root .A 64500000000 64500000000).1 =
    some [DnsRecord.new DnsName.root .A 0 (.A ⟨192, 0, 2, 1⟩)] := by decide +kernel

end DnsCache

end DnsServer
