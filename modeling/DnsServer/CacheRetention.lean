import DnsServer.CacheHistory
import DnsServer.Lib.LruRetention

/-! How long the cache answers for what was stored: through all calls, until it expires or too many other
keys are in use. -/

namespace DnsServer

/-- The key that a call makes the most recent one, if it is there. -/
def CacheCall.uses : CacheCall → Option CacheKey
  | .insert name recordType records => if DnsCache.minTtl records = 0 then none else some ⟨name, recordType⟩
  | .lookup name recordType => some ⟨name, recordType⟩
  | .clear => none

namespace DnsCache

/-- The keys in use since the last use of the key, after one more call. -/
def othersStep (key : CacheKey) (used : Finset CacheKey) (call : Nat × CacheCall) : Finset CacheKey :=
  match call.2.uses with
  | some other => if other = key then ∅ else Insert.insert other used
  | none => used

/-- The other keys that the calls have used since they last used the key. -/
def others (key : CacheKey) (calls : List (Nat × CacheCall)) : Finset CacheKey :=
  calls.foldl (othersStep key) ∅

variable {cache : DnsCache} {used : Finset CacheKey} {key : CacheKey} {entry : CacheEntry}

/-- A fresh entry survives a call that neither clears the cache nor writes its key, as long as there is
room for the keys in use. -/
theorem held_apply (held : cache.Held used key entry) {call : Nat × CacheCall} (kept : call.2 ≠ .clear)
    (quiet : ¬call.2.Writes key) (fresh : entry.elapsed call.1 < entry.ttl)
    (room : (othersStep key used call).card < cache.capacity) :
    (cache.apply call).Held (othersStep key used call) key entry := by
  obtain ⟨time, call⟩ := call
  cases call with
  | clear => exact absurd rfl kept
  | insert name recordType records =>
    by_cases expired : minTtl records = 0
    · simp only [othersStep, CacheCall.uses, expired, if_true] at room ⊢
      have ignored : cache.apply (time, .insert name recordType records) = cache :=
        insert_ineffective expired
      rwa [ignored]
    · have other : (⟨name, recordType⟩ : CacheKey) ≠ key := fun same =>
        quiet ⟨same, minTtl_pos_nonempty (Nat.pos_of_ne_zero expired), Nat.pos_of_ne_zero expired⟩
      simp only [othersStep, CacheCall.uses, expired, other, if_false] at room ⊢
      have written : cache.apply (time, .insert name recordType records) = cache.put ⟨name, recordType⟩
          ⟨records, time, min (minTtl records) MAX_TTL * NANOS_PER_SEC⟩ := insert_effective expired
      rw [written]
      exact held.put other room
  | lookup name recordType =>
    have looked : cache.apply (time, .lookup name recordType) = (cache.lookup name recordType time time).2 := rfl
    rw [looked, lookup]
    by_cases same : (⟨name, recordType⟩ : CacheKey) = key
    · subst same
      have found : (cache.get ⟨name, recordType⟩).1 = some entry := (Lru.get_fst _ _).trans held.1
      have still : ¬entry.isExpired time := by simpa [CacheEntry.isExpired] using fresh
      have self := held.get_self
      simp only [othersStep, CacheCall.uses, if_true]
      rcases run : cache.get ⟨name, recordType⟩ with ⟨_ | entry', after⟩ <;> rw [run] at found self
      · cases found
      · cases found
        dsimp only
        rwa [if_neg still]
    · simp only [othersStep, CacheCall.uses, same, if_false] at room ⊢
      have held' := held.get same room
      rcases run : cache.get ⟨name, recordType⟩ with ⟨_ | entry', after⟩ <;> rw [run] at held'
      · exact held'
      · dsimp only
        split
        · exact held'.pop same
        · exact held'

theorem held_run {calls : List (Nat × CacheCall)} (held : cache.Held ∅ key entry)
    (undisturbed : Undisturbed key calls) (fresh : ∀ call ∈ calls, entry.elapsed call.1 < entry.ttl)
    (room : ∀ front, front <+: calls → (others key front).card < cache.capacity) :
    (cache.run calls).Held (others key calls) key entry := by
  induction calls using List.reverseRecOn with
  | nil => exact held
  | append_singleton calls call ih =>
    have last : call ∈ calls ++ [call] := List.mem_append_right _ (List.mem_singleton_self call)
    have earlier := ih (fun other member => undisturbed other (List.mem_append_left _ member))
      (fun other member => fresh other (List.mem_append_left _ member))
      fun front before => room front (before.trans (List.prefix_append _ _))
    have grown : others key (calls ++ [call]) = othersStep key (others key calls) call :=
      List.foldl_concat _ _ _ _
    have room' := room _ (List.prefix_refl _)
    obtain ⟨kept, quiet⟩ := undisturbed call last
    rw [run_append, grown]
    rw [grown, ← run_capacity cache calls] at room'
    exact held_apply earlier kept quiet (fresh call last) room'

/-- A lookup gives the records of a fresh entry. -/
theorem lookup_held {name : DnsName} {recordType : RecordType} {now : Nat}
    (held : cache.peek ⟨name, recordType⟩ = some entry) (fresh : entry.elapsed now < entry.ttl) :
    (cache.lookup name recordType now now).1 =
      some (entry.records.map fun record => record.withTtl (entry.remainingTtl now)) := by
  have found := (cache.get_fst ⟨name, recordType⟩).trans held
  have still : ¬entry.isExpired now := by simpa [CacheEntry.isExpired] using fresh
  unfold lookup
  rcases run : cache.get ⟨name, recordType⟩ with ⟨_ | entry', after⟩ <;> rw [run] at found <;> cases found
  dsimp only
  rw [if_neg still]

/-- What was stored is found again, with the seconds that remain of the capped least TTL, after any calls
before and after: until it is cleared or overwritten, until it expires, or until between two uses of its
key as many other keys are in use as the cache has room for. -/
theorem lookup_run_held (maxEntries : Nat) {before after : List (Nat × CacheCall)} {time now : Nat}
    {name : DnsName} {recordType : RecordType} {records : List DnsRecord} (lasting : 0 < minTtl records)
    (undisturbed : Undisturbed ⟨name, recordType⟩ after) (past : ∀ call ∈ after, call.1 ≤ now)
    (fresh : now - time < min (minTtl records) MAX_TTL * NANOS_PER_SEC)
    (room : ∀ front, front <+: after →
      (others ⟨name, recordType⟩ front).card < if maxEntries = 0 then 10000 else maxEntries) :
    ∃ ttl : UInt32,
      ttl.toNat = (min (minTtl records) MAX_TTL * NANOS_PER_SEC - (now - time)) / NANOS_PER_SEC ∧
      (((new maxEntries).run (before ++ (time, .insert name recordType records) :: after)).lookup name
        recordType now now).1 = some (records.map fun record => record.withTtl ttl) := by
  let entry : CacheEntry := ⟨records, time, min (minTtl records) MAX_TTL * NANOS_PER_SEC⟩
  let start : DnsCache := ((new maxEntries).run before).put ⟨name, recordType⟩ entry
  have written : ((new maxEntries).run before).apply (time, .insert name recordType records) = start :=
    insert_effective (by omega)
  have split : (new maxEntries).run (before ++ (time, .insert name recordType records) :: after) =
      start.run after := by
    rw [← written]
    exact List.foldl_append
  have capacity : start.capacity = if maxEntries = 0 then 10000 else maxEntries :=
    (run_capacity _ _).trans (new_capacity maxEntries)
  have held : (start.run after).Held (others ⟨name, recordType⟩ after) ⟨name, recordType⟩ entry :=
    held_run (Lru.Held.put_self _ _ entry) undisturbed
      (fun call member => (Nat.sub_le_sub_right (past call member) time).trans_lt fresh)
      fun front before => (room front before).trans_eq capacity.symm
  have fresh : entry.elapsed now < entry.ttl := fresh
  refine ⟨entry.remainingTtl now, remainingTtl_toNat fresh (Nat.mul_le_mul_right _ (min_le_right _ _)), ?_⟩
  rw [split]
  exact lookup_held held.1 fresh

/-- Another record of the root, stored a second later. -/
def storedOther (recordType : RecordType) : Nat × CacheCall :=
  (6 * NANOS_PER_SEC, .insert DnsName.root recordType [DnsRecord.new DnsName.root recordType 60 (.TXT [])])

/-- With room for two keys, a record that is looked up now and then outlives any number of others. -/
theorem lookup_run_held_busy :
    ∃ ttl : UInt32,
      ttl.toNat = (min (minTtl [DnsRecord.new DnsName.root .A 60 (.A ⟨192, 0, 2, 1⟩)]) MAX_TTL * NANOS_PER_SEC -
        (9 * NANOS_PER_SEC - 5 * NANOS_PER_SEC)) / NANOS_PER_SEC ∧
      (((new 2).run ([] ++ storedMinute :: [storedOther .AAAA, (6 * NANOS_PER_SEC, .lookup DnsName.root .A),
        storedOther .MX])).lookup DnsName.root .A (9 * NANOS_PER_SEC) (9 * NANOS_PER_SEC)).1 =
        some ([DnsRecord.new DnsName.root .A 60 (.A ⟨192, 0, 2, 1⟩)].map fun record => record.withTtl ttl) := by
  have room : ∀ front ∈ [storedOther .AAAA, (6 * NANOS_PER_SEC, .lookup DnsName.root .A), storedOther .MX].inits,
      (others ⟨DnsName.root, .A⟩ front).card < 2 := by decide +kernel
  exact lookup_run_held 2 (by decide) (by simp [Undisturbed, storedOther, CacheCall.Writes]) (by decide)
    (by decide) fun front before => room front ((List.mem_inits _ _).mpr before)

end DnsCache

end DnsServer
