import Mathlib.Data.List.AList

/-- A bounded map that evicts the least recently used key. The entries stand in the order of use,
the most recent first. -/
structure Lru (κ ν : Type) where
  capacity : Nat
  capacity_pos : 0 < capacity
  entries : AList fun _ : κ => ν
  bounded : entries.keys.length ≤ capacity

namespace Lru

variable {κ ν : Type}

def empty (capacity : Nat) (positive : 0 < capacity) : Lru κ ν := ⟨capacity, positive, ∅, Nat.zero_le _⟩

def length (cache : Lru κ ν) : Nat := cache.entries.keys.length

/-- The first `count` entries of an association list. -/
def firsts (count : Nat) (entries : AList fun _ : κ => ν) : AList fun _ : κ => ν :=
  ⟨entries.entries.take count, entries.nodupKeys.sublist (List.take_sublist _ _)⟩

theorem firsts_keys (count : Nat) (entries : AList fun _ : κ => ν) :
    (firsts count entries).keys = entries.keys.take count :=
  List.map_take

theorem firsts_all {count : Nat} {entries : AList fun _ : κ => ν} (fits : entries.keys.length ≤ count) :
    firsts count entries = entries := by
  apply AList.ext
  apply List.take_of_length_le
  simpa only [AList.keys, List.keys, List.length_map] using fits

variable [DecidableEq κ]

/-- The value under a key, without counting as a use of it. -/
def peek (cache : Lru κ ν) (k : κ) : Option ν := cache.entries.lookup k

/-- Writing a key makes it the most recent one; the entry beyond the capacity is evicted. -/
def put (cache : Lru κ ν) (k : κ) (v : ν) : Lru κ ν where
  capacity := cache.capacity
  capacity_pos := cache.capacity_pos
  entries := firsts cache.capacity (cache.entries.insert k v)
  bounded := by
    rw [firsts_keys]
    exact List.length_take_le _ _

/-- Reading a key makes it the most recent one. -/
def get (cache : Lru κ ν) (k : κ) : Option ν × Lru κ ν :=
  match cache.peek k with
  | some v => (some v, cache.put k v)
  | none => (none, cache)

def pop (cache : Lru κ ν) (k : κ) : Lru κ ν where
  capacity := cache.capacity
  capacity_pos := cache.capacity_pos
  entries := cache.entries.erase k
  bounded := by
    rw [AList.keys_erase]
    exact le_trans List.length_erase_le cache.bounded

def clear (cache : Lru κ ν) : Lru κ ν := empty cache.capacity cache.capacity_pos

theorem firsts_lookup {count : Nat} {entries : AList fun _ : κ => ν} {k : κ} {v : ν}
    (found : (firsts count entries).lookup k = some v) : entries.lookup k = some v := by
  have member := AList.mem_lookup_iff.mp found
  exact AList.mem_lookup_iff.mpr (List.mem_of_mem_take member)

theorem keys_length_insert_le (cache : Lru κ ν) (k : κ) (v : ν) :
    (cache.entries.insert k v).keys.length ≤ cache.length + 1 := by
  rw [AList.keys_insert, List.length_cons]
  exact Nat.succ_le_succ List.length_erase_le

theorem length_put_le (cache : Lru κ ν) (k : κ) (v : ν) : (cache.put k v).length ≤ cache.length + 1 := by
  refine le_trans ?_ (keys_length_insert_le cache k v)
  change (firsts _ _).keys.length ≤ _
  rw [firsts_keys]
  exact List.length_take_le' _ _

@[simp] theorem peek_put_self (cache : Lru κ ν) (k : κ) (v : ν) : (cache.put k v).peek k = some v := by
  apply AList.mem_lookup_iff.mpr
  change _ ∈ (cache.entries.insert k v).entries.take cache.capacity
  obtain ⟨rest, capacity⟩ : ∃ rest, cache.capacity = rest + 1 :=
    ⟨cache.capacity - 1, by have := cache.capacity_pos; omega⟩
  rw [AList.entries_insert, capacity, List.take_succ_cons]
  exact List.mem_cons_self

/-- A write changes another key only by evicting it. -/
theorem peek_put_of_some {cache : Lru κ ν} {k k' : κ} {v v' : ν} (other : k' ≠ k)
    (found : (cache.put k v).peek k' = some v') : cache.peek k' = some v' := by
  have inserted := firsts_lookup found
  rwa [AList.lookup_insert_ne other] at inserted

/-- With room for one more key a write changes no other key. -/
theorem peek_put_roomy {cache : Lru κ ν} {k k' : κ} {v : ν} (other : k' ≠ k)
    (room : cache.length < cache.capacity) : (cache.put k v).peek k' = cache.peek k' := by
  have fits := le_trans (keys_length_insert_le cache k v) room
  change (firsts _ _).lookup k' = _
  rw [firsts_all fits, AList.lookup_insert_ne other]
  rfl

/-- A key that is read stays, and so does every other key. -/
theorem peek_get (cache : Lru κ ν) (k k' : κ) : (cache.get k).2.peek k' = cache.peek k' := by
  rcases found : cache.peek k with _ | v
  · rw [get, found]
  · have member : k ∈ cache.entries.keys := AList.lookup_isSome.mp (by rw [← peek, found]; rfl)
    have fits : (cache.entries.insert k v).keys.length ≤ cache.capacity := by
      rw [AList.keys_insert, List.length_cons, List.length_erase_of_mem member]
      have bounded := cache.bounded
      have positive := List.length_pos_of_mem member
      omega
    rw [get, found]
    by_cases same : k' = k
    · rw [same, found, peek_put_self]
    · change (firsts _ _).lookup k' = _
      rw [firsts_all fits, AList.lookup_insert_ne same]
      rfl

theorem get_fst (cache : Lru κ ν) (k : κ) : (cache.get k).1 = cache.peek k := by
  unfold get
  split <;> simp_all

@[simp] theorem get_capacity (cache : Lru κ ν) (k : κ) : (cache.get k).2.capacity = cache.capacity := by
  unfold get
  split <;> rfl

@[simp] theorem peek_pop_self (cache : Lru κ ν) (k : κ) : (cache.pop k).peek k = none :=
  AList.lookup_erase k cache.entries

theorem peek_pop_ne {cache : Lru κ ν} {k k' : κ} (other : k' ≠ k) :
    (cache.pop k).peek k' = cache.peek k' :=
  AList.lookup_erase_ne other

theorem peek_pop_of_some {cache : Lru κ ν} {k k' : κ} {v : ν}
    (found : (cache.pop k).peek k' = some v) : cache.peek k' = some v := by
  by_cases same : k' = k
  · rw [same, peek_pop_self] at found
    cases found
  · rwa [peek_pop_ne same] at found

end Lru
