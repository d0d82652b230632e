import DnsServer.Lib.LruWrites

/-! How long a bounded map keeps a key: until as many others as it has room for were used since. -/

namespace Lru

variable {κ ν : Type} [DecidableEq κ] {cache : Lru κ ν} {used used' : Finset κ} {k k' : κ} {v v' : ν}

/-- The value stands under the key, and the keys in use more recently are among those of the set. -/
def Held (cache : Lru κ ν) (used : Finset κ) (k : κ) (v : ν) : Prop :=
  cache.peek k = some v ∧ ∃ front back, cache.entries.keys = front ++ k :: back ∧ front.toFinset ⊆ used

namespace Held

theorem mono (held : cache.Held used k v) (more : used ⊆ used') : cache.Held used' k v := by
  obtain ⟨found, front, back, split, inside⟩ := held
  exact ⟨found, front, back, split, inside.trans more⟩

theorem put_self (cache : Lru κ ν) (k : κ) (v : ν) : (cache.put k v).Held ∅ k v := by
  refine ⟨peek_put_self cache k v, [], (cache.entries.keys.erase k).take (cache.capacity - 1), ?_, by simp⟩
  obtain ⟨rest, capacity⟩ : ∃ rest, cache.capacity = rest + 1 :=
    ⟨cache.capacity - 1, by have := cache.capacity_pos; omega⟩
  rw [put_keys, capacity, List.take_succ_cons]
  rfl

/-- What is left of a list around an element when another one is taken out. -/
theorem erase_around {front back : List κ} (distinct : (front ++ k :: back).Nodup) (other : k' ≠ k) :
    ∃ front' back', (front ++ k :: back).erase k' = front' ++ k :: back' ∧ k' ∉ front' ∧
      front' ⊆ front ∧ front'.Nodup := by
  have frontDistinct := (List.nodup_append.mp distinct).1
  by_cases member : k' ∈ front
  · exact ⟨front.erase k', back, List.erase_append_left _ member, frontDistinct.not_mem_erase,
      List.erase_subset, frontDistinct.erase k'⟩
  · refine ⟨front, back.erase k', ?_, member, List.Subset.refl _, frontDistinct⟩
    rw [List.erase_append_right _ member, List.erase_cons_tail (by simpa using other.symm)]

/-- A write of another key pushes the key back by one, and not out as long as there is room for all that
were used since. -/
theorem put (held : cache.Held used k v) (other : k' ≠ k) (room : (insert k' used).card < cache.capacity) :
    (cache.put k' v').Held (insert k' used) k v := by
  obtain ⟨found, front, back, split, inside⟩ := held
  have distinct : (front ++ k :: back).Nodup := split ▸ cache.entries.keys_nodup
  obtain ⟨front', back', erased, absent, fewer, frontDistinct⟩ := erase_around distinct other
  have newDistinct : (k' :: front').Nodup := List.nodup_cons.mpr ⟨absent, frontDistinct⟩
  have newInside : (k' :: front').toFinset ⊆ insert k' used := by
    rw [List.toFinset_cons]
    refine Finset.insert_subset_insert k' fun key member => inside ?_
    exact List.mem_toFinset.mpr (fewer (List.mem_toFinset.mp member))
  have short : (k' :: front').length < cache.capacity := by
    rw [← List.toFinset_card_of_nodup newDistinct]
    exact (Finset.card_le_card newInside).trans_lt room
  have keys : (cache.put k' v').entries.keys =
      (k' :: front') ++ k :: back'.take (cache.capacity - (k' :: front').length - 1) := by
    obtain ⟨rest, capacity⟩ : ∃ rest, cache.capacity - (k' :: front').length = rest + 1 :=
      ⟨cache.capacity - (k' :: front').length - 1, by omega⟩
    rw [put_keys, split, erased, ← List.cons_append, List.take_append, List.take_of_length_le short.le,
      capacity, List.take_succ_cons, Nat.add_sub_cancel]
  refine ⟨?_, _, _, keys, newInside⟩
  have present : k ∈ (cache.put k' v').entries.keys := by
    rw [keys]
    exact List.mem_append_right _ List.mem_cons_self
  obtain ⟨kept, after⟩ := Option.isSome_iff_exists.mp (AList.lookup_isSome.mpr present)
  have before := peek_put_of_some other.symm after
  rw [found] at before
  exact after.trans before.symm

theorem get_self (held : cache.Held used k v) : (cache.get k).2.Held ∅ k v := by
  rw [get, held.1]
  exact put_self cache k v

theorem get (held : cache.Held used k v) (other : k' ≠ k) (room : (insert k' used).card < cache.capacity) :
    (cache.get k').2.Held (insert k' used) k v := by
  unfold Lru.get
  split
  · exact held.put other room
  · exact held.mono (Finset.subset_insert _ _)

theorem pop (held : cache.Held used k v) (other : k' ≠ k) : (cache.pop k').Held used k v := by
  obtain ⟨found, front, back, split, inside⟩ := held
  have distinct : (front ++ k :: back).Nodup := split ▸ cache.entries.keys_nodup
  obtain ⟨front', back', erased, _, fewer, _⟩ := erase_around distinct other
  refine ⟨(peek_pop_ne other.symm).trans found, front', back', ?_, fun key member => inside ?_⟩
  · change (cache.entries.erase k').keys = _
    rw [AList.keys_erase, split, erased]
  · exact List.mem_toFinset.mpr (fewer (List.mem_toFinset.mp member))

end Held

end Lru
