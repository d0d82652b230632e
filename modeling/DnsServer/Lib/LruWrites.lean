import DnsServer.Lib.Lru
import Mathlib.Data.Finset.Card

/-! What a bounded map holds after a sequence of writes: the keys written last. -/

namespace Lru

variable {κ ν : Type} [DecidableEq κ]

def putAll (cache : Lru κ ν) (writes : List (κ × ν)) : Lru κ ν :=
  writes.foldl (fun cache write => cache.put write.1 write.2) cache

theorem putAll_append (cache : Lru κ ν) (first second : List (κ × ν)) :
    cache.putAll (first ++ second) = (cache.putAll first).putAll second :=
  List.foldl_append

theorem putAll_concat (cache : Lru κ ν) (writes : List (κ × ν)) (k : κ) (v : ν) :
    cache.putAll (writes ++ [(k, v)]) = (cache.putAll writes).put k v :=
  cache.putAll_append writes [(k, v)]

theorem putAll_capacity (cache : Lru κ ν) (writes : List (κ × ν)) :
    (cache.putAll writes).capacity = cache.capacity := by
  induction writes generalizing cache with
  | nil => rfl
  | cons write writes ih => exact ih (cache.put write.1 write.2)

theorem put_keys (cache : Lru κ ν) (k : κ) (v : ν) :
    (cache.put k v).entries.keys = (k :: cache.entries.keys.erase k).take cache.capacity := by
  change (firsts _ _).keys = _
  rw [firsts_keys, AList.keys_insert]

/-- The keys in use most recently are those of the set. -/
def Recent (cache : Lru κ ν) (keys : Finset κ) : Prop :=
  ∃ front back, cache.entries.keys = front ++ back ∧ front.toFinset = keys

theorem recent_empty (cache : Lru κ ν) : cache.Recent ∅ := ⟨[], cache.entries.keys, rfl, rfl⟩

/-- A write that leaves room for the keys so far makes its key one of them. -/
theorem Recent.put {cache : Lru κ ν} {keys : Finset κ} (recent : cache.Recent keys) {k : κ} {v : ν}
    (fits : (insert k keys).card ≤ cache.capacity) : (cache.put k v).Recent (insert k keys) := by
  obtain ⟨front, back, split, held⟩ := recent
  have distinct : (front ++ back).Nodup := split ▸ cache.entries.keys_nodup
  have frontDistinct := (List.nodup_append.mp distinct).1
  have newDistinct : (k :: front.erase k).Nodup :=
    List.nodup_cons.mpr ⟨frontDistinct.not_mem_erase, frontDistinct.erase k⟩
  have newKeys : (k :: front.erase k).toFinset = insert k keys := by
    ext key
    simp only [List.toFinset_cons, Finset.mem_insert, List.mem_toFinset, ← held,
      frontDistinct.mem_erase_iff]
    tauto
  have short : (k :: front.erase k).length ≤ cache.capacity := by
    rw [← List.toFinset_card_of_nodup newDistinct, newKeys]
    exact fits
  -- the key leaves the place where it stood, in front or behind
  obtain ⟨rest, moved⟩ : ∃ rest, (front ++ back).erase k = front.erase k ++ rest := by
    by_cases member : k ∈ front
    · exact ⟨back, List.erase_append_left back member⟩
    · exact ⟨back.erase k, by rw [List.erase_append_right back member, List.erase_of_not_mem member]⟩
  refine ⟨k :: front.erase k, rest.take (cache.capacity - (k :: front.erase k).length), ?_, newKeys⟩
  rw [put_keys, split, moved, ← List.cons_append, List.take_append, List.take_of_length_le short]

theorem recent_putAll {cache : Lru κ ν} {writes : List (κ × ν)}
    (fits : (writes.map Prod.fst).toFinset.card ≤ cache.capacity) :
    (cache.putAll writes).Recent (writes.map Prod.fst).toFinset := by
  induction writes using List.reverseRecOn with
  | nil => exact cache.recent_empty
  | append_singleton writes write ih =>
    have grown : ((writes ++ [write]).map Prod.fst).toFinset =
        insert write.1 (writes.map Prod.fst).toFinset := by
      simp
    rw [grown] at fits ⊢
    have before := ih (le_trans (Finset.card_le_card (Finset.subset_insert _ _)) fits)
    rw [putAll_concat]
    exact before.put (by rwa [putAll_capacity])

/-- What stands under a key that has been written was written to it. -/
theorem peek_putAll_of_some {cache : Lru κ ν} {writes : List (κ × ν)} {k : κ} {v : ν}
    (written : k ∈ writes.map Prod.fst) (found : (cache.putAll writes).peek k = some v) :
    (k, v) ∈ writes := by
  induction writes using List.reverseRecOn with
  | nil => cases written
  | append_singleton writes write ih =>
    rw [putAll_concat] at found
    by_cases same : k = write.1
    · rw [same, peek_put_self] at found
      cases found
      rw [same]
      exact List.mem_append_right _ (List.mem_singleton_self _)
    · have earlier : k ∈ writes.map Prod.fst := by
        simpa [same] using written
      exact List.mem_append_left _ (ih earlier (peek_put_of_some same found))

/-- With room for the keys of the writes, each of them is there at the end. -/
theorem peek_putAll_of_mem {cache : Lru κ ν} {writes : List (κ × ν)} {k : κ}
    (fits : (writes.map Prod.fst).toFinset.card ≤ cache.capacity)
    (written : k ∈ writes.map Prod.fst) :
    ∃ v, (k, v) ∈ writes ∧ (cache.putAll writes).peek k = some v := by
  obtain ⟨front, back, split, held⟩ := recent_putAll fits
  have member : k ∈ front := by rwa [← List.mem_toFinset, held, List.mem_toFinset]
  have present : k ∈ (cache.putAll writes).entries.keys := by
    rw [split]
    exact List.mem_append_left _ member
  obtain ⟨v, found⟩ := Option.isSome_iff_exists.mp (AList.lookup_isSome.mpr present)
  exact ⟨v, peek_putAll_of_some written found, found⟩

end Lru
