import DnsServer.Zone
import Mathlib.Data.List.Infix

/-! The zone that is found for a name: the closest one above it. -/

namespace DnsServer

section LastOfGreatest

variable {α : Type} {key : α → Nat} {xs : List α} {x : α}

theorem maxByKey_eq_none : maxByKey key xs = none ↔ xs = [] := by
  cases xs with
  | nil => exact iff_of_true rfl rfl
  | cons x xs =>
    refine iff_of_false ?_ (List.cons_ne_nil x xs)
    rw [maxByKey]
    split
    · split <;> exact Option.some_ne_none _
    · exact Option.some_ne_none _

/-- Nothing has a greater key, and nothing behind has as great a key. -/
theorem maxByKey_eq_some (chosen : maxByKey key xs = some x) : ∃ before after, xs = before ++ x :: after ∧
    (∀ y ∈ before, key y ≤ key x) ∧ ∀ y ∈ after, key y < key x := by
  induction xs generalizing x with
  | nil => cases chosen
  | cons first rest ih =>
    rw [maxByKey] at chosen
    rcases later : maxByKey key rest with _ | y
    · rw [later] at chosen
      cases chosen
      rw [maxByKey_eq_none.mp later]
      exact ⟨[], [], rfl, fun y member => absurd member List.not_mem_nil,
        fun y member => absurd member List.not_mem_nil⟩
    · obtain ⟨before, after, split, low, less⟩ := ih later
      rw [later] at chosen
      dsimp only at chosen
      by_cases greater : key first ≤ key y
      · rw [if_pos greater] at chosen
        cases chosen
        exact ⟨first :: before, after, by rw [split, List.cons_append],
          List.forall_mem_cons.mpr ⟨greater, low⟩, less⟩
      · rw [if_neg greater] at chosen
        cases chosen
        refine ⟨[], rest, rfl, fun y member => absurd member List.not_mem_nil, fun z member => ?_⟩
        rw [split] at member
        rcases List.mem_append.mp member with earlier | member
        · have below := low z earlier
          omega
        rcases List.mem_cons.mp member with rfl | later
        · omega
        · have below := less z later
          omega

/-- The last of the elements with the greatest key. -/
theorem maxByKey_of_greatest {before after : List α} (low : ∀ y ∈ before, key y ≤ key x)
    (less : ∀ y ∈ after, key y < key x) : maxByKey key (before ++ x :: after) = some x := by
  have last : maxByKey key (x :: after) = some x := by
    rw [maxByKey]
    rcases later : maxByKey key after with _ | y
    · rfl
    · obtain ⟨_, _, split, _, _⟩ := maxByKey_eq_some later
      have below := less y (by rw [split]; exact List.mem_append_right _ List.mem_cons_self)
      dsimp only
      rw [if_neg (by omega)]
  induction before with
  | nil => exact last
  | cons first before ih =>
    obtain ⟨here, rest⟩ := List.forall_mem_cons.mp low
    rw [List.cons_append, maxByKey, ih rest]
    dsimp only
    rw [if_pos here]

end LastOfGreatest

namespace DnsName

/-- A name, its parent, the parent of that, and so on up to the root. -/
def ancestors (name : DnsName) : List DnsName :=
  match _above : name.parent with
  | none => [name]
  | some up => name :: up.ancestors
termination_by name.labels.length
decreasing_by
  unfold parent at _above
  split at _above <;> rename_i few
  · split at _above <;> rename_i none
    · cases _above
    · cases _above
      exact List.length_pos_of_ne_nil (by simpa using none)
  · cases _above
    simp only [List.length_drop]
    omega

theorem ancestors_eq (labels : List String) : (⟨labels⟩ : DnsName).ancestors = labels.tails.map DnsName.mk := by
  induction labels with
  | nil =>
    rw [ancestors]
    rfl
  | cons label labels ih =>
    have above : (⟨label :: labels⟩ : DnsName).parent = some ⟨labels⟩ := by
      cases labels <;> rfl
    rw [ancestors, List.tails_cons, List.map_cons, ← ih]
    split
    · rename_i top
      cases top.symm.trans above
    · rename_i up further
      cases further.symm.trans above
      rfl

theorem isSubdomainOf_iff {name other : DnsName} :
    name.isSubdomainOf other = true ↔ other.labels <:+ name.labels := by
  unfold isSubdomainOf
  split
  · rename_i shorter
    exact iff_of_false (by decide) fun suffix => by have fits := suffix.length_le; omega
  · rw [decide_eq_true_eq, List.suffix_iff_eq_drop, eq_comm]

/-- What the suffix test decides is whether the walk upwards comes by. -/
theorem isSubdomainOf_iff_mem {name other : DnsName} :
    name.isSubdomainOf other = true ↔ other ∈ name.ancestors := by
  obtain ⟨labels⟩ := name
  obtain ⟨suffix⟩ := other
  simp [isSubdomainOf_iff, ancestors_eq]

/-- Each name on the way up has fewer labels than the ones before it. -/
theorem ancestors_descending (name : DnsName) :
    name.ancestors.Pairwise fun below above => above.labelCount < below.labelCount := by
  obtain ⟨labels⟩ := name
  induction labels with
  | nil => rw [ancestors_eq]; exact List.pairwise_singleton _ _
  | cons label labels ih =>
    rw [ancestors_eq] at ih ⊢
    rw [List.tails_cons, List.map_cons, List.pairwise_cons]
    refine ⟨fun up member => ?_, ih⟩
    obtain ⟨suffix, within, rfl⟩ := List.mem_map.mp member
    have fits := ((List.mem_tails suffix labels).mp within).length_le
    exact Nat.lt_succ_of_le fits

end DnsName

namespace ZoneStore

variable {store : ZoneStore}

/-- Of the zones with the name, the one that was loaded last. -/
def latest (store : ZoneStore) (name : DnsName) : Option Zone :=
  store.zones.reverse.find? fun zone => zone.name = name

theorem latest_eq_none {name : DnsName} : store.latest name = none ↔ ∀ zone ∈ store.zones, zone.name ≠ name := by
  simp [latest]

theorem latest_eq_some {name : DnsName} {zone : Zone} (found : store.latest name = some zone) :
    zone.name = name ∧ ∃ before after, store.zones = before ++ zone :: after ∧ ∀ z ∈ after, z.name ≠ name := by
  obtain ⟨same, later, earlier, split, others⟩ := List.find?_eq_some_iff_append.mp found
  refine ⟨of_decide_eq_true same, earlier.reverse, later.reverse, ?_, ?_⟩
  · have whole := congrArg List.reverse split
    simpa using whole
  · intro z member
    simpa using others z (List.mem_reverse.mp member)

theorem contains_iff {zone : Zone} {name : DnsName} : zone.contains name = true ↔ zone.name ∈ name.ancestors := by
  have own : name ∈ name.ancestors := by
    rw [← DnsName.isSubdomainOf_iff_mem, DnsName.isSubdomainOf_iff]
  rw [Zone.contains, Bool.or_eq_true, DnsName.isSubdomainOf_iff_mem, decide_eq_true_eq]
  constructor
  · rintro (above | same)
    · exact above
    · rw [← same]
      exact own
  · exact Or.inl

/-- Along names with fewer and fewer labels, the greatest label count belongs to the first name that
some zone has. -/
theorem maxByKey_names {names : List DnsName}
    (descending : names.Pairwise fun below above => above.labelCount < below.labelCount) :
    maxByKey (fun zone => zone.name.labelCount) (store.zones.filter fun zone => zone.name ∈ names) =
      names.findSome? store.latest := by
  induction names with
  | nil => simp [maxByKey]
  | cons name names ih =>
    obtain ⟨below, rest⟩ := List.pairwise_cons.mp descending
    rcases found : store.latest name with _ | zone
    · have others : (store.zones.filter fun zone => zone.name ∈ name :: names) =
          store.zones.filter fun zone => zone.name ∈ names := by
        refine List.filter_congr fun zone member => ?_
        have other := latest_eq_none.mp found zone member
        simp [other]
      rw [List.findSome?_cons, found, others]
      exact ih rest
    · obtain ⟨same, before, after, split, others⟩ := latest_eq_some found
      rw [List.findSome?_cons, found, split, List.filter_append,
        List.filter_cons_of_pos (by simp [same])]
      have low : ∀ z : Zone, z.name ∈ names → z.name.labelCount < zone.name.labelCount := by
        intro z member
        rw [same]
        exact below z.name member
      refine maxByKey_of_greatest ?_ ?_
      · intro z member
        rcases List.mem_cons.mp (of_decide_eq_true (List.mem_filter.mp member).2) with equal | listed
        · rw [equal, same]
        · exact (low z listed).le
      · intro z member
        obtain ⟨held, listed⟩ := List.mem_filter.mp member
        rcases List.mem_cons.mp (of_decide_eq_true listed) with equal | listed
        · exact absurd equal (others z held)
        · exact low z listed

theorem findZone_eq (store : ZoneStore) (name : DnsName) :
    store.findZone name = name.ancestors.findSome? store.latest := by
  rw [← maxByKey_names name.ancestors_descending]
  unfold findZone
  congr 1
  refine List.filter_congr fun zone _ => ?_
  rw [Bool.eq_iff_iff, contains_iff, decide_eq_true_eq]

/-- The zone that is found is the first on the way up from the name, and of several zones of that name
the last that was loaded. None is found exactly when no name on the way is the name of a zone. -/
theorem findZone_closest (store : ZoneStore) (name : DnsName) :
    store.findZone name = name.ancestors.findSome? store.latest ∧
      (store.findZone name = none ↔ ∀ up ∈ name.ancestors, ∀ zone ∈ store.zones, zone.name ≠ up) := by
  refine ⟨store.findZone_eq name, ?_⟩
  rw [findZone_eq, List.findSome?_eq_none_iff]
  simp only [latest_eq_none]

end ZoneStore

end DnsServer
