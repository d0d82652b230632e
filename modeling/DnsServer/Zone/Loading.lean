import DnsServer.Zone.Lookup

/-! Loading a configuration into the store. -/

namespace DnsServer

structure ZoneConfig where
  zones : List ZoneDefinition

namespace ZoneStore

def push (store : ZoneStore) (zone : Zone) : ZoneStore := ⟨store.zones ++ [zone]⟩

/-- The loop over the definitions: `?` leaves it with what has been pushed before. -/
def loadZones : List ZoneDefinition → Prog ZoneStore DnsError Unit
  | [] => return ()
  | definition :: rest =>
    match Zone.fromConfig definition with
    | .ok zone => do
      Prog.modify fun store => store.push zone
      loadZones rest
    | .error error => Prog.fail error

def loadConfig (config : ZoneConfig) : Prog ZoneStore DnsError Unit := loadZones config.zones

/-- Each zone is built from its definition. -/
def Built (definitions : List ZoneDefinition) (zones : List Zone) : Prop :=
  List.Forall₂ (fun definition zone => Zone.fromConfig definition = .ok zone) definitions zones

/-- How loading definitions may end: with a zone for each of them, or with the error of the first that is
refused, and then with a zone for each one before it. -/
inductive Loads (definitions : List ZoneDefinition) (store : ZoneStore) :
    Outcome DnsError Unit × ZoneStore → Prop
  | all {zones : List Zone} : Built definitions zones → Loads definitions store (.ok (), ⟨store.zones ++ zones⟩)
  | refused {before after : List ZoneDefinition} {definition : ZoneDefinition} {zones : List Zone}
      {error : DnsError} : definitions = before ++ definition :: after → Built before zones →
      Zone.fromConfig definition = .error error →
      Loads definitions store (.err error, ⟨store.zones ++ zones⟩)

theorem loadZones_loads (definitions : List ZoneDefinition) (store : ZoneStore) :
    Loads definitions store (loadZones definitions store) := by
  induction definitions generalizing store with
  | nil =>
    have start : Loads [] store (.ok (), ⟨store.zones ++ []⟩) := .all .nil
    rwa [List.append_nil] at start
  | cons definition rest ih =>
    rw [loadZones]
    rcases built : Zone.fromConfig definition with error | zone
    · have stopped : Loads (definition :: rest) store (.err error, ⟨store.zones ++ []⟩) :=
        .refused (List.nil_append _).symm .nil built
      rwa [List.append_nil] at stopped
    · have onward := ih (store.push zone)
      have pushed : ∀ zones, (store.push zone).zones ++ zones = store.zones ++ zone :: zones := by
        intro zones
        rw [push, List.append_assoc, List.singleton_append]
      change Loads _ _ (loadZones rest (store.push zone))
      generalize loadZones rest (store.push zone) = outcome at onward
      cases onward with
      | all each =>
        rw [pushed]
        exact .all (.cons built each)
      | refused split each error =>
        rw [pushed]
        exact .refused (by rw [split, List.cons_append]) (.cons built each) error

/-- An error leaves the store as it was exactly when no definition stands before the one that is refused. -/
theorem Built.unchanged_iff {definitions : List ZoneDefinition} {zones : List Zone}
    (built : Built definitions zones) (store : ZoneStore) :
    (⟨store.zones ++ zones⟩ : ZoneStore) = store ↔ definitions = [] := by
  have size := built.length_eq
  have appended : (⟨store.zones ++ zones⟩ : ZoneStore) = store ↔ zones = [] := by
    obtain ⟨held⟩ := store
    rw [ZoneStore.mk.injEq, List.append_right_eq_self]
  rw [appended, ← List.length_eq_zero_iff, ← size, List.length_eq_zero_iff]

/-- Loading a configuration appends one zone for each definition, in order. When it fails, it does so
with the error of the first definition that is refused, and keeps the zones of the definitions before it:
the store is as before exactly when there are none. -/
theorem loadConfig_outcome (config : ZoneConfig) (store : ZoneStore) :
    (∃ zones, Built config.zones zones ∧ loadConfig config store = (.ok (), ⟨store.zones ++ zones⟩)) ∨
      ∃ before definition after zones error store', config.zones = before ++ definition :: after ∧
        Built before zones ∧ Zone.fromConfig definition = .error error ∧
        loadConfig config store = (.err error, store') ∧ store' = ⟨store.zones ++ zones⟩ ∧
        (store' = store ↔ before = []) := by
  have loads := loadZones_loads config.zones store
  unfold loadConfig
  generalize loadZones config.zones store = outcome at loads
  cases loads with
  | all built => exact Or.inl ⟨_, built, rfl⟩
  | refused split built error =>
    exact Or.inr ⟨_, _, _, _, _, _, split, built, error, rfl, rfl, built.unchanged_iff store⟩

/-- An entry of a type that the code has no name for. -/
def refusedZone : ZoneDefinition :=
  { Zone.nsZone [] with records := [⟨"@", "NAPTR", none, "", none, none, none⟩] }

/-- The first zone of a refused configuration stays and is answered from. -/
theorem loadConfig_refusedZone_keeps : ∃ error store',
    loadConfig ⟨[Zone.nsZone [], refusedZone]⟩ ⟨[]⟩ = (.err error, store') ∧
      store'.lookup ⟨["example", "local"]⟩ .SOA ≠ (⟨[]⟩ : ZoneStore).lookup ⟨["example", "local"]⟩ .SOA := by
  have stopped : (loadConfig ⟨[Zone.nsZone [], refusedZone]⟩ ⟨[]⟩).1 =
      .err (.parseError "Unknown record type: NAPTR") := by decide +kernel
  have answered : ((loadConfig ⟨[Zone.nsZone [], refusedZone]⟩ ⟨[]⟩).2.lookup
      ⟨["example", "local"]⟩ .SOA).isSome = true := by decide +kernel
  rcases run : loadConfig ⟨[Zone.nsZone [], refusedZone]⟩ ⟨[]⟩ with ⟨outcome, store'⟩
  rw [run] at stopped answered
  refine ⟨_, store', Prod.ext stopped rfl, fun same => ?_⟩
  rw [same] at answered
  cases answered

end ZoneStore

end DnsServer
