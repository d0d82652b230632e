import DnsServer.Zone.Config

/-! What a zone that has been built from a definition answers. -/

namespace DnsServer

namespace Zone

/-- An empty list of records is no answer. -/
def unlessEmpty (records : List DnsRecord) : Option (List DnsRecord) :=
  if records.isEmpty then none else some records

theorem unlessEmpty_getD (records : List DnsRecord) : (unlessEmpty records).getD [] = records := by
  cases records <;> rfl

theorem isOk_iff {ε α : Type} {x : Except ε α} : x.isOk = true ↔ ∃ a, x = .ok a := by
  cases x with
  | error e => exact iff_of_false (fun ok => by cases ok) (by rintro ⟨_, ⟨⟩⟩)
  | ok a => exact iff_of_true rfl ⟨a, rfl⟩

theorem unlessEmpty_inj {records records' : List DnsRecord} :
    unlessEmpty records = unlessEmpty records' ↔ records = records' := by
  constructor
  · intro same
    rw [← unlessEmpty_getD records, same, unlessEmpty_getD]
  · exact congrArg unlessEmpty

namespace Tables

/-- Each key of the table holds the records that were pushed under it, in their order. -/
theorem foldl_push_records (records : List DnsRecord) (key : DnsName × RecordType) :
    (records.foldl push empty).records.lookup key =
      unlessEmpty (records.filter fun record => (record.name, record.recordType) = key) := by
  induction records using List.reverseRecOn with
  | nil => rfl
  | append_singleton records record ih =>
    rw [List.foldl_append, List.filter_append]
    by_cases same : (record.name, record.recordType) = key
    · have own : [record].filter (fun r => (r.name, r.recordType) = key) = [record] :=
        List.filter_cons_of_pos (decide_eq_true same)
      change (AList.insert _ _ _).lookup key = _
      rw [own, same, AList.lookup_insert, ih, unlessEmpty_getD]
      simp [unlessEmpty]
    · have other : [record].filter (fun r => (r.name, r.recordType) = key) = [] :=
        List.filter_cons_of_neg (by simpa using same)
      change (AList.insert _ _ _).lookup key = _
      rw [other, List.append_nil, AList.lookup_insert_ne (Ne.symm same), ih]

theorem foldl_push_nsRecords (records : List DnsRecord) :
    (records.foldl push empty).nsRecords = records.filter fun record => record.recordType = .NS := by
  induction records using List.reverseRecOn with
  | nil => rfl
  | append_singleton records record ih =>
    rw [List.foldl_append, List.filter_append, ← ih, List.foldl_cons, List.foldl_nil, push]
    dsimp only
    by_cases ns : record.recordType = .NS
    · simp [ns]
    · simp [ns]

end Tables

end Zone

namespace ZoneDefinition

/-- The records that the definition has for a name and a type, in its order. -/
def recordsOf (definition : ZoneDefinition) (zoneName name : DnsName) (recordType : RecordType) :
    List DnsRecord :=
  (definition.configured zoneName).filter fun record =>
    record.name = name ∧ record.recordType = recordType

/-- Some entry is an NS record of another name than the zone's own. -/
def DelegatesBelow (definition : ZoneDefinition) : Prop :=
  ∃ rec ∈ definition.records, RecordType.fromStrType rec.recordType = some .NS ∧ rec.name ≠ "@" ∧
    DnsName.new (rec.name ++ "." ++ definition.name) ≠ DnsName.new definition.name

end ZoneDefinition

namespace Zone

variable {definition : ZoneDefinition} {zone : Zone}

theorem Loaded.lookup_records (built : Loaded definition zone) (name : DnsName)
    (recordType : RecordType) : zone.records.lookup (name, recordType) =
      unlessEmpty (definition.recordsOf zone.name name recordType) := by
  have table := congrArg Tables.records built.tables
  dsimp only at table
  rw [table, Tables.foldl_push_records, ZoneDefinition.recordsOf]
  simp only [Prod.mk.injEq]

theorem Loaded.nsRecords (built : Loaded definition zone) : zone.nsRecords =
    (definition.configured zone.name).filter fun record => record.recordType = .NS := by
  have list := congrArg Tables.nsRecords built.tables
  dsimp only at list
  rw [list, Tables.foldl_push_nsRecords]

/-- The entries below the zone's own name are the NS records of other owners. -/
theorem Loaded.delegatesBelow_iff (built : Loaded definition zone) : definition.DelegatesBelow ↔
    ∃ record ∈ definition.configured zone.name, record.recordType = .NS ∧ record.name ≠ zone.name := by
  have apex := built.name
  constructor
  · rintro ⟨rec, member, typed, relative, below⟩
    obtain ⟨record, made⟩ := built.each rec member
    obtain ⟨name, rtype, rdata, named, typed', held, same⟩ := ZoneDefinition.record_ok.mp made
    cases typed.symm.trans typed'
    refine ⟨record, ZoneDefinition.mem_configured.mpr ⟨rec, member, made⟩, by rw [same]; rfl, ?_⟩
    rw [ZoneDefinition.recordName, if_neg relative, nameFrom_ok] at named
    rw [same]
    intro owner
    rw [named, apex] at below
    exact below (congrArg Except.ok owner)
  · rintro ⟨record, member, typed, below⟩
    obtain ⟨rec, entry, made⟩ := ZoneDefinition.mem_configured.mp member
    obtain ⟨name, rtype, rdata, named, typed', held, same⟩ := ZoneDefinition.record_ok.mp made
    rw [same] at typed below
    have relative : rec.name ≠ "@" := by
      intro at_
      rw [ZoneDefinition.recordName, if_pos at_] at named
      exact below (Except.ok.inj named).symm
    rw [ZoneDefinition.recordName, if_neg relative, nameFrom_ok] at named
    refine ⟨rec, entry, typed'.trans (congrArg some typed), relative, ?_⟩
    rw [named, apex]
    exact fun owner => below (Except.ok.inj owner)

/-- For the NS records of the zone itself the list of all NS records is given. -/
theorem Loaded.lookup_apexNs (built : Loaded definition zone) :
    zone.lookup zone.name .NS =
      unlessEmpty ((definition.configured zone.name).filter fun record => record.recordType = .NS) := by
  unfold lookup
  rw [if_neg (by simp), built.lookup_records, built.nsRecords]
  by_cases none : (definition.configured zone.name).filter (fun record => record.recordType = .NS) = []
  · have noApex : definition.recordsOf zone.name zone.name .NS = [] := by
      unfold ZoneDefinition.recordsOf
      rw [List.filter_eq_nil_iff] at none ⊢
      intro record member both
      exact none record member (by simpa using (of_decide_eq_true both).2)
    rw [noApex, none]
    simp
  · simp [none, unlessEmpty]

/-- A lookup is exact unless it asks for the NS records of the zone itself and the definition has NS
records of other names too. -/
theorem lookup_exact_iff (definition : ZoneDefinition) (zone : Zone) (name : DnsName)
    (recordType : RecordType) (loaded : fromConfig definition = .ok zone) (notSoa : recordType ≠ .SOA) :
    zone.lookup name recordType = unlessEmpty (definition.recordsOf zone.name name recordType) ↔
      ¬(recordType = .NS ∧ name = zone.name ∧ definition.DelegatesBelow) := by
  have built := fromConfig_loaded loaded
  unfold lookup
  rw [if_neg fun soa => notSoa soa.1]
  by_cases apexNs : recordType = .NS ∧ name = zone.name
  · obtain ⟨rfl, rfl⟩ := apexNs
    have given := built.lookup_apexNs
    unfold lookup at given
    rw [if_neg fun soa => notSoa soa.1] at given
    rw [given, unlessEmpty_inj, built.delegatesBelow_iff]
    have narrowed : definition.recordsOf zone.name zone.name .NS =
          ((definition.configured zone.name).filter fun record => record.recordType = .NS).filter
            fun record => record.name = zone.name := by
      simp [ZoneDefinition.recordsOf, List.filter_filter]
    rw [narrowed, eq_comm, List.filter_eq_self]
    constructor
    · rintro all ⟨-, -, record, member, typed, below⟩
      exact below (of_decide_eq_true (all record (List.mem_filter.mpr ⟨member, decide_eq_true typed⟩)))
    · intro no record member
      obtain ⟨held, typed⟩ := List.mem_filter.mp member
      apply decide_eq_true
      by_contra below
      exact no ⟨rfl, rfl, record, held, of_decide_eq_true typed, below⟩
  · rw [if_neg fun apex => apexNs ⟨apex.1, apex.2.1⟩]
    exact iff_of_true (built.lookup_records name recordType) fun apex => apexNs ⟨apex.1, apex.2.1⟩

/-- A zone with nothing but NS records. -/
def nsZone (entries : List (String × String)) : ZoneDefinition where
  name := "example.local"
  soa := ⟨"ns1.example.local", "admin.example.local", 1, 3600, 600, 86400, 300⟩
  records := entries.map fun entry => ⟨entry.1, "NS", none, entry.2, none, none, none⟩

def delegatingZone : ZoneDefinition := nsZone [("@", "ns1.example.local"), ("sub", "ns.sub.example.local")]

theorem lookup_exact_iff_delegatingZone :
    ∃ zone, fromConfig delegatingZone = .ok zone ∧
      (zone.lookup ⟨["sub", "example", "local"]⟩ .NS =
          unlessEmpty (delegatingZone.recordsOf zone.name ⟨["sub", "example", "local"]⟩ .NS) ↔
        ¬(RecordType.NS = .NS ∧ ⟨["sub", "example", "local"]⟩ = zone.name ∧
          delegatingZone.DelegatesBelow)) := by
  have ok : (fromConfig delegatingZone).isOk = true := by decide +kernel
  obtain ⟨zone, loaded⟩ := isOk_iff.mp ok
  exact ⟨zone, loaded, lookup_exact_iff _ zone _ .NS loaded (by decide)⟩

/-- With the delegation as its only record, the zone gives it for the NS records of its own name. -/
theorem lookup_delegation_atApex :
    ∃ zone, fromConfig (nsZone [("sub", "ns.sub.example.local")]) = .ok zone ∧
      zone.lookup zone.name .NS ≠
        unlessEmpty ((nsZone [("sub", "ns.sub.example.local")]).recordsOf zone.name zone.name .NS) := by
  have found : (fromConfig (nsZone [("sub", "ns.sub.example.local")])).map
      (fun zone => (zone.lookup zone.name .NS).isSome) = .ok true := by decide +kernel
  have own : (fromConfig (nsZone [("sub", "ns.sub.example.local")])).map (fun zone =>
      (nsZone [("sub", "ns.sub.example.local")]).recordsOf zone.name zone.name .NS) = .ok [] := by
    decide +kernel
  rcases run : fromConfig (nsZone [("sub", "ns.sub.example.local")]) with error | zone
  · rw [run] at found
    cases found
  · rw [run] at found own
    refine ⟨zone, rfl, fun same => ?_⟩
    have empty : ZoneDefinition.recordsOf _ zone.name zone.name .NS = [] := Except.ok.inj own
    have some : (zone.lookup zone.name .NS).isSome = true := Except.ok.inj found
    rw [same, empty] at some
    cases some

end Zone

end DnsServer
