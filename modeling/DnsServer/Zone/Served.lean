import DnsServer.Resolver.Resolve
import DnsServer.Zone.Enclosing
import DnsServer.Zone.Loading
import DnsServer.Zone.Wire

/-! What the zones of a configuration answer, and that it can be read from the wire. -/

namespace DnsServer

open Bytes DnsName

namespace Zone

variable {definition : ZoneDefinition} {zone : Zone} {name : DnsName} {recordType : RecordType}
  {records : List DnsRecord}

/-- The SOA record is readable when the names of its definition are unbroken. -/
theorem Loaded.soa_readable (built : Loaded definition zone) (writable : definition.Writable) :
    zone.soa.Readable := by
  obtain ⟨mname, rname, primary, mailbox, soa⟩ := built.soa
  have short := Nat.add_le_add (toWire_le_of_new primary) (toWire_le_of_new mailbox)
  rw [soa]
  have canonical : RecordType.SOA.Canonical := fun _ unknown => by cases unknown
  have internet : (RecordClass.IN).Canonical := fun _ unknown => by cases unknown
  refine ⟨(readable_of_new built.name).mpr writable.name, canonical, internet, rfl, ⟨?_, trivial⟩, ?_⟩
  · intro name member
    rcases List.mem_cons.mp member with rfl | member
    · exact (readable_of_new primary).mpr writable.mname
    · rw [List.mem_singleton.mp member]
      exact (readable_of_new mailbox).mpr writable.rname
  · simp only [DnsRecord.new, RData.serialize, List.length_append, toBe32_length]
    omega

theorem Loaded.configured_readable (built : Loaded definition zone) (writable : definition.Writable)
    {record : DnsRecord} (member : record ∈ definition.configured zone.name) : record.Readable := by
  obtain ⟨rec, entry, made⟩ := ZoneDefinition.mem_configured.mp member
  have faithful := (ZoneDefinition.record_faithful_iff built.name writable.name made).mpr
    (writable.records rec entry)
  exact ((ZoneDefinition.record_zonal built.name made).faithful_iff.mp faithful).1

/-- An answer consists of some records of the type, the SOA record or configured ones. -/
theorem Loaded.lookup_records_typed (built : Loaded definition zone)
    (found : zone.lookup name recordType = some records) : records ≠ [] ∧ ∀ record ∈ records,
      record.recordType = recordType ∧ (record = zone.soa ∨ record ∈ definition.configured zone.name) := by
  unfold lookup at found
  split at found
  · rename_i apex
    cases found
    obtain ⟨mname, rname, _, _, soa⟩ := built.soa
    refine ⟨List.cons_ne_nil _ _, List.forall_mem_singleton.mpr ⟨?_, Or.inl rfl⟩⟩
    rw [soa, apex.1]
    rfl
  split at found
  · rename_i apex
    cases found
    refine ⟨by simpa using apex.2.2, fun record member => ?_⟩
    rw [built.nsRecords] at member
    obtain ⟨configured, typed⟩ := List.mem_filter.mp member
    exact ⟨(of_decide_eq_true typed).trans apex.1.symm, Or.inr configured⟩
  · rw [built.lookup_records, unlessEmpty] at found
    split at found
    · cases found
    rename_i some
    cases found
    refine ⟨by simpa using some, fun record member => ?_⟩
    obtain ⟨configured, own⟩ := List.mem_filter.mp member
    exact ⟨(of_decide_eq_true own).2, Or.inr configured⟩

end Zone

namespace ZoneStore

variable {config : ZoneConfig} {store : ZoneStore} {name : DnsName} {recordType : RecordType}
  {records : List DnsRecord}

theorem built_of_loadConfig (loaded : loadConfig config ⟨[]⟩ = (.ok (), store)) :
    Built config.zones store.zones := by
  have loads := loadZones_loads config.zones ⟨[]⟩
  rw [loadConfig] at loaded
  rw [loaded] at loads
  cases loads with
  | all built => exact built

theorem exists_definition (loaded : loadConfig config ⟨[]⟩ = (.ok (), store)) {zone : Zone}
    (member : zone ∈ store.zones) : ∃ definition ∈ config.zones, Zone.fromConfig definition = .ok zone := by
  have built := built_of_loadConfig loaded
  obtain ⟨i, inside, rfl⟩ := List.getElem_of_mem member
  have there : i < config.zones.length := by rwa [built.length_eq]
  exact ⟨config.zones[i], List.getElem_mem there, built.get there inside⟩

theorem exists_zone (loaded : loadConfig config ⟨[]⟩ = (.ok (), store)) {definition : ZoneDefinition}
    (member : definition ∈ config.zones) : ∃ zone ∈ store.zones, Zone.fromConfig definition = .ok zone := by
  have built := built_of_loadConfig loaded
  obtain ⟨i, inside, rfl⟩ := List.getElem_of_mem member
  have there : i < store.zones.length := by rwa [← built.length_eq]
  exact ⟨store.zones[i], List.getElem_mem there, built.get inside there⟩

theorem lookup_of_zoneResult (found : store.zoneResult name recordType = .found records) :
    ∃ zone ∈ store.zones, zone.lookup name recordType = some records := by
  unfold zoneResult at found
  split at found
  · rename_i held
    cases found
    rw [lookup] at held
    obtain ⟨zone, chosen, held⟩ := Option.bind_eq_some_iff.mp held
    obtain ⟨before, after, split, _⟩ := maxByKey_eq_some chosen
    have member : zone ∈ store.zones.filter fun zone => zone.contains name := by
      rw [split]
      exact List.mem_append_right _ List.mem_cons_self
    exact ⟨zone, (List.mem_filter.mp member).1, held⟩
  · split at found
    · split at found
      · split at found <;> cases found
      · cases found
    · cases found

/-- Whatever the store finds for a question, it finds some records of the type, all of them readable. -/
theorem found_readable (loaded : loadConfig config ⟨[]⟩ = (.ok (), store))
    (writable : ∀ definition ∈ config.zones, definition.Writable)
    (found : store.zoneResult name recordType = .found records) :
    records ≠ [] ∧ ∀ record ∈ records, record.recordType = recordType ∧ record.Readable := by
  obtain ⟨zone, member, held⟩ := lookup_of_zoneResult found
  obtain ⟨definition, listed, made⟩ := exists_definition loaded member
  have built := Zone.fromConfig_loaded made
  obtain ⟨some, each⟩ := built.lookup_records_typed held
  refine ⟨some, fun record member => ?_⟩
  obtain ⟨typed, rfl | configured⟩ := each record member
  · exact ⟨typed, built.soa_readable (writable definition listed)⟩
  · exact ⟨typed, built.configured_readable (writable definition listed) configured⟩

end ZoneStore

/-- The definition is the one for a name: no other definition has its zone above the name, and as close. -/
structure ZoneConfig.Closest (config : ZoneConfig) (definition : ZoneDefinition) (apex name : DnsName) :
    Prop where
  listed : definition ∈ config.zones
  named : DnsName.new definition.name = .ok apex
  above : apex ∈ name.ancestors
  lowest : ∀ other ∈ config.zones, ∀ apex', DnsName.new other.name = .ok apex' → apex' ∈ name.ancestors →
    apex'.labelCount < apex.labelCount ∨ other = definition

namespace ZoneStore

variable {config : ZoneConfig} {store : ZoneStore} {definition : ZoneDefinition} {apex name : DnsName}
  {recordType : RecordType}

theorem findZone_of_closest (loaded : loadConfig config ⟨[]⟩ = (.ok (), store))
    (closest : config.Closest definition apex name) :
    ∃ zone, store.findZone name = some zone ∧ Zone.fromConfig definition = .ok zone ∧ zone.name = apex := by
  obtain ⟨own, member, made⟩ := exists_zone loaded closest.listed
  have ownName : own.name = apex :=
    Except.ok.inj ((Zone.fromConfig_loaded made).name.symm.trans closest.named)
  have inside : own ∈ store.zones.filter fun zone => zone.contains name := by
    refine List.mem_filter.mpr ⟨member, contains_iff.mpr ?_⟩
    rw [ownName]
    exact closest.above
  cases chosen : store.findZone name with
  | none =>
    rw [findZone, maxByKey_eq_none] at chosen
    rw [chosen] at inside
    cases inside
  | some zone =>
    obtain ⟨before, after, split, low, less⟩ := maxByKey_eq_some chosen
    have listed : zone ∈ store.zones.filter fun zone => zone.contains name := by
      rw [split]
      exact List.mem_append_right _ List.mem_cons_self
    obtain ⟨held, contains⟩ := List.mem_filter.mp listed
    have greatest : own.name.labelCount ≤ zone.name.labelCount := by
      rw [split] at inside
      rcases List.mem_append.mp inside with earlier | inside
      · exact low own earlier
      rcases List.mem_cons.mp inside with rfl | later
      · exact le_rfl
      · exact (less own later).le
    obtain ⟨other, entry, made'⟩ := exists_definition loaded held
    have named := (Zone.fromConfig_loaded made').name
    rcases closest.lowest other entry zone.name named (contains_iff.mp contains) with fewer | rfl
    · rw [ownName] at greatest
      omega
    · exact ⟨zone, rfl, made', Except.ok.inj (named.symm.trans closest.named)⟩

/-- What a definition has for a name and a type is what the store finds, where the definition is the one for
the name. -/
theorem zoneResult_of_closest (loaded : loadConfig config ⟨[]⟩ = (.ok (), store))
    (closest : config.Closest definition apex name) (notSoa : recordType ≠ .SOA)
    (notApexNs : ¬(recordType = .NS ∧ name = apex)) (some : definition.recordsOf apex name recordType ≠ []) :
    store.zoneResult name recordType = .found (definition.recordsOf apex name recordType) := by
  obtain ⟨zone, chosen, made, rfl⟩ := findZone_of_closest loaded closest
  have table := (Zone.fromConfig_loaded made).lookup_records name recordType
  have answered :
      zone.lookup name recordType = Option.some (definition.recordsOf zone.name name recordType) := by
    rw [Zone.lookup, if_neg (by tauto), if_neg (by tauto), table, Zone.unlessEmpty,
      if_neg (by simpa using some)]
  have held :
      store.lookup name recordType = Option.some (definition.recordsOf zone.name name recordType) := by
    rw [lookup, chosen]
    exact answered
  rw [zoneResult, held]

end ZoneStore

namespace Zone

def subzone : DnsName := ⟨["sub", "example", "local"]⟩

def apexServer : DnsRecord :=
  DnsRecord.new ⟨["example", "local"]⟩ .NS 300 (.NS ⟨["ns1", "example", "local"]⟩)

def delegation : DnsRecord := DnsRecord.new subzone .NS 300 (.NS ⟨["ns", "sub", "example", "local"]⟩)

/-- What is built from the definition of a zone that delegates. -/
def delegatedZone : Zone where
  name := ⟨["example", "local"]⟩
  soa := DnsRecord.new ⟨["example", "local"]⟩ .SOA 300
    (.SOA ⟨["ns1", "example", "local"]⟩ ⟨["admin", "example", "local"]⟩ 1 3600 600 86400 300)
  records := ((Tables.empty.push apexServer).push delegation).records
  nsRecords := [apexServer, delegation]

theorem fromConfig_delegatingZone : fromConfig delegatingZone = .ok delegatedZone := by
  rfl

theorem writable_delegatingZone : delegatingZone.Writable where
  name := Or.inr (Or.inr (by decide +kernel))
  mname := Or.inr (Or.inr (by decide +kernel))
  rname := Or.inr (Or.inr (by decide +kernel))
  records := by
    have value : ∀ value, DnsName.Unbroken value → ∀ rtype, RecordType.fromStrType "NS" = some rtype →
        ValueWhole value rtype := by
      intro value unbroken rtype typed
      have ns : RecordType.fromStrType "NS" = some .NS := by decide +kernel
      cases ns.symm.trans typed
      exact unbroken
    intro rec member
    rcases List.mem_cons.mp member with rfl | member
    · exact ⟨Or.inl rfl, value _ (Or.inr (Or.inr (by decide +kernel)))⟩
    · rw [List.mem_singleton.mp member]
      exact ⟨Or.inr (Or.inr (Or.inr (by decide +kernel))), value _ (Or.inr (Or.inr (by decide +kernel)))⟩

end Zone

namespace ZoneStore

def delegatingStore : ZoneStore := ⟨[Zone.delegatedZone]⟩

theorem loadConfig_delegatingZone :
    loadConfig ⟨[Zone.delegatingZone]⟩ ⟨[]⟩ = (.ok (), delegatingStore) := by
  rw [loadConfig, loadZones, Zone.fromConfig_delegatingZone]
  rfl

theorem found_delegation : delegatingStore.zoneResult Zone.subzone .NS = .found [Zone.delegation] := by
  have held : delegatingStore.lookup Zone.subzone .NS = some [Zone.delegation] := by decide +kernel
  rw [zoneResult, held]

theorem findZone_subzone : delegatingStore.findZone Zone.subzone = some Zone.delegatedZone := by
  have contained : Zone.delegatedZone.contains Zone.subzone = true := by decide +kernel
  rw [findZone, delegatingStore, List.filter_cons, if_pos contained]
  rfl

theorem noData_subzone : delegatingStore.zoneResult Zone.subzone .MX = .noData := by
  have missing : delegatingStore.lookup Zone.subzone .MX = none := by decide +kernel
  have noAlias : Zone.delegatedZone.lookup Zone.subzone .CNAME = none := by decide +kernel
  have known : Zone.delegatedZone.hasName Zone.subzone = true := by decide +kernel
  rw [zoneResult, missing, findZone_subzone]
  dsimp only
  rw [if_pos ⟨known, RecordType.noConfusion⟩, noAlias]

end ZoneStore

end DnsServer
