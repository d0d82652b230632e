import DnsServer.Zone.Enclosing
import DnsServer.Zone.Wire

/-! The owners of a zone's records lie in the zone. -/

namespace DnsServer

namespace DnsName

/-- In a text that ends with another, the parts behind the dot are the parts of that one. -/
theorem pieces_append {relative zone : String} (some : zone ≠ "") :
    pieces (relative ++ "." ++ zone) = relative.toList.splitOn '.' ++ pieces zone := by
  have dot : ".".toList = ['.'] := rfl
  have ends : zone.toList ≠ [] := by simpa using some
  have text : (relative ++ "." ++ zone).toList = relative.toList ++ '.' :: zone.toList := by
    rw [String.toList_append, String.toList_append, dot, List.append_assoc, List.singleton_append]
  have last : (relative.toList ++ '.' :: zone.toList).getLast? = zone.toList.getLast? := by
    rw [List.getLast?_append_cons, List.getLast?_cons, List.getLast?_eq_getLast_of_ne_nil ends]
    rfl
  unfold pieces
  rw [text, stripDot, stripDot, last]
  split
  · rw [List.dropLast_append_cons, List.dropLast_cons_of_ne_nil ends, List.splitOn_append_cons_self]
  · rw [List.splitOn_append_cons_self]

/-- A name that is spelled relative to another one lies below it, however the two are written. -/
theorem isSubdomainOf_of_new {relative zone : String} {owner apex : DnsName}
    (named : DnsName.new zone = .ok apex) (made : DnsName.new (relative ++ "." ++ zone) = .ok owner) :
    owner.isSubdomainOf apex = true := by
  rw [isSubdomainOf_iff]
  rcases new_cases_ok named with ⟨_, rfl⟩ | ⟨some, _, rfl⟩
  · exact List.nil_suffix
  · obtain ⟨nonempty, _⟩ := not_or.mp some
    rcases new_cases_ok made with ⟨short, _⟩ | ⟨_, _, rfl⟩
    · -- a dot and something behind it are at least two characters
      have positive := List.length_pos_of_ne_nil (l := zone.toList) (by simpa using nonempty)
      have size : (relative ++ "." ++ zone).toList.length ≤ 1 := by
        rcases short with empty | dot
        · rw [empty]
          decide
        · rw [dot]
          decide
      simp only [String.toList_append, List.length_append] at size
      have one : ".".toList.length = 1 := rfl
      omega
    · rw [pieces_append nonempty, List.map_append]
      exact List.suffix_append _ _

end DnsName

namespace Zone

variable {definition : ZoneDefinition} {zone : Zone}

theorem Loaded.owner_inside (built : Loaded definition zone) {rec : RecordConfig} {record : DnsRecord}
    (made : definition.record zone.name rec = .ok record) : record.name.isSubdomainOf zone.name = true := by
  obtain ⟨name, _, _, named, _, _, rfl⟩ := ZoneDefinition.record_ok.mp made
  change name.isSubdomainOf zone.name = true
  unfold ZoneDefinition.recordName at named
  split at named
  · cases named
    exact DnsName.isSubdomainOf_iff.mpr List.suffix_rfl
  · exact DnsName.isSubdomainOf_of_new built.name (nameFrom_ok.mp named)

/-- The keys of the table are the owners and types of the configured records. -/
theorem Loaded.mem_keys_iff (built : Loaded definition zone) {key : DnsName × RecordType} :
    key ∈ zone.records.keys ↔
      ∃ record ∈ definition.configured zone.name, (record.name, record.recordType) = key := by
  rw [← AList.mem_keys, ← AList.lookup_isSome, built.lookup_records]
  unfold unlessEmpty ZoneDefinition.recordsOf
  split
  · rename_i none
    refine iff_of_false (by decide) ?_
    rintro ⟨record, member, rfl⟩
    rw [List.isEmpty_iff, List.filter_eq_nil_iff] at none
    exact none record member (by simp)
  · rename_i some
    refine iff_of_true rfl ?_
    rw [List.isEmpty_iff] at some
    obtain ⟨record, held⟩ := List.exists_mem_of_ne_nil _ some
    obtain ⟨member, same⟩ := List.mem_filter.mp held
    obtain ⟨name, type⟩ := of_decide_eq_true same
    exact ⟨record, member, by rw [name, type]⟩

theorem findZone_alone {name : DnsName} (inside : name.isSubdomainOf zone.name = true) :
    (⟨[zone]⟩ : ZoneStore).findZone name = some zone := by
  have contained : zone.contains name = true := by
    rw [contains, inside, Bool.true_or]
  simp [ZoneStore.findZone, contained, maxByKey]

/-- Every owner in a zone that was built from a definition lies in the zone, so that a store with this
zone alone finds it for each of them. -/
theorem fromConfig_owners (definition : ZoneDefinition) (zone : Zone) (loaded : fromConfig definition = .ok zone) :
    (∀ key ∈ zone.records.keys, key.1.isSubdomainOf zone.name = true ∧
        (⟨[zone]⟩ : ZoneStore).findZone key.1 = some zone) ∧
      (∀ record ∈ zone.nsRecords, record.name.isSubdomainOf zone.name = true ∧
        (⟨[zone]⟩ : ZoneStore).findZone record.name = some zone) ∧
      ∀ rec ∈ definition.records, ∃ record, definition.record zone.name rec = .ok record ∧
        (record.name, record.recordType) ∈ zone.records.keys := by
  have built := fromConfig_loaded loaded
  have inside : ∀ record ∈ definition.configured zone.name, record.name.isSubdomainOf zone.name = true ∧
      (⟨[zone]⟩ : ZoneStore).findZone record.name = some zone := by
    intro record member
    obtain ⟨rec, _, made⟩ := ZoneDefinition.mem_configured.mp member
    have owner := built.owner_inside made
    exact ⟨owner, findZone_alone owner⟩
  refine ⟨?_, ?_, ?_⟩
  · intro key member
    obtain ⟨record, held, rfl⟩ := built.mem_keys_iff.mp member
    exact inside record held
  · intro record member
    rw [built.nsRecords] at member
    exact inside record (List.mem_of_mem_filter member)
  · intro rec member
    obtain ⟨record, made⟩ := built.each rec member
    have held := ZoneDefinition.mem_configured.mpr ⟨rec, member, made⟩
    exact ⟨record, made, built.mem_keys_iff.mpr ⟨record, held, rfl⟩⟩

theorem fromConfig_owners_delegatingZone : ∃ zone, fromConfig delegatingZone = .ok zone ∧
    (∀ key ∈ zone.records.keys, key.1.isSubdomainOf zone.name = true ∧
        (⟨[zone]⟩ : ZoneStore).findZone key.1 = some zone) ∧
      (∀ record ∈ zone.nsRecords, record.name.isSubdomainOf zone.name = true ∧
        (⟨[zone]⟩ : ZoneStore).findZone record.name = some zone) ∧
      ∀ rec ∈ delegatingZone.records, ∃ record, delegatingZone.record zone.name rec = .ok record ∧
        (record.name, record.recordType) ∈ zone.records.keys := by
  have ok : (fromConfig delegatingZone).isOk = true := by decide +kernel
  obtain ⟨zone, loaded⟩ := isOk_iff.mp ok
  exact ⟨zone, loaded, fromConfig_owners _ zone loaded⟩

end Zone

end DnsServer
