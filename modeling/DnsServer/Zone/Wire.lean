import DnsServer.Dns.NameForm
import DnsServer.Dns.Rereading
import DnsServer.Lib.SmallLetters
import DnsServer.Zone.Lookup

/-! Which configured records can be put on the wire. -/

namespace DnsServer

open Bytes Utf8 Lowercase

namespace DnsName

/-- The text has no empty part between its dots, other than a dot at the end. -/
def Unbroken (s : String) : Prop := s = "" ∨ s = "." ∨ [] ∉ pieces s

variable {s : String} {name : DnsName}

theorem new_cases_ok (made : DnsName.new s = .ok name) :
    ((s = "" ∨ s = ".") ∧ name = root) ∨
      (¬(s = "" ∨ s = ".") ∧ ¬TooLong ((pieces s).map lowerPiece) ∧ name = ⟨(pieces s).map lowerPiece⟩) := by
  by_cases none : s = "" ∨ s = "."
  · rw [DnsName.new, if_pos none] at made
    cases made
    exact Or.inl ⟨none, rfl⟩
  · obtain ⟨some, noDot⟩ := not_or.mp none
    rcases new_cases some noDot with ⟨_, error, refused⟩ | ⟨fits, labels⟩
    · rw [refused] at made
      cases made
    · rw [labels] at made
      cases made
      exact Or.inr ⟨none, fits, rfl⟩

/-- What is made from a text is lower-cased, whether it has empty labels or not. -/
theorem lowered_of_new (made : DnsName.new s = .ok name) : name.Lowered := by
  intro label member
  rcases new_cases_ok made with ⟨_, rfl⟩ | ⟨_, fits, rfl⟩
  · cases member
  · obtain ⟨piece, _, rfl⟩ := List.mem_map.mp member
    refine ⟨?_, toLowercase_toLowercase _⟩
    by_contra long
    exact fits (Or.inl ⟨_, member, by omega⟩)

theorem toWire_le_of_new (made : DnsName.new s = .ok name) : name.toWire.length ≤ 255 := by
  rcases new_cases_ok made with ⟨_, rfl⟩ | ⟨_, fits, rfl⟩
  · decide
  · rw [toWire_length]
    exact Nat.le_of_not_lt fun long => fits (Or.inr long)

theorem readable_of_new (made : DnsName.new s = .ok name) : name.Readable ↔ Unbroken s := by
  rw [(lowered_of_new made).readable_iff]
  rcases new_cases_ok made with ⟨none, rfl⟩ | ⟨some, _, rfl⟩
  · refine iff_of_true (fun label member => absurd member List.not_mem_nil) ?_
    rcases none with empty | dot
    · exact Or.inl empty
    · exact Or.inr (Or.inl dot)
  · have whole : Unbroken s ↔ [] ∉ pieces s := by
      unfold Unbroken
      tauto
    simp only [List.forall_mem_map, lowerPiece, one_le_byteLen_toLowercase, String.toList_ofList, whole]
    constructor
    · exact fun all member => all [] member rfl
    · exact fun absent piece member none => absent (none ▸ member)

end DnsName

open DnsName

/-- The values that a record of the type can carry over the wire. -/
def ValueWhole (value : String) : RecordType → Prop
  | .A | .AAAA => True
  | .TXT => byteLen value ≤ RData.MAX_TEXT ∧ RData.CutsWhole value
  | _ => Unbroken value

/-- The entry has an owner without empty labels, and a value that its type can carry. -/
structure RecordConfig.Writable (definition : ZoneDefinition) (rec : RecordConfig) : Prop where
  owner : rec.name = "@" ∨ Unbroken (rec.name ++ "." ++ definition.name)
  value : ∀ rtype, RecordType.fromStrType rec.recordType = some rtype → ValueWhole rec.value rtype

structure ZoneDefinition.Writable (definition : ZoneDefinition) : Prop where
  name : Unbroken definition.name
  mname : Unbroken definition.soa.mname
  rname : Unbroken definition.soa.rname
  records : ∀ rec ∈ definition.records, rec.Writable definition

theorem nameFrom_map_ok {value : String} {wrap : DnsName → RData} {rdata : RData}
    (made : (nameFrom "" value).map wrap = .ok rdata) :
    ∃ name, DnsName.new value = .ok name ∧ rdata = wrap name := by
  rcases named : nameFrom "" value with error | name
  · rw [named] at made
    cases made
  · rw [named] at made
    cases made
    exact ⟨name, nameFrom_ok.mp named, rfl⟩

/-- What the entry of a type is turned into: RDATA of the type, which is readable as RDATA and cut
whole exactly when the value allows it. -/
structure Carries (rec : RecordConfig) (rtype : RecordType) (rdata : RData) : Prop where
  canonical : rtype.Canonical
  selected : RData.Selected rtype rdata
  zonal : rdata.Zonal
  lowered : ∀ name ∈ rdata.names, name.Lowered
  whole : ((∀ name ∈ rdata.names, name.Readable) ∧ rdata.serialize.length ≤ 65535 ∧ rdata.TextsWhole) ↔
    ValueWhole rec.value rtype

/-- The types whose value is a name. -/
theorem carries_name {rec : RecordConfig} {rtype : RecordType} {wrap : DnsName → RData} {rdata : RData}
    (made : (nameFrom "" rec.value).map wrap = .ok rdata) (canonical : rtype.Canonical)
    (selected : ∀ name, RData.Selected rtype (wrap name)) (zonal : ∀ name, (wrap name).Zonal)
    (names : ∀ name, (wrap name).names = [name])
    (short : ∀ name, (wrap name).serialize.length ≤ 6 + name.toWire.length)
    (noTexts : ∀ name, (wrap name).TextsWhole) (value : ValueWhole rec.value rtype = Unbroken rec.value) :
    Carries rec rtype rdata := by
  obtain ⟨name, named, rfl⟩ := nameFrom_map_ok made
  have fits := (short name).trans (Nat.add_le_add_left (toWire_le_of_new named) 6)
  refine ⟨canonical, selected name, zonal name, ?_, ?_⟩
  · rw [names]
    exact List.forall_mem_singleton.mpr (lowered_of_new named)
  · rw [names, List.forall_mem_singleton, readable_of_new named, value]
    exact ⟨fun all => all.1, fun whole => ⟨whole, fits.trans (by decide), noTexts name⟩⟩

theorem rdata_carries {rec : RecordConfig} {rtype : RecordType} {rdata : RData}
    (made : rec.rdata rtype = .ok rdata) : Carries rec rtype rdata := by
  have noName : ∀ name ∈ ([] : List DnsName), name.Lowered := fun name member => absurd member List.not_mem_nil
  have noName' : ∀ name ∈ ([] : List DnsName), name.Readable := fun name member => absurd member List.not_mem_nil
  unfold RecordConfig.rdata at made
  cases rtype with
  | A =>
    dsimp only at made
    split at made
    · cases made
      exact ⟨by decide, rfl, trivial, noName, iff_of_true ⟨noName', Nat.le_add_left 4 65531, trivial⟩ trivial⟩
    · cases made
  | AAAA =>
    dsimp only at made
    split at made
    · cases made
      rename_i addr _
      have short : (RData.AAAA addr).serialize.length ≤ 65535 := by
        rw [RData.serialize, addr.octets_length]
        decide
      exact ⟨by decide, rfl, trivial, noName, iff_of_true ⟨noName', short, trivial⟩ trivial⟩
    · cases made
  | TXT =>
    cases made
    refine ⟨by decide, rfl, trivial, noName, ?_⟩
    have texts : (RData.TXT [rec.value]).TextsWhole ↔ RData.CutsWhole rec.value := List.forall_mem_singleton
    rw [RData.serialize_text_length_le_iff, texts]
    exact ⟨fun all => all.2, fun whole => ⟨noName', whole⟩⟩
  | CNAME =>
    exact carries_name made (by decide) (fun _ => rfl) (fun _ => trivial) (fun _ => rfl)
      (fun _ => Nat.le_add_left _ _) (fun _ => trivial) rfl
  | NS =>
    exact carries_name made (by decide) (fun _ => rfl) (fun _ => trivial) (fun _ => rfl)
      (fun _ => Nat.le_add_left _ _) (fun _ => trivial) rfl
  | PTR =>
    exact carries_name made (by decide) (fun _ => rfl) (fun _ => trivial) (fun _ => rfl)
      (fun _ => Nat.le_add_left _ _) (fun _ => trivial) rfl
  | MX =>
    refine carries_name made (by decide) (fun _ => rfl) (fun _ => trivial) (fun _ => rfl)
      (fun name => ?_) (fun _ => trivial) rfl
    simp only [RData.serialize, List.length_append, toBe16_length]
    omega
  | SRV =>
    refine carries_name made (by decide) (fun _ => rfl) (fun _ => trivial) (fun _ => rfl)
      (fun name => ?_) (fun _ => trivial) rfl
    simp only [RData.serialize, List.length_append, toBe16_length]
    omega
  | _ => cases made

namespace ZoneDefinition

variable {definition : ZoneDefinition} {zoneName : DnsName} {rec : RecordConfig}

theorem recordName_lowered {name : DnsName} (apex : DnsName.new definition.name = .ok zoneName)
    (named : definition.recordName zoneName rec = .ok name) : name.Lowered := by
  unfold recordName at named
  split at named
  · cases named
    exact lowered_of_new apex
  · exact lowered_of_new (nameFrom_ok.mp named)

/-- In a zone whose own name is unbroken, the owner of an entry is readable when its text is not broken. -/
theorem recordName_readable {name : DnsName} (apex : DnsName.new definition.name = .ok zoneName)
    (unbroken : Unbroken definition.name) (named : definition.recordName zoneName rec = .ok name) :
    name.Readable ↔ rec.name = "@" ∨ Unbroken (rec.name ++ "." ++ definition.name) := by
  unfold recordName at named
  split at named
  · rename_i own
    cases named
    exact iff_of_true ((readable_of_new apex).mpr unbroken) (Or.inl own)
  · rename_i relative
    refine (readable_of_new (nameFrom_ok.mp named)).trans ?_
    exact ⟨Or.inr, fun either => either.resolve_left relative⟩

theorem record_zonal {record : DnsRecord} (apex : DnsName.new definition.name = .ok zoneName)
    (made : definition.record zoneName rec = .ok record) : record.Zonal := by
  obtain ⟨name, rtype, rdata, named, _, held, rfl⟩ := record_ok.mp made
  have carries := rdata_carries held
  have internet : (RecordClass.IN).Canonical := fun _ unknown => by cases unknown
  exact ⟨recordName_lowered apex named, carries.canonical, internet, carries.selected, carries.zonal,
    carries.lowered⟩

/-- In a zone whose own name is unbroken, a record is faithful exactly when its entry is writable. -/
theorem record_faithful_iff {record : DnsRecord} (apex : DnsName.new definition.name = .ok zoneName)
    (unbroken : Unbroken definition.name) (made : definition.record zoneName rec = .ok record) :
    record.Faithful ↔ rec.Writable definition := by
  have zonal := record_zonal apex made
  rw [zonal.faithful_iff]
  obtain ⟨name, rtype, rdata, named, typed, held, rfl⟩ := record_ok.mp made
  have carries := rdata_carries held
  have owner := recordName_readable apex unbroken named
  constructor
  · rintro ⟨readable, whole⟩
    refine ⟨owner.mp readable.name, fun rtype' typed' => ?_⟩
    cases typed.symm.trans typed'
    exact carries.whole.mp ⟨readable.rdata.names, readable.short, whole⟩
  · intro writable
    obtain ⟨names, short, whole⟩ := carries.whole.mpr (writable.value rtype typed)
    exact ⟨⟨owner.mpr writable.owner, zonal.recordType, zonal.recordClass, zonal.selected,
      ⟨names, zonal.rdata.filled⟩, short⟩, whole⟩

end ZoneDefinition

namespace Zone

/-- The SOA record, the list of the NS records, and the records of the table. -/
def allRecords (zone : Zone) : List DnsRecord :=
  zone.soa :: (zone.nsRecords ++ zone.records.entries.flatMap fun entry => entry.2)

variable {definition : ZoneDefinition} {zone : Zone}

theorem Loaded.mem_allRecords (built : Loaded definition zone) {record : DnsRecord} :
    record ∈ zone.allRecords ↔ record = zone.soa ∨ record ∈ definition.configured zone.name := by
  have table : record ∈ zone.records.entries.flatMap (fun entry => entry.2) ↔
      record ∈ definition.configured zone.name := by
    rw [List.mem_flatMap]
    constructor
    · rintro ⟨⟨key, records⟩, entry, member⟩
      have found := AList.mem_lookup_iff.mpr entry
      rw [Option.mem_def, built.lookup_records, unlessEmpty] at found
      split at found
      · cases found
      · cases found
        exact (List.mem_filter.mp member).1
    · intro member
      have own : record ∈ definition.recordsOf zone.name record.name record.recordType :=
        List.mem_filter.mpr ⟨member, by simp⟩
      have found := built.lookup_records record.name record.recordType
      rw [unlessEmpty, if_neg (by simpa using List.ne_nil_of_mem own)] at found
      exact ⟨_, AList.mem_lookup_iff.mp found, own⟩
  have ns : record ∈ zone.nsRecords → record ∈ definition.configured zone.name := by
    rw [built.nsRecords]
    exact fun member => (List.mem_filter.mp member).1
  rw [allRecords, List.mem_cons, List.mem_append, table]
  tauto

theorem Loaded.soa_faithful_iff (built : Loaded definition zone) : zone.soa.Faithful ↔
    Unbroken definition.name ∧ Unbroken definition.soa.mname ∧ Unbroken definition.soa.rname := by
  obtain ⟨mname, rname, primary, mailbox, soa⟩ := built.soa
  have short := Nat.add_le_add (toWire_le_of_new primary) (toWire_le_of_new mailbox)
  have names : ∀ {P : DnsName → Prop}, (∀ name ∈ zone.soa.rdata.names, P name) ↔ P mname ∧ P rname := by
    intro P
    rw [soa]
    exact List.forall_mem_cons.trans (and_congr_right fun _ => List.forall_mem_singleton)
  have zonal : zone.soa.Zonal := by
    refine ⟨?_, ?_, ?_, ?_, ?_, names.mpr ⟨lowered_of_new primary, lowered_of_new mailbox⟩⟩ <;> rw [soa]
    · exact lowered_of_new built.name
    · exact fun _ unknown => by cases unknown
    · exact fun _ unknown => by cases unknown
    · rfl
    · trivial
  have fits : zone.soa.rdata.serialize.length ≤ 65535 := by
    rw [soa]
    simp only [DnsRecord.new, RData.serialize, List.length_append, toBe32_length]
    omega
  have texts : zone.soa.rdata.TextsWhole := by
    rw [soa]
    trivial
  have owner : zone.soa.name = zone.name := by
    rw [soa]
    rfl
  rw [zonal.faithful_iff, ← readable_of_new built.name, ← readable_of_new primary,
    ← readable_of_new mailbox]
  constructor
  · rintro ⟨readable, -⟩
    exact ⟨owner ▸ readable.name, names.mp readable.rdata.names⟩
  · rintro ⟨apex, both⟩
    exact ⟨⟨owner ▸ apex, zonal.recordType, zonal.recordClass, zonal.selected,
      ⟨names.mpr both, zonal.rdata.filled⟩, fits⟩, texts⟩

/-- All records of a zone can be put on the wire exactly when its definition has no empty label, no
text beyond the length field, and no character across the end of a chunk. -/
theorem fromConfig_faithful_iff (definition : ZoneDefinition) (zone : Zone)
    (loaded : fromConfig definition = .ok zone) :
    (∀ record ∈ zone.allRecords, record.Faithful) ↔ definition.Writable := by
  have built := fromConfig_loaded loaded
  simp only [built.mem_allRecords, forall_eq_or_imp, built.soa_faithful_iff]
  constructor
  · rintro ⟨⟨name, mname, rname⟩, faithful⟩
    refine ⟨name, mname, rname, fun rec member => ?_⟩
    obtain ⟨record, made⟩ := built.each rec member
    have held := faithful record (ZoneDefinition.mem_configured.mpr ⟨rec, member, made⟩)
    exact (ZoneDefinition.record_faithful_iff built.name name made).mp held
  · rintro ⟨name, mname, rname, writable⟩
    refine ⟨⟨name, mname, rname⟩, fun record member => ?_⟩
    obtain ⟨rec, entry, made⟩ := ZoneDefinition.mem_configured.mp member
    exact (ZoneDefinition.record_faithful_iff built.name name made).mpr (writable rec entry)

theorem fromConfig_faithful_iff_delegatingZone :
    ∃ zone, fromConfig delegatingZone = .ok zone ∧
      ((∀ record ∈ zone.allRecords, record.Faithful) ↔ delegatingZone.Writable) := by
  have ok : (fromConfig delegatingZone).isOk = true := by decide +kernel
  obtain ⟨zone, loaded⟩ := isOk_iff.mp ok
  exact ⟨zone, loaded, fromConfig_faithful_iff delegatingZone zone loaded⟩

/-- A zone with an owner that ends in a dot, so that the zone's name follows an empty label. -/
def dottedZone : ZoneDefinition := nsZone [("a.", "ns1.example.local")]

def dottedRecord : DnsRecord :=
  DnsRecord.new ⟨["a", "", "example", "local"]⟩ .NS 300 (.NS ⟨["ns1", "example", "local"]⟩)

theorem fromConfig_dottedZone_unfaithful :
    ∃ zone, fromConfig dottedZone = .ok zone ∧ ∃ record ∈ zone.allRecords, ¬record.Faithful := by
  have ok : (fromConfig dottedZone).isOk = true := by decide +kernel
  obtain ⟨zone, loaded⟩ := isOk_iff.mp ok
  have built := fromConfig_loaded loaded
  have apex : DnsName.new dottedZone.name = .ok ⟨["example", "local"]⟩ := by decide +kernel
  have name : zone.name = ⟨["example", "local"]⟩ := Except.ok.inj (built.name.symm.trans apex)
  have configured : dottedRecord ∈ dottedZone.configured ⟨["example", "local"]⟩ := by decide +kernel
  refine ⟨zone, loaded, dottedRecord, built.mem_allRecords.mpr (Or.inr (name ▸ configured)), ?_⟩
  -- the reader takes the empty label for the end of the name
  have read : (DnsName.parse dottedRecord.serialize 0).1 = .ok ⟨["a"]⟩ := by decide +kernel
  rintro ⟨again, run, owner, _⟩
  obtain ⟨_, first⟩ := DnsRecord.parse_owner run
  rw [first, owner] at read
  exact absurd (Outcome.ok.inj read) (by decide)

end Zone

end DnsServer
