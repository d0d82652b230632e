import DnsServer.Dns.Presentation
import DnsServer.Zone

/-! Building a zone from its configuration. -/

namespace DnsServer

structure SoaConfig where
  mname : String
  rname : String
  serial : UInt32
  refresh : UInt32
  retry : UInt32
  expire : UInt32
  minimum : UInt32

structure RecordConfig where
  name : String
  recordType : String
  ttl : Option UInt32
  value : String
  priority : Option UInt16
  weight : Option UInt16
  port : Option UInt16

structure ZoneDefinition where
  name : String
  soa : SoaConfig
  records : List RecordConfig

/-- `DnsName::new`, its error worded as a parse error. -/
def nameFrom (preamble name : String) : Except DnsError DnsName :=
  (DnsName.new name).mapError fun e => .parseError (preamble ++ e.text)

def RecordConfig.rdata (rec : RecordConfig) (rtype : RecordType) : Except DnsError RData :=
  match rtype with
  | .A =>
    match Ipv4Addr.fromStr rec.value with
    | some addr => .ok (.A addr)
    | none => .error (.parseError ("Invalid IPv4: " ++ rec.value))
  | .AAAA =>
    match Ipv6Addr.fromStr rec.value with
    | some addr => .ok (.AAAA addr)
    | none => .error (.parseError ("Invalid IPv6: " ++ rec.value))
  | .CNAME => (nameFrom "" rec.value).map .CNAME
  | .NS => (nameFrom "" rec.value).map .NS
  | .MX => (nameFrom "" rec.value).map (.MX (rec.priority.getD 10))
  | .TXT => .ok (.TXT [rec.value])
  | .SRV => (nameFrom "" rec.value).map
      (.SRV (rec.priority.getD 0) (rec.weight.getD 0) (rec.port.getD 0))
  | .PTR => (nameFrom "" rec.value).map .PTR
  | _ => .error (.parseError ("Unsupported zone record type: " ++ rec.recordType))

namespace ZoneDefinition

/-- The owner of a record: relative to the zone, and `@` for the zone itself. -/
def recordName (definition : ZoneDefinition) (zoneName : DnsName) (rec : RecordConfig) :
    Except DnsError DnsName :=
  if rec.name = "@" then .ok zoneName else nameFrom "" (rec.name ++ "." ++ definition.name)

/-- The record that an entry of the definition stands for. -/
def record (definition : ZoneDefinition) (zoneName : DnsName) (rec : RecordConfig) :
    Except DnsError DnsRecord := do
  let recordName ← definition.recordName zoneName rec
  let ttl := rec.ttl.getD definition.soa.minimum
  match RecordType.fromStrType rec.recordType with
  | none => .error (.parseError ("Unknown record type: " ++ rec.recordType))
  | some rtype => do
    let rdata ← rec.rdata rtype
    return DnsRecord.new recordName rtype ttl rdata

end ZoneDefinition

namespace Zone

/-- The variables of the loop over the records. -/
structure Tables where
  records : AList fun _ : DnsName × RecordType => List DnsRecord
  nsRecords : List DnsRecord

namespace Tables

def empty : Tables := ⟨∅, []⟩

def push (tables : Tables) (record : DnsRecord) : Tables where
  records := tables.records.insert (record.name, record.recordType)
    ((tables.records.lookup (record.name, record.recordType)).getD [] ++ [record])
  nsRecords :=
    if record.recordType = .NS then tables.nsRecords ++ [record] else tables.nsRecords

end Tables

/-- The body of the loop over the records. -/
def addRecord (definition : ZoneDefinition) (zoneName : DnsName) (tables : Tables)
    (rec : RecordConfig) : Except DnsError Tables := do
  let record ← definition.record zoneName rec
  return tables.push record

def fromConfig (definition : ZoneDefinition) : Except DnsError Zone := do
  let zoneName ← nameFrom "Invalid zone name: " definition.name
  let mname ← nameFrom "" definition.soa.mname
  let rname ← nameFrom "" definition.soa.rname
  let soa := DnsRecord.new zoneName .SOA definition.soa.minimum
    (.SOA mname rname definition.soa.serial definition.soa.refresh definition.soa.retry
      definition.soa.expire definition.soa.minimum)
  let tables ← definition.records.foldlM (addRecord definition zoneName) .empty
  return ⟨zoneName, soa, tables.records, tables.nsRecords⟩

end Zone

theorem except_bind_ok {ε α β : Type} {x : Except ε α} {f : α → Except ε β} {b : β} :
    x >>= f = .ok b ↔ ∃ a, x = .ok a ∧ f a = .ok b := by
  cases x with
  | error e => exact iff_of_false (fun same => by cases same) (by rintro ⟨_, ⟨⟩, _⟩)
  | ok a => exact ⟨fun same => ⟨a, rfl, same⟩, by rintro ⟨_, ⟨⟩, same⟩; exact same⟩

theorem nameFrom_ok {preamble s : String} {name : DnsName} :
    nameFrom preamble s = .ok name ↔ DnsName.new s = .ok name := by
  unfold nameFrom
  cases DnsName.new s with
  | error e => exact iff_of_false (fun same => by cases same) (fun same => by cases same)
  | ok made => rfl

namespace ZoneDefinition

/-- The records that the entries of the definition stand for, in their order. -/
def configured (definition : ZoneDefinition) (zoneName : DnsName) : List DnsRecord :=
  definition.records.filterMap fun rec => (definition.record zoneName rec).toOption

variable {definition : ZoneDefinition} {zoneName : DnsName}

theorem record_ok {rec : RecordConfig} {record : DnsRecord} :
    definition.record zoneName rec = .ok record ↔ ∃ name rtype rdata,
      definition.recordName zoneName rec = .ok name ∧ RecordType.fromStrType rec.recordType = some rtype ∧
        rec.rdata rtype = .ok rdata ∧
        record = DnsRecord.new name rtype (rec.ttl.getD definition.soa.minimum) rdata := by
  unfold ZoneDefinition.record
  rw [except_bind_ok]
  constructor
  · rintro ⟨name, named, made⟩
    split at made
    · cases made
    rename_i rtype typed
    obtain ⟨rdata, held, same⟩ := except_bind_ok.mp made
    cases same
    exact ⟨name, rtype, rdata, named, typed, held, rfl⟩
  · rintro ⟨name, rtype, rdata, named, typed, held, rfl⟩
    refine ⟨name, named, ?_⟩
    rw [typed]
    exact except_bind_ok.mpr ⟨rdata, held, rfl⟩

theorem mem_configured {record : DnsRecord} : record ∈ definition.configured zoneName ↔
    ∃ rec ∈ definition.records, definition.record zoneName rec = .ok record := by
  have gives : ∀ x : Except DnsError DnsRecord, x.toOption = some record ↔ x = .ok record := by
    rintro (_ | _) <;> simp [Except.toOption]
  simp only [configured, List.mem_filterMap, gives]

end ZoneDefinition

namespace Zone

/-- What a zone that has been built from a definition is made of. -/
structure Loaded (definition : ZoneDefinition) (zone : Zone) : Prop where
  name : DnsName.new definition.name = .ok zone.name
  soa : ∃ mname rname, DnsName.new definition.soa.mname = .ok mname ∧
    DnsName.new definition.soa.rname = .ok rname ∧
    zone.soa = DnsRecord.new zone.name .SOA definition.soa.minimum (.SOA mname rname
      definition.soa.serial definition.soa.refresh definition.soa.retry definition.soa.expire
      definition.soa.minimum)
  each : ∀ rec ∈ definition.records, ∃ record, definition.record zone.name rec = .ok record
  tables : ⟨zone.records, zone.nsRecords⟩ = (definition.configured zone.name).foldl Tables.push .empty

theorem foldlM_addRecord_ok {definition : ZoneDefinition} {zoneName : DnsName} {recs : List RecordConfig}
    {before after : Tables}
    (added : recs.foldlM (addRecord definition zoneName) before = .ok after) :
    (∀ rec ∈ recs, ∃ record, definition.record zoneName rec = .ok record) ∧
      after = (recs.filterMap fun rec => (definition.record zoneName rec).toOption).foldl
        Tables.push before := by
  induction recs generalizing before with
  | nil =>
    cases added
    exact ⟨fun rec member => absurd member List.not_mem_nil, rfl⟩
  | cons rec recs ih =>
    rw [List.foldlM_cons] at added
    obtain ⟨middle, step, rest⟩ := except_bind_ok.mp added
    obtain ⟨record, made, pushed⟩ := except_bind_ok.mp step
    cases pushed
    obtain ⟨each, tables⟩ := ih rest
    refine ⟨List.forall_mem_cons.mpr ⟨⟨record, made⟩, each⟩, ?_⟩
    have taken : (rec :: recs).filterMap (fun rec => (definition.record zoneName rec).toOption) =
        record :: recs.filterMap fun rec => (definition.record zoneName rec).toOption :=
      List.filterMap_cons_some (by rw [made]; rfl)
    rw [taken]
    exact tables

theorem fromConfig_loaded {definition : ZoneDefinition} {zone : Zone}
    (loaded : fromConfig definition = .ok zone) : Loaded definition zone := by
  obtain ⟨zoneName, named, loaded⟩ := except_bind_ok.mp loaded
  obtain ⟨mname, primary, loaded⟩ := except_bind_ok.mp loaded
  obtain ⟨rname, mailbox, loaded⟩ := except_bind_ok.mp loaded
  obtain ⟨tables, added, loaded⟩ := except_bind_ok.mp loaded
  cases loaded
  obtain ⟨each, built⟩ := foldlM_addRecord_ok added
  exact ⟨nameFrom_ok.mp named, ⟨mname, rname, nameFrom_ok.mp primary, nameFrom_ok.mp mailbox, rfl⟩,
    each, built⟩

end Zone

end DnsServer
