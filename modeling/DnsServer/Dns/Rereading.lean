import DnsServer.Dns.ParseSafety
import DnsServer.Dns.TextWire

/-! Which records a reader gives back as they were written, among those whose names are lower-cased
but may have empty labels. -/

namespace DnsServer

open Bytes Utf8 Lowercase

namespace DnsName

/-- Every label is its own lower case, and its length byte is no pointer. -/
def Lowered (name : DnsName) : Prop :=
  ∀ label ∈ name.labels, byteLen label ≤ 191 ∧ toLowercase label = label

variable {name : DnsName} {data : List UInt8} {o : Nat}

theorem Lowered.readable_iff (lowered : name.Lowered) :
    name.Readable ↔ ∀ label ∈ name.labels, 1 ≤ byteLen label := by
  constructor
  · exact fun readable label member => (readable label member).nonempty
  · exact fun nonempty label member =>
      ⟨nonempty label member, (lowered label member).1, (lowered label member).2⟩

/-- An empty label ends the name for its reader. -/
theorem parse_beforeEmpty {before after : List String} {label : String}
    (readable : ∀ l ∈ before, ReadableLabel l) (empty : byteLen label = 0)
    (held : Holds data o (⟨before ++ label :: after⟩ : DnsName).toWire) :
    parse data o = (.ok ⟨before⟩, o + (⟨before⟩ : DnsName).toWire.length) := by
  have nothing : asBytes label = [] := List.eq_nil_of_length_eq_zero empty
  have zero : labelWire label = [0] := by
    rw [labelWire, nothing, empty]
    rfl
  have wire : (⟨before ++ label :: after⟩ : DnsName).toWire =
      (⟨before⟩ : DnsName).toWire ++ (after.flatMap labelWire ++ [0]) := by
    simp only [toWire, List.flatMap_append, List.flatMap_cons, zero, List.append_assoc]
  rw [wire] at held
  exact parse_toWire readable (Holds.append_iff.mp held).1

/-- A reader finds the name that was written exactly when the name has no empty label. -/
theorem Lowered.parse_whole_iff (lowered : name.Lowered) (held : Holds data o name.toWire)
    {got : DnsName} {s : Nat} (run : parse data o = (.ok got, s)) : got = name ↔ name.Readable := by
  constructor
  · intro same
    rw [lowered.readable_iff]
    by_contra broken
    have found : (name.labels.find? fun label => byteLen label = 0).isSome := by
      simp only [not_forall, not_le, Nat.lt_one_iff] at broken
      obtain ⟨label, member, empty⟩ := broken
      exact List.find?_isSome.mpr ⟨label, member, decide_eq_true empty⟩
    obtain ⟨label, first⟩ := Option.isSome_iff_exists.mp found
    obtain ⟨empty, before, after, split, nonempty⟩ := List.find?_eq_some_iff_append.mp first
    have readable : ∀ l ∈ before, ReadableLabel l := by
      intro l member
      have some := nonempty l member
      have low := lowered l (by rw [split]; exact List.mem_append_left _ member)
      refine ⟨?_, low.1, low.2⟩
      simp only [Bool.not_eq_true', decide_eq_false_iff_not] at some
      omega
    have whole : name = ⟨before ++ label :: after⟩ := by
      rw [← split]
    rw [whole] at held same
    have cut := parse_beforeEmpty readable (of_decide_eq_true empty) held
    rw [cut] at run
    cases run
    have labels := congrArg (fun n => n.labels.length) same
    simp at labels
  · intro readable
    rw [parse_toWire readable held] at run
    cases run
    rfl

end DnsName

namespace RData

section Arms

/-! What an arm of `RData::parse` has returned, the names that it has read. -/

variable {data : List UInt8} {start stop s s' : Nat} {rdlength : UInt16} {rdata : RData}

theorem parseSingleName_ok {wrap : DnsName → RData} (run : parseSingleName data stop wrap s = (.ok rdata, s')) :
    ∃ name t, DnsName.parse data s = (.ok name, t) ∧ rdata = wrap name := by
  obtain ⟨name, t, read, rest⟩ := Prog.bind_eq_ok.mp run
  obtain ⟨_, _, _, returned⟩ := Prog.bind_eq_ok.mp rest
  cases returned
  exact ⟨name, t, read, rfl⟩

theorem parseMX_ok (run : parseMX data start stop rdlength s = (.ok rdata, s')) :
    ∃ preference name t, DnsName.parse data (start + 2) = (.ok name, t) ∧ rdata = .MX preference name := by
  unfold parseMX at run
  split at run
  · cases run
  obtain ⟨preference, _, _, rest⟩ := Prog.bind_eq_ok.mp run
  obtain ⟨_, _, seeked, rest⟩ := Prog.bind_eq_ok.mp rest
  cases seeked
  obtain ⟨name, t, read, rest⟩ := Prog.bind_eq_ok.mp rest
  obtain ⟨_, _, _, returned⟩ := Prog.bind_eq_ok.mp rest
  cases returned
  exact ⟨preference, name, t, read, rfl⟩

theorem parseSOA_ok (run : parseSOA data stop s = (.ok rdata, s')) :
    ∃ mname rname t t' serial refresh retry expire minimum, DnsName.parse data s = (.ok mname, t) ∧
      DnsName.parse data t = (.ok rname, t') ∧
      rdata = .SOA mname rname serial refresh retry expire minimum := by
  obtain ⟨mname, t, primary, rest⟩ := Prog.bind_eq_ok.mp run
  obtain ⟨rname, t', mailbox, rest⟩ := Prog.bind_eq_ok.mp rest
  obtain ⟨offset, _, _, rest⟩ := Prog.bind_eq_ok.mp rest
  split at rest
  · cases rest
  obtain ⟨serial, _, _, rest⟩ := Prog.bind_eq_ok.mp rest
  obtain ⟨refresh, _, _, rest⟩ := Prog.bind_eq_ok.mp rest
  obtain ⟨retry, _, _, rest⟩ := Prog.bind_eq_ok.mp rest
  obtain ⟨expire, _, _, rest⟩ := Prog.bind_eq_ok.mp rest
  obtain ⟨minimum, _, _, rest⟩ := Prog.bind_eq_ok.mp rest
  obtain ⟨_, _, _, returned⟩ := Prog.bind_eq_ok.mp rest
  cases returned
  exact ⟨mname, rname, t, t', serial, refresh, retry, expire, minimum, primary, mailbox, rfl⟩

theorem parseSRV_ok (run : parseSRV data start stop rdlength s = (.ok rdata, s')) :
    ∃ priority weight port name t, DnsName.parse data (start + 6) = (.ok name, t) ∧
      rdata = .SRV priority weight port name := by
  unfold parseSRV at run
  split at run
  · cases run
  obtain ⟨priority, _, _, rest⟩ := Prog.bind_eq_ok.mp run
  obtain ⟨weight, _, _, rest⟩ := Prog.bind_eq_ok.mp rest
  obtain ⟨port, _, _, rest⟩ := Prog.bind_eq_ok.mp rest
  obtain ⟨_, _, seeked, rest⟩ := Prog.bind_eq_ok.mp rest
  cases seeked
  obtain ⟨name, t, read, rest⟩ := Prog.bind_eq_ok.mp rest
  obtain ⟨_, _, _, returned⟩ := Prog.bind_eq_ok.mp rest
  cases returned
  exact ⟨priority, weight, port, name, t, read, rfl⟩

end Arms

/-- The same RDATA; of texts, the same when they are joined. -/
def SameData : RData → RData → Prop
  | .TXT texts, .TXT texts' => String.join texts' = String.join texts
  | rdata, rdata' => rdata' = rdata

/-- Every text is cut between characters. -/
def TextsWhole : RData → Prop
  | .TXT texts => ∀ text ∈ texts, CutsWhole text
  | _ => True

theorem sameData_reread_iff {rdata : RData} : rdata.SameData rdata.reread ↔ rdata.TextsWhole := by
  cases rdata with
  | TXT texts => exact rereadTexts_join_iff texts
  | _ => exact iff_of_true rfl trivial

/-- The variants that a zone may hold. -/
def Zonal : RData → Prop
  | .A _ | .AAAA _ | .CNAME _ | .MX _ _ | .TXT _ | .NS _ | .SOA _ _ _ _ _ _ _ | .SRV _ _ _ _ | .PTR _ => True
  | _ => False

theorem Zonal.filled {rdata : RData} (zonal : rdata.Zonal) : rdata.Filled := by
  cases rdata <;> trivial

/-- RDATA that a reader gives back has no name with an empty label. -/
theorem names_readable {data : List UInt8} {recordType : RecordType} {rdlength : UInt16} {o s : Nat}
    {rdata rdata' : RData} (run : parse recordType data rdlength o = (.ok rdata', s))
    (selected : Selected recordType rdata) (zonal : rdata.Zonal)
    (lowered : ∀ name ∈ rdata.names, name.Lowered) (held : Holds data o rdata.serialize)
    (same : rdata.SameData rdata') : ∀ name ∈ rdata.names, name.Readable := by
  have fits := parse_fits run
  change (if o + rdlength.toNat > data.length then _ else _ : Parser RData) o = _ at run
  rw [if_neg (by omega)] at run
  cases rdata with
  | CNAME name | NS name | PTR name =>
    cases recordType <;> try cases selected
    obtain ⟨got, t, read, rfl⟩ := parseSingleName_ok run
    cases same
    have low := lowered name (List.mem_singleton_self _)
    exact List.forall_mem_singleton.mpr ((low.parse_whole_iff held read).mp rfl)
  | MX preference exchange =>
    cases recordType <;> try cases selected
    obtain ⟨_, got, t, read, rfl⟩ := parseMX_ok run
    cases same
    have low := lowered exchange (List.mem_singleton_self _)
    obtain ⟨_, name⟩ := Holds.u16_append_iff.mp held
    exact List.forall_mem_singleton.mpr ((low.parse_whole_iff name read).mp rfl)
  | SRV priority weight port target =>
    cases recordType <;> try cases selected
    obtain ⟨_, _, _, got, t, read, rfl⟩ := parseSRV_ok run
    cases same
    have low := lowered target (List.mem_singleton_self _)
    obtain ⟨_, rest⟩ := Holds.u16_append_iff.mp held
    obtain ⟨_, rest⟩ := Holds.u16_append_iff.mp rest
    obtain ⟨_, name⟩ := Holds.u16_append_iff.mp rest
    exact List.forall_mem_singleton.mpr ((low.parse_whole_iff name read).mp rfl)
  | SOA mname rname serial refresh retry expire minimum =>
    cases recordType <;> try cases selected
    obtain ⟨primary, mailbox, t, t', _, _, _, _, _, read, read', rfl⟩ := parseSOA_ok run
    cases same
    obtain ⟨first, rest⟩ := Holds.append_iff.mp held
    have readable := ((lowered mname List.mem_cons_self).parse_whole_iff first read).mp rfl
    -- the second name is where the reader looks for it, now that the first is whole
    have ends := DnsName.parse_toWire readable first
    rw [read] at ends
    cases ends
    have second := (Holds.append_iff.mp rest).1
    have readable' := ((lowered rname (List.mem_cons_of_mem _ List.mem_cons_self)).parse_whole_iff
      second read').mp rfl
    exact List.forall_mem_cons.mpr ⟨readable, List.forall_mem_singleton.mpr readable'⟩
  | _ => first | exact zonal.elim | exact fun name member => absurd member List.not_mem_nil

end RData

namespace DnsRecord

/-- A reader of the record's own serialisation gets to its end, with the same record. -/
def Faithful (record : DnsRecord) : Prop :=
  ∃ again, parse record.serialize 0 = (.ok again, record.serialize.length) ∧
    again.name = record.name ∧ again.recordType = record.recordType ∧
    again.recordClass = record.recordClass ∧ again.ttl = record.ttl ∧ record.rdata.SameData again.rdata

/-- The records that a zone may hold: lower-cased names, and RDATA of the record's type. -/
structure Zonal (record : DnsRecord) : Prop where
  name : record.name.Lowered
  recordType : record.recordType.Canonical
  recordClass : record.recordClass.Canonical
  selected : RData.Selected record.recordType record.rdata
  rdata : record.rdata.Zonal
  names : ∀ name ∈ record.rdata.names, name.Lowered

theorem parse_owner {data : List UInt8} {o s : Nat} {record : DnsRecord}
    (run : parse data o = (.ok record, s)) : ∃ t, DnsName.parse data o = (.ok record.name, t) := by
  obtain ⟨name, t, owner, rest⟩ := Prog.bind_eq_ok.mp run
  obtain ⟨_, _, _, rest⟩ := Prog.bind_eq_ok.mp rest
  split at rest
  · cases rest
  obtain ⟨_, _, _, rest⟩ := Prog.bind_eq_ok.mp rest
  obtain ⟨_, _, _, rest⟩ := Prog.bind_eq_ok.mp rest
  obtain ⟨_, _, _, rest⟩ := Prog.bind_eq_ok.mp rest
  obtain ⟨_, _, _, rest⟩ := Prog.bind_eq_ok.mp rest
  obtain ⟨_, _, _, rest⟩ := Prog.bind_eq_ok.mp rest
  obtain ⟨_, _, _, returned⟩ := Prog.bind_eq_ok.mp rest
  cases returned
  exact ⟨t, owner⟩

theorem holds_serialize (record : DnsRecord) : Holds record.serialize 0 record.serialize :=
  ⟨[], List.append_nil _⟩

/-- What a faithful record is like: no name in it has an empty label, and its RDATA fits. -/
theorem Faithful.readable {record : DnsRecord} (faithful : record.Faithful) (zonal : record.Zonal) :
    record.Readable := by
  obtain ⟨again, run, owner, _, _, _, same⟩ := faithful
  obtain ⟨name, _⟩ := Holds.append_iff.mp record.holds_serialize
  obtain ⟨t, read⟩ := parse_owner run
  have named := (zonal.name.parse_whole_iff name read).mp owner
  have total : record.serialize.length = 0 + record.name.toWire.length + 10 + record.rdata.serialize.length := by
    simp only [serialize, List.length_append, toBe16_length, toBe32_length]
    omega
  obtain ⟨rdataHeld, fields⟩ :=
    parse_fields named zonal.recordType zonal.recordClass record.holds_serialize
  rw [fields] at run
  obtain ⟨rdata, s, parsed, returned⟩ := Prog.bind_eq_ok.mp run
  have confined := RData.parse_confined record.recordType record.serialize
    (UInt16.ofNat record.rdata.serialize.length) (0 + record.name.toWire.length + 10)
  rw [parsed] at confined
  have ends : s = 0 + record.name.toWire.length + 10 +
      (UInt16.ofNat record.rdata.serialize.length).toNat := confined
  rw [UInt16.toNat_ofNat'] at ends
  cases returned
  refine ⟨named, zonal.recordType, zonal.recordClass, zonal.selected, ⟨?_, zonal.rdata.filled⟩, by omega⟩
  exact RData.names_readable parsed zonal.selected zonal.rdata zonal.names rdataHeld same

/-- A record of a zone is faithful exactly when it is readable and its texts are cut whole. -/
theorem Zonal.faithful_iff {record : DnsRecord} (zonal : record.Zonal) :
    record.Faithful ↔ record.Readable ∧ record.rdata.TextsWhole := by
  constructor
  · intro faithful
    have readable := faithful.readable zonal
    obtain ⟨again, run, _, _, _, _, same⟩ := faithful
    have read := parse_held readable record.holds_serialize
    rw [Nat.zero_add, run] at read
    cases read
    exact ⟨readable, RData.sameData_reread_iff.mp same⟩
  · rintro ⟨readable, whole⟩
    have read := parse_held readable record.holds_serialize
    rw [Nat.zero_add] at read
    exact ⟨record.reread, read, rfl, rfl, rfl, rfl, RData.sameData_reread_iff.mpr whole⟩

end DnsRecord

end DnsServer
