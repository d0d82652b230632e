import DnsServer.Dns.NameReach
import DnsServer.Dns.ParseSafety

namespace DnsServer

open Bytes DnsName

namespace RData

/-- The names in RDATA that ends with these bytes are read without a look behind them. Of an SOA record
the second name is read where the first one ends. -/
def NamesEnclosed (recordType : RecordType) (front : List UInt8) (rdlength : UInt16) (o : Nat) : Prop :=
  match recordType with
  | .CNAME | .NS | .PTR | .NSEC => StaysWithin front o 0
  | .MX => 3 ≤ rdlength.toNat → StaysWithin front (o + 2) 0
  | .SRV => 7 ≤ rdlength.toNat → StaysWithin front (o + 6) 0
  | .RRSIG => 19 ≤ rdlength.toNat → StaysWithin front (o + 18) 0
  | .SOA => StaysWithin front o 0 ∧
      ∀ raws o', Spells front o 0 raws → Ends front o o' → StaysWithin front o' 0
  | _ => True

/-- A name, and the rest of the RDATA behind it: the arm of `NSEC` and the end of that of `RRSIG`. -/
def parseNameThenRest (data : List UInt8) (stop : Nat) (wrap : DnsName → List UInt8 → RData) :
    Parser RData := do
  let name ← DnsName.parse data
  let offset ← position
  let rest ← slice data offset stop
  seek stop
  return wrap name rest

/-- What the `SOA` arm does behind its two names. -/
def parseSOANumbers (data : List UInt8) (stop : Nat) (mname rname : DnsName) : Parser RData := do
  let offset ← position
  if offset + 20 > stop then Prog.fail (.parseError "Invalid SOA record")
  else
    let serial ← u32At data offset
    let refresh ← u32At data (offset + 4)
    let retry ← u32At data (offset + 8)
    let expire ← u32At data (offset + 12)
    let minimum ← u32At data (offset + 16)
    seek stop
    return .SOA mname rname serial refresh retry expire minimum

section Arms

variable {data front : List UInt8} {start stop : Nat} {rdlength : UInt16}

theorem parseSingleName_fixedBy_iff (wrap : DnsName → RData) (inside : start ≤ front.length) :
    FixedBy front (fun data => (parseSingleName data stop wrap start).1) ↔ StaysWithin front start 0 := by
  refine (fixedBy_name_iff inside fun _ _ _ => ?_).trans (and_iff_left fun _ _ _ => ?_)
  · exact Late.ok _
  · exact .of_eq fun _ _ => rfl

theorem parseNameThenRest_fixedBy_iff (wrap : DnsName → List UInt8 → RData) (inside : start ≤ front.length)
    (ends : stop ≤ front.length) :
    FixedBy front (fun data => (parseNameThenRest data stop wrap start).1) ↔ StaysWithin front start 0 := by
  have within : stop ≤ (padded front).length := ends.trans begins_padded.length_le
  refine (fixedBy_name_iff inside fun name s _ => ?_).trans (and_iff_left fun name s _ => ?_)
  · change Late ((slice (padded front) s stop >>= _ : Parser RData) s).1
    rcases Nat.lt_or_ge stop s with crossed | ordered
    · rw [Prog.bind_panic (slice_panics crossed s)]
      exact .panic
    · rw [Prog.bind_ok (slice_apply ordered within s)]
      exact .ok _
  · refine .of_eq fun data begins => ?_
    change ((slice data s stop >>= _ : Parser RData) s).1 = ((slice front s stop >>= _ : Parser RData) s).1
    rw [slice_extends begins ends]

section Soa

variable (mname rname : DnsName) (s : Nat)

theorem parseSOANumbers_late (ends : stop ≤ data.length) :
    Late (parseSOANumbers data stop mname rname s).1 := by
  change Late ((if s + 20 > stop then _ else _ : Parser RData) s).1
  split
  · rintro error failed (early | early) <;> cases failed <;> cases early
  · rw [Prog.bind_ok (u32At_apply (by omega) s), Prog.bind_ok (u32At_apply (by omega) s),
      Prog.bind_ok (u32At_apply (by omega) s), Prog.bind_ok (u32At_apply (by omega) s),
      Prog.bind_ok (u32At_apply (by omega) s)]
    exact .ok _

theorem parseSOANumbers_fixedBy (ends : stop ≤ front.length) :
    FixedBy front fun data => (parseSOANumbers data stop mname rname s).1 := by
  refine .of_eq fun data begins => ?_
  change ((if s + 20 > stop then _ else _ : Parser RData) s).1 =
    ((if s + 20 > stop then _ else _ : Parser RData) s).1
  split
  · rfl
  · rw [u32At_extends begins (by omega), u32At_extends begins (by omega), u32At_extends begins (by omega),
      u32At_extends begins (by omega), u32At_extends begins (by omega)]

end Soa

theorem parseSOA_fixedBy_iff (inside : start ≤ front.length) (ends : stop ≤ front.length) :
    FixedBy front (fun data => (parseSOA data stop start).1) ↔
      StaysWithin front start 0 ∧
        ∀ raws o', Spells front start 0 raws → Ends front start o' → StaysWithin front o' 0 := by
  have within : stop ≤ (padded front).length := ends.trans begins_padded.length_le
  let rest (data : List UInt8) (mname : DnsName) : Parser RData :=
    DnsName.parse data >>= fun rname => parseSOANumbers data stop mname rname
  have late : ∀ mname s, s ≤ front.length + 192 → Late (rest (padded front) mname s).1 := by
    intro mname s near
    exact late_padded (by omega) (by omega) near fun rname s' _ => parseSOANumbers_late mname rname s' within
  have second : ∀ mname s, s ≤ front.length →
      (FixedBy front (fun data => (rest data mname s).1) ↔ StaysWithin front s 0) := by
    intro mname s near
    refine (fixedBy_name_iff near fun rname s' _ => ?_).trans (and_iff_left fun rname s' _ => ?_)
    · exact parseSOANumbers_late mname rname s' within
    · exact parseSOANumbers_fixedBy mname rname s' ends
  refine (fixedBy_name_iff (f := rest) inside late).trans (and_congr_right fun stays => ?_)
  constructor
  · intro fixed raws o' spells ends'
    have read := parse_of_spells spells ends'
    have leaves := parse_leaves front start
    rw [read] at leaves
    exact (second _ o' leaves.2).mp (fixed _ o' read)
  · intro enclosed mname s read
    obtain ⟨raws, spells, ends', _⟩ := parse_reads read
    have leaves := parse_leaves front start
    rw [read] at leaves
    exact (second mname s leaves.2).mpr (enclosed raws s spells ends')

/-! What stands before the name of an MX, SRV or RRSIG record is within the RDATA, and decides only what
the name is put into. -/

theorem parseMX_fixedBy_iff (ends : front.length = start + rdlength.toNat) :
    FixedBy front (fun data => (parseMX data start stop rdlength start).1) ↔
      (3 ≤ rdlength.toNat → StaysWithin front (start + 2) 0) := by
  refine FixedBy.imp_iff (fun long => ?_) fun short => ?_
  · have enough : ¬rdlength < 3 := by simpa [UInt16.lt_iff_toNat_lt] using long
    have named : ∀ data, front <+: data → (parseMX data start stop rdlength start).1 =
        (parseSingleName data stop (.MX (word16 front start)) (start + 2)).1 := by
      intro data begins
      rw [parseMX, if_neg enough, u16At_extends begins (by omega), Prog.bind_ok (u16At_apply (by omega) start)]
      rfl
    rw [FixedBy.iff_of_eq named, parseSingleName_fixedBy_iff _ (by omega)]
  · have few : rdlength < 3 := by simpa [UInt16.lt_iff_toNat_lt] using short
    refine .of_eq fun data _ => ?_
    rw [parseMX, parseMX, if_pos few, if_pos few]

theorem parseSRV_fixedBy_iff (ends : front.length = start + rdlength.toNat) :
    FixedBy front (fun data => (parseSRV data start stop rdlength start).1) ↔
      (7 ≤ rdlength.toNat → StaysWithin front (start + 6) 0) := by
  refine FixedBy.imp_iff (fun long => ?_) fun short => ?_
  · have enough : ¬rdlength < 7 := by simpa [UInt16.lt_iff_toNat_lt] using long
    have named : ∀ data, front <+: data → (parseSRV data start stop rdlength start).1 =
        (parseSingleName data stop (.SRV (word16 front start) (word16 front (start + 2))
          (word16 front (start + 4))) (start + 6)).1 := by
      intro data begins
      rw [parseSRV, if_neg enough, u16At_extends begins (by omega), u16At_extends begins (by omega),
        u16At_extends begins (by omega), Prog.bind_ok (u16At_apply (by omega) start),
        Prog.bind_ok (u16At_apply (by omega) start), Prog.bind_ok (u16At_apply (by omega) start)]
      rfl
    rw [FixedBy.iff_of_eq named, parseSingleName_fixedBy_iff _ (by omega)]
  · have few : rdlength < 7 := by simpa [UInt16.lt_iff_toNat_lt] using short
    refine .of_eq fun data _ => ?_
    rw [parseSRV, parseSRV, if_pos few, if_pos few]

theorem parseRRSIG_fixedBy_iff (ends : front.length = start + rdlength.toNat) (stops : stop ≤ front.length) :
    FixedBy front (fun data => (parseRRSIG data start stop rdlength start).1) ↔
      (19 ≤ rdlength.toNat → StaysWithin front (start + 18) 0) := by
  refine FixedBy.imp_iff (fun long => ?_) fun short => ?_
  · have enough : ¬rdlength < 19 := by simpa [UInt16.lt_iff_toNat_lt] using long
    have algorithm : start + 2 < front.length := by omega
    have labels : start + 3 < front.length := by omega
    have named : ∀ data, front <+: data → (parseRRSIG data start stop rdlength start).1 =
        (parseNameThenRest data stop (.RRSIG (.fromU16 (word16 front start)) front[start + 2] front[start + 3]
          (word32 front (start + 4)) (word32 front (start + 8)) (word32 front (start + 12))
          (word16 front (start + 16))) (start + 18)).1 := by
      intro data begins
      rw [parseRRSIG, if_neg enough, u16At_extends begins (by omega), byteAt_extends begins algorithm,
        byteAt_extends begins labels, u32At_extends begins (by omega), u32At_extends begins (by omega),
        u32At_extends begins (by omega), u16At_extends begins (by omega),
        Prog.bind_ok (u16At_apply (by omega) start), Prog.bind_ok (byteAt_apply algorithm start),
        Prog.bind_ok (byteAt_apply labels start), Prog.bind_ok (u32At_apply (by omega) start),
        Prog.bind_ok (u32At_apply (by omega) start), Prog.bind_ok (u32At_apply (by omega) start),
        Prog.bind_ok (u16At_apply (by omega) start)]
      rfl
    rw [FixedBy.iff_of_eq named, parseNameThenRest_fixedBy_iff _ (by omega) stops]
  · have few : rdlength < 19 := by simpa [UInt16.lt_iff_toNat_lt] using short
    refine .of_eq fun data _ => ?_
    rw [parseRRSIG, parseRRSIG, if_pos few, if_pos few]

end Arms

section Nameless

/-! The arms without a name read nothing behind the RDATA. -/

variable {front : List UInt8} {start stop : Nat} {rdlength : UInt16}

theorem parseA_fixedBy (ends : front.length = start + rdlength.toNat) :
    FixedBy front fun data => (parseA data start stop rdlength start).1 := by
  refine .of_eq fun data begins => ?_
  unfold parseA
  split
  · rfl
  · have four : rdlength.toNat = 4 := by simp_all
    rw [byteAt_extends begins (by omega), byteAt_extends begins (by omega), byteAt_extends begins (by omega),
      byteAt_extends begins (by omega)]

theorem parseAAAA_fixedBy (ends : front.length = start + rdlength.toNat) :
    FixedBy front fun data => (parseAAAA data start stop rdlength start).1 := by
  refine .of_eq fun data begins => ?_
  unfold parseAAAA
  split
  · rfl
  · have sixteen : rdlength.toNat = 16 := by simp_all
    rw [slice_extends begins (by omega)]

theorem parseTXT_fixedBy (stops : stop ≤ front.length) :
    FixedBy front fun data => (parseTXT data start stop start).1 := by
  refine .of_eq fun data begins => ?_
  have step : txtStep data stop = txtStep front stop := by
    funext s
    unfold txtStep
    split
    · rw [byteAt_extends begins (by omega)]
      congr 1
      funext txtLen
      dsimp only
      split
      · rfl
      · rw [slice_extends begins (by omega)]
    · rfl
  rw [parseTXT, parseTXT, step]

theorem parseWordBytes_fixedBy {message : String} {wrap : UInt16 → UInt8 → UInt8 → List UInt8 → RData}
    (ends : front.length = start + rdlength.toNat) (stops : stop ≤ front.length) :
    FixedBy front fun data => (parseWordBytes data start stop rdlength message wrap start).1 := by
  refine .of_eq fun data begins => ?_
  unfold parseWordBytes
  split
  · rfl
  · rename_i long
    have atLeast : 5 ≤ rdlength.toNat := by simpa [UInt16.lt_iff_toNat_lt] using long
    rw [u16At_extends begins (by omega), byteAt_extends begins (by omega), byteAt_extends begins (by omega),
      slice_extends begins stops]

theorem parseRaw_fixedBy (wrap : List UInt8 → RData) (stops : stop ≤ front.length) :
    FixedBy front fun data => (parseRaw data start stop wrap start).1 := by
  refine .of_eq fun data begins => ?_
  rw [parseRaw, parseRaw, slice_extends begins stops]

end Nameless

/-- With the RDATA inside the buffer the arm of the type is run. -/
theorem fixedBy_arm {recordType : RecordType} {front : List UInt8} {rdlength : UInt16} {o : Nat}
    {arm : List UInt8 → Parser RData} (ends : front.length = o + rdlength.toNat)
    (runs : ∀ data, parse recordType data rdlength o =
      (if o + rdlength.toNat > data.length then Prog.fail .bufferTooShort else arm data : Parser RData) o) :
    FixedBy front (fun data => (parse recordType data rdlength o).1) ↔
      FixedBy front (fun data => (arm data o).1) := by
  refine FixedBy.iff_of_eq fun data begins => ?_
  have longer := begins.length_le
  rw [runs, if_neg (by omega)]

/-- What RDATA is read as does not depend on the bytes behind it exactly when the names in it are read
without a look behind it. -/
theorem parse_fixedBy_iff (recordType : RecordType) {front : List UInt8} {rdlength : UInt16} {o : Nat}
    (ends : front.length = o + rdlength.toNat) :
    (∀ data data', front <+: data → front <+: data' →
        (parse recordType data rdlength o).1 = (parse recordType data' rdlength o).1) ↔
      NamesEnclosed recordType front rdlength o := by
  have start : o ≤ front.length := by omega
  have stops : o + rdlength.toNat ≤ front.length := ends.ge
  cases recordType with
  | A => exact iff_of_true ((fixedBy_arm ends fun _ => rfl).mpr (parseA_fixedBy ends)) trivial
  | AAAA => exact iff_of_true ((fixedBy_arm ends fun _ => rfl).mpr (parseAAAA_fixedBy ends)) trivial
  | CNAME | NS | PTR => exact (fixedBy_arm ends fun _ => rfl).trans (parseSingleName_fixedBy_iff _ start)
  | MX => exact (fixedBy_arm ends fun _ => rfl).trans (parseMX_fixedBy_iff ends)
  | TXT => exact iff_of_true ((fixedBy_arm ends fun _ => rfl).mpr (parseTXT_fixedBy stops)) trivial
  | SOA => exact (fixedBy_arm ends fun _ => rfl).trans (parseSOA_fixedBy_iff start stops)
  | SRV => exact (fixedBy_arm ends fun _ => rfl).trans (parseSRV_fixedBy_iff ends)
  | DS | DNSKEY =>
    exact iff_of_true ((fixedBy_arm ends fun _ => rfl).mpr (parseWordBytes_fixedBy ends stops)) trivial
  | RRSIG => exact (fixedBy_arm ends fun _ => rfl).trans (parseRRSIG_fixedBy_iff ends stops)
  | NSEC => exact (fixedBy_arm ends fun _ => rfl).trans (parseNameThenRest_fixedBy_iff .NSEC start stops)
  | OPT | Unknown => exact iff_of_true ((fixedBy_arm ends fun _ => rfl).mpr (parseRaw_fixedBy _ stops)) trivial

theorem parse_fixedBy_iff_oneLabel :
    (∀ data data', [1, 0x61, 0] <+: data → [1, 0x61, 0] <+: data' →
        (parse .CNAME data 3 0).1 = (parse .CNAME data' 3 0).1) ↔
      NamesEnclosed .CNAME [1, 0x61, 0] 3 0 :=
  parse_fixedBy_iff .CNAME rfl

/-- A name that the RDATA does not finish is read on in the bytes of the next record. -/
theorem parse_unfinishedName_differs :
    [1, 0x61] <+: [1, 0x61, 0] ∧ [1, 0x61] <+: [1, 0x61, 1, 0x62, 0] ∧
      (parse .CNAME [1, 0x61, 0] 2 0).1 = .ok (.CNAME ⟨["a"]⟩) ∧
      (parse .CNAME [1, 0x61, 0] 2 0).1 ≠ (parse .CNAME [1, 0x61, 1, 0x62, 0] 2 0).1 := by
  have first : (parse .CNAME [1, 0x61, 0] 2 0).1 = .ok (.CNAME ⟨["a"]⟩) := by decide +kernel
  have second : (parse .CNAME [1, 0x61, 1, 0x62, 0] 2 0).1 = .ok (.CNAME ⟨["a", "b"]⟩) := by decide +kernel
  refine ⟨⟨_, rfl⟩, ⟨_, rfl⟩, first, ?_⟩
  rw [first, second]
  intro same
  cases same

end RData

end DnsServer
