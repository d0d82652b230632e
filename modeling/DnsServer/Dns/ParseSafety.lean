import DnsServer.Dns.Message

namespace DnsServer

open Bytes

/-- The name inside the RDATA of an RRSIG or NSEC record that starts at `o` is read without an
error, but its last byte lies behind the end of the RDATA. -/
def RData.Overruns (data : List UInt8) (recordType : RecordType) (rdlength : UInt16) (o : Nat) : Prop :=
  o + rdlength.toNat ≤ data.length ∧
    match recordType with
    | .RRSIG => 19 ≤ rdlength.toNat ∧
        ∃ name s, DnsName.parse data (o + 18) = (.ok name, s) ∧ o + rdlength.toNat < s
    | .NSEC => ∃ name s, DnsName.parse data o = (.ok name, s) ∧ o + rdlength.toNat < s
    | _ => False

/-- How a reader that started at `start` may end: at `stop` with a value, or with an error at or
behind `start`, or, only under `panics`, with a panic. -/
def Confined {α : Type} (start stop : Nat) (panics : Prop) : Outcome DnsError α → Nat → Prop
  | .ok _, s => s = stop
  | .err _, s => start ≤ s
  | .panic, _ => panics
  | .hang, _ => False

section Confined

variable {α : Type} {data : List UInt8} {start stop s : Nat} {panics : Prop}

theorem Confined.name_bind {f : DnsName → Parser α} (ahead : start ≤ s)
    (rest : ∀ name s', DnsName.parse data s = (.ok name, s') → s < s' → s' ≤ data.length →
      Confined start stop panics (f name s').1 (f name s').2) :
    Confined start stop panics ((DnsName.parse data >>= f) s).1 ((DnsName.parse data >>= f) s).2 := by
  have leaves := DnsName.parse_leaves data s
  rcases run : DnsName.parse data s with ⟨name | error | _ | _, s'⟩ <;> rw [run] at leaves
  · rw [Prog.bind_ok run]
    exact rest name s' run leaves.1 leaves.2
  · rw [Prog.bind_err run]
    exact ahead.trans leaves
  · exact leaves.elim
  · exact leaves.elim

theorem Confined.mono {out : Outcome DnsError α} {more : Prop} (confined : Confined start stop panics out s)
    (weaker : panics → more) : Confined start stop more out s := by
  cases out with
  | panic => exact weaker confined
  | _ => exact confined

end Confined

namespace RData

section Arms

variable {data : List UInt8} {start stop : Nat} {rdlength : UInt16} {panics : Prop}

theorem parseA_confined (ends : stop = start + rdlength.toNat) (inside : stop ≤ data.length) :
    Confined start stop panics (parseA data start stop rdlength start).1
      (parseA data start stop rdlength start).2 := by
  unfold parseA
  split
  · exact le_rfl
  · have four : rdlength.toNat = 4 := by simp_all
    rw [Prog.bind_ok (byteAt_apply (by omega) _), Prog.bind_ok (byteAt_apply (by omega) _),
      Prog.bind_ok (byteAt_apply (by omega) _), Prog.bind_ok (byteAt_apply (by omega) _)]
    rfl

theorem parseAAAA_confined (ends : stop = start + rdlength.toNat) (inside : stop ≤ data.length) :
    Confined start stop panics (parseAAAA data start stop rdlength start).1
      (parseAAAA data start stop rdlength start).2 := by
  unfold parseAAAA
  split
  · exact le_rfl
  · have sixteen : rdlength.toNat = 16 := by simp_all
    rw [Prog.bind_ok (slice_apply (by omega) (by omega) _), dif_pos]
    · rfl
    · simp only [List.length_take, List.length_drop]
      omega

theorem parseSingleName_confined (wrap : DnsName → RData) :
    Confined start stop panics (parseSingleName data stop wrap start).1
      (parseSingleName data stop wrap start).2 :=
  Confined.name_bind le_rfl fun _ _ _ _ _ => rfl

theorem parseMX_confined (ends : stop = start + rdlength.toNat) (inside : stop ≤ data.length) :
    Confined start stop panics (parseMX data start stop rdlength start).1
      (parseMX data start stop rdlength start).2 := by
  unfold parseMX
  split
  · exact le_rfl
  · rename_i long
    have atLeast : 3 ≤ rdlength.toNat := by simpa [UInt16.lt_iff_toNat_lt] using long
    rw [Prog.bind_ok (u16At_apply (by omega) _)]
    exact Confined.name_bind (s := start + 2) (by omega) fun _ _ _ _ _ => rfl

theorem txtStep_round (inside : stop ≤ data.length) (s : Nat × List String) :
    Prog.Triple (fun o => o = start) (txtStep data stop s)
      (Prog.Round (fun s' o => o = start ∧ stop - s'.1 < stop - s.1)
        (fun out o => Confined start start panics out o)) := by
  rintro _ rfl
  unfold txtStep
  split
  · rw [Prog.bind_ok (byteAt_apply (by omega) _)]
    split
    · exact le_rfl
    · rw [Prog.bind_ok (slice_apply (by omega) (by omega) _)]
      exact ⟨rfl, by simp only; omega⟩
  · rfl

theorem parseTXT_confined (inside : stop ≤ data.length) :
    Confined start stop panics (parseTXT data start stop start).1 (parseTXT data start stop start).2 := by
  have round : ∀ s, Prog.Triple (fun o => o = start) (txtStep data stop s)
      (Prog.Round (fun s' o => o = start ∧ stop - s'.1 < stop - s.1)
        (fun out o => Confined start start panics out o)) := txtStep_round inside
  have enough : stop - start < stop - start + 1 := Nat.lt_succ_self _
  have texts := Prog.loop_total (a := (start, [])) (fun s => stop - s.1) round enough start rfl
  unfold parseTXT
  rcases run : Prog.loop (txtStep data stop) (stop - start + 1) (start, []) start with
    ⟨found | error | _ | _, s⟩ <;> rw [run] at texts
  · rw [Prog.bind_ok run]
    rfl
  · rw [Prog.bind_err run]
    exact texts
  · rw [Prog.bind_panic run]
    exact texts
  · exact texts.elim

theorem parseSOA_confined (inside : stop ≤ data.length) :
    Confined start stop panics (parseSOA data stop start).1 (parseSOA data stop start).2 := by
  refine Confined.name_bind le_rfl fun mname s _ first _ => ?_
  refine Confined.name_bind first.le fun rname o _ second _ => ?_
  change Confined start stop panics ((if o + 20 > stop then _ else _ : Parser RData) o).1
    ((if o + 20 > stop then _ else _ : Parser RData) o).2
  split
  · exact first.le.trans second.le
  · rw [Prog.bind_ok (u32At_apply (by omega) _), Prog.bind_ok (u32At_apply (by omega) _),
      Prog.bind_ok (u32At_apply (by omega) _), Prog.bind_ok (u32At_apply (by omega) _),
      Prog.bind_ok (u32At_apply (by omega) _)]
    rfl

theorem parseSRV_confined (ends : stop = start + rdlength.toNat) (inside : stop ≤ data.length) :
    Confined start stop panics (parseSRV data start stop rdlength start).1
      (parseSRV data start stop rdlength start).2 := by
  unfold parseSRV
  split
  · exact le_rfl
  · rename_i long
    have atLeast : 7 ≤ rdlength.toNat := by simpa [UInt16.lt_iff_toNat_lt] using long
    rw [Prog.bind_ok (u16At_apply (by omega) _), Prog.bind_ok (u16At_apply (by omega) _),
      Prog.bind_ok (u16At_apply (by omega) _)]
    exact Confined.name_bind (s := start + 6) (by omega) fun _ _ _ _ _ => rfl

theorem parseWordBytes_confined {message : String} {wrap : UInt16 → UInt8 → UInt8 → List UInt8 → RData}
    (ends : stop = start + rdlength.toNat) (inside : stop ≤ data.length) :
    Confined start stop panics (parseWordBytes data start stop rdlength message wrap start).1
      (parseWordBytes data start stop rdlength message wrap start).2 := by
  unfold parseWordBytes
  split
  · exact le_rfl
  · rename_i long
    have atLeast : 5 ≤ rdlength.toNat := by simpa [UInt16.lt_iff_toNat_lt] using long
    rw [Prog.bind_ok (u16At_apply (by omega) _), Prog.bind_ok (byteAt_apply (by omega) _),
      Prog.bind_ok (byteAt_apply (by omega) _), Prog.bind_ok (slice_apply (by omega) inside _)]
    rfl

/-- The rest of the RDATA behind a name: a slice from the offset the name left to `stop`. -/
theorem slice_rest_confined {s : Nat} (inside : stop ≤ data.length)
    (wrap : List UInt8 → RData) :
    Confined start stop (stop < s)
      ((slice data s stop >>= fun rest => seek stop >>= fun _ => pure (wrap rest) : Parser RData) s).1
      ((slice data s stop >>= fun rest => seek stop >>= fun _ => pure (wrap rest) : Parser RData) s).2 := by
  rcases Nat.lt_or_ge stop s with crossed | ordered
  · rw [Prog.bind_panic (slice_panics crossed _)]
    exact crossed
  · rw [Prog.bind_ok (slice_apply ordered inside _)]
    rfl

theorem parseNSEC_confined (inside : stop ≤ data.length) :
    Confined start stop (∃ name s, DnsName.parse data start = (.ok name, s) ∧ stop < s)
      (parseNSEC data stop start).1 (parseNSEC data stop start).2 := by
  refine Confined.name_bind le_rfl fun name s run _ _ => ?_
  exact (slice_rest_confined inside (.NSEC name)).mono fun crossed => ⟨name, s, run, crossed⟩

theorem parseRRSIG_confined (ends : stop = start + rdlength.toNat) (inside : stop ≤ data.length) :
    Confined start stop (19 ≤ rdlength.toNat ∧
        ∃ name s, DnsName.parse data (start + 18) = (.ok name, s) ∧ stop < s)
      (parseRRSIG data start stop rdlength start).1 (parseRRSIG data start stop rdlength start).2 := by
  unfold parseRRSIG
  split
  · exact le_rfl
  · rename_i long
    have atLeast : 19 ≤ rdlength.toNat := by simpa [UInt16.lt_iff_toNat_lt] using long
    rw [Prog.bind_ok (u16At_apply (by omega) _), Prog.bind_ok (byteAt_apply (by omega) _),
      Prog.bind_ok (byteAt_apply (by omega) _), Prog.bind_ok (u32At_apply (by omega) _),
      Prog.bind_ok (u32At_apply (by omega) _), Prog.bind_ok (u32At_apply (by omega) _),
      Prog.bind_ok (u16At_apply (by omega) _)]
    refine Confined.name_bind (s := start + 18) (by omega) fun name s run _ _ => ?_
    exact (slice_rest_confined inside _).mono fun crossed =>
      ⟨atLeast, name, s, run, crossed⟩

theorem parseRaw_confined (ordered : start ≤ stop) (inside : stop ≤ data.length)
    (wrap : List UInt8 → RData) :
    Confined start stop panics (parseRaw data start stop wrap start).1
      (parseRaw data start stop wrap start).2 := by
  rw [parseRaw, Prog.bind_ok (slice_apply ordered inside _)]
  rfl

end Arms

/-- Reading RDATA ends at the end its length announces, or with an error, or, exactly when a name
in it overruns that end, with a panic. -/
theorem parse_confined (recordType : RecordType) (data : List UInt8) (rdlength : UInt16) (o : Nat) :
    Confined o (o + rdlength.toNat) (Overruns data recordType rdlength o)
      (parse recordType data rdlength o).1 (parse recordType data rdlength o).2 := by
  change Confined _ _ _ ((if o + rdlength.toNat > data.length then _ else _ : Parser RData) o).1
    ((if o + rdlength.toNat > data.length then _ else _ : Parser RData) o).2
  split
  · exact le_rfl
  rename_i fits
  have inside : o + rdlength.toNat ≤ data.length := by omega
  cases recordType with
  | A => exact parseA_confined rfl inside
  | AAAA => exact parseAAAA_confined rfl inside
  | CNAME | NS | PTR => exact parseSingleName_confined _
  | MX => exact parseMX_confined rfl inside
  | TXT => exact parseTXT_confined inside
  | SOA => exact parseSOA_confined inside
  | SRV => exact parseSRV_confined rfl inside
  | DS | DNSKEY => exact parseWordBytes_confined rfl inside
  | RRSIG => exact (parseRRSIG_confined rfl inside).mono fun overrun => ⟨inside, overrun⟩
  | NSEC => exact (parseNSEC_confined inside).mono fun overrun => ⟨inside, overrun⟩
  | OPT | Unknown => exact parseRaw_confined (by omega) inside _

theorem parse_fits {recordType : RecordType} {data : List UInt8} {rdlength : UInt16} {o s : Nat}
    {rdata : RData} (run : parse recordType data rdlength o = (.ok rdata, s)) :
    o + rdlength.toNat ≤ data.length := by
  by_contra outside
  change (if o + rdlength.toNat > data.length then _ else _ : Parser RData) o = _ at run
  rw [if_pos (by omega)] at run
  cases run

/-- An overrunning name does panic: the slice behind it starts behind its own end. -/
theorem parse_panics {recordType : RecordType} {data : List UInt8} {rdlength : UInt16} {o : Nat}
    (overruns : Overruns data recordType rdlength o) :
    (parse recordType data rdlength o).1 = .panic := by
  obtain ⟨inside, overrun⟩ := overruns
  change ((if o + rdlength.toNat > data.length then _ else _ : Parser RData) o).1 = _
  rw [if_neg (by omega)]
  cases recordType with
  | RRSIG =>
    obtain ⟨atLeast, name, s, run, behind⟩ := overrun
    have long : ¬rdlength < 19 := by
      simp only [UInt16.lt_iff_toNat_lt, UInt16.reduceToNat]
      omega
    have seeked : seek (o + 18) o = (.ok (), o + 18) := rfl
    dsimp only
    rw [parseRRSIG, if_neg long, Prog.bind_ok (u16At_apply (by omega) _),
      Prog.bind_ok (byteAt_apply (by omega) _), Prog.bind_ok (byteAt_apply (by omega) _),
      Prog.bind_ok (u32At_apply (by omega) _), Prog.bind_ok (u32At_apply (by omega) _),
      Prog.bind_ok (u32At_apply (by omega) _), Prog.bind_ok (u16At_apply (by omega) _),
      Prog.bind_ok seeked, Prog.bind_ok run]
    exact congrArg Prod.fst (Prog.bind_panic (slice_panics behind s))
  | NSEC =>
    obtain ⟨name, s, run, behind⟩ := overrun
    dsimp only
    rw [parseNSEC, Prog.bind_ok run]
    exact congrArg Prod.fst (Prog.bind_panic (slice_panics behind s))
  | _ => exact overrun.elim

end RData

/-- The record at `o` is read up to its RDATA, and a name in the RDATA overruns its end. -/
def DnsRecord.Overruns (data : List UInt8) (o : Nat) : Prop :=
  ∃ name o₁, DnsName.parse data o = (.ok name, o₁) ∧ o₁ + 10 ≤ data.length ∧
    RData.Overruns data (RecordType.fromU16 (word16 data o₁)) (word16 data (o₁ + 8)) (o₁ + 10)

theorem DnsRecord.parse_rdata {data : List UInt8} {o o₁ : Nat} {name : DnsName}
    (owner : DnsName.parse data o = (.ok name, o₁)) (inside : o₁ + 10 ≤ data.length) :
    DnsRecord.parse data o =
      (RData.parse (RecordType.fromU16 (word16 data o₁)) data (word16 data (o₁ + 8)) >>= fun rdata =>
        pure ⟨name, RecordType.fromU16 (word16 data o₁), RecordClass.fromU16 (word16 data (o₁ + 2)),
          word32 data (o₁ + 4), rdata⟩) (o₁ + 10) := by
  rw [DnsRecord.parse, Prog.bind_ok owner]
  change (if o₁ + 10 > data.length then _ else _ : Parser DnsRecord) o₁ = _
  rw [if_neg (by omega), Prog.bind_ok (u16At_apply (by omega) _),
    Prog.bind_ok (u16At_apply (by omega) _), Prog.bind_ok (u32At_apply (by omega) _),
    Prog.bind_ok (u16At_apply (by omega) _)]
  rfl

/-- How reading a record at `o` may end. -/
def DnsRecord.Leaves (data : List UInt8) (o : Nat) : Outcome DnsError DnsRecord → Nat → Prop
  | .ok _, s => o < s ∧ s ≤ data.length
  | .err _, s => o ≤ s
  | .panic, _ => DnsRecord.Overruns data o
  | .hang, _ => False

theorem DnsRecord.parse_leaves (data : List UInt8) (o : Nat) :
    DnsRecord.Leaves data o (DnsRecord.parse data o).1 (DnsRecord.parse data o).2 := by
  have leaves := DnsName.parse_leaves data o
  rcases owner : DnsName.parse data o with ⟨name | error | _ | _, o₁⟩ <;> rw [owner] at leaves
  · by_cases inside : o₁ + 10 ≤ data.length
    · have confined := RData.parse_confined (RecordType.fromU16 (word16 data o₁)) data
        (word16 data (o₁ + 8)) (o₁ + 10)
      rw [DnsRecord.parse_rdata owner inside]
      rcases run : RData.parse (RecordType.fromU16 (word16 data o₁)) data (word16 data (o₁ + 8))
        (o₁ + 10) with ⟨rdata | error | _ | _, s⟩ <;> rw [run] at confined
      · rw [Prog.bind_ok run]
        have fits := RData.parse_fits run
        have ends : s = o₁ + 10 + (word16 data (o₁ + 8)).toNat := confined
        have ahead : o < o₁ := leaves.1
        exact ⟨by simp only [Prog.pure_apply]; omega, by simp only [Prog.pure_apply]; omega⟩
      · rw [Prog.bind_err run]
        exact le_trans leaves.1.le (le_trans (by omega) confined)
      · rw [Prog.bind_panic run]
        exact ⟨name, o₁, owner, inside, confined⟩
      · exact confined.elim
    · rw [DnsRecord.parse, Prog.bind_ok owner]
      change DnsRecord.Leaves data o ((if o₁ + 10 > data.length then _ else _ : Parser DnsRecord) o₁).1
        ((if o₁ + 10 > data.length then _ else _ : Parser DnsRecord) o₁).2
      rw [if_pos (by omega)]
      exact leaves.1.le
  · rw [DnsRecord.parse, Prog.bind_err owner]
    exact leaves
  · exact leaves.elim
  · exact leaves.elim

theorem DnsRecord.parse_panics_iff {data : List UInt8} {o : Nat} :
    (DnsRecord.parse data o).1 = .panic ↔ DnsRecord.Overruns data o := by
  constructor
  · intro panicked
    have leaves := DnsRecord.parse_leaves data o
    rw [panicked] at leaves
    exact leaves
  · rintro ⟨name, o₁, owner, inside, overruns⟩
    have panicked := RData.parse_panics overruns
    rw [DnsRecord.parse_rdata owner inside]
    exact congrArg Prod.fst (Prog.bind_panic (Prod.ext panicked rfl))

/-- From the offset `o`, with the given record counts left in this section and the later ones, the
loops of `DnsMessage::parse` come to a record that overruns its RDATA. A record that fails to parse
ends its section, and the next section starts where that record left the offset. -/
inductive MeetsOverrun (data : List UInt8) : List Nat → Nat → Prop
  | here {count counts o} : DnsRecord.Overruns data o → MeetsOverrun data ((count + 1) :: counts) o
  | read {count counts o record o'} : DnsRecord.parse data o = (.ok record, o') →
      MeetsOverrun data (count :: counts) o' → MeetsOverrun data ((count + 1) :: counts) o
  | broken {count counts o error o'} : DnsRecord.parse data o = (.err error, o') →
      MeetsOverrun data counts o' → MeetsOverrun data ((count + 1) :: counts) o
  | done {counts o} : MeetsOverrun data counts o → MeetsOverrun data (0 :: counts) o

/-- How a section of `count` records starting at `o` may end. -/
def SectionEnds (data : List UInt8) (count o : Nat) : Outcome DnsError (List DnsRecord) → Nat → Prop
  | .ok _, s => ∀ counts, MeetsOverrun data (count :: counts) o ↔ MeetsOverrun data counts s
  | .err _, _ => False
  | .panic, _ => ∀ counts, MeetsOverrun data (count :: counts) o
  | .hang, _ => False

theorem MeetsOverrun.done_iff {data : List UInt8} {counts : List Nat} {o : Nat} :
    MeetsOverrun data (0 :: counts) o ↔ MeetsOverrun data counts o :=
  ⟨fun meets => by cases meets; assumption, .done⟩

theorem MeetsOverrun.read_iff {data : List UInt8} {count o o' : Nat} {counts : List Nat}
    {record : DnsRecord} (run : DnsRecord.parse data o = (.ok record, o')) :
    MeetsOverrun data ((count + 1) :: counts) o ↔ MeetsOverrun data (count :: counts) o' := by
  refine ⟨fun meets => ?_, .read run⟩
  cases meets with
  | here overruns =>
    have panicked := DnsRecord.parse_panics_iff.mpr overruns
    rw [run] at panicked
    cases panicked
  | read run' meets =>
    cases run.symm.trans run'
    exact meets
  | broken run' => cases run.symm.trans run'

theorem MeetsOverrun.broken_iff {data : List UInt8} {count o o' : Nat} {counts : List Nat}
    {error : DnsError} (run : DnsRecord.parse data o = (.err error, o')) :
    MeetsOverrun data ((count + 1) :: counts) o ↔ MeetsOverrun data counts o' := by
  refine ⟨fun meets => ?_, .broken run⟩
  cases meets with
  | here overruns =>
    have panicked := DnsRecord.parse_panics_iff.mpr overruns
    rw [run] at panicked
    cases panicked
  | read run' => cases run.symm.trans run'
  | broken run' meets =>
    cases run.symm.trans run'
    exact meets

namespace DnsMessage

theorem parseSection_ends (data : List UInt8) (count o : Nat) :
    SectionEnds data count o (parseSection data count o).1 (parseSection data count o).2 := by
  induction count generalizing o with
  | zero => exact fun _ => MeetsOverrun.done_iff
  | succ count ih =>
    have leaves := DnsRecord.parse_leaves data o
    rcases run : DnsRecord.parse data o with ⟨record | error | _ | _, o'⟩ <;> rw [run] at leaves
    · have tail := ih o'
      rw [parseSection_read run]
      rcases rest : parseSection data count o' with ⟨records | error | _ | _, s⟩ <;> rw [rest] at tail
      · rw [Prog.bind_ok rest]
        exact fun counts => (MeetsOverrun.read_iff run).trans (tail counts)
      · exact tail.elim
      · rw [Prog.bind_panic rest]
        exact fun counts => .read run (tail counts)
      · exact tail.elim
    · rw [parseSection_broken run]
      exact fun counts => MeetsOverrun.broken_iff run
    · rw [parseSection_panics run]
      exact fun counts => .here leaves
    · exact leaves.elim

end DnsMessage

theorem DnsQuestion.parse_returns (data : List UInt8) (o : Nat) :
    (DnsQuestion.parse data o).1.Returns := by
  have leaves := DnsName.parse_leaves data o
  rcases run : DnsName.parse data o with ⟨name | error | _ | _, o₁⟩ <;> rw [run] at leaves
  · rw [DnsQuestion.parse, Prog.bind_ok run]
    change ((if o₁ + 4 > data.length then _ else _ : Parser DnsQuestion) o₁).1.Returns
    split
    · trivial
    · rw [Prog.bind_ok (u16At_apply (by omega) _), Prog.bind_ok (u16At_apply (by omega) _)]
      trivial
  · rw [DnsQuestion.parse, Prog.bind_err run]
    trivial
  · exact leaves.elim
  · exact leaves.elim

namespace DnsMessage

theorem parseQuestions_returns (data : List UInt8) (count o : Nat) :
    (parseQuestions data count o).1.Returns := by
  induction count generalizing o with
  | zero => trivial
  | succ count ih =>
    have first := DnsQuestion.parse_returns data o
    rcases run : DnsQuestion.parse data o with ⟨question | error | _ | _, o'⟩ <;> rw [run] at first
    · have tail := ih o'
      rw [parseQuestions, Prog.bind_ok run]
      rcases rest : parseQuestions data count o' with ⟨questions | error | _ | _, s⟩ <;> rw [rest] at tail
      · rw [Prog.bind_ok rest]
        trivial
      · rw [Prog.bind_err rest]
        trivial
      · exact tail.elim
      · exact tail.elim
    · rw [parseQuestions, Prog.bind_err run]
      trivial
    · exact first.elim
    · exact first.elim

end DnsMessage

theorem DnsHeader.parse_returns (data : List UInt8) (o : Nat) : (DnsHeader.parse data o).1.Returns := by
  change ((if o + 12 > data.length then _ else _ : Parser DnsHeader) o).1.Returns
  split
  · trivial
  · rw [Prog.bind_ok (u16At_apply (by omega) _), Prog.bind_ok (byteAt_apply (by omega) _),
      Prog.bind_ok (byteAt_apply (by omega) _), Prog.bind_ok (u16At_apply (by omega) _),
      Prog.bind_ok (u16At_apply (by omega) _), Prog.bind_ok (u16At_apply (by omega) _),
      Prog.bind_ok (u16At_apply (by omega) _)]
    trivial

namespace DnsMessage

/-- The header and the questions of `data` are read, and the record loops start at `o` with the
three counts of the header. -/
def RecordsStart (data : List UInt8) (header : DnsHeader) (questions : List DnsQuestion) (o : Nat) : Prop :=
  ∃ p, DnsHeader.parse data 0 = (.ok header, p) ∧
    parseQuestions data header.questionCount.toNat p = (.ok questions, o)

def sectionCounts (header : DnsHeader) : List Nat :=
  [header.answerCount.toNat, header.authorityCount.toNat, header.additionalCount.toNat]

theorem RecordsStart.unique {data : List UInt8} {header header' : DnsHeader}
    {questions questions' : List DnsQuestion} {o o' : Nat}
    (start : RecordsStart data header questions o) (start' : RecordsStart data header' questions' o') :
    header = header' ∧ questions = questions' ∧ o = o' := by
  obtain ⟨p, first, second⟩ := start
  obtain ⟨p', first', second'⟩ := start'
  cases first.symm.trans first'
  cases second.symm.trans second'
  exact ⟨rfl, rfl, rfl⟩

/-- The three record loops and the message they build. -/
def parseRecords (data : List UInt8) (header : DnsHeader) (questions : List DnsQuestion) :
    Parser DnsMessage := do
  let answers ← parseSection data header.answerCount.toNat
  let authorities ← parseSection data header.authorityCount.toNat
  let additional ← parseSection data header.additionalCount.toNat
  return ⟨header, questions, answers, authorities, additional⟩

/-- Either the message is refused before its records, or the record loops decide. -/
theorem parse_cases (data : List UInt8) :
    (∃ error, parse data = .err error ∧ ∀ header questions o, ¬RecordsStart data header questions o) ∨
      ∃ header questions o, RecordsStart data header questions o ∧
        parse data = (parseRecords data header questions o).1 := by
  have first := DnsHeader.parse_returns data 0
  rcases run : DnsHeader.parse data 0 with ⟨header | error | _ | _, p⟩ <;> rw [run] at first
  · have second := parseQuestions_returns data header.questionCount.toNat p
    rcases run' : parseQuestions data header.questionCount.toNat p with
      ⟨questions | error | _ | _, o⟩ <;> rw [run'] at second
    · refine Or.inr ⟨header, questions, o, ⟨p, run, run'⟩, ?_⟩
      rw [parse, parseFrom, Prog.bind_ok run, Prog.bind_ok run']
      rfl
    · refine Or.inl ⟨error, ?_, ?_⟩
      · rw [parse, parseFrom, Prog.bind_ok run, Prog.bind_err run']
      · rintro header' questions o ⟨p', start, start'⟩
        cases run.symm.trans start
        cases run'.symm.trans start'
    · exact second.elim
    · exact second.elim
  · refine Or.inl ⟨error, ?_, ?_⟩
    · rw [parse, parseFrom, Prog.bind_err run]
    · rintro header' questions o ⟨p', start, _⟩
      cases run.symm.trans start
  · exact first.elim
  · exact first.elim

/-- The parse of `data` comes to a record whose RDATA holds a name that overruns it. -/
def Overruns (data : List UInt8) : Prop :=
  ∃ header questions o, RecordsStart data header questions o ∧
    MeetsOverrun data (sectionCounts header) o

theorem parseRecords_questions {data : List UInt8} {header : DnsHeader} {questions : List DnsQuestion} {o : Nat}
    {message : DnsMessage} (read : (parseRecords data header questions o).1 = .ok message) :
    message.questions = questions := by
  obtain ⟨answers, _, _, rest⟩ := Prog.bind_eq_ok.mp (Prod.ext read rfl)
  obtain ⟨authorities, _, _, rest⟩ := Prog.bind_eq_ok.mp rest
  obtain ⟨additional, _, _, rest⟩ := Prog.bind_eq_ok.mp rest
  exact congrArg DnsMessage.questions (Outcome.ok.inj (congrArg Prod.fst rest)).symm

theorem parseRecords_ends (data : List UInt8) (header : DnsHeader) (questions : List DnsQuestion) (o : Nat) :
    ((parseRecords data header questions o).1 = .panic ∧ MeetsOverrun data (sectionCounts header) o) ∨
      ((∃ message, (parseRecords data header questions o).1 = .ok message) ∧
        ¬MeetsOverrun data (sectionCounts header) o) := by
  have answers := parseSection_ends data header.answerCount.toNat o
  rcases run : parseSection data header.answerCount.toNat o with ⟨found | _ | _ | _, o₁⟩ <;>
    rw [run] at answers
  · rw [parseRecords, Prog.bind_ok run]
    have authorities := parseSection_ends data header.authorityCount.toNat o₁
    rcases run₁ : parseSection data header.authorityCount.toNat o₁ with ⟨found₁ | _ | _ | _, o₂⟩ <;>
      rw [run₁] at authorities
    · rw [Prog.bind_ok run₁]
      have additional := parseSection_ends data header.additionalCount.toNat o₂
      rcases run₂ : parseSection data header.additionalCount.toNat o₂ with ⟨found₂ | _ | _ | _, o₃⟩ <;>
        rw [run₂] at additional
      · rw [Prog.bind_ok run₂]
        refine Or.inr ⟨⟨_, rfl⟩, fun meets => ?_⟩
        have ended := (additional []).mp ((authorities _).mp ((answers _).mp meets))
        cases ended
      · exact additional.elim
      · rw [Prog.bind_panic run₂]
        exact Or.inl ⟨rfl, (answers _).mpr ((authorities _).mpr (additional _))⟩
      · exact additional.elim
    · exact authorities.elim
    · rw [Prog.bind_panic run₁]
      exact Or.inl ⟨rfl, (answers _).mpr (authorities _)⟩
    · exact authorities.elim
  · exact answers.elim
  · rw [parseRecords, Prog.bind_panic run]
    exact Or.inl ⟨rfl, answers _⟩
  · exact answers.elim

/-- The start of the record loops is unique, so that they come to an overrun or not. -/
theorem RecordsStart.overruns_iff {data : List UInt8} {header : DnsHeader} {questions : List DnsQuestion} {o : Nat}
    (start : RecordsStart data header questions o) :
    Overruns data ↔ MeetsOverrun data (sectionCounts header) o := by
  constructor
  · rintro ⟨header', questions', o', start', meets⟩
    obtain ⟨rfl, rfl, rfl⟩ := start.unique start'
    exact meets
  · exact fun meets => ⟨header, questions, o, start, meets⟩

/-- Parsing a byte string ends in a message or an error, with every index inside the buffer and
every slice in order, exactly when no record that it comes to overruns its RDATA. -/
theorem parse_returns_iff (data : List UInt8) : (parse data).Returns ↔ ¬Overruns data := by
  rcases parse_cases data with ⟨error, refused, none⟩ | ⟨header, questions, o, start, records⟩
  · rw [refused]
    exact iff_of_true trivial fun ⟨header, questions, o, start, _⟩ => none header questions o start
  · rw [records, start.overruns_iff]
    rcases parseRecords_ends data header questions o with ⟨panics, overruns⟩ | ⟨⟨message, ok⟩, clean⟩
    · rw [panics]
      exact iff_of_false id (not_not_intro overruns)
    · rw [ok]
      exact iff_of_true trivial clean

/-- A response of one NSEC record with an empty RDATA, at the end of the message but for the root
name that its reader takes from behind the RDATA. -/
def nsecPastEnd : List UInt8 :=
  [0, 0, 0x80, 0, 0, 0, 0, 1, 0, 0, 0, 0] ++ [0, 0, 47, 0, 1, 0, 0, 0, 0, 0, 0] ++ [0]

theorem parse_nsecPastEnd_panics : ¬(parse nsecPastEnd).Returns := by
  have panics : parse nsecPastEnd = .panic := by decide +kernel
  rw [panics]
  exact id

end DnsMessage

end DnsServer
