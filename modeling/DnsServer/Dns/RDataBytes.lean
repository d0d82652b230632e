import DnsServer.Dns.ParseSafety
import DnsServer.Dns.TextWire
import DnsServer.Lib.Utf8Validity

/-! Which RDATA without names is written again byte for byte after it was read. -/

namespace DnsServer

open Bytes Utf8

/-- The types whose RDATA holds no name. -/
def RecordType.Nameless : RecordType → Prop
  | .A | .AAAA | .TXT | .DS | .DNSKEY | .OPT | .Unknown _ => True
  | _ => False

namespace RData

section Arms

/-! What an arm of `RData::parse` has returned is written as the bytes from `start` to `stop`. -/

variable {data : List UInt8} {start stop s : Nat} {rdlength : UInt16} {rdata : RData}

theorem parseA_bytes (ends : stop = start + rdlength.toNat)
    (read : parseA data start stop rdlength start = (.ok rdata, s)) :
    Holds data start rdata.serialize ∧ start + rdata.serialize.length = stop := by
  unfold parseA at read
  split at read
  · cases read
  rename_i four
  obtain ⟨a, _, first, read⟩ := Prog.bind_eq_ok.mp read
  obtain ⟨b, _, second, read⟩ := Prog.bind_eq_ok.mp read
  obtain ⟨c, _, third, read⟩ := Prog.bind_eq_ok.mp read
  obtain ⟨d, _, fourth, read⟩ := Prog.bind_eq_ok.mp read
  cases read
  have last := (Holds.of_byteAt third).1.append (Holds.of_byteAt fourth).1 rfl
  have later := (Holds.of_byteAt second).1.append last rfl
  refine ⟨(Holds.of_byteAt first).1.append later rfl, ?_⟩
  rw [ends, not_not.mp four]
  rfl

theorem parseAAAA_bytes (ends : stop = start + rdlength.toNat)
    (read : parseAAAA data start stop rdlength start = (.ok rdata, s)) :
    Holds data start rdata.serialize ∧ start + rdata.serialize.length = stop := by
  unfold parseAAAA at read
  split at read
  · cases read
  rename_i sixteen
  obtain ⟨octets, _, sliced, read⟩ := Prog.bind_eq_ok.mp read
  split at read
  · cases read
    obtain ⟨held, size, _⟩ := Holds.of_slice sliced
    refine ⟨held, size.trans ?_⟩
    rw [ends, not_not.mp sixteen]
    rfl
  · cases read

/-- A word, two bytes and the rest: the RDATA of a DS and of a DNSKEY record. -/
theorem holds_wordBytes {word : UInt16} {b c : UInt8} {rest : List UInt8} {s₁ s₂ s₃ s₄ : Nat}
    (first : (u16At data start : Parser _) s = (.ok word, s₁))
    (second : (byteAt data (start + 2) : Parser _) s₁ = (.ok b, s₂))
    (third : (byteAt data (start + 3) : Parser _) s₂ = (.ok c, s₃))
    (sliced : (slice data (start + 4) stop : Parser _) s₃ = (.ok rest, s₄)) :
    Holds data start (toBe16 word ++ (b :: c :: rest)) ∧
      start + (toBe16 word ++ (b :: c :: rest)).length = stop := by
  obtain ⟨held, size, _⟩ := Holds.of_slice sliced
  have last := (Holds.of_byteAt third).1.append held rfl
  have later := (Holds.of_byteAt second).1.append last rfl
  refine ⟨(Holds.of_u16At first).1.append later rfl, ?_⟩
  rw [List.length_append, toBe16_length, List.length_cons, List.length_cons]
  omega

theorem parseWordBytes_bytes {message : String} {wrap : UInt16 → UInt8 → UInt8 → List UInt8 → RData}
    (same : ∀ word b c rest, (wrap word b c rest).serialize = toBe16 word ++ (b :: c :: rest))
    (read : parseWordBytes data start stop rdlength message wrap start = (.ok rdata, s)) :
    Holds data start rdata.serialize ∧ start + rdata.serialize.length = stop := by
  unfold parseWordBytes at read
  split at read
  · cases read
  obtain ⟨word, _, first, read⟩ := Prog.bind_eq_ok.mp read
  obtain ⟨b, _, second, read⟩ := Prog.bind_eq_ok.mp read
  obtain ⟨c, _, third, read⟩ := Prog.bind_eq_ok.mp read
  obtain ⟨rest, _, sliced, read⟩ := Prog.bind_eq_ok.mp read
  cases read
  rw [same]
  exact holds_wordBytes first second third sliced

theorem parseRaw_bytes {wrap : List UInt8 → RData} (same : ∀ raw, (wrap raw).serialize = raw)
    (read : parseRaw data start stop wrap start = (.ok rdata, s)) :
    Holds data start rdata.serialize ∧ start + rdata.serialize.length = stop := by
  obtain ⟨raw, _, sliced, read⟩ := Prog.bind_eq_ok.mp read
  cases read
  obtain ⟨held, size, _⟩ := Holds.of_slice sliced
  rw [same]
  exact ⟨held, size⟩

/-- The strings that the TXT loop has passed stand in the buffer, each behind its length. -/
theorem parts_of_loop {fuel pos : Nat} {before texts : List String} {s' : Nat} (ordered : pos ≤ stop)
    (read : Prog.loop (txtStep data stop) fuel (pos, before) s = (.ok texts, s')) :
    ∃ parts : List (List UInt8), (∀ part ∈ parts, part.length ≤ 255) ∧ Holds data pos (parts.flatMap partWire) ∧
      pos + (parts.flatMap partWire).length = stop ∧ texts = before ++ parts.map fromUtf8Lossy := by
  induction fuel generalizing pos before s with
  | zero => cases read
  | succ fuel ih =>
    obtain ⟨next, s₁, step, read⟩ := Prog.bind_eq_ok.mp read
    unfold txtStep at step
    split at step
    · obtain ⟨octet, _, first, step⟩ := Prog.bind_eq_ok.mp step
      dsimp only at step
      split at step
      · cases step
      rename_i fits
      obtain ⟨part, _, sliced, step⟩ := Prog.bind_eq_ok.mp step
      cases step
      obtain ⟨held, size, _⟩ := Holds.of_slice sliced
      have bound := octet.toNat_lt
      have length : part.length = octet.toNat := by omega
      obtain ⟨parts, short, rest, whole, back⟩ := ih (by omega) read
      have wire : partWire part = [octet] ++ part := by
        rw [partWire, length, UInt8.ofNat_toNat]
        rfl
      have own := (Holds.of_byteAt first).1.append held rfl
      rw [← wire] at own
      refine ⟨part :: parts, List.forall_mem_cons.mpr ⟨by omega, short⟩, ?_, ?_, ?_⟩
      · rw [List.flatMap_cons]
        exact own.append rest (by rw [partWire_length, length]; omega)
      · rw [List.flatMap_cons, List.length_append, partWire_length, length]
        omega
      · rw [back, List.append_assoc]
        rfl
    · cases step
      cases read
      rename_i done
      dsimp only at done
      exact ⟨[], fun part member => absurd member List.not_mem_nil, List.nil_prefix, by simp; omega, by simp⟩

theorem parseTXT_bytes (ordered : start ≤ stop) (read : parseTXT data start stop start = (.ok rdata, s)) :
    ∃ parts : List (List UInt8), (∀ part ∈ parts, part.length ≤ 255) ∧ Holds data start (parts.flatMap partWire) ∧
      start + (parts.flatMap partWire).length = stop ∧ rdata = .TXT (parts.map fromUtf8Lossy) := by
  obtain ⟨texts, _, looped, read⟩ := Prog.bind_eq_ok.mp read
  cases read
  obtain ⟨parts, short, held, size, back⟩ := parts_of_loop ordered looped
  exact ⟨parts, short, held, size, congrArg RData.TXT back⟩

end Arms

section Texts

/-- A text that was decoded is written in at least as many bytes as it was read from. -/
theorem length_partWire_le (part : List UInt8) :
    (partWire part).length ≤ (textWire (fromUtf8Lossy part)).length := by
  have longer := length_le_fromUtf8Lossy part
  have some := textParts_ne_nil (fromUtf8Lossy part)
  rw [textWire_eq, flatMap_partWire_length, textParts_flatten, partWire_length, ← byteLen]
  omega

theorem textWire_fromUtf8Lossy_iff {part : List UInt8} (short : part.length ≤ 255) :
    textWire (fromUtf8Lossy part) = partWire part ↔ IsUtf8 part := by
  rw [← asBytes_fromUtf8Lossy_iff]
  constructor
  · intro same
    -- of the same length, the text takes one chunk
    have size := congrArg List.length same
    have longer := length_le_fromUtf8Lossy part
    have some := textParts_ne_nil (fromUtf8Lossy part)
    rw [textWire_eq, flatMap_partWire_length, textParts_flatten, partWire_length, ← byteLen] at size
    rw [textWire_eq, textParts_short (by omega), List.flatMap_singleton] at same
    exact (List.cons.inj same).2
  · intro same
    have fits : byteLen (fromUtf8Lossy part) ≤ 255 := by rwa [byteLen, same]
    rw [textWire_eq, textParts_short fits, List.flatMap_singleton, same]

theorem flatMap_textWire_length (parts : List (List UInt8)) :
    (parts.flatMap partWire).length ≤ (parts.flatMap fun part => textWire (fromUtf8Lossy part)).length := by
  induction parts with
  | nil => exact le_rfl
  | cons part parts ih =>
    have own := length_partWire_le part
    simp only [List.flatMap_cons, List.length_append]
    omega

/-- The strings are written again as they were read exactly when each of them is UTF-8. No string gets
shorter, so that none can make up for another. -/
theorem flatMap_textWire_iff {parts : List (List UInt8)} (short : ∀ part ∈ parts, part.length ≤ 255) :
    (parts.flatMap fun part => textWire (fromUtf8Lossy part)) = parts.flatMap partWire ↔
      ∀ part ∈ parts, IsUtf8 part := by
  induction parts with
  | nil => exact iff_of_true rfl fun part member => absurd member List.not_mem_nil
  | cons part parts ih =>
    obtain ⟨fits, rest⟩ := List.forall_mem_cons.mp short
    rw [List.flatMap_cons, List.flatMap_cons, List.forall_mem_cons, ← ih rest, ← textWire_fromUtf8Lossy_iff fits]
    constructor
    · intro same
      have own := length_partWire_le part
      have others := flatMap_textWire_length parts
      have whole := congrArg List.length same
      rw [List.length_append, List.length_append] at whole
      exact List.append_inj same (by omega)
    · rintro ⟨first, later⟩
      rw [first, later]

theorem flatMap_partWire_inj {parts parts' : List (List UInt8)} (short : ∀ part ∈ parts, part.length ≤ 255)
    (short' : ∀ part ∈ parts', part.length ≤ 255) (same : parts.flatMap partWire = parts'.flatMap partWire) :
    parts = parts' := by
  induction parts generalizing parts' with
  | nil =>
    cases parts' with
    | nil => rfl
    | cons part' parts' => cases same
  | cons part parts ih =>
    cases parts' with
    | nil => cases same
    | cons part' parts' =>
      obtain ⟨fits, rest⟩ := List.forall_mem_cons.mp short
      obtain ⟨fits', rest'⟩ := List.forall_mem_cons.mp short'
      rw [List.flatMap_cons, List.flatMap_cons, partWire, partWire, List.cons_append, List.cons_append,
        List.cons.injEq, ← UInt8.toNat_inj, UInt8.toNat_ofNat', UInt8.toNat_ofNat'] at same
      obtain ⟨size, same⟩ := same
      obtain ⟨own, others⟩ := List.append_inj same (by omega)
      rw [own, ih rest rest' others]

end Texts

/-- The bytes are strings of at most 255 bytes, each behind its length, and each of them is UTF-8. -/
def TextsUtf8 (bytes : List UInt8) : Prop :=
  ∃ parts : List (List UInt8), parts.flatMap partWire = bytes ∧ ∀ part ∈ parts, part.length ≤ 255 ∧ IsUtf8 part

/-- The variants that hold no text are written again byte for byte. -/
theorem serialize_parse {recordType : RecordType} {data : List UInt8} {rdlength : UInt16} {o s : Nat}
    {rdata : RData} (nameless : recordType.Nameless) (notText : recordType ≠ .TXT)
    (read : parse recordType data rdlength o = (.ok rdata, s)) :
    rdata.serialize = (data.drop o).take rdlength.toNat := by
  have fits := parse_fits read
  suffices written : Holds data o rdata.serialize ∧ o + rdata.serialize.length = o + rdlength.toNat by
    rw [← Nat.add_left_cancel written.2]
    exact written.1.take.symm
  change (if o + rdlength.toNat > data.length then _ else _ : Parser RData) o = _ at read
  rw [if_neg (by omega)] at read
  cases recordType with
  | A => exact parseA_bytes rfl read
  | AAAA => exact parseAAAA_bytes rfl read
  | DS | DNSKEY => exact parseWordBytes_bytes (fun _ _ _ _ => rfl) read
  | OPT => exact parseRaw_bytes (fun _ => rfl) read
  | Unknown => exact parseRaw_bytes (fun _ => rfl) read
  | TXT => exact absurd rfl notText
  | _ => exact nameless.elim

/-- RDATA that holds no name is written again byte for byte after it was read, except for the strings of a
TXT record that are not UTF-8. -/
theorem serialize_parse_iff {recordType : RecordType} {data : List UInt8} {rdlength : UInt16} {o s : Nat}
    {rdata : RData} (nameless : recordType.Nameless)
    (read : parse recordType data rdlength o = (.ok rdata, s)) :
    rdata.serialize = (data.drop o).take rdlength.toNat ↔
      (recordType = .TXT → TextsUtf8 ((data.drop o).take rdlength.toNat)) := by
  by_cases text : recordType = .TXT
  · subst text
    have fits := parse_fits read
    change (if o + rdlength.toNat > data.length then _ else _ : Parser RData) o = _ at read
    rw [if_neg (by omega)] at read
    obtain ⟨parts, short, held, size, rfl⟩ := parseTXT_bytes (Nat.le_add_right _ _) read
    rw [← Nat.add_left_cancel size, held.take, serialize, List.flatMap_map, flatMap_textWire_iff short]
    constructor
    · exact fun utf8 _ => ⟨parts, rfl, fun part member => ⟨short part member, utf8 part member⟩⟩
    · intro texts
      obtain ⟨parts', same, each⟩ := texts rfl
      rw [← flatMap_partWire_inj (fun part member => (each part member).1) short same]
      exact fun part member => (each part member).2
  · exact iff_of_true (serialize_parse nameless text read) fun same => absurd same text

def greeting : List UInt8 := [2, 0x68, 0x69]

theorem serialize_parse_iff_greeting : (RData.TXT ["hi"]).serialize = (greeting.drop 0).take (3 : UInt16).toNat ↔
    (RecordType.TXT = .TXT → TextsUtf8 ((greeting.drop 0).take (3 : UInt16).toNat)) := by
  have read : parse .TXT greeting 3 0 = (.ok (.TXT ["hi"]), 3) := by decide +kernel
  have nameless : RecordType.TXT.Nameless := trivial
  exact serialize_parse_iff nameless read

/-- One byte that is no text is written as the three bytes of its replacement. -/
theorem parse_malformedText_grows : ∃ rdata, parse .TXT [1, 0x80] 2 0 = (.ok rdata, 2) ∧
    rdata.serialize = [3, 0xEF, 0xBF, 0xBD] ∧ rdata.serialize ≠ [1, 0x80] :=
  ⟨.TXT [fromUtf8Lossy [0x80]], by decide +kernel, by decide +kernel, by decide +kernel⟩

end RData

end DnsServer
