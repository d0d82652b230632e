import DnsServer.Dns.Message
import DnsServer.Dns.NameWire

namespace DnsServer

open Bytes Utf8

namespace RData

/-- The variant that `RData::parse` builds for the record type. -/
def Selected : RecordType → RData → Bool
  | .A, .A _ => true
  | .AAAA, .AAAA _ => true
  | .CNAME, .CNAME _ => true
  | .MX, .MX _ _ => true
  | .TXT, .TXT _ => true
  | .NS, .NS _ => true
  | .SOA, .SOA _ _ _ _ _ _ _ => true
  | .SRV, .SRV _ _ _ _ => true
  | .PTR, .PTR _ => true
  | .DS, .DS _ _ _ _ => true
  | .DNSKEY, .DNSKEY _ _ _ _ => true
  | .RRSIG, .RRSIG _ _ _ _ _ _ _ _ _ => true
  | .NSEC, .NSEC _ _ => true
  | .OPT, .OPT _ => true
  | .Unknown _, .Unknown _ => true
  | _, _ => false

/-- Names, texts, digests and keys that the reader gives back as they were written. -/
def Plain : RData → Prop
  | .A _ => True
  | .AAAA _ => True
  | .CNAME name => name.Plain
  | .MX _ exchange => exchange.Plain
  | .TXT texts => ∀ text ∈ texts, Ascii text ∧ byteLen text ≤ 255
  | .NS name => name.Plain
  | .SOA mname rname _ _ _ _ _ => mname.Plain ∧ rname.Plain
  | .SRV _ _ _ target => target.Plain
  | .PTR name => name.Plain
  | .DS _ _ _ digest => digest ≠ []
  | .DNSKEY _ _ _ publicKey => publicKey ≠ []
  | .RRSIG typeCovered _ _ _ _ _ _ signerName _ => typeCovered.Canonical ∧ signerName.Plain
  | .NSEC nextDomain _ => nextDomain.Plain
  | .OPT _ => True
  | .Unknown _ => True

instance : (rdata : RData) → Decidable rdata.Plain
  | .A _ => isTrue trivial
  | .AAAA _ => isTrue trivial
  | .CNAME name => inferInstanceAs (Decidable name.Plain)
  | .MX _ exchange => inferInstanceAs (Decidable exchange.Plain)
  | .TXT texts => inferInstanceAs (Decidable (∀ text ∈ texts, Ascii text ∧ byteLen text ≤ 255))
  | .NS name => inferInstanceAs (Decidable name.Plain)
  | .SOA mname rname _ _ _ _ _ => inferInstanceAs (Decidable (mname.Plain ∧ rname.Plain))
  | .SRV _ _ _ target => inferInstanceAs (Decidable target.Plain)
  | .PTR name => inferInstanceAs (Decidable name.Plain)
  | .DS _ _ _ digest => inferInstanceAs (Decidable (digest ≠ []))
  | .DNSKEY _ _ _ publicKey => inferInstanceAs (Decidable (publicKey ≠ []))
  | .RRSIG typeCovered _ _ _ _ _ _ signerName _ =>
    inferInstanceAs (Decidable (typeCovered.Canonical ∧ signerName.Plain))
  | .NSEC nextDomain _ => inferInstanceAs (Decidable nextDomain.Plain)
  | .OPT _ => isTrue trivial
  | .Unknown _ => isTrue trivial

/-- The names that stand in RDATA. -/
def names : RData → List DnsName
  | .CNAME name => [name]
  | .MX _ exchange => [exchange]
  | .NS name => [name]
  | .SOA mname rname _ _ _ _ _ => [mname, rname]
  | .SRV _ _ _ target => [target]
  | .PTR name => [name]
  | .RRSIG _ _ _ _ _ _ _ signerName _ => [signerName]
  | .NSEC nextDomain _ => [nextDomain]
  | _ => []

/-- The RDATA is as long as its reader demands, and its type codes have no second form. -/
def Filled : RData → Prop
  | .DS _ _ _ digest => digest ≠ []
  | .DNSKEY _ _ _ publicKey => publicKey ≠ []
  | .RRSIG typeCovered _ _ _ _ _ _ _ _ => typeCovered.Canonical
  | _ => True

/-- Names, digests and keys that the reader gives back as they were written. -/
structure Readable (rdata : RData) : Prop where
  names : ∀ name ∈ rdata.names, name.Readable
  filled : rdata.Filled

/-- The chunks that one text of a TXT record is written in. -/
def textParts (text : String) : List (List UInt8) :=
  let bytes := asBytes text
  chunks 255 bytes.length bytes ++ if bytes.isEmpty then [[]] else []

def partWire (part : List UInt8) : List UInt8 := UInt8.ofNat part.length :: part

theorem textWire_eq (text : String) : textWire text = (textParts text).flatMap partWire := by
  unfold textWire textParts
  rw [List.flatMap_append]
  cases asBytes text <;> rfl

theorem chunks_length {part : List UInt8} : ∀ {fuel : Nat} {bytes : List UInt8}, part ∈ chunks 255 fuel bytes →
    part.length ≤ 255 := by
  intro fuel
  induction fuel with
  | zero => exact fun member => absurd member List.not_mem_nil
  | succ fuel ih =>
    intro bytes member
    unfold chunks at member
    split at member
    · exact absurd member List.not_mem_nil
    rcases List.mem_cons.mp member with rfl | member
    · rw [List.length_take]
      omega
    · exact ih member

theorem textParts_length {text : String} : ∀ part ∈ textParts text, part.length ≤ 255 := by
  intro part member
  rcases List.mem_append.mp member with chunk | empty
  · exact chunks_length chunk
  · split at empty
    · rw [List.mem_singleton.mp empty]
      decide
    · exact absurd empty List.not_mem_nil

theorem textParts_short {text : String} (short : byteLen text ≤ 255) : textParts text = [asBytes text] := by
  unfold textParts
  rcases whole : asBytes text with _ | ⟨b, bytes⟩
  · rfl
  · have size : byteLen text = bytes.length + 1 := by simp [byteLen, whole]
    have take : (b :: bytes).take 255 = b :: bytes := List.take_of_length_le (by simp; omega)
    have drop : (b :: bytes).drop 255 = [] := List.drop_of_length_le (by simp; omega)
    have one : chunks 255 (b :: bytes).length (b :: bytes) = [b :: bytes] := by
      rw [List.length_cons, chunks, take, drop]
      cases bytes <;> rfl
    dsimp only
    rw [one]
    rfl

/-- Text that does not fit in one chunk is written in several. -/
theorem textParts_long {text : String} (long : 255 < byteLen text) : 2 ≤ (textParts text).length := by
  unfold textParts
  rcases whole : asBytes text with _ | ⟨b, bytes⟩
  · rw [byteLen, whole] at long
    exact absurd long (by decide)
  · have size : byteLen text = bytes.length + 1 := by simp [byteLen, whole]
    obtain ⟨fuel, rest⟩ : ∃ fuel, bytes.length = fuel + 1 := ⟨bytes.length - 1, by omega⟩
    have more : ((b :: bytes).drop 255).isEmpty = false := by
      rw [List.isEmpty_eq_false_iff, ← List.length_pos_iff, List.length_drop, List.length_cons]
      omega
    dsimp only
    rw [List.length_cons, chunks, rest, chunks, more]
    simp only [List.isEmpty_cons, Bool.false_eq_true, if_false, List.length_append, List.length_cons]
    omega

theorem textParts_ne_nil (text : String) : 1 ≤ (textParts text).length := by
  rcases Nat.lt_or_ge 255 (byteLen text) with long | short
  · exact (textParts_long long).trans' (by decide)
  · rw [textParts_short short]
    exact le_rfl

/-- What the reader makes of texts that were written: each chunk is a text. -/
def rereadTexts (texts : List String) : List String :=
  texts.flatMap fun text => (textParts text).map fromUtf8Lossy

theorem length_le_rereadTexts (texts : List String) : texts.length ≤ (rereadTexts texts).length := by
  unfold rereadTexts
  induction texts with
  | nil => exact le_rfl
  | cons text texts ih =>
    have one := textParts_ne_nil text
    rw [List.flatMap_cons, List.length_append, List.length_map, List.length_cons]
    omega

/-- The texts come back the same exactly when each of them fits in one chunk. -/
theorem rereadTexts_eq_iff {texts : List String} :
    rereadTexts texts = texts ↔ ∀ text ∈ texts, byteLen text ≤ 255 := by
  induction texts with
  | nil => exact iff_of_true rfl fun _ member => absurd member List.not_mem_nil
  | cons text texts ih =>
    rw [List.forall_mem_cons, rereadTexts, List.flatMap_cons, ← rereadTexts]
    rcases Nat.lt_or_ge 255 (byteLen text) with long | short
    · refine iff_of_false (fun same => ?_) fun fits => absurd fits.1 (by omega)
      have two := textParts_long long
      have rest := length_le_rereadTexts texts
      have sizes := congrArg List.length same
      rw [List.length_append, List.length_map, List.length_cons] at sizes
      omega
    · rw [textParts_short short, List.map_singleton, fromUtf8Lossy_asBytes, List.singleton_append,
        List.cons.injEq]
      exact ⟨fun same => ⟨short, ih.mp same.2⟩, fun fits => ⟨rfl, ih.mpr fits.2⟩⟩

def reread : RData → RData
  | .TXT texts => .TXT (rereadTexts texts)
  | rdata => rdata

/-- All texts of a TXT record fit in one chunk. -/
def TextsFit : RData → Prop
  | .TXT texts => ∀ text ∈ texts, byteLen text ≤ 255
  | _ => True

theorem reread_eq_iff {rdata : RData} : rdata.reread = rdata ↔ rdata.TextsFit := by
  cases rdata with
  | TXT texts =>
    unfold reread
    rw [RData.TXT.injEq]
    exact rereadTexts_eq_iff
  | _ => exact iff_of_true rfl trivial

theorem Plain.readable {rdata : RData} (plain : rdata.Plain) : rdata.Readable := by
  constructor
  · intro name member
    cases rdata <;> simp only [names, List.mem_cons, List.not_mem_nil, or_false] at member
    all_goals grind [Plain, DnsName.Plain.readable]
  · cases rdata <;> simp_all [Plain, Filled]

theorem Plain.textsFit {rdata : RData} (plain : rdata.Plain) : rdata.TextsFit := by
  cases rdata with
  | TXT texts => exact fun text member => (plain text member).2
  | _ => trivial

section Arms

variable {data : List UInt8} {o : Nat}

theorem partWire_length (part : List UInt8) : (partWire part).length = 1 + part.length := by
  rw [partWire, List.length_cons]
  omega

/-- The rounds of the TXT loop over chunks of at most 255 bytes. -/
theorem loop_parts {parts : List (List UInt8)} {before : List String} {pos stop fuel s : Nat}
    (short : ∀ part ∈ parts, part.length ≤ 255) (held : Holds data pos (parts.flatMap partWire))
    (ends : stop = pos + (parts.flatMap partWire).length) (inside : stop ≤ data.length)
    (enough : parts.length < fuel) :
    Prog.loop (txtStep data stop) fuel (pos, before) s = (.ok (before ++ parts.map fromUtf8Lossy), s) := by
  induction parts generalizing before pos fuel with
  | nil =>
    obtain ⟨fuel, rfl⟩ : ∃ rest, fuel = rest + 1 := ⟨fuel - 1, by omega⟩
    have stop : txtStep data stop (pos, before) s = (.ok (.inr before), s) := by
      rw [txtStep, if_neg (by simp only [List.flatMap_nil, List.length_nil] at ends; omega)]
      rfl
    rw [Prog.loop, Prog.bind_ok stop, List.map_nil, List.append_nil]
    rfl
  | cons part parts ih =>
    obtain ⟨fuel, rfl⟩ : ∃ rest, fuel = rest + 1 := ⟨fuel - 1, by omega⟩
    have fits := short part List.mem_cons_self
    rw [List.flatMap_cons] at held ends
    rw [List.length_append, partWire_length] at ends
    obtain ⟨first, rest⟩ := Holds.append_iff.mp held
    obtain ⟨head, body⟩ := Holds.cons_iff.mp first
    rw [partWire_length] at rest
    have octet : (UInt8.ofNat part.length).toNat = part.length := by
      rw [UInt8.toNat_ofNat']
      omega
    have step : txtStep data stop (pos, before) s =
        (.ok (.inl (pos + (1 + part.length), before ++ [fromUtf8Lossy part])), s) := by
      rw [txtStep, if_pos (by simp only; omega), Prog.bind_ok (head.byte s), octet]
      change (if pos + 1 + part.length > stop then _ else _ : Parser _) s = _
      rw [if_neg (by omega), Prog.bind_ok (body.bytes rfl (by omega) s), Nat.add_assoc]
      rfl
    rw [Prog.loop, Prog.bind_ok step]
    dsimp only
    rw [ih (fun part member => short part (List.mem_cons_of_mem _ member)) rest (by omega)
      (by simpa using enough), List.append_assoc]
    rfl

theorem parts_length_le (parts : List (List UInt8)) : parts.length ≤ (parts.flatMap partWire).length := by
  induction parts with
  | nil => exact le_rfl
  | cons part parts ih =>
    simp only [List.length_cons, List.flatMap_cons, List.length_append, partWire_length]
    omega

/-- The length field of RDATA that fits in it. -/
theorem rdlength_toNat {rdata : RData} (short : rdata.serialize.length ≤ 65535) :
    (UInt16.ofNat rdata.serialize.length).toNat = rdata.serialize.length := by
  rw [UInt16.toNat_ofNat']
  omega

theorem parseA_serialize {addr : Ipv4Addr} (held : Holds data o (RData.A addr).serialize) (stop : Nat) :
    parseA data o stop 4 o = (.ok (.A addr), stop) := by
  obtain ⟨first, held⟩ := Holds.cons_iff.mp held
  obtain ⟨second, held⟩ := Holds.cons_iff.mp held
  obtain ⟨third, fourth⟩ := Holds.cons_iff.mp held
  rw [parseA, if_neg (by decide), Prog.bind_ok (first.byte o), Prog.bind_ok (second.byte o),
    Prog.bind_ok (third.byte o), Prog.bind_ok (fourth.byte o)]
  rfl

theorem parseAAAA_serialize {addr : Ipv6Addr} (held : Holds data o (RData.AAAA addr).serialize)
    (inside : o + 16 ≤ data.length) (stop : Nat) :
    parseAAAA data o stop 16 o = (.ok (.AAAA addr), stop) := by
  have bytes : (slice data o (o + 16) : Parser _) o = (.ok addr.octets, o) :=
    Holds.bytes held (by rw [serialize, addr.octets_length]) inside o
  rw [parseAAAA, if_neg (by decide), Prog.bind_ok bytes, dif_pos addr.octets_length]
  rfl

theorem parseSingleName_serialize {name : DnsName} (readable : name.Readable)
    (held : Holds data o name.toWire) (wrap : DnsName → RData) (stop : Nat) :
    parseSingleName data stop wrap o = (.ok (wrap name), stop) := by
  rw [parseSingleName, Prog.bind_ok (DnsName.parse_toWire readable held)]
  rfl

theorem parseMX_serialize {preference : UInt16} {exchange : DnsName} {rdlength : UInt16}
    (readable : exchange.Readable) (held : Holds data o (RData.MX preference exchange).serialize)
    (long : 3 ≤ rdlength.toNat) (stop : Nat) :
    parseMX data o stop rdlength o = (.ok (.MX preference exchange), stop) := by
  obtain ⟨first, name⟩ := Holds.u16_append_iff.mp held
  have notShort : ¬rdlength < 3 := by
    simp only [UInt16.lt_iff_toNat_lt, UInt16.reduceToNat]
    omega
  have seeked : seek (o + 2) o = (.ok (), o + 2) := rfl
  rw [parseMX, if_neg notShort, Prog.bind_ok (first.u16 o), Prog.bind_ok seeked,
    Prog.bind_ok (DnsName.parse_toWire readable name)]
  rfl

theorem parseTXT_serialize {texts : List String} {stop : Nat}
    (held : Holds data o (RData.TXT texts).serialize) (ends : stop = o + (RData.TXT texts).serialize.length)
    (inside : stop ≤ data.length) : parseTXT data o stop o = (.ok (.TXT (rereadTexts texts)), stop) := by
  have wire : (RData.TXT texts).serialize = (texts.flatMap textParts).flatMap partWire := by
    rw [serialize, List.flatMap_assoc]
    exact List.flatMap_congr fun text _ => textWire_eq text
  have back : (texts.flatMap textParts).map fromUtf8Lossy = rereadTexts texts := List.map_flatMap
  have short : ∀ part ∈ texts.flatMap textParts, part.length ≤ 255 := by
    intro part member
    obtain ⟨text, _, within⟩ := List.mem_flatMap.mp member
    exact textParts_length part within
  have count := parts_length_le (texts.flatMap textParts)
  rw [wire] at held ends
  have enough : (texts.flatMap textParts).length < stop - o + 1 := by omega
  have read : Prog.loop (txtStep data stop) (stop - o + 1) (o, []) o = (.ok ([] ++ _), o) :=
    loop_parts short held ends inside enough
  rw [List.nil_append, back] at read
  rw [parseTXT, Prog.bind_ok read]
  rfl

theorem parseSOA_serialize {mname rname : DnsName} {serial refresh retry expire minimum : UInt32}
    {stop : Nat} (primary : mname.Readable) (mailbox : rname.Readable)
    (held : Holds data o (RData.SOA mname rname serial refresh retry expire minimum).serialize)
    (ends : stop = o + (RData.SOA mname rname serial refresh retry expire minimum).serialize.length) :
    parseSOA data stop o = (.ok (.SOA mname rname serial refresh retry expire minimum), stop) := by
  obtain ⟨first, held⟩ := Holds.append_iff.mp held
  obtain ⟨second, held⟩ := Holds.append_iff.mp held
  obtain ⟨serialHeld, held⟩ := Holds.u32_append_iff.mp held
  obtain ⟨refreshHeld, held⟩ := Holds.u32_append_iff.mp held
  obtain ⟨retryHeld, held⟩ := Holds.u32_append_iff.mp held
  obtain ⟨expireHeld, minimumHeld⟩ := Holds.u32_append_iff.mp held
  have located : ∀ s, position s = (.ok s, s) := fun _ => rfl
  simp only [serialize, List.length_append, toBe32_length] at ends
  rw [parseSOA, Prog.bind_ok (DnsName.parse_toWire primary first),
    Prog.bind_ok (DnsName.parse_toWire mailbox second), Prog.bind_ok (located _), if_neg (by omega),
    Prog.bind_ok (serialHeld.u32 _), Prog.bind_ok (refreshHeld.u32 _),
    Prog.bind_ok (retryHeld.u32 _), Prog.bind_ok (expireHeld.u32 _),
    Prog.bind_ok (minimumHeld.u32 _)]
  rfl

theorem parseSRV_serialize {priority weight port rdlength : UInt16} {target : DnsName}
    (readable : target.Readable) (held : Holds data o (RData.SRV priority weight port target).serialize)
    (long : 7 ≤ rdlength.toNat) (stop : Nat) :
    parseSRV data o stop rdlength o = (.ok (.SRV priority weight port target), stop) := by
  obtain ⟨first, held⟩ := Holds.u16_append_iff.mp held
  obtain ⟨second, held⟩ := Holds.u16_append_iff.mp held
  obtain ⟨third, name⟩ := Holds.u16_append_iff.mp held
  have notShort : ¬rdlength < 7 := by
    simp only [UInt16.lt_iff_toNat_lt, UInt16.reduceToNat]
    omega
  have seeked : seek (o + 6) o = (.ok (), o + 6) := rfl
  rw [parseSRV, if_neg notShort, Prog.bind_ok (first.u16 o), Prog.bind_ok (second.u16 o),
    Prog.bind_ok (third.u16 o), Prog.bind_ok seeked, Prog.bind_ok (DnsName.parse_toWire readable name)]
  rfl

theorem parseWordBytes_held {word rdlength : UInt16} {b c : UInt8} {rest : List UInt8} {stop : Nat}
    {message : String} {wrap : UInt16 → UInt8 → UInt8 → List UInt8 → RData}
    (held : Holds data o (toBe16 word ++ (b :: c :: rest)))
    (ends : stop = o + (toBe16 word ++ (b :: c :: rest)).length) (inside : stop ≤ data.length)
    (long : 5 ≤ rdlength.toNat) :
    parseWordBytes data o stop rdlength message wrap o = (.ok (wrap word b c rest), stop) := by
  obtain ⟨first, held⟩ := Holds.u16_append_iff.mp held
  obtain ⟨second, held⟩ := Holds.cons_iff.mp held
  obtain ⟨third, behind⟩ := Holds.cons_iff.mp held
  have notShort : ¬rdlength < 5 := by
    simp only [UInt16.lt_iff_toNat_lt, UInt16.reduceToNat]
    omega
  simp only [List.length_append, toBe16_length, List.length_cons] at ends
  rw [parseWordBytes, if_neg notShort, Prog.bind_ok (first.u16 o), Prog.bind_ok (second.byte o),
    Prog.bind_ok (third.byte o), Prog.bind_ok (behind.bytes (by omega) inside o)]
  rfl

theorem parseRRSIG_serialize {typeCovered : RecordType} {algorithm labels : UInt8}
    {originalTtl signatureExpiration signatureInception : UInt32} {keyTag rdlength : UInt16}
    {signerName : DnsName} {signature : List UInt8} {stop : Nat}
    (canonical : typeCovered.Canonical) (readable : signerName.Readable)
    (held : Holds data o (RData.RRSIG typeCovered algorithm labels originalTtl signatureExpiration
      signatureInception keyTag signerName signature).serialize)
    (ends : stop = o + (RData.RRSIG typeCovered algorithm labels originalTtl signatureExpiration
      signatureInception keyTag signerName signature).serialize.length)
    (inside : stop ≤ data.length) (long : 19 ≤ rdlength.toNat) :
    parseRRSIG data o stop rdlength o = (.ok (.RRSIG typeCovered algorithm labels originalTtl
      signatureExpiration signatureInception keyTag signerName signature), stop) := by
  obtain ⟨first, held⟩ := Holds.u16_append_iff.mp held
  obtain ⟨second, held⟩ := Holds.cons_iff.mp held
  obtain ⟨third, held⟩ := Holds.cons_iff.mp held
  obtain ⟨ttlHeld, held⟩ := Holds.u32_append_iff.mp held
  obtain ⟨expirationHeld, held⟩ := Holds.u32_append_iff.mp held
  obtain ⟨inceptionHeld, held⟩ := Holds.u32_append_iff.mp held
  obtain ⟨tagHeld, held⟩ := Holds.u16_append_iff.mp held
  obtain ⟨name, rest⟩ := Holds.append_iff.mp held
  have notShort : ¬rdlength < 19 := by
    simp only [UInt16.lt_iff_toNat_lt, UInt16.reduceToNat]
    omega
  have seeked : seek (o + 18) o = (.ok (), o + 18) := rfl
  have located : ∀ s, position s = (.ok s, s) := fun _ => rfl
  simp only [serialize, List.length_append, toBe16_length, toBe32_length, List.length_cons] at ends
  rw [parseRRSIG, if_neg notShort, Prog.bind_ok (first.u16 o), Prog.bind_ok (second.byte o),
    Prog.bind_ok (third.byte o), Prog.bind_ok (ttlHeld.u32 o), Prog.bind_ok (expirationHeld.u32 o),
    Prog.bind_ok (inceptionHeld.u32 o), Prog.bind_ok (tagHeld.u16 o), Prog.bind_ok seeked,
    Prog.bind_ok (DnsName.parse_toWire readable name), Prog.bind_ok (located _),
    Prog.bind_ok (rest.bytes (by omega) inside _), RecordType.fromU16_toU16 canonical]
  rfl

theorem parseNSEC_serialize {nextDomain : DnsName} {typeBitmaps : List UInt8} {stop : Nat}
    (readable : nextDomain.Readable) (held : Holds data o (RData.NSEC nextDomain typeBitmaps).serialize)
    (ends : stop = o + (RData.NSEC nextDomain typeBitmaps).serialize.length)
    (inside : stop ≤ data.length) :
    parseNSEC data stop o = (.ok (.NSEC nextDomain typeBitmaps), stop) := by
  obtain ⟨name, rest⟩ := Holds.append_iff.mp held
  have located : ∀ s, position s = (.ok s, s) := fun _ => rfl
  simp only [serialize, List.length_append] at ends
  rw [parseNSEC, Prog.bind_ok (DnsName.parse_toWire readable name), Prog.bind_ok (located _),
    Prog.bind_ok (rest.bytes (by omega) inside _)]
  rfl

theorem parseRaw_serialize {raw : List UInt8} {stop : Nat} (held : Holds data o raw)
    (ends : stop = o + raw.length) (inside : stop ≤ data.length) (wrap : List UInt8 → RData) :
    parseRaw data o stop wrap o = (.ok (wrap raw), stop) := by
  rw [parseRaw, Prog.bind_ok (held.bytes ends inside o)]
  rfl

end Arms

/-- Readable RDATA is read back wherever the buffer holds its serialisation. -/
theorem parse_held {data : List UInt8} {recordType : RecordType} {rdata : RData} {o : Nat}
    (selected : Selected recordType rdata) (readable : rdata.Readable)
    (short : rdata.serialize.length ≤ 65535) (held : Holds data o rdata.serialize)
    (inside : o + rdata.serialize.length ≤ data.length) :
    parse recordType data (UInt16.ofNat rdata.serialize.length) o =
      (.ok rdata.reread, o + rdata.serialize.length) := by
  have size := rdlength_toNat short
  have filled := readable.filled
  have named := readable.names
  change (if o + (UInt16.ofNat rdata.serialize.length).toNat > data.length then _ else _ : Parser RData) o = _
  rw [size, if_neg (by omega)]
  cases rdata with
  | A addr =>
    cases recordType <;> try cases selected
    exact parseA_serialize held _
  | AAAA addr =>
    cases recordType <;> try cases selected
    simp only [serialize, addr.octets_length] at inside ⊢
    exact parseAAAA_serialize held inside _
  | CNAME name =>
    cases recordType <;> try cases selected
    exact parseSingleName_serialize (named name (List.mem_singleton_self _)) held _ _
  | NS name =>
    cases recordType <;> try cases selected
    exact parseSingleName_serialize (named name (List.mem_singleton_self _)) held _ _
  | PTR name =>
    cases recordType <;> try cases selected
    exact parseSingleName_serialize (named name (List.mem_singleton_self _)) held _ _
  | MX preference exchange =>
    cases recordType <;> try cases selected
    have wire := exchange.toWire_pos
    refine parseMX_serialize (named exchange (List.mem_singleton_self _)) held ?_ _
    rw [size]
    simp only [serialize, List.length_append, toBe16_length]
    omega
  | TXT texts =>
    cases recordType <;> try cases selected
    exact parseTXT_serialize held rfl inside
  | SOA mname rname =>
    cases recordType <;> try cases selected
    exact parseSOA_serialize (named mname List.mem_cons_self)
      (named rname (List.mem_cons_of_mem _ List.mem_cons_self)) held rfl
  | SRV priority weight port target =>
    cases recordType <;> try cases selected
    have wire := target.toWire_pos
    refine parseSRV_serialize (named target (List.mem_singleton_self _)) held ?_ _
    rw [size]
    simp only [serialize, List.length_append, toBe16_length]
    omega
  | DS keyTag algorithm digestType digest =>
    cases recordType <;> try cases selected
    have wire := List.length_pos_of_ne_nil filled
    refine parseWordBytes_held held rfl inside ?_
    rw [size]
    simp only [serialize, List.length_append, List.length_cons, toBe16_length]
    omega
  | DNSKEY flags protocol algorithm publicKey =>
    cases recordType <;> try cases selected
    have wire := List.length_pos_of_ne_nil filled
    refine parseWordBytes_held held rfl inside ?_
    rw [size]
    simp only [serialize, List.length_append, List.length_cons, toBe16_length]
    omega
  | RRSIG typeCovered algorithm labels originalTtl expiration inception keyTag signerName signature =>
    cases recordType <;> try cases selected
    have wire := signerName.toWire_pos
    exact parseRRSIG_serialize filled (named signerName (List.mem_singleton_self _)) held rfl inside (by
      rw [size]
      simp only [serialize, List.length_append, List.length_cons, toBe16_length, toBe32_length]
      omega)
  | NSEC nextDomain =>
    cases recordType <;> try cases selected
    exact parseNSEC_serialize (named nextDomain (List.mem_singleton_self _)) held rfl inside
  | OPT raw =>
    cases recordType <;> try cases selected
    exact parseRaw_serialize held rfl inside _
  | Unknown raw =>
    cases recordType <;> try cases selected
    exact parseRaw_serialize held rfl inside _

end RData

namespace DnsHeader

structure Encodable (header : DnsHeader) : Prop where
  opcode : header.opcode.Canonical
  responseCode : header.responseCode.Canonical

instance (header : DnsHeader) : Decidable header.Encodable :=
  decidable_of_iff (header.opcode.Canonical ∧ header.responseCode.Canonical)
    ⟨fun ⟨opcode, responseCode⟩ => ⟨opcode, responseCode⟩, fun all => ⟨all.opcode, all.responseCode⟩⟩

theorem flags1_bits : ∀ (response authoritative truncated desired : Bool) (code : Fin 16),
    let flags := bit response 0x80 ||| ((UInt8.ofNat code &&& 0x0F) <<< 3) |||
      bit authoritative 0x04 ||| bit truncated 0x02 ||| bit desired 0x01
    (flags &&& 0x80 != 0) = response ∧ (flags >>> 3) &&& 0x0F = UInt8.ofNat code ∧
      (flags &&& 0x04 != 0) = authoritative ∧ (flags &&& 0x02 != 0) = truncated ∧
      (flags &&& 0x01 != 0) = desired := by
  decide +kernel

theorem flags2_bits : ∀ (available authentic disabled : Bool) (code : Fin 16),
    let flags := bit available 0x80 ||| bit authentic 0x20 ||| bit disabled 0x10 |||
      (UInt8.ofNat code &&& 0x0F)
    (flags &&& 0x80 != 0) = available ∧ (flags &&& 0x20 != 0) = authentic ∧
      (flags &&& 0x10 != 0) = disabled ∧ flags &&& 0x0F = UInt8.ofNat code := by
  decide +kernel

theorem exists_nibble {x : UInt8} (small : x.toNat < 16) : ∃ code : Fin 16, x = UInt8.ofNat code :=
  ⟨⟨x.toNat, small⟩, UInt8.ofNat_toNat.symm⟩

/-- What the reader makes of a header that was written: the flags have four bits for either code. -/
def reread (header : DnsHeader) : DnsHeader :=
  { header with
    isResponse := header.flags1 &&& 0x80 != 0
    opcode := OpCode.fromU8 ((header.flags1 >>> 3) &&& 0x0F)
    authoritative := header.flags1 &&& 0x04 != 0
    truncated := header.flags1 &&& 0x02 != 0
    recursionDesired := header.flags1 &&& 0x01 != 0
    recursionAvailable := header.flags2 &&& 0x80 != 0
    authenticData := header.flags2 &&& 0x20 != 0
    checkingDisabled := header.flags2 &&& 0x10 != 0
    responseCode := ResponseCode.fromU8 (header.flags2 &&& 0x0F) }

theorem parse_written {data : List UInt8} {header : DnsHeader} {o : Nat} (held : Holds data o header.serialize) :
    parse data o = (.ok header.reread, o + header.serialize.length) := by
  have fits := held.length_le (by simp [serialize, toBe16])
  obtain ⟨idHeld, held⟩ := Holds.u16_append_iff.mp held
  obtain ⟨firstFlags, held⟩ := Holds.cons_iff.mp held
  obtain ⟨secondFlags, held⟩ := Holds.cons_iff.mp held
  obtain ⟨questions, held⟩ := Holds.u16_append_iff.mp held
  obtain ⟨answers, held⟩ := Holds.u16_append_iff.mp held
  obtain ⟨authorities, additional⟩ := Holds.u16_append_iff.mp held
  have located : position o = (.ok o, o) := rfl
  have seeked : seek (o + 12) o = (.ok (), o + 12) := rfl
  simp only [serialize, List.length_append, List.length_cons, toBe16_length] at fits
  rw [parse, Prog.bind_ok located, if_neg (by omega), Prog.bind_ok (idHeld.u16 o),
    Prog.bind_ok (firstFlags.byte o), Prog.bind_ok (secondFlags.byte o),
    Prog.bind_ok (questions.u16 o), Prog.bind_ok (answers.u16 o), Prog.bind_ok (authorities.u16 o),
    Prog.bind_ok (additional.u16 o), Prog.bind_ok seeked, Prog.pure_apply]
  rfl

theorem Encodable.reread_eq {header : DnsHeader} (encodable : header.Encodable) : header.reread = header := by
  obtain ⟨code, opcode⟩ := exists_nibble encodable.opcode.1
  obtain ⟨rcode, responseCode⟩ := exists_nibble encodable.responseCode.1
  obtain ⟨response, opcodeBits, authoritative, truncated, desired⟩ := flags1_bits header.isResponse
    header.authoritative header.truncated header.recursionDesired code
  obtain ⟨available, authentic, disabled, rcodeBits⟩ := flags2_bits header.recursionAvailable
    header.authenticData header.checkingDisabled rcode
  rw [← opcode] at response opcodeBits authoritative truncated desired
  rw [← responseCode] at available authentic disabled rcodeBits
  simp only [reread, flags1, flags2, response, opcodeBits, authoritative, truncated, desired, available,
    authentic, disabled, rcodeBits, OpCode.fromU8_toU8 encodable.opcode,
    ResponseCode.fromU8_toU8 encodable.responseCode]

theorem parse_held {data : List UInt8} {header : DnsHeader} {o : Nat}
    (encodable : header.Encodable) (held : Holds data o header.serialize) :
    parse data o = (.ok header, o + header.serialize.length) := by
  rw [parse_written held, encodable.reread_eq]

end DnsHeader

namespace DnsQuestion

structure Encodable (question : DnsQuestion) : Prop where
  name : question.name.Plain
  recordType : question.recordType.Canonical
  recordClass : question.recordClass.Canonical

instance (question : DnsQuestion) : Decidable question.Encodable :=
  decidable_of_iff (question.name.Plain ∧ question.recordType.Canonical ∧ question.recordClass.Canonical)
    ⟨fun ⟨name, recordType, recordClass⟩ => ⟨name, recordType, recordClass⟩,
      fun all => ⟨all.name, all.recordType, all.recordClass⟩⟩

/-- The questions that the reader gives back as they were written. -/
structure Readable (question : DnsQuestion) : Prop where
  name : question.name.Readable
  recordType : question.recordType.Canonical
  recordClass : question.recordClass.Canonical

theorem Encodable.readable {question : DnsQuestion} (encodable : question.Encodable) : question.Readable :=
  ⟨encodable.name.readable, encodable.recordType, encodable.recordClass⟩

theorem parse_held {data : List UInt8} {question : DnsQuestion} {o : Nat}
    (readable : question.Readable) (held : Holds data o question.serialize) :
    parse data o = (.ok question, o + question.serialize.length) := by
  have fits := held.length_le (by simp [serialize, toBe16])
  obtain ⟨name, fields⟩ := Holds.append_iff.mp held
  obtain ⟨typeHeld, classHeld⟩ := Holds.u16_append_iff.mp fields
  have located : ∀ s, position s = (.ok s, s) := fun _ => rfl
  simp only [serialize, List.length_append, toBe16_length] at fits ⊢
  rw [parse, Prog.bind_ok (DnsName.parse_toWire readable.name name), Prog.bind_ok (located _),
    if_neg (by omega), Prog.bind_ok (typeHeld.u16 _), Prog.bind_ok (classHeld.u16 _),
    RecordType.fromU16_toU16 readable.recordType, RecordClass.fromU16_toU16 readable.recordClass]
  rfl

end DnsQuestion

namespace DnsRecord

structure Encodable (record : DnsRecord) : Prop where
  name : record.name.Plain
  recordType : record.recordType.Canonical
  recordClass : record.recordClass.Canonical
  selected : RData.Selected record.recordType record.rdata
  rdata : record.rdata.Plain
  short : record.rdata.serialize.length ≤ 65535

instance (record : DnsRecord) : Decidable record.Encodable :=
  decidable_of_iff (record.name.Plain ∧ record.recordType.Canonical ∧ record.recordClass.Canonical ∧
      RData.Selected record.recordType record.rdata ∧ record.rdata.Plain ∧
      record.rdata.serialize.length ≤ 65535)
    ⟨fun ⟨name, recordType, recordClass, selected, rdata, short⟩ =>
        ⟨name, recordType, recordClass, selected, rdata, short⟩,
      fun all => ⟨all.name, all.recordType, all.recordClass, all.selected, all.rdata, all.short⟩⟩

/-- The records that the reader gives back as they were written, up to the chunks of long texts. -/
structure Readable (record : DnsRecord) : Prop where
  name : record.name.Readable
  recordType : record.recordType.Canonical
  recordClass : record.recordClass.Canonical
  selected : RData.Selected record.recordType record.rdata
  rdata : record.rdata.Readable
  short : record.rdata.serialize.length ≤ 65535

theorem Encodable.readable {record : DnsRecord} (encodable : record.Encodable) : record.Readable :=
  ⟨encodable.name.readable, encodable.recordType, encodable.recordClass, encodable.selected,
    encodable.rdata.readable, encodable.short⟩

def reread (record : DnsRecord) : DnsRecord := { record with rdata := record.rdata.reread }

theorem reread_eq_iff {record : DnsRecord} : record.reread = record ↔ record.rdata.TextsFit := by
  obtain ⟨name, recordType, recordClass, ttl, rdata⟩ := record
  simp only [reread, DnsRecord.mk.injEq, true_and]
  exact RData.reread_eq_iff

/-- The fields of a written record are read back, and then its RDATA, which stands behind them. -/
theorem parse_fields {data : List UInt8} {record : DnsRecord} {o : Nat} (named : record.name.Readable)
    (typed : record.recordType.Canonical) (classed : record.recordClass.Canonical)
    (held : Holds data o record.serialize) :
    Holds data (o + record.name.toWire.length + 10) record.rdata.serialize ∧
      parse data o = (RData.parse record.recordType data (UInt16.ofNat record.rdata.serialize.length) >>=
        fun rdata => pure { record with rdata } : Parser DnsRecord) (o + record.name.toWire.length + 10) := by
  have fits := held.length_le (by simp [serialize, toBe16])
  obtain ⟨name, fields⟩ := Holds.append_iff.mp held
  obtain ⟨typeHeld, fields⟩ := Holds.u16_append_iff.mp fields
  obtain ⟨classHeld, fields⟩ := Holds.u16_append_iff.mp fields
  obtain ⟨ttlHeld, fields⟩ := Holds.u32_append_iff.mp fields
  obtain ⟨lengthHeld, rdataHeld⟩ := Holds.u16_append_iff.mp fields
  have located : ∀ s, position s = (.ok s, s) := fun _ => rfl
  have seeked : ∀ s s', seek s s' = (.ok (), s) := fun _ _ => rfl
  simp only [serialize, List.length_append, toBe16_length, toBe32_length] at fits
  refine ⟨rdataHeld, ?_⟩
  rw [parse, Prog.bind_ok (DnsName.parse_toWire named name), Prog.bind_ok (located _),
    if_neg (by omega), Prog.bind_ok (typeHeld.u16 _), Prog.bind_ok (classHeld.u16 _),
    Prog.bind_ok (ttlHeld.u32 _), Prog.bind_ok (lengthHeld.u16 _), Prog.bind_ok (seeked _ _),
    RecordType.fromU16_toU16 typed, RecordClass.fromU16_toU16 classed]

theorem parse_held {data : List UInt8} {record : DnsRecord} {o : Nat}
    (readable : record.Readable) (held : Holds data o record.serialize) :
    parse data o = (.ok record.reread, o + record.serialize.length) := by
  have fits := held.length_le (by simp [serialize, toBe16])
  obtain ⟨rdataHeld, run⟩ := parse_fields readable.name readable.recordType readable.recordClass held
  simp only [serialize, List.length_append, toBe16_length, toBe32_length] at fits ⊢
  have rdata := RData.parse_held readable.selected readable.rdata readable.short rdataHeld (by omega)
  rw [run, Prog.bind_ok rdata]
  refine Prod.ext rfl ?_
  change _ + 10 + _ = _
  omega

end DnsRecord

namespace DnsMessage

theorem parseQuestions_serialize {data : List UInt8} {questions : List DnsQuestion} {o : Nat}
    (readable : ∀ question ∈ questions, question.Readable)
    (held : Holds data o (questions.flatMap DnsQuestion.serialize)) :
    parseQuestions data questions.length o =
      (.ok questions, o + (questions.flatMap DnsQuestion.serialize).length) := by
  induction questions generalizing o with
  | nil => rfl
  | cons question questions ih =>
    obtain ⟨first, rest⟩ := Holds.append_iff.mp held
    have read := DnsQuestion.parse_held (readable question List.mem_cons_self) first
    have tail := ih (fun question member => readable question (List.mem_cons_of_mem _ member)) rest
    rw [List.length_cons, parseQuestions, Prog.bind_ok read, Prog.bind_ok tail, List.flatMap_cons,
      List.length_append, ← Nat.add_assoc]
    rfl

/-- No record of the section is broken, so the loop runs through its whole count. -/
theorem parseSection_serialize {data : List UInt8} {records : List DnsRecord} {o : Nat}
    (readable : ∀ record ∈ records, record.Readable)
    (held : Holds data o (records.flatMap DnsRecord.serialize)) :
    parseSection data records.length o =
      (.ok (records.map DnsRecord.reread), o + (records.flatMap DnsRecord.serialize).length) := by
  induction records generalizing o with
  | nil => rfl
  | cons record records ih =>
    obtain ⟨first, rest⟩ := Holds.append_iff.mp held
    have read := DnsRecord.parse_held (readable record List.mem_cons_self) first
    have tail := ih (fun record member => readable record (List.mem_cons_of_mem _ member)) rest
    rw [List.length_cons, parseSection_read read, Prog.bind_ok tail, List.flatMap_cons,
      List.length_append, ← Nat.add_assoc]
    rfl

/-- The messages whose parts all have a wire form that says everything about them. -/
structure Encodable (message : DnsMessage) : Prop where
  header : message.header.Encodable
  questions : ∀ question ∈ message.questions, question.Encodable
  answers : ∀ record ∈ message.answers, record.Encodable
  authorities : ∀ record ∈ message.authorities, record.Encodable
  additional : ∀ record ∈ message.additional, record.Encodable
  questionCount : message.questions.length ≤ 65535
  answerCount : message.answers.length ≤ 65535
  authorityCount : message.authorities.length ≤ 65535
  additionalCount : message.additional.length ≤ 65535

/-- The messages whose parts are all read back where they stand. -/
structure Readable (message : DnsMessage) : Prop where
  header : message.header.Encodable
  questions : ∀ question ∈ message.questions, question.Readable
  answers : ∀ record ∈ message.answers, record.Readable
  authorities : ∀ record ∈ message.authorities, record.Readable
  additional : ∀ record ∈ message.additional, record.Readable
  questionCount : message.questions.length ≤ 65535
  answerCount : message.answers.length ≤ 65535
  authorityCount : message.authorities.length ≤ 65535
  additionalCount : message.additional.length ≤ 65535

theorem Encodable.readable {message : DnsMessage} (encodable : message.Encodable) : message.Readable where
  header := encodable.header
  questions := fun question member => (encodable.questions question member).readable
  answers := fun record member => (encodable.answers record member).readable
  authorities := fun record member => (encodable.authorities record member).readable
  additional := fun record member => (encodable.additional record member).readable
  questionCount := encodable.questionCount
  answerCount := encodable.answerCount
  authorityCount := encodable.authorityCount
  additionalCount := encodable.additionalCount

def records (message : DnsMessage) : List DnsRecord :=
  message.answers ++ (message.authorities ++ message.additional)

/-- What the reader makes of a message that was written. -/
def reread (message : DnsMessage) : DnsMessage where
  header := message.countedHeader
  questions := message.questions
  answers := message.answers.map DnsRecord.reread
  authorities := message.authorities.map DnsRecord.reread
  additional := message.additional.map DnsRecord.reread

theorem map_reread_eq_iff {records : List DnsRecord} :
    records.map DnsRecord.reread = records ↔ ∀ record ∈ records, record.rdata.TextsFit := by
  simp only [← DnsRecord.reread_eq_iff]
  rw [← List.map_inj_left, List.map_id']

/-- Only the counts change exactly when every text fits in one chunk. -/
theorem reread_eq_iff {message : DnsMessage} : message.reread = { message with header := message.countedHeader } ↔
    ∀ record ∈ message.records, record.rdata.TextsFit := by
  simp only [records, List.forall_mem_append, ← map_reread_eq_iff, reread, DnsMessage.mk.injEq, true_and]

theorem count_toNat {count : Nat} (short : count ≤ 65535) : (UInt16.ofNat count).toNat = count := by
  rw [UInt16.toNat_ofNat']
  omega

/-- What was written is read back, with the counts that the encoder takes from the sections. -/
theorem parse_readable {message : DnsMessage} (readable : message.Readable) :
    parse message.serialize = .ok message.reread := by
  have whole : Holds message.serialize 0 message.serialize := List.prefix_rfl
  obtain ⟨headerHeld, rest⟩ := Holds.append_iff.mp whole
  obtain ⟨questionsHeld, rest⟩ := Holds.append_iff.mp rest
  obtain ⟨answersHeld, rest⟩ := Holds.append_iff.mp rest
  obtain ⟨authoritiesHeld, additionalHeld⟩ := Holds.append_iff.mp rest
  have counted : message.countedHeader.Encodable :=
    ⟨readable.header.opcode, readable.header.responseCode⟩
  have header := DnsHeader.parse_held counted headerHeld
  have questions := parseQuestions_serialize readable.questions questionsHeld
  have answers := parseSection_serialize readable.answers answersHeld
  have authorities := parseSection_serialize readable.authorities authoritiesHeld
  have additional := parseSection_serialize readable.additional additionalHeld
  have questionCount : message.countedHeader.questionCount.toNat = message.questions.length :=
    count_toNat readable.questionCount
  have answerCount : message.countedHeader.answerCount.toNat = message.answers.length :=
    count_toNat readable.answerCount
  have authorityCount : message.countedHeader.authorityCount.toNat = message.authorities.length :=
    count_toNat readable.authorityCount
  have additionalCount : message.countedHeader.additionalCount.toNat = message.additional.length :=
    count_toNat readable.additionalCount
  rw [← questionCount] at questions
  rw [← answerCount] at answers
  rw [← authorityCount] at authorities
  rw [← additionalCount] at additional
  rw [parse, parseFrom, Prog.bind_ok header, Prog.bind_ok questions, Prog.bind_ok answers,
    Prog.bind_ok authorities, Prog.bind_ok additional]
  rfl

theorem Encodable.textsFit {message : DnsMessage} (encodable : message.Encodable) :
    ∀ record ∈ message.records, record.rdata.TextsFit := by
  intro record member
  rcases List.mem_append.mp member with answer | member
  · exact (encodable.answers record answer).rdata.textsFit
  rcases List.mem_append.mp member with authority | extra
  · exact (encodable.authorities record authority).rdata.textsFit
  · exact (encodable.additional record extra).rdata.textsFit

/-- An encodable message comes back with all that it holds, and with the counts of the encoder. -/
theorem parse_encodable {message : DnsMessage} (encodable : message.Encodable) :
    parse message.serialize = .ok { message with header := message.countedHeader } := by
  rw [parse_readable encodable.readable, reread_eq_iff.mpr encodable.textsFit]

/-- Decoding undoes encoding, up to the counts, which say how long the sections are. -/
theorem parse_serialize (message : DnsMessage) (encodable : message.Encodable) :
    parse message.serialize = .ok { message with
      header := { message.header with
        questionCount := UInt16.ofNat message.questions.length
        answerCount := UInt16.ofNat message.answers.length
        authorityCount := UInt16.ofNat message.authorities.length
        additionalCount := UInt16.ofNat message.additional.length } } :=
  parse_encodable encodable

/-- A mail domain's answer: exchange, policy text and signature, with a name server and its address. -/
def mailResponse : DnsMessage :=
  let owner : DnsName := ⟨["example", "com"]⟩
  let server : DnsName := ⟨["ns1", "example", "com"]⟩
  { header := { DnsHeader.newQuery 0x1234 with isResponse := true, responseCode := .unknown 9 }
    questions := [DnsQuestion.new owner .MX]
    answers := [DnsRecord.new owner .MX 300 (.MX 10 ⟨["mail", "example", "com"]⟩),
      DnsRecord.new owner .TXT 300 (.TXT ["v=spf1 -all", ""]),
      DnsRecord.new owner .RRSIG 300 (.RRSIG .MX 8 2 300 1700000000 1600000000 42 owner [1, 2, 3])]
    authorities := [DnsRecord.new owner .NS 3600 (.NS server)]
    additional := [DnsRecord.new server .A 3600 (.A ⟨192, 0, 2, 1⟩),
      DnsRecord.new DnsName.root .OPT 0 (.OPT [])] }

theorem parse_serialize_mailResponse : parse mailResponse.serialize =
    .ok { mailResponse with
      header := { mailResponse.header with
        questionCount := 1
        answerCount := 3
        authorityCount := 1
        additionalCount := 2 } } :=
  parse_serialize mailResponse {
    header := by decide
    questions := by decide +kernel
    answers := by decide +kernel
    authorities := by decide +kernel
    additional := by decide +kernel
    questionCount := by decide
    answerCount := by decide
    authorityCount := by decide
    additionalCount := by decide }

end DnsMessage

end DnsServer
