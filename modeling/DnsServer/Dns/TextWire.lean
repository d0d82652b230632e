import DnsServer.Dns.RoundTrip
import DnsServer.Lib.Utf8Cuts
import Mathlib.Data.List.Forall2

/-! The chunks that the texts of a TXT record are written in. -/

namespace DnsServer

open Bytes Utf8

namespace RData

theorem chunks_flatten {size fuel : Nat} {bytes : List UInt8} (positive : 0 < size)
    (enough : bytes.length ≤ fuel) : (chunks size fuel bytes).flatten = bytes := by
  induction fuel generalizing bytes with
  | zero => exact (List.eq_nil_of_length_eq_zero (by omega)).symm
  | succ fuel ih =>
    cases bytes with
    | nil => rfl
    | cons b bytes =>
      have rest : ((b :: bytes).drop size).length ≤ fuel := by
        rw [List.length_drop]
        simp only [List.length_cons] at enough ⊢
        omega
      change ((b :: bytes).take size :: chunks size fuel ((b :: bytes).drop size)).flatten = b :: bytes
      rw [List.flatten_cons, ih rest, List.take_append_drop]

theorem chunks_count {fuel : Nat} {bytes : List UInt8} (enough : bytes.length ≤ fuel) :
    (chunks 255 fuel bytes).length = (bytes.length + 254) / 255 := by
  induction fuel generalizing bytes with
  | zero =>
    rw [List.eq_nil_of_length_eq_zero (l := bytes) (by omega)]
    rfl
  | succ fuel ih =>
    cases bytes with
    | nil => rfl
    | cons b bytes =>
      have size : ((b :: bytes).drop 255).length = bytes.length + 1 - 255 := by simp
      have rest : ((b :: bytes).drop 255).length ≤ fuel := by
        simp only [List.length_cons] at enough
        omega
      have count := ih rest
      change (chunks 255 fuel ((b :: bytes).drop 255)).length + 1 = _
      rw [count, size, List.length_cons]
      omega

/-- The chunks start at the multiples of their size. -/
theorem chunks_atCharacter {size fuel : Nat} {bytes : List UInt8} (positive : 0 < size)
    (enough : bytes.length ≤ fuel) : (∀ part ∈ chunks size fuel bytes, AtCharacter part) ↔
      ∀ k b, bytes[size * k]? = some b → ¬Continues b := by
  induction fuel generalizing bytes with
  | zero =>
    have none : bytes = [] := List.eq_nil_of_length_eq_zero (by omega)
    simp [chunks, none]
  | succ fuel ih =>
    rcases whole : bytes with _ | ⟨b, rest⟩
    · simp [chunks]
    · rw [← whole]
      have onward : (bytes.drop size).length ≤ fuel := by
        rw [List.length_drop]
        rw [whole, List.length_cons] at enough ⊢
        omega
      have split : chunks size (fuel + 1) bytes = bytes.take size :: chunks size fuel (bytes.drop size) := by
        rw [whole]
        rfl
      have first : AtCharacter (bytes.take size) ↔ ∀ c, bytes[size * 0]? = some c → ¬Continues c := by
        unfold AtCharacter
        rw [List.head?_take, if_neg (by omega), List.head?_eq_getElem?, Nat.mul_zero]
      have later : ∀ k, (bytes.drop size)[size * k]? = bytes[size * (k + 1)]? := by
        intro k
        rw [List.getElem?_drop, Nat.mul_succ, Nat.add_comm]
      rw [split, List.forall_mem_cons, ih onward, first]
      simp only [later]
      constructor
      · rintro ⟨here, there⟩ (_ | k)
        · exact here
        · exact there k
      · exact fun all => ⟨all 0, fun k => all (k + 1)⟩

theorem textParts_flatten (text : String) : (textParts text).flatten = asBytes text := by
  unfold textParts
  rw [List.flatten_append, chunks_flatten (by decide) (Nat.le_refl _)]
  cases asBytes text <;> simp

theorem textParts_count (text : String) :
    (textParts text).length = if byteLen text = 0 then 1 else (byteLen text + 254) / 255 := by
  unfold textParts
  rw [List.length_append, chunks_count (Nat.le_refl _), byteLen]
  cases asBytes text <;> simp

theorem flatMap_partWire_length (parts : List (List UInt8)) :
    (parts.flatMap partWire).length = parts.flatten.length + parts.length := by
  induction parts with
  | nil => rfl
  | cons part parts ih =>
    rw [List.flatMap_cons, List.length_append, ih, partWire_length, List.flatten_cons, List.length_append,
      List.length_cons]
    omega

/-- The longest text that the length field of a record has room for. -/
def MAX_TEXT : Nat := 65279

theorem textWire_length (text : String) :
    (textWire text).length = byteLen text + if byteLen text = 0 then 1 else (byteLen text + 254) / 255 := by
  rw [textWire_eq, flatMap_partWire_length, textParts_flatten, textParts_count, ← byteLen]

theorem serialize_text_length_le_iff (text : String) :
    (RData.TXT [text]).serialize.length ≤ 65535 ↔ byteLen text ≤ MAX_TEXT := by
  rw [serialize, List.flatMap_singleton, textWire_length]
  unfold MAX_TEXT
  split <;> omega

/-- No character of the text lies across a multiple of 255 bytes. -/
def CutsWhole (text : String) : Prop := ∀ k b, (asBytes text)[255 * k]? = some b → ¬Continues b

theorem textParts_atCharacter (text : String) :
    (∀ part ∈ textParts text, AtCharacter part) ↔ CutsWhole text := by
  have chunked : (∀ part ∈ chunks 255 (asBytes text).length (asBytes text), AtCharacter part) ↔
      CutsWhole text := chunks_atCharacter (by decide) (Nat.le_refl _)
  rw [← chunked]
  unfold textParts
  cases asBytes text with
  | nil => simp [chunks, AtCharacter]
  | cons b bytes => simp

/-- The texts come back joined exactly when each of them is cut between characters. -/
theorem rereadTexts_join_iff (texts : List String) :
    String.join (rereadTexts texts) = String.join texts ↔ ∀ text ∈ texts, CutsWhole text := by
  have whole : (texts.flatMap textParts).flatten =
      (texts.flatMap String.toList).flatMap String.utf8EncodeChar := by
    rw [← List.flatMap_id', List.flatMap_assoc, List.flatMap_assoc]
    simp only [List.flatMap_id', textParts_flatten, asBytes]
  have read : (rereadTexts texts).flatMap String.toList =
      (texts.flatMap textParts).flatMap (lossyChars 0) := by
    simp only [rereadTexts, List.flatMap_assoc, List.flatMap_map, fromUtf8Lossy, String.toList_ofList]
  rw [← String.toList_inj, String.toList_join, String.toList_join, read, lossyChars_parts_iff whole]
  simp only [List.mem_flatMap, forall_exists_index, and_imp]
  constructor
  · exact fun all text member => (textParts_atCharacter text).mp fun part within => all part text member within
  · exact fun all part text member within => (textParts_atCharacter text).mpr (all text member) part within

/-- Each text of at most 255 bytes was read as one text of its own, in its place among what the others were
read as. -/
def ShortTextsKept (texts read : List String) : Prop :=
  ∃ groups : List (List String), read = groups.flatten ∧
    List.Forall₂ (fun text group => byteLen text ≤ 255 → group = [text]) texts groups

theorem rereadTexts_short (texts : List String) : ShortTextsKept texts (rereadTexts texts) := by
  refine ⟨texts.map fun text => (textParts text).map fromUtf8Lossy, List.flatMap_def, ?_⟩
  rw [List.forall₂_map_right_iff, List.forall₂_same]
  intro text _ short
  rw [textParts_short short, List.map_singleton, fromUtf8Lossy_asBytes]

theorem parse_texts {texts : List String} (fits : (RData.TXT texts).serialize.length ≤ 65535) :
    parse .TXT (RData.TXT texts).serialize (UInt16.ofNat (RData.TXT texts).serialize.length) 0 =
      (.ok (.TXT (rereadTexts texts)), (RData.TXT texts).serialize.length) := by
  have selected : Selected .TXT (.TXT texts) = true := rfl
  have readable : (RData.TXT texts).Readable := ⟨fun name member => absurd member List.not_mem_nil, trivial⟩
  have held : Holds (RData.TXT texts).serialize 0 (RData.TXT texts).serialize := List.prefix_rfl
  have back := parse_held selected readable fits held (by omega)
  rwa [Nat.zero_add] at back

/-- Texts that fit in one record are read back from it, the short ones each on its own. Joined they are the
texts that were written exactly when no character of a text lies across a multiple of 255 bytes. -/
theorem parse_texts_iff (texts : List String) (fits : (RData.TXT texts).serialize.length ≤ 65535) :
    ∃ read, parse .TXT (RData.TXT texts).serialize (UInt16.ofNat (RData.TXT texts).serialize.length) 0 =
        (.ok (.TXT read), (RData.TXT texts).serialize.length) ∧ ShortTextsKept texts read ∧
      (String.join read = String.join texts ↔ ∀ text ∈ texts, CutsWhole text) :=
  ⟨rereadTexts texts, parse_texts fits, rereadTexts_short texts, rereadTexts_join_iff texts⟩

/-- The last character starts the second chunk. -/
def evenChunks : String := String.ofList (List.replicate 255 'a' ++ [Char.ofNat 0xE9])

theorem asBytes_evenChunks : asBytes evenChunks = List.replicate 255 0x61 ++ [0xC3, 0xA9] :=
  (congrArg (fun cs => cs.flatMap String.utf8EncodeChar) String.toList_ofList).trans (by decide +kernel)

theorem byteLen_evenChunks : byteLen evenChunks = 257 := by
  rw [byteLen, asBytes_evenChunks, List.length_append, List.length_replicate]
  rfl

theorem cutsWhole_evenChunks : CutsWhole evenChunks := by
  intro k b found continues
  rw [asBytes_evenChunks] at found
  have inside := (List.getElem?_eq_some_iff.mp found).1
  rw [List.length_append, List.length_replicate] at inside
  have cuts : k = 0 ∨ k = 1 := by
    simp only [List.length_cons, List.length_nil] at inside
    omega
  have starts : b = 0x61 ∨ b = 0xC3 := by
    rcases cuts with rfl | rfl
    · exact Or.inl (Option.some.inj found).symm
    · exact Or.inr (Option.some.inj (found.symm.trans (by decide +kernel)))
  rcases starts with rfl | rfl
  · exact absurd continues (by decide)
  · exact absurd continues (by decide)

theorem parse_texts_iff_evenChunks :
    ∃ read, parse .TXT (RData.TXT [evenChunks, evenChunks]).serialize
        (UInt16.ofNat (RData.TXT [evenChunks, evenChunks]).serialize.length) 0 =
        (.ok (.TXT read), (RData.TXT [evenChunks, evenChunks]).serialize.length) ∧
      String.join read = String.join [evenChunks, evenChunks] := by
  have fits : (RData.TXT [evenChunks, evenChunks]).serialize.length ≤ 65535 := by
    simp only [serialize, List.flatMap_cons, List.flatMap_nil, List.length_append, textWire_length,
      byteLen_evenChunks]
    decide
  obtain ⟨read, parsed, _, joined⟩ := parse_texts_iff [evenChunks, evenChunks] fits
  refine ⟨read, parsed, joined.mpr fun text member => ?_⟩
  obtain rfl : text = evenChunks := List.eq_of_mem_replicate (n := 2) member
  exact cutsWhole_evenChunks

/-- The last character has its first byte in the first chunk and its second byte in the next one. -/
def acrossChunks : String := String.ofList (List.replicate 254 'a' ++ [Char.ofNat 0xE9])

theorem parse_acrossChunks_broken :
    ∃ read, parse .TXT (RData.TXT [acrossChunks]).serialize
        (UInt16.ofNat (RData.TXT [acrossChunks]).serialize.length) 0 =
        (.ok (.TXT read), (RData.TXT [acrossChunks]).serialize.length) ∧
      String.join read ≠ String.join [acrossChunks] := by
  have bytes : asBytes acrossChunks = List.replicate 254 0x61 ++ [0xC3, 0xA9] :=
    (congrArg (fun cs => cs.flatMap String.utf8EncodeChar) String.toList_ofList).trans (by decide +kernel)
  have size : byteLen acrossChunks = 256 := by
    rw [byteLen, bytes, List.length_append, List.length_replicate]
    rfl
  have fits := (serialize_text_length_le_iff acrossChunks).mpr (by rw [size]; decide)
  have second : (asBytes acrossChunks)[255 * 1]? = some 0xA9 :=
    (congrArg (fun all => all[255 * 1]?) bytes).trans (by decide +kernel)
  refine ⟨rereadTexts [acrossChunks], parse_texts fits, fun same => ?_⟩
  have whole := (rereadTexts_join_iff [acrossChunks]).mp same acrossChunks (List.mem_singleton_self _)
  exact whole 1 0xA9 second (by decide)

end RData

end DnsServer
