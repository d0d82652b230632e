import DnsServer.Dns.NameSpelling
import DnsServer.Lib.Utf8Validity

namespace DnsServer

open Bytes Utf8 Lowercase

namespace DnsName

/-- Labels of 1 to 63 bytes, and a wire form of at most 255 bytes. -/
structure WellFormed (name : DnsName) : Prop where
  labels : ∀ label ∈ name.labels, 1 ≤ byteLen label ∧ byteLen label ≤ 63
  wire : name.toWire.length ≤ 255

theorem toWire_length (name : DnsName) :
    name.toWire.length = (name.labels.map fun label => byteLen label + 1).sum + 1 := by
  simp only [toWire, List.length_append, List.length_flatMap, List.length_singleton, labelWire_length,
    Nat.add_comm]

/-- Where a name comes from in the first place. -/
inductive Source where
  | text (name : String)
  | wire (data : List UInt8) (offset : Nat)

/-- The names that come from a source: the name that is made from it, and from there upwards. -/
inductive Obtained : Source → DnsName → Prop
  | new {s : String} {name : DnsName} : DnsName.new s = .ok name → Obtained (.text s) name
  | parse {data : List UInt8} {o : Nat} {name : DnsName} :
      (DnsName.parse data o).1 = .ok name → Obtained (.wire data o) name
  | parent {source : Source} {name up : DnsName} : Obtained source name → name.parent = some up →
      Obtained source up

/-- The parts between the dots, without a dot at the end. -/
def pieces (s : String) : List (List Char) := (stripDot s.toList).splitOn '.'

def lowerPiece (piece : List Char) : String := toLowercase (String.ofList piece)

/-- The labels, with their length bytes and the zero byte, are too long for a name. -/
def TooLong (labels : List String) : Prop :=
  (∃ label ∈ labels, 63 < byteLen label) ∨ 255 < (labels.map fun label => byteLen label + 1).sum + 1

/-- The bytes of a piece of text as a label: its own, and what lower-casing adds or takes away. -/
def pieceSize (piece : List Char) : Int := (piece.map Char.utf8Size).sum + lowerGrowth piece

/-- The bytes of a spelled label as a label: those that its length byte counts, those that replacements
have more than the malformed sequences they stand for, and what lower-casing adds or takes away. -/
def rawSize (raw : List UInt8) : Int := raw.length + lossyGrowth 0 raw + lowerGrowth (lossyChars 0 raw)

/-- The texts without an empty piece, or with a piece of more than 63 bytes or more than 253 bytes in
all, and the positions from where labels of at most 63 bytes are spelled, with at most 255 bytes in all. -/
def Source.Sound : Source → Prop
  | .text s => s = "" ∨ s = "." ∨ [] ∉ pieces s ∨ (∃ piece ∈ pieces s, 63 < pieceSize piece) ∨
      253 < pieceSize (stripDot s.toList)
  | .wire data o => ∀ raws, Spells data o 0 raws →
      (∀ raw ∈ raws, rawSize raw ≤ 63) ∧ (raws.map fun raw => rawSize raw + 1).sum + 1 ≤ 255

section Sizes

theorem byteLen_lowerPiece (piece : List Char) : (byteLen (lowerPiece piece) : Int) = pieceSize piece := by
  rw [lowerPiece, byteLen_toLowercase, String.toList_ofList, byteLen, asBytes, String.toList_ofList,
    length_encode, pieceSize]

theorem byteLen_decodeLabel (raw : List UInt8) : (byteLen (decodeLabel raw) : Int) = rawSize raw := by
  rw [decodeLabel, byteLen_toLowercase, byteLen_fromUtf8Lossy, fromUtf8Lossy, String.toList_ofList, rawSize]
  push_cast
  rfl

theorem pieceSize_append (piece rest : List Char) : pieceSize (piece ++ rest) = pieceSize piece + pieceSize rest := by
  simp only [pieceSize, lowerGrowth, List.map_append, List.sum_append]
  push_cast
  omega

/-- Each dot is counted where the pieces have their length bytes. -/
theorem pieceSize_intercalate {pieces : List (List Char)} (some : pieces ≠ []) :
    (pieces.map fun piece => pieceSize piece + 1).sum = pieceSize (['.'].intercalate pieces) + 1 := by
  induction pieces with
  | nil => exact absurd rfl some
  | cons piece rest ih =>
    by_cases last : rest = []
    · subst last
      simp
    · have dot : pieceSize ['.'] = 1 := by decide +kernel
      rw [List.intercalate_cons_of_ne_nil last, pieceSize_append, pieceSize_append, dot, List.map_cons,
        List.sum_cons, ih last]
      omega

theorem map_sum_cast (labels : List String) :
    (((labels.map fun label => byteLen label + 1).sum : Nat) : Int) =
      (labels.map fun label => (byteLen label : Int) + 1).sum := by
  induction labels with
  | nil => rfl
  | cons label labels ih =>
    rw [List.map_cons, List.sum_cons, List.map_cons, List.sum_cons, ← ih]
    push_cast
    rfl

/-- The sizes of the labels are those of what they are made from. -/
theorem tooLong_map {α : Type} {label : α → String} {size : α → Int}
    (sizes : ∀ a, (byteLen (label a) : Int) = size a) (parts : List α) :
    TooLong (parts.map label) ↔ (∃ part ∈ parts, 63 < size part) ∨
      255 < (parts.map fun part => size part + 1).sum + 1 := by
  have total := map_sum_cast (parts.map label)
  simp only [List.map_map, Function.comp_def, sizes] at total
  unfold TooLong
  simp only [List.mem_map, exists_exists_and_eq_and, List.map_map, Function.comp_def]
  refine or_congr (exists_congr fun part => and_congr_right fun _ => ?_) ?_
  · have same := sizes part
    omega
  · omega

theorem tooLong_pieces (s : String) : TooLong ((pieces s).map lowerPiece) ↔
    (∃ piece ∈ pieces s, 63 < pieceSize piece) ∨ 253 < pieceSize (stripDot s.toList) := by
  have whole : ['.'].intercalate (pieces s) = stripDot s.toList := List.intercalate_splitOn '.'
  have total := pieceSize_intercalate (List.splitOn_ne_nil '.' (stripDot s.toList))
  rw [tooLong_map byteLen_lowerPiece]
  refine or_congr_right ?_
  rw [show (stripDot s.toList).splitOn '.' = pieces s from rfl, whole] at total
  omega

theorem not_tooLong_raws (raws : List (List UInt8)) : ¬TooLong (raws.map decodeLabel) ↔
    (∀ raw ∈ raws, rawSize raw ≤ 63) ∧ (raws.map fun raw => rawSize raw + 1).sum + 1 ≤ 255 := by
  rw [tooLong_map byteLen_decodeLabel, not_or]
  refine and_congr ?_ (by omega)
  simp only [not_exists, not_and, Int.not_lt]

end Sizes

theorem wellFormed_iff {name : DnsName} :
    name.WellFormed ↔ (∀ label ∈ name.labels, 1 ≤ byteLen label) ∧ ¬TooLong name.labels := by
  constructor
  · rintro ⟨labels, wire⟩
    rw [toWire_length] at wire
    refine ⟨fun label member => (labels label member).1, ?_⟩
    rintro (⟨label, member, long⟩ | long)
    · have short := (labels label member).2
      omega
    · omega
  · rintro ⟨some, fits⟩
    refine ⟨fun label member => ⟨some label member, ?_⟩, ?_⟩
    · by_contra long
      exact fits (Or.inl ⟨label, member, by omega⟩)
    · rw [toWire_length]
      by_contra long
      exact fits (Or.inr (by omega))

theorem wellFormed_root : root.WellFormed := by
  refine ⟨fun _ member => absurd member List.not_mem_nil, ?_⟩
  decide

/-- One label less keeps the lengths. -/
theorem WellFormed.parent {name up : DnsName} (formed : name.WellFormed) (above : name.parent = some up) :
    up.WellFormed := by
  obtain ⟨_ | ⟨first, rest⟩⟩ := name
  · cases above
  obtain ⟨labels, wire⟩ := formed
  have onward : (⟨rest⟩ : DnsName).WellFormed := by
    refine ⟨fun label member => labels label (List.mem_cons_of_mem _ member), ?_⟩
    rw [toWire_length] at wire ⊢
    simp only [List.map_cons, List.sum_cons] at wire ⊢
    omega
  unfold DnsName.parent at above
  split at above
  · cases above
    exact wellFormed_root
  · cases above
    exact onward

/-- All names of a source are well-formed as soon as the ones that are made from it are. -/
theorem Obtained.wellFormed {source : Source} {name : DnsName} (obtained : Obtained source name)
    (made : ∀ s name, source = .text s → DnsName.new s = .ok name → name.WellFormed)
    (read : ∀ data o name, source = .wire data o → (DnsName.parse data o).1 = .ok name → name.WellFormed) :
    name.WellFormed := by
  induction obtained with
  | new ok => exact made _ _ rfl ok
  | parse ok => exact read _ _ _ rfl ok
  | parent _ above ih => exact (ih made read).parent above

/-- What a text becomes: the root, an error for its lengths, or its lower-cased pieces. -/
theorem new_cases {s : String} (some : s ≠ "") (noDot : s ≠ ".") :
    (TooLong ((pieces s).map lowerPiece) ∧ ∃ error, DnsName.new s = .error error) ∨
      (¬TooLong ((pieces s).map lowerPiece) ∧ DnsName.new s = .ok ⟨(pieces s).map lowerPiece⟩) := by
  have root : ¬(s = "" ∨ s = ".") := fun either => either.elim some noDot
  have labels : ((stripDot s.toList).splitOn '.').map (fun l => toLowercase (String.ofList l)) =
      (pieces s).map lowerPiece := rfl
  unfold DnsName.new
  rw [if_neg root]
  simp only [labels]
  split
  · rename_i long
    obtain ⟨label, member, above⟩ := List.any_eq_true.mp long
    exact Or.inl ⟨Or.inl ⟨label, member, of_decide_eq_true above⟩, _, rfl⟩
  rename_i short
  split
  · rename_i long
    exact Or.inl ⟨Or.inr long, _, rfl⟩
  · rename_i fits
    refine Or.inr ⟨?_, rfl⟩
    rintro (⟨label, member, above⟩ | long)
    · exact short (List.any_eq_true.mpr ⟨label, member, decide_eq_true above⟩)
    · exact fits long

theorem new_wellFormed_iff (s : String) :
    (∀ name, DnsName.new s = .ok name → name.WellFormed) ↔ (Source.text s).Sound := by
  by_cases empty : s = ""
  · refine iff_of_true (fun name made => ?_) (Or.inl empty)
    rw [DnsName.new, if_pos (Or.inl empty)] at made
    cases made
    exact wellFormed_root
  by_cases dot : s = "."
  · refine iff_of_true (fun name made => ?_) (Or.inr (Or.inl dot))
    rw [DnsName.new, if_pos (Or.inr dot)] at made
    cases made
    exact wellFormed_root
  rcases new_cases empty dot with ⟨long, error, refused⟩ | ⟨fits, made⟩
  · refine iff_of_true (fun name made => ?_) (Or.inr (Or.inr (Or.inr ((tooLong_pieces s).mp long))))
    rw [refused] at made
    cases made
  · have nonempty : (∀ label ∈ (pieces s).map lowerPiece, 1 ≤ byteLen label) ↔ [] ∉ pieces s := by
      simp only [List.forall_mem_map, lowerPiece, one_le_byteLen_toLowercase, String.toList_ofList]
      constructor
      · exact fun all member => all [] member rfl
      · exact fun absent piece member none => absent (none ▸ member)
    constructor
    · intro all
      have formed := wellFormed_iff.mp (all _ made)
      exact Or.inr (Or.inr (Or.inl (nonempty.mp formed.1)))
    · rintro sound name read
      rw [made] at read
      cases read
      refine wellFormed_iff.mpr ⟨nonempty.mpr ?_, fits⟩
      rcases sound with none | none | absent | long
      · exact absurd none empty
      · exact absurd none dot
      · exact absent
      · exact absurd ((tooLong_pieces s).mpr long) fits

theorem parse_wellFormed_iff (data : List UInt8) (o : Nat) :
    (∀ name, (DnsName.parse data o).1 = .ok name → name.WellFormed) ↔ (Source.wire data o).Sound := by
  constructor
  · intro all raws spells
    have read : (DnsName.parse data o).1 = .ok ⟨raws.map decodeLabel⟩ :=
      (parse_ok_iff o _).mpr ⟨raws, spells, rfl⟩
    exact (not_tooLong_raws raws).mp (wellFormed_iff.mp (all _ read)).2
  · intro sound name read
    obtain ⟨raws, spells, labels⟩ := (parse_ok_iff o name).mp read
    rw [wellFormed_iff, labels]
    refine ⟨?_, (not_tooLong_raws raws).mpr (sound raws spells)⟩
    intro label member
    obtain ⟨raw, listed, rfl⟩ := List.mem_map.mp member
    have some := (spells.raw_length raw listed).1
    refine one_le_byteLen_toLowercase.mpr ?_
    rw [fromUtf8Lossy, String.toList_ofList]
    exact lossyChars_ne_nil (List.ne_nil_of_length_pos some)

/-- The names of a source are all well-formed exactly when the source is sound. -/
theorem obtained_wellFormed_iff (source : Source) :
    (∀ name, Obtained source name → name.WellFormed) ↔ source.Sound := by
  cases source with
  | text s =>
    rw [← new_wellFormed_iff]
    constructor
    · exact fun all name made => all name (.new made)
    · intro all name obtained
      refine obtained.wellFormed (fun _ name same made => ?_) fun _ _ _ same _ => by cases same
      cases same
      exact all name made
  | wire data o =>
    rw [← parse_wellFormed_iff]
    constructor
    · exact fun all name read => all name (.parse read)
    · intro all name obtained
      refine obtained.wellFormed (fun _ _ same _ => by cases same) fun _ _ name same read => ?_
      cases same
      exact all name read

/-- A text with two dots in a row makes an empty label, and a label of 64 bytes is read from the wire. -/
theorem obtained_illFormed :
    (∃ name, Obtained (.text "a..b") name ∧ ¬name.WellFormed) ∧
      ∃ name, Obtained (.wire (wireOf [List.replicate 64 0x61]) 0) name ∧ ¬name.WellFormed := by
  refine ⟨⟨⟨["a", "", "b"]⟩, .new (by decide +kernel), fun formed => ?_⟩, ?_⟩
  · have some := (formed.labels "" (by decide)).1
    exact absurd some (by decide)
  · refine ⟨⟨[decodeLabel (List.replicate 64 0x61)]⟩, .parse ?_, fun formed => ?_⟩
    · refine (parse_ok_iff 0 _).mpr ⟨[List.replicate 64 0x61], ?_, rfl⟩
      exact .label (by decide) (by decide) (by decide) (by decide) (.stop (by decide) (by decide))
    · have short := (formed.labels _ List.mem_cons_self).2
      exact absurd short (by decide +kernel)

end DnsName

end DnsServer
