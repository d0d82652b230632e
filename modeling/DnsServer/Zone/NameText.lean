import DnsServer.Zone.Wire

/-! Names written out as text and read back. -/

namespace DnsServer

open Utf8 Lowercase

namespace DnsName

/-- `Display` for names. -/
def display (name : DnsName) : String :=
  if name.labels.isEmpty then "." else ".".intercalate name.labels

def toDotted (name : DnsName) : String :=
  if name.labels.isEmpty then "." else ".".intercalate name.labels ++ "."

/-- The labels of a name that some text other than the root stands for. -/
structure Spelled (labels : List String) : Prop where
  nonempty : labels ≠ []
  notBlank : labels ≠ [""]
  stops : ∀ label ∈ labels, '.' ∉ label.toList
  small : ∀ label ∈ labels, toLowercase label = label
  fits : ¬TooLong labels

theorem not_mem_of_mem_splitOn {stop : Char} {text piece : List Char} (member : piece ∈ text.splitOn stop) :
    stop ∉ piece := by
  induction text generalizing piece with
  | nil =>
    rw [List.splitOn_nil, List.mem_singleton] at member
    rw [member]
    exact List.not_mem_nil
  | cons c text ih =>
    rw [List.splitOn_cons_eq_if_modifyHead] at member
    split at member
    · rcases List.mem_cons.mp member with empty | later
      · rw [empty]
        exact List.not_mem_nil
      · exact ih later
    · rename_i other
      obtain ⟨first, rest, split⟩ := List.exists_cons_of_ne_nil (List.splitOn_ne_nil stop text)
      rw [split, List.modifyHead_cons] at member
      rcases List.mem_cons.mp member with here | later
      · rw [here, List.mem_cons, not_or]
        exact ⟨fun same => other (by rw [same, beq_self_eq_true]), ih (split ▸ List.mem_cons_self)⟩
      · exact ih (split ▸ List.mem_cons_of_mem _ later)

variable {s : String} {name : DnsName} {labels : List String}

theorem stripDot_eq_nil {text : List Char} (none : stripDot text = []) : text = [] ∨ text = ['.'] := by
  unfold stripDot at none
  split at none
  · rename_i last
    obtain ⟨front, rfl⟩ := List.getLast?_eq_some_iff.mp last
    rw [List.dropLast_concat] at none
    exact Or.inr (by rw [none, List.nil_append])
  · exact Or.inl none

theorem lowerPiece_eq_empty {piece : List Char} (none : lowerPiece piece = "") : piece = [] := by
  have text := congrArg String.toList none
  rw [lowerPiece, toLowercase, String.toList_ofList, String.toList_ofList] at text
  exact lowerChars_eq_nil.mp text

theorem spelled_of_new (made : DnsName.new s = .ok name) : name = root ∨ Spelled name.labels := by
  rcases new_cases_ok made with ⟨_, rfl⟩ | ⟨written, fits, rfl⟩
  · exact Or.inl rfl
  · refine Or.inr ⟨?_, ?_, ?_, ?_, fits⟩
    · exact fun none => List.splitOn_ne_nil '.' _ (List.map_eq_nil_iff.mp none)
    · intro blank
      obtain ⟨piece, single, empty⟩ := List.map_eq_singleton_iff.mp blank
      rw [lowerPiece_eq_empty empty] at single
      have text : stripDot s.toList = [] := by
        have whole : ['.'].intercalate (pieces s) = stripDot s.toList := List.intercalate_splitOn '.'
        rw [← whole, single]
        rfl
      rcases stripDot_eq_nil text with none | dot
      · exact written (Or.inl (by simpa using none))
      · exact written (Or.inr (String.toList_injective dot))
    · intro label member
      obtain ⟨piece, split, rfl⟩ := List.mem_map.mp member
      rw [lowerPiece, toLowercase, String.toList_ofList, String.toList_ofList]
      exact fun stop => not_mem_of_mem_splitOn split (stop_of_lowerChars stop)
    · intro label member
      obtain ⟨piece, _, rfl⟩ := List.mem_map.mp member
      exact toLowercase_toLowercase _

/-- The characters of the labels with a dot between them. -/
def joined (labels : List String) : List Char := ['.'].intercalate (labels.map String.toList)

theorem Spelled.splitOn_joined (spelled : Spelled labels) :
    (joined labels).splitOn '.' = labels.map String.toList :=
  List.splitOn_intercalate '.' (by simpa using spelled.stops) (by simpa using spelled.nonempty)

theorem Spelled.joined_ne_nil (spelled : Spelled labels) : joined labels ≠ [] := by
  intro none
  have split := spelled.splitOn_joined
  rw [none, List.splitOn_nil] at split
  obtain ⟨label, rfl, empty⟩ := List.map_eq_singleton_iff.mp split.symm
  exact spelled.notBlank (by rw [show label = "" by simpa using empty])

/-- A text whose parts are the labels. -/
theorem new_joined (spelled : Spelled labels) (some : ¬(s = "" ∨ s = "."))
    (text : stripDot s.toList = joined labels) : DnsName.new s = .ok ⟨labels⟩ := by
  have lowered : (pieces s).map lowerPiece = labels := by
    rw [pieces, text, spelled.splitOn_joined, List.map_map]
    refine (List.map_congr_left fun label member => ?_).trans labels.map_id
    rw [Function.comp_apply, lowerPiece, String.ofList_toList, spelled.small label member, id]
  obtain ⟨nonempty, noDot⟩ := not_or.mp some
  rcases new_cases nonempty noDot with ⟨long, _⟩ | ⟨_, made⟩
  · rw [lowered] at long
    exact absurd long spelled.fits
  · rwa [lowered] at made

theorem toList_toDotted (some : labels ≠ []) : (toDotted ⟨labels⟩).toList = joined labels ++ ['.'] := by
  rw [toDotted, if_neg (by simpa using some), String.toList_append, String.toList_intercalate]
  rfl

theorem toList_display (some : labels ≠ []) : (display ⟨labels⟩).toList = joined labels := by
  rw [display, if_neg (by simpa using some), String.toList_intercalate]
  rfl

theorem stripDot_append_dot (text : List Char) : stripDot (text ++ ['.']) = text := by
  rw [stripDot, List.getLast?_concat, if_pos rfl, List.dropLast_concat]

theorem new_toDotted (spelled : Spelled labels) : DnsName.new (toDotted ⟨labels⟩) = .ok ⟨labels⟩ := by
  have text := toList_toDotted spelled.nonempty
  refine new_joined spelled ?_ (by rw [text, stripDot_append_dot])
  rintro (none | dot)
  · rw [none] at text
    exact List.append_ne_nil_of_right_ne_nil _ (List.cons_ne_nil _ _) text.symm
  · rw [dot] at text
    exact spelled.joined_ne_nil (List.append_left_eq_self.mp text.symm)

theorem joined_concat (some : labels ≠ []) (label : String) :
    joined (labels ++ [label]) = joined labels ++ '.' :: label.toList := by
  induction labels with
  | nil => exact absurd rfl some
  | cons first rest ih =>
    cases rest with
    | nil => simp [joined]
    | cons second rest =>
      have later := ih (List.cons_ne_nil _ _)
      simp only [joined, List.map_append, List.map_cons, List.cons_append,
        List.intercalate_cons_cons] at later ⊢
      rw [later]
      simp only [List.append_assoc]

/-- The last label is empty exactly when the text ends with a dot. -/
theorem Spelled.joined_ends (spelled : Spelled labels) :
    (joined labels).getLast? = some '.' ↔ labels.getLast? = some "" := by
  constructor
  · intro ends
    obtain ⟨front, text⟩ := List.getLast?_eq_some_iff.mp ends
    have split := spelled.splitOn_joined
    rw [text, List.splitOn_append_cons_self, List.splitOn_nil] at split
    have last := congrArg List.getLast? split
    rw [List.getLast?_concat, List.getLast?_map] at last
    obtain ⟨label, isLast, empty⟩ := Option.map_eq_some_iff.mp last.symm
    rw [isLast, show label = "" by simpa using empty]
  · intro blank
    obtain ⟨front, rfl⟩ := List.getLast?_eq_some_iff.mp blank
    have some : front ≠ [] := by
      rintro rfl
      exact spelled.notBlank rfl
    rw [joined_concat some]
    exact List.getLast?_concat

/-- Without the dot at the end, a last label that is empty is lost. -/
theorem new_display (spelled : Spelled labels) :
    DnsName.new (display ⟨labels⟩) = .ok ⟨labels⟩ ↔ labels.getLast? ≠ some "" := by
  have text := toList_display spelled.nonempty
  constructor
  · intro made blank
    obtain ⟨front, ends⟩ := List.getLast?_eq_some_iff.mp (spelled.joined_ends.mpr blank)
    have split := spelled.splitOn_joined
    rw [ends, List.splitOn_append_cons_self, List.splitOn_nil] at split
    rcases new_cases_ok made with ⟨_, none⟩ | ⟨_, _, same⟩
    · exact spelled.nonempty (congrArg DnsName.labels none)
    · have count := congrArg (fun name : DnsName => name.labels.length) same
      have count' := congrArg List.length split
      simp only [pieces, text, ends, stripDot_append_dot, List.length_map, List.length_append,
        List.length_singleton] at count count'
      omega
  · intro whole
    have noDot : (joined labels).getLast? ≠ some '.' := fun ends => whole (spelled.joined_ends.mp ends)
    refine new_joined spelled ?_ (by rw [text, stripDot, if_neg noDot])
    rintro (none | dot)
    · rw [none] at text
      exact spelled.joined_ne_nil text.symm
    · rw [dot] at text
      exact noDot (by rw [← text]; rfl)

/-- A name that some text stands for is read back from the text with a dot at the end, and from the one
without unless its last label is empty. No other name is read back from either. -/
theorem new_of_text_iff (name : DnsName) :
    (DnsName.new name.toDotted = .ok name ↔ ∃ s, DnsName.new s = .ok name) ∧
      (DnsName.new name.display = .ok name ↔
        (∃ s, DnsName.new s = .ok name) ∧ name.labels.getLast? ≠ some "") := by
  refine ⟨⟨fun made => ⟨_, made⟩, ?_⟩, fun made => ⟨⟨_, made⟩, ?_⟩, ?_⟩
  · rintro ⟨s, made⟩
    rcases spelled_of_new made with rfl | spelled
    · rfl
    · exact new_toDotted spelled
  · rcases spelled_of_new made with rfl | spelled
    · exact fun last => by cases last
    · exact (new_display spelled).mp made
  · rintro ⟨⟨s, made⟩, whole⟩
    rcases spelled_of_new made with rfl | spelled
    · rfl
    · exact (new_display spelled).mpr whole

end DnsName

end DnsServer
