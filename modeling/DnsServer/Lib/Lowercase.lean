import DnsServer.Lib.CaseTables
import DnsServer.Lib.Utf8
import Mathlib.Algebra.GroupWithZero.Nat
import Mathlib.Algebra.Ring.Int.Defs

/-! `str::to_lowercase`: the Unicode mapping of each character, and the one contextual rule, the
final sigma. -/

namespace Lowercase

open CaseTables

def inRanges (ranges : List (Nat × Nat)) (c : Char) : Bool :=
  ranges.any fun (first, last) => first ≤ c.toNat && c.toNat ≤ last

def isCased (c : Char) : Bool := inRanges casedRanges c

def isCaseIgnorable (c : Char) : Bool := inRanges caseIgnorableRanges c

/-- `char::to_lowercase`. U+0130 is the one character with a mapping of two characters. -/
def lowerChar (c : Char) : List Char :=
  if c.toNat < 0x80 then
    if 'A'.toNat ≤ c.toNat ∧ c.toNat ≤ 'Z'.toNat then [Char.ofNat (c.toNat + 32)] else [c]
  else if c.toNat = 0x130 then ['i', Char.ofNat 0x307]
  else
    match lowercaseRows.find? fun (first, last, step, _) =>
      first ≤ c.toNat && c.toNat ≤ last && (c.toNat - first) % step == 0 with
    | some (first, _, _, image) => [Char.ofNat (image + (c.toNat - first))]
    | none => [c]

/-- After any ignorable characters there is a cased one. -/
def caseIgnorableThenCased (cs : List Char) : Bool :=
  match cs.dropWhile isCaseIgnorable with
  | c :: _ => isCased c
  | [] => false

/-- The two small sigmas: U+03C2 ends a word, U+03C3 stands everywhere else. -/
def lowerSigma (before after : List Char) : Char :=
  if caseIgnorableThenCased before && !caseIgnorableThenCased after then Char.ofNat 0x3C2
  else Char.ofNat 0x3C3

/-- Lower-casing the rest of a string, with the characters before it in reverse. -/
def lowerChars (before : List Char) : List Char → List Char
  | [] => []
  | c :: after =>
    (if c.toNat = 0x3A3 then [lowerSigma before after] else lowerChar c) ++
      lowerChars (c :: before) after

/-- `str::to_lowercase`. -/
def toLowercase (s : String) : String := String.ofList (lowerChars [] s.toList)

/-- No ASCII capital letter. -/
def NoCapital (s : String) : Prop := ∀ c ∈ s.toList, ¬('A'.toNat ≤ c.toNat ∧ c.toNat ≤ 'Z'.toNat)

instance (s : String) : Decidable (NoCapital s) :=
  List.decidableBAll (fun c : Char => ¬( 'A'.toNat ≤ c.toNat ∧ c.toNat ≤ 'Z'.toNat)) s.toList

theorem lowerChar_fixed {c : Char} (ascii : c.toNat < 0x80)
    (small : ¬('A'.toNat ≤ c.toNat ∧ c.toNat ≤ 'Z'.toNat)) : lowerChar c = [c] := by
  simp only [lowerChar, ascii, small, if_true, if_false]

theorem lowerChars_fixed {cs : List Char} (ascii : ∀ c ∈ cs, c.toNat < 0x80)
    (small : ∀ c ∈ cs, ¬('A'.toNat ≤ c.toNat ∧ c.toNat ≤ 'Z'.toNat)) (before : List Char) :
    lowerChars before cs = cs := by
  induction cs generalizing before with
  | nil => rfl
  | cons c cs ih =>
    have head := ascii c List.mem_cons_self
    have notSigma : c.toNat ≠ 0x3A3 := by omega
    rw [lowerChars, if_neg notSigma, lowerChar_fixed head (small c List.mem_cons_self),
      ih (fun c member => ascii c (List.mem_cons_of_mem _ member))
        (fun c member => small c (List.mem_cons_of_mem _ member))]
    rfl

theorem toLowercase_fixed {s : String} (ascii : Utf8.Ascii s) (small : NoCapital s) :
    toLowercase s = s := by
  rw [toLowercase, lowerChars_fixed ascii small, String.ofList_toList]

theorem lowerChar_ne_nil (c : Char) : lowerChar c ≠ [] := by
  unfold lowerChar
  split
  · split <;> exact List.cons_ne_nil _ _
  split
  · exact List.cons_ne_nil _ _
  split <;> exact List.cons_ne_nil _ _

theorem lowerChars_eq_nil {before cs : List Char} : lowerChars before cs = [] ↔ cs = [] := by
  cases cs with
  | nil => exact iff_of_true rfl rfl
  | cons c cs =>
    refine iff_of_false ?_ (List.cons_ne_nil _ _)
    rw [lowerChars]
    intro none
    have first := (List.append_eq_nil_iff.mp none).1
    split at first
    · exact List.cons_ne_nil _ _ first
    · exact lowerChar_ne_nil c first

/-- Only the empty text is empty in lower case. -/
theorem one_le_byteLen_toLowercase {s : String} : 1 ≤ Utf8.byteLen (toLowercase s) ↔ s.toList ≠ [] := by
  have text : (toLowercase s).toList = lowerChars [] s.toList := String.toList_ofList
  constructor
  · rintro some none
    have empty := Utf8.byteLen_empty (s := toLowercase s) (by rw [text, none]; rfl)
    omega
  · intro nonempty
    refine Utf8.byteLen_pos ?_
    rw [text]
    exact fun none => nonempty (lowerChars_eq_nil.mp none)

/-- The bytes of a character in lower case. -/
def lowerSize (c : Char) : Nat := ((lowerChar c).map Char.utf8Size).sum

/-- How many bytes lower-casing adds or, where it is negative, takes away. -/
def lowerGrowth (cs : List Char) : Int := (cs.map fun c => (lowerSize c : Int) - c.utf8Size).sum

theorem length_encode (cs : List Char) :
    (cs.flatMap String.utf8EncodeChar).length = (cs.map Char.utf8Size).sum := by
  simp only [List.length_flatMap, String.length_utf8EncodeChar]

theorem lowerSigma_size (before after : List Char) : (lowerSigma before after).utf8Size = 2 := by
  unfold lowerSigma
  split <;> rfl

/-- The two small sigmas have as many bytes as the one that is not at the end of a word. -/
theorem lowerChars_size (before cs : List Char) :
    ((lowerChars before cs).map Char.utf8Size).sum = (cs.map lowerSize).sum := by
  induction cs generalizing before with
  | nil => rfl
  | cons c cs ih =>
    rw [lowerChars, List.map_append, List.sum_append, ih, List.map_cons, List.sum_cons]
    congr 1
    split
    · rename_i sigma
      obtain rfl : c = Char.ofNat 0x3A3 := by rw [← sigma, Char.ofNat_toNat]
      have lowered : lowerSize (Char.ofNat 0x3A3) = 2 := by decide +kernel
      rw [lowered, List.map_singleton, List.sum_singleton, lowerSigma_size]
    · rfl

theorem lowerGrowth_eq (cs : List Char) :
    lowerGrowth cs = ((cs.map lowerSize).sum : Int) - (cs.map Char.utf8Size).sum := by
  induction cs with
  | nil => rfl
  | cons c cs ih =>
    have head : lowerGrowth (c :: cs) = (lowerSize c : Int) - c.utf8Size + lowerGrowth cs := by
      rw [lowerGrowth, List.map_cons, List.sum_cons, lowerGrowth]
    rw [head, ih, List.map_cons, List.sum_cons, List.map_cons, List.sum_cons]
    push_cast
    omega

theorem byteLen_toLowercase (s : String) :
    (Utf8.byteLen (toLowercase s) : Int) = Utf8.byteLen s + lowerGrowth s.toList := by
  rw [Utf8.byteLen, Utf8.byteLen, Utf8.asBytes, Utf8.asBytes, length_encode, length_encode, toLowercase,
    String.toList_ofList, lowerChars_size, lowerGrowth_eq]
  omega

example : toLowercase "WwW" = "www" := by decide

end Lowercase
