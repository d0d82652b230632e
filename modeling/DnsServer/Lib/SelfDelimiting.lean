import Mathlib.Data.List.Perm.Basic
import Mathlib.Tactic.Common

/-! Codes whose words can be told from what follows them. -/

variable {α α' β : Type}

/-- Texts that begin with words of the code are equal only when these words are, and what follows them. -/
def SelfDelimiting (code : α → List β) (P : α → Prop) : Prop :=
  ∀ ⦃a b : α⦄ ⦃x y : List β⦄, P a → P b → code a ++ x = code b ++ y → a = b ∧ x = y

namespace SelfDelimiting

variable {code : α → List β} {code' : α' → List β} {P : α → Prop} {P' : α' → Prop}

theorem mono {Q : α → Prop} (delimiting : SelfDelimiting code P) (narrower : ∀ a, Q a → P a) :
    SelfDelimiting code Q :=
  fun a b _ _ left right same => delimiting (narrower a left) (narrower b right) same

theorem injective (delimiting : SelfDelimiting code P) {a b : α} (left : P a) (right : P b)
    (same : code a = code b) : a = b :=
  (delimiting (x := []) (y := []) left right (by rw [same])).1

theorem of_length {n : Nat} (fixed : ∀ a, (code a).length = n) (injective : ∀ a b, code a = code b → a = b) :
    SelfDelimiting code fun _ => True := by
  intro a b x y _ _ same
  obtain ⟨words, rest⟩ := List.append_inj same ((fixed a).trans (fixed b).symm)
  exact ⟨injective a b words, rest⟩

theorem comp {γ : Type} (delimiting : SelfDelimiting code P) {f : γ → α} (injective : ∀ c d, f c = f d → c = d) :
    SelfDelimiting (fun c => code (f c)) fun c => P (f c) := by
  intro c d x y left right same
  obtain ⟨values, rest⟩ := delimiting left right same
  exact ⟨injective c d values, rest⟩

theorem pair (first : SelfDelimiting code P) (second : SelfDelimiting code' P') :
    SelfDelimiting (fun p : α × α' => code p.1 ++ code' p.2) fun p => P p.1 ∧ P' p.2 := by
  rintro ⟨a, a'⟩ ⟨b, b'⟩ x y ⟨left, left'⟩ ⟨right, right'⟩ same
  rw [List.append_assoc, List.append_assoc] at same
  obtain ⟨rfl, behind⟩ := first left right same
  obtain ⟨rfl, rest⟩ := second left' right' behind
  exact ⟨rfl, rest⟩

/-- A text behind its length. -/
theorem counted {size : Nat → List β} {P : Nat → Prop} (delimiting : SelfDelimiting size P) :
    SelfDelimiting (fun w : List β => size w.length ++ w) fun w => P w.length := by
  intro v w x y left right same
  rw [List.append_assoc, List.append_assoc] at same
  obtain ⟨lengths, same⟩ := delimiting left right same
  exact List.append_inj same lengths

/-- Words one after another, with a letter at the end that none of them begins with. -/
theorem terminated (delimiting : SelfDelimiting code P) {stop : β}
    (other : ∀ a, P a → ∃ first rest, code a = first :: rest ∧ first ≠ stop) :
    SelfDelimiting (fun words : List α => words.flatMap code ++ [stop]) fun words => ∀ a ∈ words, P a := by
  intro as bs x y left right same
  simp only [List.append_assoc, List.singleton_append] at same
  induction as generalizing bs with
  | nil =>
    cases bs with
    | nil => exact ⟨rfl, List.tail_eq_of_cons_eq same⟩
    | cons b bs =>
      obtain ⟨first, rest, word, differs⟩ := other b (right b List.mem_cons_self)
      rw [List.flatMap_nil, List.nil_append, List.flatMap_cons, word, List.cons_append, List.cons_append] at same
      exact absurd (List.head_eq_of_cons_eq same).symm differs
  | cons a as ih =>
    cases bs with
    | nil =>
      obtain ⟨first, rest, word, differs⟩ := other a (left a List.mem_cons_self)
      rw [List.flatMap_nil, List.nil_append, List.flatMap_cons, word, List.cons_append, List.cons_append] at same
      exact absurd (List.head_eq_of_cons_eq same) differs
    | cons b bs =>
      rw [List.flatMap_cons, List.flatMap_cons, List.append_assoc, List.append_assoc] at same
      obtain ⟨rfl, behind⟩ := delimiting (left a List.mem_cons_self) (right b List.mem_cons_self) same
      obtain ⟨rfl, rest⟩ := ih (fun c member => left c (List.mem_cons_of_mem _ member))
        (fun c member => right c (List.mem_cons_of_mem _ member)) behind
      exact ⟨rfl, rest⟩

/-- Words that are not empty can be told apart without an end mark. -/
theorem flatMap_inj (delimiting : SelfDelimiting code P) (nonempty : ∀ a, P a → code a ≠ []) {as bs : List α}
    (left : ∀ a ∈ as, P a) (right : ∀ b ∈ bs, P b) (same : as.flatMap code = bs.flatMap code) : as = bs := by
  induction as generalizing bs with
  | nil =>
    cases bs with
    | nil => rfl
    | cons b bs =>
      rw [List.flatMap_nil, List.flatMap_cons] at same
      exact absurd (List.append_eq_nil_iff.mp same.symm).1 (nonempty b (right b List.mem_cons_self))
  | cons a as ih =>
    cases bs with
    | nil =>
      rw [List.flatMap_nil, List.flatMap_cons] at same
      exact absurd (List.append_eq_nil_iff.mp same).1 (nonempty a (left a List.mem_cons_self))
    | cons b bs =>
      rw [List.flatMap_cons, List.flatMap_cons] at same
      obtain ⟨rfl, behind⟩ := delimiting (left a List.mem_cons_self) (right b List.mem_cons_self) same
      rw [ih (fun c member => left c (List.mem_cons_of_mem _ member))
        (fun c member => right c (List.mem_cons_of_mem _ member)) behind]

/-- The words themselves, as a code. -/
theorem words (delimiting : SelfDelimiting code P) :
    SelfDelimiting (fun w : List β => w) fun w => ∃ a, P a ∧ code a = w := by
  rintro _ _ x y ⟨a, left, rfl⟩ ⟨b, right, rfl⟩ same
  obtain ⟨rfl, rest⟩ := delimiting left right same
  exact ⟨rfl, rest⟩

theorem perm_of_map (delimiting : SelfDelimiting code P) {as bs : List α} (left : ∀ a ∈ as, P a)
    (right : ∀ b ∈ bs, P b) (same : (as.map code).Perm (bs.map code)) : as.Perm bs := by
  induction as generalizing bs with
  | nil =>
    rw [List.map_nil, List.nil_perm, List.map_eq_nil_iff] at same
    rw [same]
  | cons a as ih =>
    obtain ⟨b, member, word⟩ := List.mem_map.mp (same.subset List.mem_cons_self)
    obtain rfl := delimiting.injective (right b member) (left a List.mem_cons_self) word
    obtain ⟨front, back, rfl⟩ := List.append_of_mem member
    have others : (as.map code).Perm ((front ++ back).map code) := by
      rw [List.map_append]
      rw [List.map_cons, List.map_append, List.map_cons] at same
      exact (same.trans List.perm_middle).cons_inv
    have rest := ih (fun c inside => left c (List.mem_cons_of_mem _ inside))
      (fun c inside => right c (by simp only [List.mem_append, List.mem_cons] at inside ⊢; tauto)) others
    exact (rest.cons b).trans List.perm_middle.symm

end SelfDelimiting
