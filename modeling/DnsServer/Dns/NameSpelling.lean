import DnsServer.Dns.NameWire
import DnsServer.Lib.AsciiCase
import Mathlib.Data.List.Forall2

namespace DnsServer

open Bytes Utf8 Lowercase

namespace DnsName

/-- The labels that stand in the buffer from a position on, before the zero byte, when so many pointers
have been followed on the way there. -/
inductive Spells (data : List UInt8) : Nat → Nat → List (List UInt8) → Prop
  | stop {pos jumps : Nat} (inside : pos < data.length) : data[pos] = 0 → Spells data pos jumps []
  | label {pos jumps : Nat} {raws : List (List UInt8)} (inside : pos < data.length) :
      0 < data[pos].toNat → data[pos].toNat < 0xC0 → pos + 1 + data[pos].toNat ≤ data.length →
      Spells data (pos + 1 + data[pos].toNat) jumps raws →
      Spells data pos jumps ((data.drop (pos + 1)).take data[pos].toNat :: raws)
  | pointer {pos jumps : Nat} {raws : List (List UInt8)} (inside : pos + 1 < data.length) :
      0xC0 ≤ data[pos].toNat → target data[pos] data[pos + 1] < data.length → jumps < MAX_JUMPS →
      Spells data (target data[pos] data[pos + 1]) (jumps + 1) raws → Spells data pos jumps raws

variable {data : List UInt8}

theorem Spells.raw_length {pos jumps : Nat} {raws : List (List UInt8)} (spells : Spells data pos jumps raws) :
    ∀ raw ∈ raws, 1 ≤ raw.length ∧ raw.length ≤ 191 := by
  induction spells with
  | stop => exact fun _ member => absurd member List.not_mem_nil
  | label inside positive plain fits _ ih =>
    intro raw member
    rcases List.mem_cons.mp member with rfl | member
    · rw [List.length_take, List.length_drop]
      omega
    · exact ih raw member
  | pointer _ _ _ _ _ ih => exact ih

/-- What the loop returns is spelled from its position on. -/
theorem spells_of_loop {fuel : Nat} {c : Cursor} {s s' : Nat} {name : DnsName}
    (read : Prog.loop (parseStep data) fuel c s = (.ok name, s')) :
    ∃ raws, Spells data c.current c.jumps raws ∧ name.labels = c.labels ++ raws.map decodeLabel := by
  induction fuel generalizing c s with
  | zero => cases read
  | succ fuel ih =>
    obtain ⟨next, t, step, rest⟩ := Prog.bind_eq_ok.mp read
    cases advances_of_parseStep step with
    | stop inside zero =>
      cases rest
      exact ⟨[], .stop inside zero, by simp⟩
    | label inside positive plain fits =>
      obtain ⟨raws, spells, labels⟩ := ih rest
      refine ⟨_, .label inside positive plain fits spells, ?_⟩
      rw [labels, List.map_cons, List.append_assoc]
      rfl
    | pointer inside second tag near few =>
      obtain ⟨raws, spells, labels⟩ := ih rest
      exact ⟨raws, .pointer second tag near few spells, labels⟩

/-- What is spelled from the position of the loop on is what it returns. -/
theorem Spells.loop {pos jumps : Nat} {raws : List (List UInt8)} (spells : Spells data pos jumps raws)
    {fuel : Nat} {before : List String} {jumped : Bool}
    (enough : Cursor.remaining data.length ⟨before, jumped, pos, jumps⟩ < fuel) (s : Nat) :
    (Prog.loop (parseStep data) fuel ⟨before, jumped, pos, jumps⟩ s).1 =
      .ok ⟨before ++ raws.map decodeLabel⟩ := by
  induction spells generalizing fuel before jumped s with
  | stop inside zero =>
    obtain ⟨fuel, rfl⟩ : ∃ rest, fuel = rest + 1 := ⟨fuel - 1, by omega⟩
    rw [Prog.loop, Prog.bind_ok (parseStep_end (c := ⟨before, jumped, _, _⟩) inside zero s), List.map_nil,
      List.append_nil]
    rfl
  | @label pos jumps raws inside positive plain fits _ ih =>
    obtain ⟨fuel, rfl⟩ : ∃ rest, fuel = rest + 1 := ⟨fuel - 1, by omega⟩
    have step := parseStep_label (c := ⟨before, jumped, pos, jumps⟩) inside positive plain s
    rw [if_neg (by dsimp only; omega)] at step
    rw [Prog.loop, Prog.bind_ok step]
    dsimp only
    rw [ih (by simp only [Cursor.remaining] at enough ⊢; omega), List.append_assoc]
    rfl
  | @pointer pos jumps raws inside tag near few _ ih =>
    obtain ⟨fuel, rfl⟩ : ∃ rest, fuel = rest + 1 := ⟨fuel - 1, by omega⟩
    have step := parseStep_pointer (c := ⟨before, jumped, pos, jumps⟩) inside tag s
    rw [if_neg (by dsimp only; omega), if_neg (by dsimp only; omega)] at step
    have jump : MAX_JUMPS - jumps = MAX_JUMPS - (jumps + 1) + 1 := by omega
    rw [Prog.loop, Prog.bind_ok step]
    refine ih ?_ _
    simp only [Cursor.remaining, jump, Nat.succ_mul] at enough ⊢
    omega

/-- Reading a name succeeds exactly when labels are spelled from the offset on, and gives their decoded
forms. -/
theorem parse_ok_iff (o : Nat) (name : DnsName) :
    (parse data o).1 = .ok name ↔ ∃ raws, Spells data o 0 raws ∧ name.labels = raws.map decodeLabel := by
  constructor
  · exact fun read => spells_of_loop (Prod.ext read rfl)
  · rintro ⟨raws, spells, labels⟩
    have read := spells.loop (remaining_start data.length o) o
    rw [List.nil_append, ← labels] at read
    exact read

section Identity

/-- A name written without pointers: each label with its length before it, and a zero byte at the end. -/
def wireOf (raws : List (List UInt8)) : List UInt8 :=
  raws.flatMap (fun raw => UInt8.ofNat raw.length :: raw) ++ [0]

/-- The labels are of 1 to 63 bytes. -/
def Sized (raws : List (List UInt8)) : Prop := ∀ raw ∈ raws, 1 ≤ raw.length ∧ raw.length ≤ 63

/-- Equal up to the case of ASCII letters. -/
def SameLetters (raw raw' : List UInt8) : Prop := raw.map lowerByte = raw'.map lowerByte

instance (raw raw' : List UInt8) : Decidable (SameLetters raw raw') :=
  inferInstanceAs (Decidable (_ = _))

/-- Labels as they are written, each behind its length. -/
def labelsWire (raws : List (List UInt8)) : List UInt8 := raws.flatMap fun raw => UInt8.ofNat raw.length :: raw

theorem labelsWire_length (raws : List (List UInt8)) :
    (labelsWire raws).length = (raws.map fun raw => raw.length + 1).sum := by
  simp [labelsWire, List.length_flatMap]

theorem not_zero_of_pos {b : UInt8} (positive : 0 < b.toNat) : b ≠ 0 := by
  rintro rfl
  exact absurd positive (by decide)

/-- A label as it is written has its length first, and something behind its bytes. -/
theorem held_label {raw rest : List UInt8} {raws : List (List UInt8)} {o : Nat} (sized : Sized (raw :: raws))
    (more : rest ≠ []) (held : Holds data o (labelsWire (raw :: raws) ++ rest)) :
    ∃ inside : o < data.length, 0 < data[o].toNat ∧ data[o].toNat < 0xC0 ∧
      (data.drop (o + 1)).take data[o].toNat = raw ∧ o + 1 + data[o].toNat ≤ data.length ∧
      Holds data (o + 1 + data[o].toNat) (labelsWire raws ++ rest) ∧
      o + 1 + data[o].toNat + (labelsWire raws).length = o + (labelsWire (raw :: raws)).length := by
  obtain ⟨positive, short⟩ := sized raw List.mem_cons_self
  have split : labelsWire (raw :: raws) = UInt8.ofNat raw.length :: (raw ++ labelsWire raws) := rfl
  rw [split, List.cons_append, List.append_assoc] at held
  obtain ⟨first, held⟩ := Holds.cons_iff.mp held
  obtain ⟨body, behind⟩ := Holds.append_iff.mp held
  have bound := behind.length_le (List.append_ne_nil_of_right_ne_nil _ more)
  have inside : o < data.length := by omega
  have octet : data[o].toNat = raw.length := by
    rw [first.getElem inside, UInt8.toNat_ofNat']
    omega
  refine ⟨inside, ?_⟩
  rw [octet]
  refine ⟨positive, by omega, body.take, by omega, behind, ?_⟩
  simp only [split, List.length_cons, List.length_append]
  omega

/-- What is spelled where labels are written are these labels, and what is spelled behind them. -/
theorem spells_labels_iff {raws all : List (List UInt8)} {rest : List UInt8} {o jumps : Nat} (sized : Sized raws)
    (more : rest ≠ []) (held : Holds data o (labelsWire raws ++ rest)) :
    Spells data o jumps all ↔
      ∃ below, all = raws ++ below ∧ Spells data (o + (labelsWire raws).length) jumps below := by
  induction raws generalizing o all with
  | nil => exact ⟨fun spells => ⟨all, rfl, spells⟩, fun ⟨_, same, spells⟩ => same ▸ spells⟩
  | cons raw raws ih =>
    obtain ⟨inside, positive, plain, bytes, fits, behind, ends⟩ := held_label sized more held
    have others : Sized raws := fun raw member => sized raw (List.mem_cons_of_mem _ member)
    rw [← ends]
    constructor
    · intro spells
      cases spells with
      | stop _ zero => exact absurd zero (not_zero_of_pos positive)
      | label _ _ _ _ onward =>
        obtain ⟨below, rfl, spells⟩ := (ih others behind).mp onward
        exact ⟨below, by rw [bytes, List.cons_append], spells⟩
      | pointer _ tag => omega
    · rintro ⟨below, rfl, spells⟩
      have onward := Spells.label inside positive plain fits ((ih others behind).mpr ⟨below, rfl, spells⟩)
      rwa [bytes] at onward

theorem spells_wireOf {raws : List (List UInt8)} {o : Nat} (sized : Sized raws)
    (held : Holds data o (wireOf raws)) : Spells data o 0 raws := by
  obtain ⟨_, last⟩ := Holds.append_iff.mp held
  have inside := last.length_le (List.cons_ne_nil _ _)
  exact (spells_labels_iff sized (List.cons_ne_nil _ _) held).mpr
    ⟨[], (List.append_nil _).symm, .stop inside (last.getElem inside)⟩

theorem parse_wireOf {raws : List (List UInt8)} (sized : Sized raws) :
    (parse (wireOf raws) 0).1 = .ok ⟨raws.map decodeLabel⟩ :=
  (parse_ok_iff 0 _).mpr ⟨raws, spells_wireOf sized List.prefix_rfl, rfl⟩

theorem map_decodeLabel_iff {raws raws' : List (List UInt8)} :
    raws.map decodeLabel = raws'.map decodeLabel ↔
      List.Forall₂ (fun raw raw' => decodeLabel raw = decodeLabel raw') raws raws' := by
  rw [← List.forall₂_eq_eq_eq, List.forall₂_map_left_iff, List.forall₂_map_right_iff]

/-- The case of ASCII letters makes no difference to what a label becomes. -/
theorem SameLetters.decodeLabel {raw raw' : List UInt8} (same : SameLetters raw raw') :
    decodeLabel raw = decodeLabel raw' := by
  have left := toLowercase_lossy_lower raw
  have right := toLowercase_lossy_lower raw'
  rw [same] at left
  exact left.symm.trans right

/-- Two uncompressed names are read as equal exactly when they have the same number of labels and each
label has the same text as the other's, decoded lossily and in lower case. The case of ASCII letters
never counts, and between ASCII labels nothing else is passed over. -/
theorem parse_eq_iff {raws raws' : List (List UInt8)} (sized : Sized raws) (sized' : Sized raws') :
    ∃ name name', (parse (wireOf raws) 0).1 = .ok name ∧ (parse (wireOf raws') 0).1 = .ok name' ∧
      (name = name' ↔
        List.Forall₂ (fun raw raw' => decodeLabel raw = decodeLabel raw') raws raws') ∧
      (List.Forall₂ SameLetters raws raws' → name = name') ∧
      ((∀ raw ∈ raws ++ raws', ∀ b ∈ raw, b.toNat < 0x80) → name = name' →
        List.Forall₂ SameLetters raws raws') := by
  have equal : ((⟨raws.map decodeLabel⟩ : DnsName) = ⟨raws'.map decodeLabel⟩) ↔
      List.Forall₂ (fun raw raw' => decodeLabel raw = decodeLabel raw') raws raws' := by
    rw [DnsName.mk.injEq, map_decodeLabel_iff]
  refine ⟨_, _, parse_wireOf sized, parse_wireOf sized', equal, ?_, ?_⟩
  · intro letters
    exact equal.mpr (letters.imp fun _ _ => SameLetters.decodeLabel)
  · intro ascii same
    have texts := equal.mp same
    rw [List.forall₂_iff_zip] at texts ⊢
    refine ⟨texts.1, fun member => ?_⟩
    have left := ascii _ (List.mem_append_left _ (List.of_mem_zip member).1)
    have right := ascii _ (List.mem_append_right _ (List.of_mem_zip member).2)
    exact lowerByte_of_toLowercase left right (texts.2 member)

def capitalLabels : List (List UInt8) := [[0x57, 0x57, 0x57], [0x63, 0x6F, 0x6D]]

def smallLabels : List (List UInt8) := [[0x77, 0x77, 0x77], [0x63, 0x6F, 0x6D]]

theorem parse_eq_iff_capital :
    ∃ name name', (parse (wireOf capitalLabels) 0).1 = .ok name ∧
      (parse (wireOf smallLabels) 0).1 = .ok name' ∧
      (name = name' ↔ List.Forall₂ (fun raw raw' => decodeLabel raw = decodeLabel raw')
        capitalLabels smallLabels) ∧
      (List.Forall₂ SameLetters capitalLabels smallLabels → name = name') ∧
      ((∀ raw ∈ capitalLabels ++ smallLabels, ∀ b ∈ raw, b.toNat < 0x80) → name = name' →
        List.Forall₂ SameLetters capitalLabels smallLabels) :=
  parse_eq_iff (by simp [Sized, capitalLabels]) (by simp [Sized, smallLabels])

/-- Two different bytes, neither of them text, are the same name. -/
theorem parse_malformed_collide :
    (∃ name, (parse (wireOf [[0x80]]) 0).1 = .ok name ∧ (parse (wireOf [[0x81]]) 0).1 = .ok name) ∧
      ¬SameLetters [0x80] [0x81] := by
  refine ⟨⟨⟨[decodeLabel [0x80]]⟩, ?_, ?_⟩, by decide⟩
  · exact parse_wireOf (by simp [Sized])
  · have replaced : decodeLabel [0x80] = decodeLabel [0x81] := by decide +kernel
    rw [replaced]
    exact parse_wireOf (by simp [Sized])

end Identity

end DnsName

end DnsServer
