import DnsServer.Dns.QuestionWire

namespace DnsServer

open Bytes Utf8 Lowercase

namespace DnsName

/-- A round of the loop in `parse` that also breaks with the count of the pointers followed. -/
def countedStep (data : List UInt8) (c : Cursor) : Parser (Cursor ⊕ DnsName × Nat) := do
  match ← parseStep data c with
  | .inl next => return .inl next
  | .inr name => return .inr (name, c.jumps)

/-- `parse` together with the last value of its counter of pointers. -/
def parseCounted (data : List UInt8) : Parser (DnsName × Nat) := do
  let start ← position
  Prog.loop (countedStep data) (129 * (data.length + 1)) ⟨[], false, start, 0⟩

/-- The two bytes of a compression pointer. -/
def pointerTo (p : Nat) : List UInt8 := [UInt8.ofNat (0xC0 + p / 256), UInt8.ofNat p]

/-- The labels that stand in the buffer from a position on, when so many pointers are followed there. -/
inductive Follows (data : List UInt8) : Nat → Nat → List (List UInt8) → Prop
  | stop {pos : Nat} (inside : pos < data.length) : data[pos] = 0 → Follows data pos 0 []
  | label {pos count : Nat} {raws : List (List UInt8)} (inside : pos < data.length) :
      0 < data[pos].toNat → data[pos].toNat < 0xC0 → pos + 1 + data[pos].toNat ≤ data.length →
      Follows data (pos + 1 + data[pos].toNat) count raws →
      Follows data pos count ((data.drop (pos + 1)).take data[pos].toNat :: raws)
  | pointer {pos count : Nat} {raws : List (List UInt8)} (inside : pos < data.length)
      (second : pos + 1 < data.length) : 0xC0 ≤ data[pos].toNat → target data[pos] data[pos + 1] < data.length →
      Follows data (target data[pos] data[pos + 1]) count raws → Follows data pos (count + 1) raws

variable {data : List UInt8}

section Counting

/-- Counting changes nothing else. -/
theorem loop_counted (fuel : Nat) (c : Cursor) (s : Nat) :
    Prog.loop (parseStep data) fuel c s =
      (Prog.loop (countedStep data) fuel c >>= fun counted => pure counted.1) s := by
  induction fuel generalizing c s with
  | zero => rfl
  | succ fuel ih =>
    rw [Prog.loop, Prog.loop, countedStep, Prog.bind_apply, Prog.bind_apply, Prog.bind_apply, Prog.bind_apply]
    rcases parseStep data c s with ⟨(next | name) | error | _ | _, s'⟩
    · exact ih next s'
    all_goals rfl

theorem parse_counted (o : Nat) :
    parse data o = (parseCounted data >>= fun counted => pure counted.1) o := loop_counted _ _ o

theorem Follows.unique {pos count count' : Nat} {raws raws' : List (List UInt8)}
    (follows : Follows data pos count raws) (other : Follows data pos count' raws') : count = count' := by
  induction follows generalizing count' raws' with
  | stop inside zero =>
    cases other with
    | stop => rfl
    | label _ positive => exact absurd zero (not_zero_of_pos positive)
    | pointer _ _ tag => exact absurd zero (not_zero_of_pos (by omega))
  | label inside positive plain _ _ ih =>
    cases other with
    | stop _ zero => exact absurd zero (not_zero_of_pos positive)
    | label _ _ _ _ rest => exact ih rest
    | pointer _ _ tag => omega
  | pointer inside _ tag _ _ ih =>
    cases other with
    | stop _ zero => exact absurd zero (not_zero_of_pos (by omega))
    | label _ _ plain => omega
    | pointer _ _ _ _ rest => rw [ih rest]

/-- Labels are spelled when the pointers before them and among them are not too many. -/
theorem Follows.spells {pos count jumps : Nat} {raws : List (List UInt8)}
    (follows : Follows data pos count raws) (few : jumps + count ≤ MAX_JUMPS) : Spells data pos jumps raws := by
  induction follows generalizing jumps with
  | stop inside zero => exact .stop inside zero
  | label inside positive plain fits _ ih => exact .label inside positive plain fits (ih few)
  | pointer _ second tag near _ ih => exact .pointer second tag near (by omega) (ih (by omega))

theorem Spells.follows {pos jumps : Nat} {raws : List (List UInt8)} (spells : Spells data pos jumps raws)
    (few : jumps ≤ MAX_JUMPS) : ∃ count, jumps + count ≤ MAX_JUMPS ∧ Follows data pos count raws := by
  induction spells with
  | stop inside zero => exact ⟨0, few, .stop inside zero⟩
  | label inside positive plain fits _ ih =>
    obtain ⟨count, bound, rest⟩ := ih few
    exact ⟨count, bound, .label inside positive plain fits rest⟩
  | pointer inside tag near below _ ih =>
    obtain ⟨count, bound, rest⟩ := ih below
    exact ⟨count + 1, by omega, .pointer (by omega) inside tag near rest⟩

/-- The counter ends with the pointers that were followed from the position of the loop on. -/
theorem follows_of_loop {fuel : Nat} {c : Cursor} {s s' : Nat} {name : DnsName} {total : Nat}
    (read : Prog.loop (countedStep data) fuel c s = (.ok (name, total), s')) :
    ∃ count raws, Follows data c.current count raws ∧ total = c.jumps + count ∧
      name.labels = c.labels ++ raws.map decodeLabel := by
  induction fuel generalizing c s with
  | zero => cases read
  | succ fuel ih =>
    obtain ⟨next, t, step, rest⟩ := Prog.bind_eq_ok.mp read
    obtain ⟨advanced, t', step, back⟩ := Prog.bind_eq_ok.mp step
    cases advances_of_parseStep step with
    | stop inside zero =>
      cases back
      cases rest
      exact ⟨0, [], .stop inside zero, rfl, by simp⟩
    | label inside positive plain fits =>
      cases back
      obtain ⟨count, raws, follows, counted, labels⟩ := ih rest
      refine ⟨count, _, .label inside positive plain fits follows, counted, ?_⟩
      rw [labels, List.map_cons, List.append_assoc]
      rfl
    | pointer inside second tag near few =>
      cases back
      obtain ⟨count, raws, follows, counted, labels⟩ := ih rest
      exact ⟨count + 1, raws, .pointer inside second tag near follows, by dsimp only at counted; omega, labels⟩

end Counting

section Layout

/-! Labels followed by a pointer, somewhere in the buffer. -/

/-- The labels with their lengths, and a pointer behind the last of them. -/
def pointingWire (pre : List (List UInt8)) (p : Nat) : List UInt8 := labelsWire pre ++ pointerTo p

theorem target_pointerTo {p : Nat} (near : p < 16384) :
    0xC0 ≤ (UInt8.ofNat (0xC0 + p / 256)).toNat ∧
      target (UInt8.ofNat (0xC0 + p / 256)) (UInt8.ofNat p) = p := by
  have high : (UInt8.ofNat (0xC0 + p / 256)).toNat = 0xC0 + p / 256 := by
    rw [UInt8.toNat_ofNat']
    omega
  have low : (UInt8.ofNat p).toNat = p % 256 := by rw [UInt8.toNat_ofNat']
  have six : (0xC0 + p / 256) &&& 0x3F = p / 256 := by
    rw [Nat.and_two_pow_sub_one_eq_mod _ 6]
    omega
  refine ⟨by omega, ?_⟩
  rw [target, high, low, six, ← Nat.shiftLeft_add_eq_or_of_lt (by omega : p % 256 < 2 ^ 8),
    Nat.shiftLeft_eq]
  omega

/-- A pointer as it is written leads to its position. -/
theorem held_pointer {o p : Nat} (near : p < 16384) (held : Holds data o (pointerTo p)) :
    ∃ (first : o < data.length) (second : o + 1 < data.length), 0xC0 ≤ data[o].toNat ∧ target data[o] data[o + 1] = p := by
  have fits := held.length_le (List.cons_ne_nil _ _)
  obtain ⟨first, second⟩ := Holds.cons_iff.mp held
  have inside : o + 1 < data.length := fits
  refine ⟨by omega, inside, ?_⟩
  rw [first.getElem (by omega), second.getElem inside]
  exact target_pointerTo near

variable {pre : List (List UInt8)} {p : Nat}

theorem ends_pointing {o : Nat} (sized : Sized pre) (near : p < 16384)
    (held : Holds data o (pointingWire pre p)) :
    Ends data o (o + (pre.map fun raw => raw.length + 1).sum + 2) := by
  obtain ⟨_, last⟩ := Holds.append_iff.mp held
  obtain ⟨inside, second, tag, _⟩ := held_pointer near last
  rw [← labelsWire_length]
  exact ends_labels sized (List.cons_ne_nil _ _) held (.pointer inside second tag)

/-- What is spelled there are the labels, and behind them what is spelled at the pointer's target after
one more jump. -/
theorem spells_pointing_iff {o jumps : Nat} {raws : List (List UInt8)} (sized : Sized pre) (near : p < 16384)
    (inside : p < data.length) (held : Holds data o (pointingWire pre p)) :
    Spells data o jumps raws ↔
      jumps < MAX_JUMPS ∧ ∃ below, raws = pre ++ below ∧ Spells data p (jumps + 1) below := by
  obtain ⟨_, last⟩ := Holds.append_iff.mp held
  obtain ⟨_, second, tag, leads⟩ := held_pointer near last
  rw [spells_labels_iff sized (List.cons_ne_nil _ _) held]
  constructor
  · rintro ⟨below, same, spells⟩
    cases spells with
    | stop _ zero => exact absurd zero (not_zero_of_pos (by omega))
    | label _ _ plain => omega
    | pointer _ _ _ few onward =>
      rw [leads] at onward
      exact ⟨few, below, same, onward⟩
  · rintro ⟨few, below, same, spells⟩
    exact ⟨below, same, .pointer second tag (by rwa [leads]) few (by rwa [leads])⟩

end Layout

/-- ASCII text in lower case. -/
def lowerLabel (raw : List UInt8) : String :=
  String.ofList ((raw.map lowerByte).map fun b => Char.ofNat b.toNat)

/-- A pointer stands for the name it points to: labels before it are put in front of that name, as long
as that name can be read with one jump less. -/
theorem parse_pointing {pre : List (List UInt8)} {p q : Nat} (sized : Sized pre)
    (ascii : ∀ raw ∈ pre, ∀ b ∈ raw, b.toNat < 0x80) (near : p < 16384) (inside : p < data.length)
    (held : Holds data q (pointingWire pre p)) :
    (∀ name s count, parseCounted data p = (.ok (name, count), s) → count ≤ 127 →
        parse data q = (.ok ⟨pre.map lowerLabel ++ name.labels⟩,
          q + (pre.map fun raw => raw.length + 1).sum + 2)) ∧
      ((∃ error, (parse data p).1 = .err error) ∨
          (∃ name s, parseCounted data p = (.ok (name, 128), s)) →
        ∃ error, (parse data q).1 = .err error) := by
  constructor
  · intro name s count read few
    obtain ⟨count', raws, follows, rfl, labels⟩ := follows_of_loop read
    have target : Spells data p 1 raws := follows.spells (by dsimp only at few; rw [MAX_JUMPS]; omega)
    have spells := (spells_pointing_iff sized near inside held).mpr ⟨Nat.zero_lt_succ _, raws, rfl, target⟩
    have read := parse_of_spells spells (ends_pointing sized near held)
    have lower : pre.map decodeLabel = pre.map lowerLabel :=
      List.map_congr_left fun raw member => toLowercase_lossy_ascii (ascii raw member)
    rw [List.map_append, lower] at read
    rw [labels, List.nil_append]
    exact read
  · intro broken
    have leaves := parse_leaves data q
    rcases run : parse data q with ⟨name | error | _ | _, s⟩ <;> rw [run] at leaves
    · obtain ⟨raws, spells, _⟩ := parse_reads run
      obtain ⟨_, below, _, target⟩ := (spells_pointing_iff sized near inside held).mp spells
      obtain ⟨count, few, follows⟩ := target.follows (by decide)
      rcases broken with ⟨error, failed⟩ | ⟨name, s, read⟩
      · have read := (parse_ok_iff p ⟨below.map decodeLabel⟩).mpr ⟨_, follows.spells (by omega), rfl⟩
        rw [failed] at read
        cases read
      · obtain ⟨count', raws', follows', counted, _⟩ := follows_of_loop read
        have same := follows.unique follows'
        rw [MAX_JUMPS] at few
        dsimp only at counted
        omega
    · exact ⟨error, rfl⟩
    · exact leaves.elim
    · exact leaves.elim

/-- `com`, and behind it `WWW` with a pointer to it. -/
def pointedName : List UInt8 := [3, 0x63, 0x6F, 0x6D, 0, 3, 0x57, 0x57, 0x57, 0xC0, 0]

theorem parse_pointing_pointedName : parse pointedName 5 = (.ok ⟨["www", "com"]⟩, 11) := by
  have sized : Sized [[0x57, 0x57, 0x57]] := by simp [Sized]
  have ascii : ∀ raw ∈ [[0x57, 0x57, 0x57]], ∀ b ∈ raw, (b : UInt8).toNat < 0x80 := by simp
  have held : Holds pointedName 5 (pointingWire [[0x57, 0x57, 0x57]] 0) := List.prefix_rfl
  have target : parseCounted pointedName 0 = (.ok (⟨["com"]⟩, 0), 5) := by decide +kernel
  have read := (parse_pointing sized ascii (by decide) (by decide) held).1 ⟨["com"]⟩ 5 0 target (by decide)
  have lower : lowerLabel [0x57, 0x57, 0x57] = "www" := by decide +kernel
  rwa [List.map_singleton, lower] at read

end DnsName

end DnsServer
