import DnsServer.Dns.Name

/-! The rounds of the loop in `parse`, counted without the fuel of the model. -/

namespace DnsServer

namespace DnsName

variable {data : List UInt8} {c next : Cursor} {s s' : Nat}

/-- A round that goes on was at a byte of the buffer, and does not leave the buffer. -/
theorem Advances.stays_inside (advances : Advances data c s (.inl next) s') :
    c.current < data.length ∧ next.current ≤ data.length := by
  cases advances with
  | label inside _ _ fits => exact ⟨inside, fits⟩
  | pointer inside _ _ near _ => exact ⟨inside, near.le⟩

theorem Advances.jumps_le (advances : Advances data c s (.inl next) s') (few : c.jumps ≤ MAX_JUMPS) :
    next.jumps ≤ MAX_JUMPS := by
  cases advances with
  | label => exact few
  | pointer _ _ _ _ fewer => exact fewer

theorem jumps_le_of_comes {o n : Nat} (comes : Prog.Comes (parseStep data) ⟨[], false, o, 0⟩ o n c s) :
    c.jumps ≤ MAX_JUMPS :=
  comes.invariant (I := fun c _ => c.jumps ≤ MAX_JUMPS) (Nat.zero_le _) fun _ _ _ _ few round =>
    (advances_of_parseStep round).jumps_le few

/-- The bound is that of the lexicographic order: 129 numbers of jumps left, and with each of them as
many numbers of bytes ahead as the buffer has offsets, its end among them. -/
theorem rounds_lt_of_comes {o n : Nat} (comes : Prog.Comes (parseStep data) ⟨[], false, o, 0⟩ o n c s) :
    n < 129 * (data.length + 1) := by
  have bound := comes.lex_bound (fun c => MAX_JUMPS - c.jumps) (fun c => data.length - c.current)
    (fun _ _ _ _ => Nat.sub_le data.length _)
    fun _ _ _ _ _ _ round => (advances_of_parseStep round).descends
  simp only [Prog.lexRank, MAX_JUMPS] at bound
  omega

theorem Leaves.returns {o : Nat} {out : Outcome DnsError DnsName} (leaves : Leaves data o out s) :
    out.Returns := by
  cases out with
  | ok _ => trivial
  | err _ => trivial
  | panic => exact leaves
  | hang => exact leaves

/-- Whatever the buffer holds and wherever it starts, the loop ends with a name or an error in one of its
first `129 * (data.len() + 1)` rounds. Each round that goes on leaves the jumps and the position in their
ranges, and fewer jumps, or as many jumps and fewer bytes ahead. -/
theorem parse_terminates (data : List UInt8) (o : Nat) :
    (∃ n c s, n + 1 ≤ 129 * (data.length + 1) ∧
      Prog.Comes (parseStep data) ⟨[], false, o, 0⟩ o n c s ∧
      Prog.Breaks (parseStep data c s) (parse data o)) ∧
    ∀ n c s next s', Prog.Comes (parseStep data) ⟨[], false, o, 0⟩ o n c s →
      parseStep data c s = (.ok (.inl next), s') →
      n + 1 < 129 * (data.length + 1) ∧
      (c.jumps ≤ 128 ∧ c.current < data.length) ∧ (next.jumps ≤ 128 ∧ next.current ≤ data.length) ∧
      Prod.Lex (· < ·) (· < ·) (128 - next.jumps, data.length - next.current)
        (128 - c.jumps, data.length - c.current) := by
  constructor
  · exact Prog.loop_breaks (parse_leaves data o).returns
  · intro n c s next s' comes round
    have onward := comes.next round
    have advances := advances_of_parseStep round
    obtain ⟨inside, inside'⟩ := advances.stays_inside
    exact ⟨rounds_lt_of_comes onward, ⟨jumps_le_of_comes comes, inside⟩,
      ⟨jumps_le_of_comes onward, inside'⟩, advances.descends⟩

-- a label and a pointer back to it: each jump collects the label again, up to the one that is too many
example : parse [1, 0x61, 0xC0, 0] 0 = (.err .pointerLoop, 4) := by decide +kernel

end DnsName

end DnsServer
