import DnsServer.Lib.Prog

/-! The rounds of a loop without fuel: where it comes to, in which round it ends, and how many it takes
when they decrease a pair of numbers in the lexicographic order. -/

namespace Prog

variable {σ ε α β : Type} {body : α → Prog σ ε (α ⊕ β)} {a : α} {s : σ}

/-- How many pairs come before this one in the lexicographic order, when the second number is bounded. -/
def lexRank (bound x y : Nat) : Nat := x * (bound + 1) + y

theorem lexRank_lt {bound x y x' y' : Nat} (within : y' ≤ bound)
    (less : Prod.Lex (· < ·) (· < ·) (x', y') (x, y)) : lexRank bound x' y' < lexRank bound x y := by
  unfold lexRank
  cases less with
  | left _ _ less =>
    have jump : x' * (bound + 1) + (bound + 1) ≤ x * (bound + 1) := by
      rw [← Nat.succ_mul]
      exact Nat.mul_le_mul_right _ less
    omega
  | right _ less => omega

/-- After so many rounds that went on, the loop that starts with `a` in `s` stands with another loop
variable in another state. -/
inductive Comes (body : α → Prog σ ε (α ⊕ β)) (a : α) (s : σ) : Nat → α → σ → Prop
  | start : Comes body a s 0 a s
  | next {n : Nat} {a' a'' : α} {s' s'' : σ} : Comes body a s n a' s' → body a' s' = (.ok (.inl a''), s'') →
      Comes body a s (n + 1) a'' s''

/-- A round that ends its loop, with a result or with an error. -/
inductive Breaks : Outcome ε (α ⊕ β) × σ → Outcome ε β × σ → Prop
  | result (b : β) (s : σ) : Breaks (.ok (.inr b), s) (.ok b, s)
  | error (e : ε) (s : σ) : Breaks (.err e, s) (.err e, s)

namespace Comes

/-- The induction is on the rounds: what each of them keeps holds wherever the loop comes to. -/
theorem invariant {I : α → σ → Prop} {n : Nat} {a' : α} {s' : σ} (comes : Comes body a s n a' s')
    (initially : I a s)
    (step : ∀ a s a' s', I a s → body a s = (.ok (.inl a'), s') → I a' s') : I a' s' := by
  induction comes with
  | start => exact initially
  | next _ round ih => exact step _ _ _ _ ih round

/-- The first round, and the rounds from where it leads. -/
theorem cons {n : Nat} {a' a'' : α} {s' s'' : σ} (round : body a s = (.ok (.inl a'), s'))
    (comes : Comes body a' s' n a'' s'') : Comes body a s (n + 1) a'' s'' := by
  induction comes with
  | start => exact .next .start round
  | next _ last ih => exact .next ih last

/-- Rounds that decrease a pair of numbers lexicographically are no more than the pair allows, as long
as the second number stays within a bound. -/
theorem lex_bound (first second : α → Nat) {bound : Nat}
    (within : ∀ n a' s', Comes body a s n a' s' → second a' ≤ bound)
    (descends : ∀ n a' s' a'' s'', Comes body a s n a' s' → body a' s' = (.ok (.inl a''), s'') →
      Prod.Lex (· < ·) (· < ·) (first a'', second a'') (first a', second a'))
    {n : Nat} {a' : α} {s' : σ} (comes : Comes body a s n a' s') :
    n + lexRank bound (first a') (second a') ≤ lexRank bound (first a) (second a) := by
  induction comes with
  | start => exact Nat.le_of_eq (Nat.zero_add _)
  | next earlier round ih =>
    have less := lexRank_lt (within _ _ _ (earlier.next round)) (descends _ _ _ _ _ earlier round)
    omega

end Comes

theorem loop_continues {a' : α} {s' : σ} (round : body a s = (.ok (.inl a'), s')) (fuel : Nat) :
    loop body (fuel + 1) a s = loop body fuel a' s' := by
  rw [loop, bind_ok round]

theorem Breaks.loop {out : Outcome ε β × σ} (breaks : Breaks (body a s) out) (fuel : Nat) :
    loop body (fuel + 1) a s = out := by
  rw [Prog.loop, bind_apply]
  rcases run : body a s with ⟨(a' | b) | e | _ | _, s'⟩ <;> rw [run] at breaks <;> cases breaks <;> rfl

/-- Two bodies that do the same wherever the loop comes to make the same loop. -/
theorem loop_congr {body' : α → Prog σ ε (α ⊕ β)}
    (same : ∀ n a' s', Comes body a s n a' s' → body' a' s' = body a' s') (fuel : Nat) :
    loop body' fuel a s = loop body fuel a s := by
  induction fuel generalizing a s with
  | zero => rfl
  | succ fuel ih =>
    have first := same 0 a s .start
    rcases run : body a s with ⟨(a' | b) | e | _ | _, s'⟩
    · rw [loop_continues run, loop_continues (first.trans run)]
      exact ih fun n a'' s'' comes => same (n + 1) a'' s'' (comes.cons run)
    all_goals rw [loop, loop, bind_apply, bind_apply, first, run]

/-- A loop that comes back within its fuel does so in one of its rounds. -/
theorem loop_breaks {fuel : Nat} (returns : (loop body fuel a s).1.Returns) :
    ∃ n a' s', n < fuel ∧ Comes body a s n a' s' ∧ Breaks (body a' s') (loop body fuel a s) := by
  induction fuel generalizing a s with
  | zero => exact returns.elim
  | succ fuel ih =>
    rcases run : body a s with ⟨(a' | b) | e | _ | _, s'⟩
    · rw [loop_continues run] at returns ⊢
      obtain ⟨n, a'', s'', few, comes, breaks⟩ := ih returns
      exact ⟨n + 1, a'', s'', Nat.succ_lt_succ few, comes.cons run, breaks⟩
    · have breaks : Breaks (body a s) (.ok b, s') := run ▸ .result b s'
      exact ⟨0, a, s, Nat.succ_pos fuel, .start, (breaks.loop fuel).symm ▸ breaks⟩
    · have breaks : Breaks (body a s) (.err e, s') := run ▸ .error e s'
      exact ⟨0, a, s, Nat.succ_pos fuel, .start, (breaks.loop fuel).symm ▸ breaks⟩
    · rw [loop, bind_panic run] at returns
      exact returns.elim
    · rw [loop, bind_hang run] at returns
      exact returns.elim

end Prog
