import DnsServer.Lib.Prog
import Mathlib.Data.Finset.Lattice.Fold
import Mathlib.Order.Lattice

/-! Programs that run on fuel and come to an end, whatever fuel they get beyond what is enough. -/

namespace Prog

variable {σ ε α β : Type}

/-- From some fuel on the program ends, always in the same way. -/
def Settles (x : Nat → Prog σ ε α) (s : σ) : Prop :=
  ∃ enough, (x enough s).1 ≠ .hang ∧ ∀ fuel, enough ≤ fuel → x fuel s = x enough s

namespace Settles

variable {x y : Nat → Prog σ ε α} {s : σ}

theorem of_eventually (enough : Nat) (final : Outcome ε α × σ) (ended : final.1 ≠ .hang)
    (same : ∀ fuel, enough ≤ fuel → x fuel s = final) : Settles x s := by
  have now := same enough le_rfl
  refine ⟨enough, ?_, ?_⟩
  · rw [now]
    exact ended
  · intro fuel more
    rw [now]
    exact same fuel more

/-- A program that does not run on the fuel. -/
theorem of_ended {x : Prog σ ε α} (ended : (x s).1 ≠ .hang) : Settles (fun _ => x) s :=
  ⟨0, ended, fun _ _ => rfl⟩

theorem ret (a : α) : Settles (fun _ => (pure a : Prog σ ε α)) s := of_ended fun run => by cases run

theorem fail (e : ε) : Settles (fun _ => (Prog.fail e : Prog σ ε α)) s :=
  of_ended fun run => by cases run

theorem congr (settles : Settles y s) (enough : Nat)
    (same : ∀ fuel, enough ≤ fuel → x fuel s = y fuel s) : Settles x s := by
  obtain ⟨enough', ended, settled⟩ := settles
  refine of_eventually (max enough enough') _ ended fun fuel more => ?_
  rw [same fuel ((le_max_left _ _).trans more)]
  exact settled fuel ((le_max_right _ _).trans more)

theorem bind {f : Nat → α → Prog σ ε β} (first : Settles x s)
    (rest : ∀ fuel a s', x fuel s = (.ok a, s') → Settles (fun fuel => f fuel a) s') :
    Settles (fun fuel => x fuel >>= f fuel) s := by
  obtain ⟨enough, ended, settled⟩ := first
  rcases run : x enough s with ⟨a | e | _ | _, s'⟩
  · have resumed : Settles (fun fuel _ => f fuel a s') s := rest enough a s' run
    exact resumed.congr enough fun fuel more => bind_ok ((settled fuel more).trans run)
  · refine of_eventually enough (.err e, s') (fun hung => by cases hung) ?_
    exact fun fuel more => bind_err ((settled fuel more).trans run)
  · refine of_eventually enough (.panic, s') (fun hung => by cases hung) ?_
    exact fun fuel more => bind_panic ((settled fuel more).trans run)
  · rw [run] at ended
    exact absurd rfl ended

theorem attempt (settles : Settles x s) : Settles (fun fuel => Prog.attempt (x fuel)) s := by
  obtain ⟨enough, ended, settled⟩ := settles
  refine of_eventually enough (Prog.attempt (x enough) s) ?_ fun fuel more => ?_
  · rcases run : x enough s with ⟨a | e | _ | _, s'⟩ <;> rw [run] at ended
    · rw [attempt_ok run]
      exact fun hung => by cases hung
    · rw [attempt_err run]
      exact fun hung => by cases hung
    · rw [attempt_panic run]
      exact fun hung => by cases hung
    · exact absurd rfl ended
  · unfold Prog.attempt
    rw [settled fuel more]

/-- A loop whose rounds settle, and lead from one loop variable to the next by a relation without
an endless chain from the first, settles. The fuel is shared by the loop and its rounds. -/
theorem loop {body : Nat → α → Prog σ ε (α ⊕ β)} {J : α → σ → Prop} {Next : α → α → Prop}
    (round : ∀ a s, J a s → Settles (fun fuel => body fuel a) s)
    (next : ∀ fuel a s a' s', J a s → body fuel a s = (.ok (.inl a'), s') → J a' s' ∧ Next a' a)
    {a : α} (ends : Acc Next a) (start : J a s) : Settles (fun fuel => Prog.loop (body fuel) fuel a) s := by
  suffices ∀ spent s, J a s → Settles (fun fuel => Prog.loop (body fuel) (fuel - spent) a) s from
    this 0 s start
  clear start
  induction ends with
  | intro a _ ih =>
    intro spent s start
    have unrolled : Settles (fun fuel => body fuel a >>=
        Sum.elim (Prog.loop (body fuel) (fuel - (spent + 1))) pure) s := by
      refine (round a s start).bind fun fuel out s' run => ?_
      cases out with
      | inl a' =>
        obtain ⟨kept, leads⟩ := next fuel a s a' s' start run
        exact ih a' leads (spent + 1) s' kept
      | inr b => exact .ret b
    refine unrolled.congr (spent + 1) fun fuel more => ?_
    obtain ⟨rest, left⟩ : ∃ rest, fuel - spent = rest + 1 := ⟨fuel - spent - 1, by omega⟩
    have after : fuel - (spent + 1) = rest := by omega
    rw [left, after, loop_succ]

/-- What is measured of a settling program is bounded. -/
theorem bounded (settles : Settles x s) (measure : Outcome ε α × σ → Nat) :
    ∃ bound, ∀ fuel, measure (x fuel s) ≤ bound := by
  obtain ⟨enough, _, settled⟩ := settles
  refine ⟨(Finset.range (enough + 1)).sup fun fuel => measure (x fuel s), fun fuel => ?_⟩
  have within : ∀ fuel, fuel ≤ enough → measure (x fuel s) ≤ _ := fun fuel less =>
    Finset.le_sup (f := fun fuel => measure (x fuel s)) (Finset.mem_range.mpr (Nat.lt_succ_of_le less))
  rcases le_total fuel enough with less | more
  · exact within fuel less
  · rw [settled fuel more]
    exact within enough le_rfl

end Settles

end Prog
