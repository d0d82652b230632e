import DnsServer.Lib.Prog

/-! Two programs that do the same step by step, over states that correspond to each other. -/

namespace Prog

variable {σ τ ε α β : Type}

/-- From corresponding states both programs end in the same way and in corresponding states. -/
def Mirrors (R : σ → τ → Prop) (x : Prog σ ε α) (y : Prog τ ε α) : Prop :=
  ∀ s t, R s t → (x s).1 = (y t).1 ∧ R (x s).2 (y t).2

namespace Mirrors

variable {R : σ → τ → Prop} {x : Prog σ ε α} {y : Prog τ ε α}

theorem ret (a : α) : Mirrors R (pure a : Prog σ ε α) (pure a) := fun _ _ related => ⟨rfl, related⟩

theorem fail (e : ε) : Mirrors R (Prog.fail e : Prog σ ε α) (Prog.fail e) :=
  fun _ _ related => ⟨rfl, related⟩

theorem panic : Mirrors R (Prog.panic : Prog σ ε α) Prog.panic := fun _ _ related => ⟨rfl, related⟩

theorem hang : Mirrors R (Prog.hang : Prog σ ε α) Prog.hang := fun _ _ related => ⟨rfl, related⟩

theorem bind {f : α → Prog σ ε β} {g : α → Prog τ ε β} (first : Mirrors R x y)
    (rest : ∀ a, Mirrors R (f a) (g a)) : Mirrors R (x >>= f) (y >>= g) := by
  intro s t related
  obtain ⟨same, middle⟩ := first s t related
  rw [bind_apply, bind_apply]
  rcases left : x s with ⟨out, s'⟩
  rcases right : y t with ⟨out', t'⟩
  rw [left, right] at same middle
  dsimp only at same middle
  subst same
  cases out with
  | ok a => exact rest a s' t' middle
  | _ => exact ⟨rfl, middle⟩

theorem attempt (mirrors : Mirrors R x y) : Mirrors R (Prog.attempt x) (Prog.attempt y) := by
  intro s t related
  obtain ⟨same, after⟩ := mirrors s t related
  rw [Prog.attempt, Prog.attempt]
  rcases left : x s with ⟨out, s'⟩
  rcases right : y t with ⟨out', t'⟩
  rw [left, right] at same after
  dsimp only at same after
  subst same
  cases out <;> exact ⟨rfl, after⟩

theorem loop {body : α → Prog σ ε (α ⊕ β)} {body' : α → Prog τ ε (α ⊕ β)}
    (round : ∀ a, Mirrors R (body a) (body' a)) (fuel : Nat) (a : α) :
    Mirrors R (Prog.loop body fuel a) (Prog.loop body' fuel a) := by
  induction fuel generalizing a with
  | zero => exact .hang
  | succ fuel ih =>
    refine .bind (round a) fun next => ?_
    cases next with
    | inl a' => exact ih a'
    | inr b => exact .ret b

/-- An invariant that the second program keeps can be carried along. -/
theorem keeping {J : τ → Prop} (mirrors : Mirrors R x y) (keeps : Keeps J y) :
    Mirrors (fun s t => R s t ∧ J t) x y := by
  intro s t related
  obtain ⟨same, after⟩ := mirrors s t related.1
  exact ⟨same, after, keeps t related.2⟩

end Mirrors

end Prog
