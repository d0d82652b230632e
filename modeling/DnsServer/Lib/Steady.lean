import DnsServer.Lib.Prog

/-! Programs whose outcome does not depend on the state they start in, as long as it meets a condition. -/

/-- What the caller of a caught call sees of its outcome. -/
def Outcome.caught {ε α : Type} : Outcome ε α → Outcome ε (Except ε α)
  | .ok a => .ok (.ok a)
  | .err e => .ok (.error e)
  | .panic => .panic
  | .hang => .hang

namespace Prog

variable {σ ε α β : Type}

theorem attempt_apply (x : Prog σ ε α) (s : σ) : attempt x s = ((x s).1.caught, (x s).2) := by
  unfold attempt
  rcases x s with ⟨_ | _ | _ | _, _⟩ <;> rfl

/-- From every state that meets `P` the program ends in a state that meets `J`, a value that it returns
meets `Q`, and where `same` holds it ends in one and the same way. -/
structure Steady (same : Prop) (P J : σ → Prop) (x : Prog σ ε α) (Q : α → Prop) : Prop where
  keeps : ∀ s, P s → J (x s).2
  gives : ∀ s, P s → ∀ a, (x s).1 = .ok a → Q a
  alike : same → ∀ s t, P s → P t → (x s).1 = (x t).1

namespace Steady

variable {same same' : Prop} {P P' J J' K : σ → Prop} {Q Q' : α → Prop} {x : Prog σ ε α}

theorem ret {a : α} (meets : Q a) : Steady same J J (pure a : Prog σ ε α) Q := by
  refine ⟨fun _ start => start, ?_, fun _ _ _ _ _ => rfl⟩
  rintro _ _ _ ⟨⟩
  exact meets

theorem fail (e : ε) : Steady same J J (Prog.fail e : Prog σ ε α) Q :=
  ⟨fun _ start => start, nofun, fun _ _ _ _ _ => rfl⟩

theorem hang : Steady same J J (Prog.hang : Prog σ ε α) Q :=
  ⟨fun _ start => start, nofun, fun _ _ _ _ _ => rfl⟩

/-- Where nothing is said about the outcome, keeping the condition is enough. -/
theorem of_keeps (kept : Keeps J x) (never : ¬same) : Steady same J J x fun _ => True :=
  ⟨kept, fun _ _ _ _ => trivial, fun holds => absurd holds never⟩

theorem weaken (steady : Steady same P J x Q) (narrower : same' → same) (pre : ∀ s, P' s → P s)
    (kept : ∀ s, J s → J' s) (post : ∀ a, Q a → Q' a) : Steady same' P' J' x Q' where
  keeps s start := kept _ (steady.keeps s (pre s start))
  gives s start a returned := post a (steady.gives s (pre s start) a returned)
  alike holds s t start start' := steady.alike (narrower holds) s t (pre s start) (pre t start')

theorem bind {R : β → Prop} {f : α → Prog σ ε β} (first : Steady same P K x Q) (kept : ∀ s, K s → J s)
    (rest : ∀ a, Q a → Steady same K J (f a) R) : Steady same P J (x >>= f) R where
  keeps s start := by
    have middle := first.keeps s start
    have meets := first.gives s start
    rw [bind_apply]
    rcases run : x s with ⟨out, s'⟩
    rw [run] at middle meets
    cases out with
    | ok a => exact (rest a (meets a rfl)).keeps s' middle
    | _ => exact kept s' middle
  gives s start b back := by
    obtain ⟨a, s', run, after⟩ := bind_eq_ok.mp (Prod.ext back rfl)
    have middle := first.keeps s start
    rw [run] at middle
    exact (rest a (first.gives s start a (by rw [run]))).gives s' middle b (by rw [after])
  alike holds s t start start' := by
    have together := first.alike holds s t start start'
    have middle := first.keeps s start
    have middle' := first.keeps t start'
    have meets := first.gives s start
    rw [bind_apply, bind_apply]
    rcases run : x s with ⟨out, s'⟩
    rcases run' : x t with ⟨out', t'⟩
    rw [run] at together middle meets
    rw [run'] at together middle'
    dsimp only at together
    subst together
    cases out with
    | ok a => exact (rest a (meets a rfl)).alike holds s' t' middle middle'
    | _ => rfl

theorem attempt (steady : Steady same P J x Q) :
    Steady same P J (Prog.attempt x) fun caught => ∀ a, caught = .ok a → Q a where
  keeps s start := by
    rw [attempt_apply]
    exact steady.keeps s start
  gives s start caught back a given := by
    subst given
    rcases attempt_eq_ok.mp (Prod.ext back rfl) with ⟨a', found, run⟩ | ⟨_, failed, _⟩
    · cases found
      exact steady.gives s start a (by rw [run])
    · cases failed
  alike holds s t start start' := by
    rw [attempt_apply, attempt_apply, steady.alike holds s t start start']

/-- The induction is on the rounds left: what each round establishes of the loop variable is `I`. -/
theorem loop {I : α → Prop} {R : β → Prop} {body : α → Prog σ ε (α ⊕ β)}
    (round : ∀ a, I a → Steady same J J (body a) (Sum.elim I R)) (fuel : Nat) {a : α} (start : I a) :
    Steady same J J (Prog.loop body fuel a) R := by
  induction fuel generalizing a with
  | zero => exact hang
  | succ fuel ih =>
    refine bind (round a start) (fun _ kept => kept) fun next meets => ?_
    cases next with
    | inl a' => exact ih meets
    | inr b => exact ret meets

end Steady

end Prog
