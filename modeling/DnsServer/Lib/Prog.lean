import Mathlib.Logic.Basic

/-- How a computation ends: with a value, with an error its caller may catch, with a panic
that unwinds through every caller, or not at all within the fuel it was given. -/
inductive Outcome (ε α : Type) where
  | ok (value : α)
  | err (error : ε)
  | panic
  | hang
  deriving DecidableEq, Repr

/-- The computation came back to its caller, with a value or with an error. -/
def Outcome.Returns {ε α : Type} : Outcome ε α → Prop
  | .ok _ => True
  | .err _ => True
  | .panic => False
  | .hang => False

/-- A computation over a mutable state. Whatever the outcome, the state is the one the
computation left behind: a failed call does not undo its writes. -/
def Prog (σ ε α : Type) := σ → Outcome ε α × σ

namespace Prog

variable {σ ε α β γ : Type}

def ret (a : α) : Prog σ ε α := fun s => (.ok a, s)

def andThen (x : Prog σ ε α) (f : α → Prog σ ε β) : Prog σ ε β := fun s =>
  match x s with
  | (.ok a, s') => f a s'
  | (.err e, s') => (.err e, s')
  | (.panic, s') => (.panic, s')
  | (.hang, s') => (.hang, s')

instance : Monad (Prog σ ε) where
  pure := ret
  bind := andThen

def fail (e : ε) : Prog σ ε α := fun s => (.err e, s)

def panic : Prog σ ε α := fun s => (.panic, s)

def hang : Prog σ ε α := fun s => (.hang, s)

def get : Prog σ ε σ := fun s => (.ok s, s)

def set (s : σ) : Prog σ ε Unit := fun _ => (.ok (), s)

def modify (f : σ → σ) : Prog σ ε Unit := fun s => (.ok (), f s)

/-- A caught call: an error becomes a value, a panic does not. -/
def attempt (x : Prog σ ε α) : Prog σ ε (Except ε α) := fun s =>
  match x s with
  | (.ok a, s') => (.ok (.ok a), s')
  | (.err e, s') => (.ok (.error e), s')
  | (.panic, s') => (.panic, s')
  | (.hang, s') => (.hang, s')

/-- A caught call inside a program that fails with errors of another type. -/
def rescue {ε' : Type} (x : Prog σ ε α) : Prog σ ε' (Except ε α) := fun s =>
  match x s with
  | (.ok a, s') => (.ok (.ok a), s')
  | (.err e, s') => (.ok (.error e), s')
  | (.panic, s') => (.panic, s')
  | (.hang, s') => (.hang, s')

/-- A call that does not touch the state. -/
def lift (out : Outcome ε α) : Prog σ ε α := fun s => (out, s)

/-- `loop { .. }`: the body either continues with a new loop variable or breaks with a result. -/
def loop (body : α → Prog σ ε (α ⊕ β)) : Nat → α → Prog σ ε β
  | 0, _ => hang
  | fuel + 1, a => do
    match ← body a with
    | .inl a' => loop body fuel a'
    | .inr b => return b

theorem loop_succ (body : α → Prog σ ε (α ⊕ β)) (fuel : Nat) (a : α) :
    loop body (fuel + 1) a = body a >>= Sum.elim (loop body fuel) pure := by
  rw [loop]
  congr 1
  funext out
  cases out <;> rfl

@[simp] theorem pure_apply (a : α) (s : σ) : (pure a : Prog σ ε α) s = (.ok a, s) := rfl

@[simp] theorem fail_apply (e : ε) (s : σ) : (fail e : Prog σ ε α) s = (.err e, s) := rfl

@[simp] theorem panic_apply (s : σ) : (panic : Prog σ ε α) s = (.panic, s) := rfl

theorem bind_apply (x : Prog σ ε α) (f : α → Prog σ ε β) (s : σ) :
    (x >>= f) s = match x s with
      | (.ok a, s') => f a s'
      | (.err e, s') => (.err e, s')
      | (.panic, s') => (.panic, s')
      | (.hang, s') => (.hang, s') := rfl

@[simp] theorem pure_bind_apply (a : α) (f : α → Prog σ ε β) (s : σ) :
    ((pure a : Prog σ ε α) >>= f) s = f a s := rfl

theorem bind_ok {x : Prog σ ε α} {f : α → Prog σ ε β} {s s' : σ} {a : α}
    (run : x s = (.ok a, s')) : (x >>= f) s = f a s' := by
  rw [bind_apply, run]

theorem bind_err {x : Prog σ ε α} {f : α → Prog σ ε β} {s s' : σ} {e : ε}
    (run : x s = (.err e, s')) : (x >>= f) s = (.err e, s') := by
  rw [bind_apply, run]

theorem bind_panic {x : Prog σ ε α} {f : α → Prog σ ε β} {s s' : σ}
    (run : x s = (.panic, s')) : (x >>= f) s = (.panic, s') := by
  rw [bind_apply, run]

theorem bind_hang {x : Prog σ ε α} {f : α → Prog σ ε β} {s s' : σ}
    (run : x s = (.hang, s')) : (x >>= f) s = (.hang, s') := by
  rw [bind_apply, run]

theorem attempt_ok {x : Prog σ ε α} {s s' : σ} {a : α} (run : x s = (.ok a, s')) :
    attempt x s = (.ok (.ok a), s') := by
  rw [attempt, run]

theorem attempt_err {x : Prog σ ε α} {s s' : σ} {e : ε} (run : x s = (.err e, s')) :
    attempt x s = (.ok (.error e), s') := by
  rw [attempt, run]

theorem attempt_panic {x : Prog σ ε α} {s s' : σ} (run : x s = (.panic, s')) :
    attempt x s = (.panic, s') := by
  rw [attempt, run]

theorem rescue_ok {ε' : Type} {x : Prog σ ε α} {s s' : σ} {a : α} (run : x s = (.ok a, s')) :
    (rescue x : Prog σ ε' _) s = (.ok (.ok a), s') := by
  rw [rescue, run]

theorem rescue_err {ε' : Type} {x : Prog σ ε α} {s s' : σ} {e : ε} (run : x s = (.err e, s')) :
    (rescue x : Prog σ ε' _) s = (.ok (.error e), s') := by
  rw [rescue, run]

/-- What a sequence returned, its second half was given by its first. -/
theorem bind_eq_ok {x : Prog σ ε α} {f : α → Prog σ ε β} {s s' : σ} {b : β} :
    (x >>= f) s = (.ok b, s') ↔ ∃ a middle, x s = (.ok a, middle) ∧ f a middle = (.ok b, s') := by
  rw [bind_apply]
  constructor
  · intro run
    split at run
    · exact ⟨_, _, by assumption, run⟩
    all_goals cases run
  · rintro ⟨a, middle, first, rest⟩
    simpa only [first] using rest

/-- A caught call came back with a value or with an error. -/
theorem attempt_eq_ok {x : Prog σ ε α} {s s' : σ} {caught : Except ε α} :
    attempt x s = (.ok caught, s') ↔
      (∃ a, caught = .ok a ∧ x s = (.ok a, s')) ∨ ∃ e, caught = .error e ∧ x s = (.err e, s') := by
  constructor
  · intro back
    unfold attempt at back
    split at back <;> cases back
    · exact Or.inl ⟨_, rfl, by assumption⟩
    · exact Or.inr ⟨_, rfl, by assumption⟩
  · rintro (⟨a, rfl, run⟩ | ⟨e, rfl, run⟩)
    · exact attempt_ok run
    · exact attempt_err run

theorem bind_assoc (x : Prog σ ε α) (f : α → Prog σ ε β) (g : β → Prog σ ε γ) :
    x >>= f >>= g = x >>= fun a => f a >>= g := by
  funext s
  simp only [bind_apply]
  rcases x s with ⟨a | e | _ | _, s'⟩ <;> rfl

theorem attempt_eq_rescue (x : Prog σ ε α) : attempt x = rescue x := rfl

/-- What follows a caught call is all that there is to catch. -/
theorem rescue_bind {ε' ε'' : Type} (x : Prog σ ε'' α) (f : Except ε'' α → Prog σ ε β) :
    (rescue (rescue x >>= f) : Prog σ ε' (Except ε β)) = rescue x >>= fun caught => rescue (f caught) := by
  funext s
  simp only [rescue, bind_apply]
  rcases x s with ⟨a | e | _ | _, s'⟩ <;> rfl

/-- From a state meeting `P` the computation ends in an outcome and a state meeting `Q`. -/
def Triple (P : σ → Prop) (x : Prog σ ε α) (Q : Outcome ε α → σ → Prop) : Prop :=
  ∀ s, P s → Q (x s).1 (x s).2

/-- However the computation ends, it leaves a state that meets `J` when it starts in one. -/
def Keeps (J : σ → Prop) (x : Prog σ ε α) : Prop := ∀ s, J s → J (x s).2

theorem Keeps.bind {J : σ → Prop} {x : Prog σ ε α} {f : α → Prog σ ε β} (first : Keeps J x)
    (rest : ∀ a, Keeps J (f a)) : Keeps J (x >>= f) := by
  intro s start
  have middle := first s start
  rw [bind_apply]
  rcases run : x s with ⟨out, s'⟩
  rw [run] at middle
  cases out with
  | ok a => exact rest a s' middle
  | _ => exact middle

theorem Keeps.attempt {J : σ → Prop} {x : Prog σ ε α} (keeps : Keeps J x) : Keeps J (attempt x) := by
  intro s start
  have after := keeps s start
  unfold Prog.attempt
  split <;> simp_all

/-- Whatever the computation returns meets `Q`, from whatever state it starts. -/
def Gives (x : Prog σ ε α) (Q : α → Prop) : Prop := ∀ s a, (x s).1 = .ok a → Q a

namespace Gives

variable {P : α → Prop} {Q : β → Prop}

theorem bind {x : Prog σ ε α} {f : α → Prog σ ε β} (first : Gives x P) (rest : ∀ a, P a → Gives (f a) Q) :
    Gives (x >>= f) Q := by
  intro s b back
  obtain ⟨a, middle, run, after⟩ := bind_eq_ok.mp (Prod.ext back rfl)
  exact rest a (first s a (by rw [run])) middle b (by rw [after])

/-- Nothing about what the first half returned is needed. -/
theorem after {x : Prog σ ε α} {f : α → Prog σ ε β} (rest : ∀ a, Gives (f a) Q) : Gives (x >>= f) Q :=
  bind (P := fun _ => True) (fun _ _ _ => trivial) fun a _ => rest a

theorem pure {b : β} (meets : Q b) : Gives (Pure.pure b : Prog σ ε β) Q := by
  rintro s _ ⟨⟩
  exact meets

theorem fail (e : ε) : Gives (Prog.fail e : Prog σ ε β) Q := by
  rintro s b ⟨⟩

theorem panic : Gives (Prog.panic : Prog σ ε β) Q := by
  rintro s b ⟨⟩

theorem attempt {x : Prog σ ε α} (gives : Gives x P) :
    Gives (Prog.attempt x) fun caught => ∀ a, caught = .ok a → P a := by
  rintro s caught back a rfl
  rcases attempt_eq_ok.mp (Prod.ext back rfl) with ⟨a', same, run⟩ | ⟨_, other, _⟩
  · cases same
    exact gives s a (by rw [run])
  · cases other

end Gives

/-- What one round of a loop must establish: the invariant at the next loop variable, or the
loop's own postcondition when the round breaks or fails. -/
def Round (I : α → σ → Prop) (Q : Outcome ε β → σ → Prop) : Outcome ε (α ⊕ β) → σ → Prop
  | .ok (.inl a), s => I a s
  | .ok (.inr b), s => Q (.ok b) s
  | .err e, s => Q (.err e) s
  | .panic, s => Q .panic s
  | .hang, s => Q .hang s

theorem loop_round {body : α → Prog σ ε (α ⊕ β)} {I : α → σ → Prop} {Q : Outcome ε β → σ → Prop}
    {fuel : Nat} {a : α} {s : σ} (round : Round I Q (body a s).1 (body a s).2)
    (rest : ∀ a' s', I a' s' → Q (loop body fuel a' s').1 (loop body fuel a' s').2) :
    Q (loop body (fuel + 1) a s).1 (loop body (fuel + 1) a s).2 := by
  rw [loop, bind_apply]
  rcases run : body a s with ⟨(a' | b) | e | _ | _, s'⟩ <;> rw [run] at round
  · exact rest a' s' round
  all_goals exact round

/-- A loop whose rounds decrease a measure ends within any fuel above it. -/
theorem loop_total {body : α → Prog σ ε (α ⊕ β)} {I : α → σ → Prop} {Q : Outcome ε β → σ → Prop}
    (measure : α → Nat)
    (round : ∀ a, Triple (I a) (body a) (Round (fun a' s => I a' s ∧ measure a' < measure a) Q))
    {fuel : Nat} {a : α} (enough : measure a < fuel) : Triple (I a) (loop body fuel a) Q := by
  induction fuel generalizing a with
  | zero => omega
  | succ fuel ih =>
    intro s start
    exact loop_round (round a s start) fun a' s' next => ih (by omega) s' next.1

/-- Loops whose rounds are the same as long as an invariant holds end alike, within any fuels above a
measure that the rounds decrease. -/
theorem loop_agree {body body' : α → Prog σ ε (α ⊕ β)} {I : α → Prop} (measure : α → Nat)
    (agree : ∀ a s, I a → body a s = body' a s)
    (next : ∀ a a' s s', I a → body' a s = (.ok (.inl a'), s') → I a' ∧ measure a' < measure a)
    {fuel fuel' : Nat} {a : α} (start : I a) (enough : measure a < fuel) (enough' : measure a < fuel') (s : σ) :
    loop body fuel a s = loop body' fuel' a s := by
  induction fuel generalizing fuel' a s with
  | zero => omega
  | succ fuel ih =>
    obtain ⟨fuel', rfl⟩ : ∃ rest, fuel' = rest + 1 := ⟨fuel' - 1, by omega⟩
    rw [loop, loop, bind_apply, bind_apply, agree a s start]
    rcases run : body' a s with ⟨(a' | b) | e | _ | _, s'⟩
    · obtain ⟨onward, less⟩ := next a a' s s' start run
      exact ih onward (by omega) (by omega) s'
    all_goals rfl

end Prog
