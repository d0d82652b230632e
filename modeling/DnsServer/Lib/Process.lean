import DnsServer.Lib.Prog

/-- A program cut at its calls. A call is one step, and between two calls others may run. -/
inductive Process (C : Type) (A : C → Type) (ε α : Type) where
  | done (outcome : Outcome ε α)
  | call (c : C) (rest : A c → Process C A ε α)

namespace Process

variable {C : Type} {A : C → Type} {σ ε ε' ε'' α β γ : Type}

def andThen : Process C A ε α → (α → Process C A ε β) → Process C A ε β
  | done (.ok a), f => f a
  | done (.err e), _ => done (.err e)
  | done .panic, _ => done .panic
  | done .hang, _ => done .hang
  | call c rest, f => call c fun a => (rest a).andThen f

instance : Monad (Process C A ε) where
  pure a := done (.ok a)
  bind := andThen

def fail (e : ε) : Process C A ε α := done (.err e)

def panic : Process C A ε α := done .panic

def hang : Process C A ε α := done .hang

def perform (c : C) : Process C A ε (A c) := call c fun a => done (.ok a)

/-- A computation that makes no calls. -/
def lift (outcome : Outcome ε α) : Process C A ε α := done outcome

/-- A caught call inside a program that fails with errors of another type. -/
def rescue : Process C A ε α → Process C A ε' (Except ε α)
  | done (.ok a) => done (.ok (.ok a))
  | done (.err e) => done (.ok (.error e))
  | done .panic => done .panic
  | done .hang => done .hang
  | call c rest => call c fun a => (rest a).rescue

def attempt (x : Process C A ε α) : Process C A ε (Except ε α) := x.rescue

/-- `loop { .. }`: the body either continues with a new loop variable or breaks with a result. -/
def loop (body : α → Process C A ε (α ⊕ β)) : Nat → α → Process C A ε β
  | 0, _ => hang
  | fuel + 1, a => do
    match ← body a with
    | .inl a' => loop body fuel a'
    | .inr b => return b

/-- The process with nothing else going on: each call is answered from the state. -/
def alone (answer : (c : C) → σ → A c × σ) : Process C A ε α → Prog σ ε α
  | done outcome => Prog.lift outcome
  | call c rest => fun s => (rest (answer c s).1).alone answer (answer c s).2

theorem bind_assoc (x : Process C A ε α) (f : α → Process C A ε β) (g : β → Process C A ε γ) :
    x >>= f >>= g = x >>= fun a => f a >>= g := by
  induction x with
  | done outcome => cases outcome <;> rfl
  | call c rest ih => exact congrArg (call c) (funext ih)

/-- What follows a caught call is all that there is to catch. -/
theorem rescue_bind (x : Process C A ε'' α) (f : Except ε'' α → Process C A ε β) :
    ((x.rescue >>= f).rescue : Process C A ε' (Except ε β)) =
      x.rescue >>= fun caught => (f caught).rescue := by
  induction x with
  | done outcome => cases outcome <;> rfl
  | call c rest ih => exact congrArg (call c) (funext ih)

section Alone

variable {answer : (c : C) → σ → A c × σ}

@[simp] theorem alone_pure (a : α) : (pure a : Process C A ε α).alone answer = pure a := rfl

@[simp] theorem alone_fail (e : ε) : (fail e : Process C A ε α).alone answer = Prog.fail e := rfl

@[simp] theorem alone_panic : (panic : Process C A ε α).alone answer = Prog.panic := rfl

@[simp] theorem alone_lift (outcome : Outcome ε α) :
    (lift outcome : Process C A ε α).alone answer = Prog.lift outcome := rfl

theorem alone_bind (x : Process C A ε α) (f : α → Process C A ε β) :
    (x >>= f).alone answer = x.alone answer >>= fun a => (f a).alone answer := by
  funext s
  induction x generalizing s with
  | done outcome => cases outcome <;> rfl
  | call c rest ih => exact ih _ _

/-- A sequence is what its two halves are. -/
theorem bind_alone {x : Process C A ε α} {f : α → Process C A ε β} {x' : Prog σ ε α} {f' : α → Prog σ ε β}
    (first : x.alone answer = x') (rest : ∀ a, (f a).alone answer = f' a) :
    (x >>= f).alone answer = x' >>= f' := by
  rw [alone_bind, first, funext rest]

theorem alone_rescue (x : Process C A ε α) :
    (x.rescue : Process C A ε' (Except ε α)).alone answer = Prog.rescue (x.alone answer) := by
  funext s
  induction x generalizing s with
  | done outcome => cases outcome <;> rfl
  | call c rest ih => exact ih _ _

theorem attempt_alone {x : Process C A ε α} {x' : Prog σ ε α} (same : x.alone answer = x') :
    x.attempt.alone answer = Prog.attempt x' :=
  (alone_rescue x).trans (congrArg Prog.rescue same)

theorem loop_alone {body : α → Process C A ε (α ⊕ β)} {body' : α → Prog σ ε (α ⊕ β)}
    (same : ∀ a, (body a).alone answer = body' a) (fuel : Nat) (a : α) :
    (loop body fuel a).alone answer = Prog.loop body' fuel a := by
  induction fuel generalizing a with
  | zero => rfl
  | succ fuel ih =>
    rw [loop, Prog.loop]
    refine bind_alone (same a) fun out => ?_
    cases out with
    | inl a' => exact ih a'
    | inr b => rfl

end Alone

end Process
