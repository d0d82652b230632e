import DnsServer.Lib.Prog
import Mathlib.Data.List.Infix

/-! Programs that only ever add to a history kept in their state, and what holds of their runs when
every event of the history is an allowed one. -/

structure Monitor (σ E : Type) where
  history : σ → List E
  Allowed : E → Prop
  Invariant : σ → Prop

namespace Monitor

variable {σ E ε α β : Type} (M : Monitor σ E)

/-- Nothing but allowed events has happened so far. -/
def Clean (s : σ) : Prop := ∀ e ∈ M.history s, M.Allowed e

/-- The program only adds to the history. If all that has happened by its end was allowed and `P`
holds, it keeps the invariant, also when it fails, and a value that it returns meets `Q`. -/
structure Ensures (P : Prop) (x : Prog σ ε α) (Q : α → Prop) : Prop where
  grows : ∀ s, M.history s <+: M.history (x s).2
  keeps : ∀ s, P → M.Clean (x s).2 → M.Invariant s →
    M.Invariant (x s).2 ∧ ∀ a, (x s).1 = .ok a → Q a

variable {M}

theorem Clean.of_grows {s s' : σ} (clean : M.Clean s') (grows : M.history s <+: M.history s') :
    M.Clean s := fun e member => clean e (grows.subset member)

namespace Ensures

variable {P P' : Prop} {Q Q' : α → Prop} {x : Prog σ ε α}

/-- A program that leaves the history alone. -/
theorem of_silent (silent : ∀ s, M.history (x s).2 = M.history s)
    (keeps : ∀ s, P → M.Invariant s → M.Invariant (x s).2 ∧ ∀ a, (x s).1 = .ok a → Q a) :
    M.Ensures P x Q where
  grows s := by rw [silent]
  keeps s pre _ inv := keeps s pre inv

theorem ret {a : α} (post : P → Q a) : M.Ensures P (pure a : Prog σ ε α) Q := by
  refine of_silent (fun _ => rfl) fun s pre inv => ⟨inv, ?_⟩
  rintro _ ⟨⟩
  exact post pre

theorem fail {e : ε} : M.Ensures P (Prog.fail e : Prog σ ε α) Q :=
  of_silent (fun _ => rfl) fun _ _ inv => ⟨inv, fun _ run => by cases run⟩

theorem panic : M.Ensures P (Prog.panic : Prog σ ε α) Q :=
  of_silent (fun _ => rfl) fun _ _ inv => ⟨inv, fun _ run => by cases run⟩

theorem hang : M.Ensures P (Prog.hang : Prog σ ε α) Q :=
  of_silent (fun _ => rfl) fun _ _ inv => ⟨inv, fun _ run => by cases run⟩

theorem weaken (ensures : M.Ensures P x Q) (pre : P' → P) (post : ∀ a, P' → Q a → Q' a) :
    M.Ensures P' x Q' where
  grows := ensures.grows
  keeps s start clean inv := by
    obtain ⟨kept, returned⟩ := ensures.keeps s (pre start) clean inv
    exact ⟨kept, fun a run => post a start (returned a run)⟩

theorem bind {R : α → Prop} {Q : β → Prop} {f : α → Prog σ ε β} (first : M.Ensures P x R)
    (rest : ∀ a, M.Ensures (R a) (f a) Q) : M.Ensures P (x >>= f) Q := by
  have cases_of : ∀ s, (∃ a, x s = (.ok a, (x s).2) ∧ (x >>= f) s = f a (x s).2) ∨
      ((x >>= f) s).2 = (x s).2 ∧ ∀ b, ((x >>= f) s).1 ≠ .ok b := by
    intro s
    rcases run : x s with ⟨a | e | _ | _, s'⟩
    · exact Or.inl ⟨a, rfl, Prog.bind_ok run⟩
    · exact Or.inr (by rw [Prog.bind_err run]; exact ⟨rfl, fun _ run => by cases run⟩)
    · exact Or.inr (by rw [Prog.bind_panic run]; exact ⟨rfl, fun _ run => by cases run⟩)
    · exact Or.inr (by rw [Prog.bind_hang run]; exact ⟨rfl, fun _ run => by cases run⟩)
  constructor
  · intro s
    rcases cases_of s with ⟨a, _, run⟩ | ⟨stopped, _⟩
    · rw [run]
      exact (first.grows s).trans ((rest a).grows _)
    · rw [stopped]
      exact first.grows s
  · intro s pre clean inv
    rcases cases_of s with ⟨a, returned, run⟩ | ⟨stopped, none⟩
    · rw [run] at clean ⊢
      have middle := first.keeps s pre (clean.of_grows ((rest a).grows _)) inv
      exact (rest a).keeps _ (middle.2 a (by rw [returned])) clean middle.1
    · rw [stopped] at clean ⊢
      exact ⟨(first.keeps s pre clean inv).1, fun b run => absurd run (none b)⟩

/-- The failure of a caught program leaves the invariant behind it. -/
theorem attempt (ensures : M.Ensures P x Q) :
    M.Ensures P (Prog.attempt x) (fun caught => ∀ a, caught = .ok a → Q a) := by
  have same : ∀ s, (Prog.attempt x s).2 = (x s).2 := by
    intro s
    unfold Prog.attempt
    split <;> simp_all
  constructor
  · intro s
    rw [same]
    exact ensures.grows s
  · intro s pre clean inv
    rw [same] at clean ⊢
    obtain ⟨kept, returned⟩ := ensures.keeps s pre clean inv
    refine ⟨kept, ?_⟩
    rintro _ run a rfl
    refine returned a ?_
    unfold Prog.attempt at run
    split at run <;> simp_all

theorem loop {A : α → Prop} {Q : β → Prop} {body : α → Prog σ ε (α ⊕ β)}
    (round : ∀ a, M.Ensures (A a) (body a) (Sum.elim A Q)) (fuel : Nat) (a : α) :
    M.Ensures (A a) (Prog.loop body fuel a) Q := by
  induction fuel generalizing a with
  | zero => exact hang
  | succ fuel ih =>
    refine bind (round a) fun next => ?_
    cases next with
    | inl a' => exact ih a'
    | inr b => exact ret id

end Ensures

end Monitor
