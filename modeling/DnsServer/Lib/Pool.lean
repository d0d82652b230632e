import DnsServer.Lib.Process
import Mathlib.Data.List.Perm.Subperm

/-! Processes that run side by side over one state, and what holds of every order of their calls. -/

/-- A state that several processes share: the answers it can give to a call, how it changes by itself,
its invariant, and what can have become of a state in the meantime. -/
structure Sharing (C : Type) (A : C → Type) (σ : Type) where
  Answers : (c : C) → σ → A c → σ → Prop
  Passes : σ → σ → Prop
  Invariant : σ → Prop
  Later : σ → σ → Prop
  refl : ∀ s, Later s s
  trans : ∀ s s' s'', Later s s' → Later s' s'' → Later s s''
  passes : ∀ s s', Invariant s → Passes s s' → Invariant s' ∧ Later s s'

namespace Sharing

variable {C : Type} {A : C → Type} {σ ε ε' α β : Type} (M : Sharing C A σ)

/-- From the state on the property holds, whatever happens. -/
def Henceforth (P : σ → Prop) (s : σ) : Prop := ∀ s', M.Later s s' → M.Invariant s' → P s'

/-- From the state on, whatever the others do between its calls, the process keeps the invariant with
every call, and what it returns meets `Q`. -/
def Meets (Q : α → σ → Prop) : Process C A ε α → σ → Prop
  | .done (.ok a), s => M.Henceforth (Q a) s
  | .done _, _ => True
  | .call c rest, s => M.Henceforth (fun s' => ∀ a s'', M.Answers c s' a s'' →
      M.Invariant s'' ∧ M.Later s' s'' ∧ Meets Q (rest a) s'') s

variable {M}

namespace Henceforth

variable {P P' : σ → Prop} {s s' : σ}

theorem now (ever : M.Henceforth P s) (holds : M.Invariant s) : P s := ever s (M.refl s) holds

theorem later (ever : M.Henceforth P s) (later : M.Later s s') : M.Henceforth P s' :=
  fun s'' after => ever s'' (M.trans _ _ _ later after)

theorem mono (ever : M.Henceforth P s) (weaker : ∀ s', M.Later s s' → M.Invariant s' → P s' → P' s') :
    M.Henceforth P' s :=
  fun s' after holds => weaker s' after holds (ever s' after holds)

/-- What holds and cannot be undone. -/
theorem of_stable (holds : P s) (stable : ∀ s', M.Later s s' → P s → P s') : M.Henceforth P s :=
  fun s' after _ => stable s' after holds

/-- Only the states that keep the invariant matter. -/
theorem of_henceforth (ever : M.Henceforth (M.Henceforth P) s) : M.Henceforth P s :=
  fun s' after holds => (ever s' after holds).now holds

end Henceforth

namespace Meets

variable {Q Q' : α → σ → Prop} {x : Process C A ε α} {s s' : σ}

theorem later (meets : M.Meets Q x s) (later : M.Later s s') : M.Meets Q x s' := by
  match x, meets with
  | .done (.ok a), meets => exact Henceforth.later meets later
  | .done (.err _), _ => exact trivial
  | .done .panic, _ => exact trivial
  | .done .hang, _ => exact trivial
  | .call c rest, meets => exact Henceforth.later meets later

theorem of_henceforth (meets : M.Henceforth (M.Meets Q x) s) : M.Meets Q x s := by
  match x, meets with
  | .done (.ok a), meets => exact Henceforth.of_henceforth meets
  | .done (.err _), _ => exact trivial
  | .done .panic, _ => exact trivial
  | .done .hang, _ => exact trivial
  | .call c rest, meets => exact Henceforth.of_henceforth meets

theorem ret {a : α} (post : M.Henceforth (Q a) s) : M.Meets Q (pure a : Process C A ε α) s := post

theorem fail (e : ε) : M.Meets Q (Process.fail e : Process C A ε α) s := trivial

theorem panic : M.Meets Q (Process.panic : Process C A ε α) s := trivial

theorem hang : M.Meets Q (Process.hang : Process C A ε α) s := trivial

theorem lift {outcome : Outcome ε α} (post : ∀ a, outcome = .ok a → M.Henceforth (Q a) s) :
    M.Meets Q (Process.lift outcome : Process C A ε α) s := by
  cases outcome with
  | ok a => exact post a rfl
  | _ => exact trivial

theorem perform {c : C} {Q : A c → σ → Prop}
    (answered : M.Henceforth (fun s' => ∀ a s'', M.Answers c s' a s'' →
      M.Invariant s'' ∧ M.Later s' s'' ∧ M.Henceforth (Q a) s'') s) :
    M.Meets Q (Process.perform c : Process C A ε (A c)) s := answered

theorem weaken (meets : M.Meets Q x s)
    (post : ∀ a s', M.Later s s' → M.Invariant s' → Q a s' → Q' a s') : M.Meets Q' x s := by
  induction x generalizing s with
  | done outcome =>
    cases outcome with
    | ok a => exact Henceforth.mono meets (post a)
    | _ => exact trivial
  | call c rest ih =>
    refine Henceforth.mono meets fun s' after holds next a s'' answers => ?_
    obtain ⟨kept, onward, meets'⟩ := next a s'' answers
    refine ⟨kept, onward, ih a meets' fun a' s''' after' => post a' s''' ?_⟩
    exact M.trans _ _ _ (M.trans _ _ _ after onward) after'

theorem bind {P : α → σ → Prop} {Q : β → σ → Prop} {f : α → Process C A ε β} (first : M.Meets P x s)
    (rest : ∀ a s', M.Later s s' → M.Invariant s' → M.Henceforth (P a) s' → M.Meets Q (f a) s') :
    M.Meets Q (x >>= f) s := by
  induction x generalizing s with
  | done outcome =>
    cases outcome with
    | ok a =>
      refine of_henceforth fun s' after holds => rest a s' after holds ?_
      exact Henceforth.later first after
    | _ => exact trivial
  | call c next ih =>
    refine Henceforth.mono first fun s' after holds going a s'' answers => ?_
    obtain ⟨kept, onward, meets⟩ := going a s'' answers
    refine ⟨kept, onward, ih a meets fun a' s''' after' => rest a' s''' ?_⟩
    exact M.trans _ _ _ (M.trans _ _ _ after onward) after'

theorem rescue (meets : M.Meets Q x s) :
    M.Meets (fun caught s => ∀ a, caught = .ok a → Q a s) (x.rescue : Process C A ε' (Except ε α)) s := by
  induction x generalizing s with
  | done outcome =>
    cases outcome with
    | ok a =>
      refine Henceforth.mono meets fun s' _ _ post => ?_
      rintro _ ⟨⟩
      exact post
    | err e =>
      rintro s' after holds _ ⟨⟩
    | _ => exact trivial
  | call c rest ih =>
    refine Henceforth.mono meets fun s' _ _ next a s'' answers => ?_
    obtain ⟨kept, onward, meets'⟩ := next a s'' answers
    exact ⟨kept, onward, ih a meets'⟩

theorem attempt (meets : M.Meets Q x s) :
    M.Meets (fun caught s => ∀ a, caught = .ok a → Q a s) x.attempt s := meets.rescue

theorem loop {J : α → σ → Prop} {Q : β → σ → Prop} {body : α → Process C A ε (α ⊕ β)}
    (round : ∀ a s, M.Henceforth (J a) s → M.Meets (Sum.elim J Q) (body a) s) (fuel : Nat) {a : α}
    (start : M.Henceforth (J a) s) : M.Meets Q (Process.loop body fuel a) s := by
  induction fuel generalizing a s with
  | zero => exact hang
  | succ fuel ih =>
    refine bind (round a s start) fun out s' _ _ next => ?_
    cases out with
    | inl a' => exact ih next
    | inr b => exact ret next

end Meets

end Sharing

/-- The processes that are under way for their requests, and how the ones before them ended. -/
structure Pool (O C : Type) (A : C → Type) (σ ε α : Type) where
  shared : σ
  requests : List O
  running : List (O × Process C A ε α)
  finished : List (O × Outcome ε α)

namespace Pool

variable {O C : Type} {A : C → Type} {σ ε α : Type}

/-- A request starts a process, any of the processes under way has its next call answered, ends or is
dropped, or the shared state changes by itself. -/
inductive Step (M : Sharing C A σ) (start : O → Process C A ε α → Prop) :
    Pool O C A σ ε α → Pool O C A σ ε α → Prop
  | start {s : σ} {requests : List O} {running : List (O × Process C A ε α)}
      {finished : List (O × Outcome ε α)} (request : O) (process : Process C A ε α) :
      start request process → Step M start ⟨s, requests, running, finished⟩
        ⟨s, request :: requests, (request, process) :: running, finished⟩
  | call {s s' : σ} {requests : List O} {finished : List (O × Outcome ε α)}
      (before after : List (O × Process C A ε α)) {request : O} {c : C} {rest : A c → Process C A ε α}
      (a : A c) : M.Answers c s a s' →
      Step M start ⟨s, requests, before ++ (request, .call c rest) :: after, finished⟩
        ⟨s', requests, before ++ (request, rest a) :: after, finished⟩
  | finish {s : σ} {requests : List O} {finished : List (O × Outcome ε α)}
      (before after : List (O × Process C A ε α)) {request : O} {outcome : Outcome ε α} :
      Step M start ⟨s, requests, before ++ (request, .done outcome) :: after, finished⟩
        ⟨s, requests, before ++ after, (request, outcome) :: finished⟩
  | drop {s : σ} {requests : List O} {finished : List (O × Outcome ε α)}
      (before after : List (O × Process C A ε α)) (entry : O × Process C A ε α) :
      Step M start ⟨s, requests, before ++ entry :: after, finished⟩
        ⟨s, requests, before ++ after, finished⟩
  | pass {s s' : σ} {requests : List O} {running : List (O × Process C A ε α)}
      {finished : List (O × Outcome ε α)} : M.Passes s s' →
      Step M start ⟨s, requests, running, finished⟩ ⟨s', requests, running, finished⟩

/-- The pools that a state without processes can lead to. -/
inductive Reaches (M : Sharing C A σ) (start : O → Process C A ε α → Prop) (initial : σ) :
    Pool O C A σ ε α → Prop
  | initial : Reaches M start initial ⟨initial, [], [], []⟩
  | step {pool pool' : Pool O C A σ ε α} : Reaches M start initial pool → Step M start pool pool' →
      Reaches M start initial pool'

variable {M : Sharing C A σ} {start : O → Process C A ε α → Prop} {initial : σ}
  {pool pool' : Pool O C A σ ε α} {Q : O → α → σ → Prop}

/-- The invariant of the shared state, what the processes under way will still do, and what those that
came back have returned. -/
structure Sound (M : Sharing C A σ) (Q : O → α → σ → Prop) (pool : Pool O C A σ ε α) : Prop where
  shared : M.Invariant pool.shared
  running : ∀ entry ∈ pool.running, M.Meets (Q entry.1) entry.2 pool.shared
  finished : ∀ entry ∈ pool.finished, ∀ a, entry.2 = .ok a → M.Henceforth (Q entry.1 a) pool.shared

/-- What the others do leaves a pool sound. -/
theorem Sound.later {s s' : σ} {requests : List O} {running : List (O × Process C A ε α)}
    {finished : List (O × Outcome ε α)} (sound : Sound M Q ⟨s, requests, running, finished⟩)
    (kept : M.Invariant s') (later : M.Later s s') : Sound M Q ⟨s', requests, running, finished⟩ where
  shared := kept
  running entry member := (sound.running entry member).later later
  finished entry member a ok := (sound.finished entry member a ok).later later

theorem Sound.step (starts : ∀ request process, start request process → ∀ s, M.Invariant s →
    M.Meets (Q request) process s) (sound : Sound M Q pool) (step : Step M start pool pool') :
    Sound M Q pool' := by
  cases step with
  | start request process started =>
    refine ⟨sound.shared, ?_, sound.finished⟩
    exact List.forall_mem_cons.mpr ⟨starts request process started _ sound.shared, sound.running⟩
  | @call s s' requests finished before after request c rest a answers =>
    have meets := sound.running (request, .call c rest) (by simp)
    obtain ⟨kept, onward, meets'⟩ := Sharing.Henceforth.now meets sound.shared a s' answers
    have others : Sound M Q ⟨s', requests, before ++ (request, .call c rest) :: after, finished⟩ :=
      sound.later kept onward
    refine ⟨kept, fun entry member => ?_, others.finished⟩
    rcases List.mem_append.mp member with member | member
    · exact others.running entry (List.mem_append_left _ member)
    rcases List.mem_cons.mp member with rfl | member
    · exact meets'
    · exact others.running entry (List.mem_append_right _ (List.mem_cons_of_mem _ member))
  | @finish s requests finished before after request outcome =>
    have meets := sound.running (request, .done outcome) (by simp)
    refine ⟨sound.shared, fun entry member => sound.running entry ?_, ?_⟩
    · simp only [List.mem_append, List.mem_cons] at member ⊢
      tauto
    · refine List.forall_mem_cons.mpr ⟨?_, sound.finished⟩
      rintro a rfl
      exact meets
  | drop before after entry =>
    refine ⟨sound.shared, fun other member => sound.running other ?_, sound.finished⟩
    simp only [List.mem_append, List.mem_cons] at member ⊢
    tauto
  | pass passes =>
    obtain ⟨kept, later⟩ := M.passes _ _ sound.shared passes
    exact sound.later kept later

/-- If each request starts a process that keeps to its part, then every pool that is reached is sound. -/
theorem Reaches.sound (starts : ∀ request process, start request process → ∀ s, M.Invariant s →
    M.Meets (Q request) process s) (begins : M.Invariant initial)
    (reaches : Reaches M start initial pool) : Sound M Q pool := by
  induction reaches with
  | initial =>
    exact ⟨begins, fun _ member => absurd member List.not_mem_nil,
      fun _ member => absurd member List.not_mem_nil⟩
  | step _ step ih => exact ih.step starts step

/-- A process may have everything to itself until it ends. -/
theorem Reaches.alone {answer : (c : C) → σ → A c × σ}
    (legal : ∀ c s, M.Answers c s (answer c s).1 (answer c s).2) {s : σ} {requests : List O}
    {request : O} {process : Process C A ε α} {running : List (O × Process C A ε α)}
    {finished : List (O × Outcome ε α)}
    (reaches : Reaches M start initial ⟨s, requests, (request, process) :: running, finished⟩) :
    Reaches M start initial ⟨(process.alone answer s).2, requests, running,
      (request, (process.alone answer s).1) :: finished⟩ := by
  induction process generalizing s with
  | done outcome => exact .step reaches (.finish [] running)
  | call c rest ih => exact ih _ (.step reaches (.call [] running (answer c s).1 (legal c s)))

/-- Every process that ended or is under way has a request of its own. -/
theorem Reaches.subperm (reaches : Reaches M start initial pool) :
    (pool.finished.map Prod.fst ++ pool.running.map Prod.fst).Subperm pool.requests := by
  induction reaches with
  | initial => exact List.Subperm.refl _
  | step _ step ih =>
    cases step with
    | @start s requests running finished request process =>
      refine List.Subperm.trans (List.Perm.subperm ?_) ((List.subperm_cons request).mpr ih)
      exact List.perm_middle
    | call before after a =>
      simpa only [List.map_append, List.map_cons] using ih
    | @finish s requests finished before after request outcome =>
      refine List.Subperm.trans (List.Perm.subperm ?_) ih
      simp only [List.map_append, List.map_cons, List.cons_append]
      rw [← List.append_assoc, ← List.append_assoc]
      exact List.perm_middle.symm
    | drop before after entry =>
      refine List.Subperm.trans (List.Sublist.subperm ?_) ih
      simp only [List.map_append, List.map_cons]
      exact ((List.sublist_cons_self _ _).append_left _).append_left _
    | pass _ => exact ih

end Pool
