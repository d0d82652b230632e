import Mathlib.Data.List.Count

/-! Nodes that exchange datagrams: each datagram that a node receives may be answered once, and the
answer goes to the address that the datagram gives as its source. -/

namespace PacketNetwork

structure Datagram (A P : Type) where
  source : A
  destination : A
  payload : P

/-- The answer with this payload. -/
def Datagram.answer {A P : Type} (datagram : Datagram A P) (payload : P) : Datagram A P :=
  ⟨datagram.destination, datagram.source, payload⟩

/-- The datagrams under way, those that were received and are being worked on, and those that were
answered, each with the payload of the answer. -/
structure Net (A P : Type) where
  inFlight : List (Datagram A P)
  pending : List (Datagram A P)
  answered : List (Datagram A P × P)

section Runs

variable {A P : Type} (node : A → Prop) (Answers : P → P → Prop)

/-- A datagram reaches the node it is for or gets lost, and what was received is answered or given up.
Any datagram may be the next one. -/
inductive Step : Net A P → Net A P → Prop
  | receive (before after : List (Datagram A P)) {pending : List (Datagram A P)}
      {answered : List (Datagram A P × P)} {datagram : Datagram A P} : node datagram.destination →
      Step ⟨before ++ datagram :: after, pending, answered⟩ ⟨before ++ after, datagram :: pending, answered⟩
  | lose (before after : List (Datagram A P)) {pending : List (Datagram A P)}
      {answered : List (Datagram A P × P)} {datagram : Datagram A P} :
      Step ⟨before ++ datagram :: after, pending, answered⟩ ⟨before ++ after, pending, answered⟩
  | answer (before after : List (Datagram A P)) {inFlight : List (Datagram A P)}
      {answered : List (Datagram A P × P)} {datagram : Datagram A P} {payload : P} :
      Answers datagram.payload payload →
      Step ⟨inFlight, before ++ datagram :: after, answered⟩
        ⟨datagram.answer payload :: inFlight, before ++ after, (datagram, payload) :: answered⟩
  | giveUp (before after : List (Datagram A P)) {inFlight : List (Datagram A P)}
      {answered : List (Datagram A P × P)} {datagram : Datagram A P} :
      Step ⟨inFlight, before ++ datagram :: after, answered⟩ ⟨inFlight, before ++ after, answered⟩

/-- The states that can come of the injected datagrams. -/
inductive Reaches (injected : List (Datagram A P)) : Net A P → Prop
  | start : Reaches injected ⟨injected, [], []⟩
  | step {net net' : Net A P} : Reaches injected net → Step node Answers net net' → Reaches injected net'

/-- There is something to answer to the payload. -/
def Answerable (payload : P) : Prop := ∃ answer, Answers payload answer

/-- A node answers the datagram when it gets it. -/
def Live (datagram : Datagram A P) : Prop := node datagram.destination ∧ Answerable Answers datagram.payload

/-- No marked datagram was answered, and there were no more answers than injected datagrams. -/
structure Quiet (marked : P → Prop) (injected : List (Datagram A P)) (net : Net A P) : Prop where
  unmarked : ∀ entry ∈ net.answered, ¬marked entry.1.payload
  few : net.answered.length ≤ injected.length

/-- If the datagram is answered, then it has no mark, and no answer to it is answered in turn. -/
def Harmless (marked : P → Prop) (datagram : Datagram A P) : Prop :=
  Live node Answers datagram → ¬marked datagram.payload ∧
    ∀ payload, Answers datagram.payload payload → ¬Live node Answers (datagram.answer payload)

open Classical in
/-- How many datagrams of a list are answered when a node gets them. -/
noncomputable def liveCount (datagrams : List (Datagram A P)) : Nat :=
  datagrams.countP fun datagram => decide (Live node Answers datagram)

/-- Whatever can still be answered was injected, and each answer uses up one of the injected datagrams. -/
structure Counted (injected : List (Datagram A P)) (net : Net A P) : Prop where
  inFlight : ∀ datagram ∈ net.inFlight, Live node Answers datagram → datagram ∈ injected
  received : ∀ datagram ∈ net.pending, node datagram.destination
  pending : ∀ datagram ∈ net.pending, Live node Answers datagram → datagram ∈ injected
  answered : ∀ entry ∈ net.answered, entry.1 ∈ injected ∧ Live node Answers entry.1
  count : liveCount node Answers net.inFlight + liveCount node Answers net.pending + net.answered.length ≤
    injected.length

variable {node Answers} {injected : List (Datagram A P)} {net net' : Net A P} {marked : P → Prop}

theorem liveCount_cons_live {datagram : Datagram A P} (live : Live node Answers datagram)
    (datagrams : List (Datagram A P)) :
    liveCount node Answers (datagram :: datagrams) = liveCount node Answers datagrams + 1 := by
  classical exact List.countP_cons_of_pos (decide_eq_true live)

theorem liveCount_cons_dead {datagram : Datagram A P} (dead : ¬Live node Answers datagram)
    (datagrams : List (Datagram A P)) :
    liveCount node Answers (datagram :: datagrams) = liveCount node Answers datagrams := by
  classical exact List.countP_cons_of_neg (by rwa [decide_eq_true_iff])

theorem liveCount_append (before after : List (Datagram A P)) :
    liveCount node Answers (before ++ after) = liveCount node Answers before + liveCount node Answers after :=
  List.countP_append

/-- Taking a datagram out leaves one live datagram less, or none. -/
theorem liveCount_middle (before after : List (Datagram A P)) (datagram : Datagram A P) :
    liveCount node Answers (before ++ datagram :: after) =
      liveCount node Answers (before ++ after) + liveCount node Answers [datagram] := by
  rw [liveCount_append, liveCount_append, ← List.singleton_append, liveCount_append]
  omega

theorem Counted.start : Counted node Answers injected ⟨injected, [], []⟩ where
  inFlight := fun _ member _ => member
  received := fun _ member => absurd member List.not_mem_nil
  pending := fun _ member => absurd member List.not_mem_nil
  answered := fun _ member => absurd member List.not_mem_nil
  count := List.countP_le_length

theorem mem_of_middle {before after : List (Datagram A P)} {datagram other : Datagram A P}
    (member : other ∈ before ++ after) : other ∈ before ++ datagram :: after := by
  simp only [List.mem_append, List.mem_cons] at member ⊢
  tauto

theorem mem_middle (before after : List (Datagram A P)) (datagram : Datagram A P) :
    datagram ∈ before ++ datagram :: after := by
  simp

/-- Harmless datagrams stay counted: an answer uses up what it answers, and is not live itself. -/
theorem Counted.step (harmless : ∀ datagram ∈ injected, Harmless node Answers marked datagram)
    (counted : Counted node Answers injected net) (step : Step node Answers net net') :
    Counted node Answers injected net' := by
  obtain ⟨inFlight, received, pending, answered, count⟩ := counted
  cases step with
  | @receive before after pending' _ datagram here =>
    have middle : liveCount node Answers (before ++ datagram :: after) = _ := liveCount_middle before after datagram
    have moved : liveCount node Answers (datagram :: pending') =
        liveCount node Answers [datagram] + liveCount node Answers pending' := liveCount_append [datagram] pending'
    refine ⟨fun other member => inFlight other (mem_of_middle member), ?_, ?_, answered, ?_⟩
    · exact List.forall_mem_cons.mpr ⟨here, received⟩
    · exact List.forall_mem_cons.mpr ⟨inFlight _ (mem_middle before after datagram), pending⟩
    · dsimp only at count ⊢
      omega
  | @lose before after _ _ datagram =>
    have middle : liveCount node Answers (before ++ datagram :: after) = _ := liveCount_middle before after datagram
    refine ⟨fun other member => inFlight other (mem_of_middle member), received, pending, answered, ?_⟩
    dsimp only at count ⊢
    omega
  | @answer before after flight _ datagram payload answers =>
    have here := mem_middle before after datagram
    have live : Live node Answers datagram := ⟨received _ here, payload, answers⟩
    have source := pending _ here live
    have dead := (harmless _ source live).2 payload answers
    have middle : liveCount node Answers (before ++ datagram :: after) = _ := liveCount_middle before after datagram
    have one : liveCount node Answers [datagram] = 1 := liveCount_cons_live live []
    have none := liveCount_cons_dead dead flight
    refine ⟨?_, fun other member => received other (mem_of_middle member),
      fun other member => pending other (mem_of_middle member), ?_, ?_⟩
    · exact List.forall_mem_cons.mpr ⟨fun alive => absurd alive dead, inFlight⟩
    · exact List.forall_mem_cons.mpr ⟨⟨source, live⟩, answered⟩
    · dsimp only at count ⊢
      rw [List.length_cons]
      omega
  | @giveUp before after _ _ datagram =>
    have middle : liveCount node Answers (before ++ datagram :: after) = _ := liveCount_middle before after datagram
    refine ⟨inFlight, fun other member => received other (mem_of_middle member),
      fun other member => pending other (mem_of_middle member), answered, ?_⟩
    dsimp only at count ⊢
    omega

theorem Reaches.counted (harmless : ∀ datagram ∈ injected, Harmless node Answers marked datagram)
    (reaches : Reaches node Answers injected net) : Counted node Answers injected net := by
  induction reaches with
  | start => exact .start
  | step _ step ih => exact ih.step harmless step

/-- A datagram under way that is for a node may be answered next. -/
theorem Reaches.answered (before after : List (Datagram A P)) {pending : List (Datagram A P)}
    {entries : List (Datagram A P × P)} {datagram : Datagram A P} {payload : P}
    (reaches : Reaches node Answers injected ⟨before ++ datagram :: after, pending, entries⟩)
    (here : node datagram.destination) (answers : Answers datagram.payload payload) :
    Reaches node Answers injected
      ⟨datagram.answer payload :: (before ++ after), pending, (datagram, payload) :: entries⟩ :=
  .step (.step reaches (.receive before after here)) (.answer [] pending answers)

/-- All runs are quiet exactly when each injected datagram is harmless, provided that answers carry the
mark. -/
theorem quiet_iff (marks : ∀ payload answer, Answers payload answer → marked answer) :
    (∀ net, Reaches node Answers injected net → Quiet marked injected net) ↔
      ∀ datagram ∈ injected, Harmless node Answers marked datagram := by
  constructor
  · rintro quiet datagram member ⟨here, answer, answers⟩
    obtain ⟨before, after, rfl⟩ := List.append_of_mem member
    have once := Reaches.answered before after .start here answers
    refine ⟨(quiet _ once).unmarked _ List.mem_cons_self, ?_⟩
    rintro payload answers' ⟨back, answer', answers''⟩
    have first := Reaches.answered before after .start here answers'
    have twice := Reaches.answered [] (before ++ after) first back answers''
    exact (quiet _ twice).unmarked _ List.mem_cons_self (marks _ _ answers')
  · intro harmless net reaches
    have counted := reaches.counted harmless
    refine ⟨fun entry member => ?_, ?_⟩
    · obtain ⟨source, live⟩ := counted.answered entry member
      exact (harmless _ source live).1
    · have count := counted.count
      omega

end Runs

end PacketNetwork
