import DnsServer.Lib.Steady
import DnsServer.Lib.Streams
import DnsServer.Resolver.Asking

/-! A part of the resolver that finishes has read finitely much of the tape. With anything else behind
what it read it finishes in the same way, and leaves that behind. -/

namespace DnsServer

/-- What has been read from a tape. -/
structure Readings where
  ids : List UInt16
  draws : List UInt64
  instants : List Nat
  seconds : List UInt32

namespace Readings

def before (readings : Readings) (tape : Tape) : Tape where
  ids := Stream'.appendStream' readings.ids tape.ids
  draws := Stream'.appendStream' readings.draws tape.draws
  instants := Stream'.appendStream' readings.instants tape.instants
  seconds := Stream'.appendStream' readings.seconds tape.seconds
  pending := tape.pending

def nothing : Readings := ⟨[], [], [], []⟩

def append (first second : Readings) : Readings where
  ids := first.ids ++ second.ids
  draws := first.draws ++ second.draws
  instants := first.instants ++ second.instants
  seconds := first.seconds ++ second.seconds

theorem glued {α : Type} (front rest : List α) (numbers : Nat → α) :
    Stream'.appendStream' (front ++ rest) numbers =
      Stream'.appendStream' front (Stream'.appendStream' rest numbers) :=
  Stream'.append_append_stream front rest numbers

theorem append_before (first second : Readings) (tape : Tape) :
    (first.append second).before tape = first.before (second.before tape) := by
  simp only [before, append, glued]

end Readings

def Tape.waiting (tape : Tape) (pending : Option DnsMessage) : Tape := { tape with pending := pending }

/-- On this fuel the log only grows, and a finished run has read finitely much of the tape: it is the
same with more fuel and with anything behind these readings. -/
structure Replays {α : Type} (x : Nat → Resolution Tape α) (fuel : Nat) : Prop where
  grows : ∀ s, queries s.log ≤ queries (x fuel s).2.log
  again : ∀ s out s', x fuel s = (out, s') → out ≠ .hang → ∃ readings : Readings,
    s.world.instants = Stream'.appendStream' readings.instants s'.world.instants ∧
      ∀ more, fuel ≤ more → ∀ tape log, ∃ pending log',
        x more ⟨s.cache, readings.before tape, log⟩ = (out, ⟨s'.cache, tape.waiting pending, log'⟩)

namespace Replays

variable {α β : Type} {x y : Nat → Resolution Tape α} {fuel : Nat}

theorem of_silent {x : Resolution Tape α} {out : Outcome ResponseCode α} (run : ∀ s, x s = (out, s)) :
    Replays (fun _ => x) fuel where
  grows s := by rw [run]
  again s _ _ ended _ := by
    rw [run] at ended
    cases ended
    exact ⟨.nothing, rfl, fun _ _ tape log => ⟨tape.pending, log, run _⟩⟩

theorem ret (a : α) : Replays (fun _ => (pure a : Resolution Tape α)) fuel := of_silent fun _ => rfl

theorem fail (e : ResponseCode) : Replays (fun _ => (Prog.fail e : Resolution Tape α)) fuel :=
  of_silent fun _ => rfl

theorem panic : Replays (fun _ => (Prog.panic : Resolution Tape α)) fuel := of_silent fun _ => rfl

theorem note (event : Event) : Replays (fun _ => (DnsServer.note event : Resolution Tape Unit)) fuel where
  grows s := (queries_append s.log event).symm ▸ Nat.le_add_right _ _
  again s _ _ ended _ := by
    cases ended
    exact ⟨.nothing, rfl, fun _ _ tape log => ⟨tape.pending, log ++ [event], rfl⟩⟩

theorem congr (replays : Replays y fuel) (same : ∀ more, fuel ≤ more → x more = y more) :
    Replays x fuel where
  grows s := by
    rw [same fuel le_rfl]
    exact replays.grows s
  again s out s' ended finished := by
    rw [same fuel le_rfl] at ended
    obtain ⟨readings, reads, again⟩ := replays.again s out s' ended finished
    refine ⟨readings, reads, fun more enough tape log => ?_⟩
    rw [same more enough]
    exact again more enough tape log

theorem bind {f : Nat → α → Resolution Tape β} (first : Replays x fuel)
    (rest : ∀ a, Replays (fun fuel => f fuel a) fuel) : Replays (fun fuel => x fuel >>= f fuel) fuel where
  grows s := by
    have grown := first.grows s
    rw [Prog.bind_apply]
    rcases run : x fuel s with ⟨a | e | _ | _, s'⟩ <;> rw [run] at grown
    · exact grown.trans ((rest a).grows s')
    all_goals exact grown
  again s out s' ended finished := by
    rw [Prog.bind_apply] at ended
    rcases run : x fuel s with ⟨a | e | _ | _, middle⟩ <;> rw [run] at ended
    · obtain ⟨readings, reads, again⟩ := first.again s _ _ run fun hung => by cases hung
      obtain ⟨readings', reads', again'⟩ := (rest a).again middle _ _ ended finished
      refine ⟨readings.append readings', ?_, fun more enough tape log => ?_⟩
      · rw [reads, reads', Readings.append, Readings.glued]
      · obtain ⟨pending, log', run'⟩ := again more enough (readings'.before tape) log
        obtain ⟨pending', log'', run''⟩ := again' more enough (tape.waiting pending) log'
        refine ⟨pending', log'', ?_⟩
        rw [Readings.append_before, Prog.bind_ok run']
        exact run''
    · cases ended
      obtain ⟨readings, reads, again⟩ := first.again s _ _ run fun hung => by cases hung
      refine ⟨readings, reads, fun more enough tape log => ?_⟩
      obtain ⟨pending, log', run'⟩ := again more enough tape log
      exact ⟨pending, log', Prog.bind_err run'⟩
    · cases ended
      obtain ⟨readings, reads, again⟩ := first.again s _ _ run fun hung => by cases hung
      refine ⟨readings, reads, fun more enough tape log => ?_⟩
      obtain ⟨pending, log', run'⟩ := again more enough tape log
      exact ⟨pending, log', Prog.bind_panic run'⟩
    · cases ended
      exact absurd rfl finished

theorem attempt (replays : Replays x fuel) : Replays (fun fuel => Prog.attempt (x fuel)) fuel where
  grows s := by
    rw [Prog.attempt_apply]
    exact replays.grows s
  again s out s' ended finished := by
    rw [Prog.attempt_apply] at ended
    cases ended
    have returned : (x fuel s).1 ≠ .hang := fun hung => finished (by rw [hung]; rfl)
    obtain ⟨readings, reads, again⟩ := replays.again s _ _ rfl returned
    refine ⟨readings, reads, fun more enough tape log => ?_⟩
    obtain ⟨pending, log', run⟩ := again more enough tape log
    refine ⟨pending, log', ?_⟩
    rw [Prog.attempt_apply, run]

/-- A loop that runs on the fuel that its rounds have left over. -/
theorem loop {body : Nat → α → Resolution Tape (α ⊕ β)}
    (round : ∀ a, Replays (fun fuel => body fuel a) fuel) (spent : Nat) (a : α) :
    Replays (fun fuel => Prog.loop (body fuel) (fuel - spent) a) fuel := by
  induction left : fuel - spent generalizing spent a with
  | zero =>
    refine ⟨fun s => ?_, fun s out s' ended finished => ?_⟩
    · rw [left]
      exact le_rfl
    · rw [left] at ended
      cases ended
      exact absurd rfl finished
  | succ left' ih =>
    have unrolled : Replays (fun fuel => body fuel a >>=
        Sum.elim (Prog.loop (body fuel) (fuel - (spent + 1))) pure) fuel := by
      refine (round a).bind fun out => ?_
      cases out with
      | inl a' => exact ih (spent + 1) a' (by omega)
      | inr b => exact ret b
    refine unrolled.congr fun more enough => ?_
    obtain ⟨rest, some⟩ : ∃ rest, more - spent = rest + 1 := ⟨more - spent - 1, by omega⟩
    have after : more - (spent + 1) = rest := by omega
    rw [some, after, Prog.loop_succ]

theorem ask {call : Tape → α × Tape} (reads : ∀ tape, ∃ readings : Readings,
    tape.instants = Stream'.appendStream' readings.instants (call tape).2.instants ∧
      ∀ tape', call (readings.before tape') = ((call tape).1, tape')) :
    Replays (fun _ => DnsServer.ask call) fuel where
  grows _ := le_rfl
  again s _ _ ended _ := by
    cases ended
    obtain ⟨readings, first, again⟩ := reads s.world
    refine ⟨readings, first, fun _ _ tape log => ⟨tape.pending, log, ?_⟩⟩
    rw [DnsServer.ask, again]
    rfl

end Replays

namespace Upstream

variable {upstream : Upstream} {self : Resolver Tape DnsMessage}
  (connected : self.network = upstream.network) {fuel : Nat}

include connected

section Calls

end Calls

section Nested

variable {rec : Nat → DnsName → RecordType → Resolution Tape (List DnsRecord)}
  (below : ∀ name recordType, Replays (fun fuel => rec fuel name recordType) fuel)

include below

end Nested

end Upstream

end DnsServer
