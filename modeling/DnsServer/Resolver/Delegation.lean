import DnsServer.Resolver.Absorb
import DnsServer.Resolver.Replay

namespace DnsServer

/-- What a part of a run hands on to the next: the cache, and the time that the clock has reached. -/
structure Moment where
  cache : DnsCache
  now : Nat

namespace Moment

/-- The state has the cache of the moment, and its clock goes on from there and never back. -/
structure At (moment : Moment) (s : State Tape) : Prop where
  cache : s.cache = moment.cache
  reached : moment.now ≤ s.world.instants 0
  forward : Monotone s.world.instants

/-- The moment that a state has come to. -/
def of (s : State Tape) : Moment := ⟨s.cache, s.world.instants 0⟩

end Moment

section Possible

variable {α β : Type} {x : Nat → Resolution Tape α} {before middle after : Moment}

/-- For some random numbers and readings of the clock this part of the resolver returns the value, and
leads from the one moment to the other. -/
def Possible (x : Nat → Resolution Tape α) (before : Moment) (a : α) (after : Moment) : Prop :=
  ∃ fuel s s', before.At s ∧ x fuel s = (.ok a, s') ∧ after = Moment.of s'

/-- A finished part hands on the moment that its state has come to. -/
theorem Replays.moment {fuel : Nat} {s s' : State Tape} {a : α} (replays : Replays x fuel)
    (start : before.At s) (run : x fuel s = (.ok a, s')) :
    Possible x before a (Moment.of s') ∧ (Moment.of s').At s' := by
  obtain ⟨readings, reads, _⟩ := replays.again s _ _ run fun hung => by cases hung
  have forward := start.forward
  rw [reads] at forward
  exact ⟨⟨fuel, s, s', start, run, rfl⟩, rfl, le_rfl, Stream'.Climbs.rest_monotone forward⟩

namespace Possible

/-- What is possible can be done with anything on the tape behind some readings. -/
theorem again {a : α} (possible : Possible x before a after) (replays : ∀ fuel, Replays x fuel) :
    ∃ readings : Readings, Stream'.Climbs before.now readings.instants after.now ∧
      ∃ enough, ∀ more, enough ≤ more → ∀ tape log, ∃ pending log',
        x more ⟨before.cache, readings.before tape, log⟩ =
          (.ok a, ⟨after.cache, tape.waiting pending, log'⟩) := by
  obtain ⟨fuel, s, s', start, run, rfl⟩ := possible
  obtain ⟨readings, reads, again⟩ := (replays fuel).again s _ _ run fun hung => by cases hung
  have forward := start.forward
  have reached := start.reached
  rw [reads] at forward reached
  refine ⟨readings, .of_monotone forward reached, fuel, ?_⟩
  rw [← start.cache]
  exact again

theorem of_again {a : α} (readings : Readings)
    (climbs : Stream'.Climbs before.now readings.instants after.now) (enough : Nat)
    (again : ∀ more, enough ≤ more → ∀ tape log, ∃ pending log',
      x more ⟨before.cache, readings.before tape, log⟩ =
        (.ok a, ⟨after.cache, tape.waiting pending, log'⟩)) : Possible x before a after := by
  let rest : Tape := ⟨fun _ => 0, fun _ => 0, fun _ => after.now, fun _ => 0, none⟩
  obtain ⟨pending, log', run⟩ := again enough le_rfl rest []
  have clock : before.now ≤ Stream'.appendStream' readings.instants rest.instants 0 ∧
      Monotone (Stream'.appendStream' readings.instants rest.instants) :=
    climbs.monotone le_rfl fun _ _ _ => le_rfl
  exact ⟨enough, _, _, ⟨rfl, clock.1, clock.2⟩, run, rfl⟩

theorem bind {f : Nat → α → Resolution Tape β} {a : α} {b : β} (first : Possible x before a middle)
    (rest : Possible (fun fuel => f fuel a) middle b after) (replays : ∀ fuel, Replays x fuel)
    (replays' : ∀ fuel, Replays (fun fuel => f fuel a) fuel) :
    Possible (fun fuel => x fuel >>= f fuel) before b after := by
  obtain ⟨readings, climbs, enough, again⟩ := first.again replays
  obtain ⟨readings', climbs', enough', again'⟩ := rest.again replays'
  refine of_again (readings.append readings') (climbs.append climbs') (max enough enough') ?_
  intro more both tape log
  obtain ⟨pending, log', run⟩ := again more ((le_max_left _ _).trans both) (readings'.before tape) log
  obtain ⟨pending', log'', run'⟩ :=
    again' more ((le_max_right _ _).trans both) (tape.waiting pending) log'
  refine ⟨pending', log'', ?_⟩
  rw [Readings.append_before, Prog.bind_ok run]
  exact run'

theorem ret (a : α) (moment : Moment) : Possible (fun _ => (pure a : Resolution Tape α)) moment a moment :=
  ⟨0, ⟨moment.cache, ⟨fun _ => 0, fun _ => 0, fun _ => moment.now, fun _ => 0, none⟩, []⟩, _,
    ⟨rfl, le_rfl, fun _ _ _ => le_rfl⟩, rfl, rfl⟩

theorem attempt {a : α} (possible : Possible x before a after) :
    Possible (fun fuel => Prog.attempt (x fuel)) before (.ok a) after := by
  obtain ⟨fuel, s, s', start, run, same⟩ := possible
  exact ⟨fuel, s, s', start, Prog.attempt_ok run, same⟩

end Possible

/-- On the way the one part comes to start the other, after so many queries at least, whose own queries
it sends all. -/
def Opens (cost : Nat) (x : Nat → Resolution Tape α) (before : Moment) (y : Nat → Resolution Tape β)
    (after : Moment) : Prop :=
  ∃ readings : Readings, Stream'.Climbs before.now readings.instants after.now ∧
    ∃ enough, ∀ more, enough ≤ more → ∀ tape log, ∃ pending log',
      queries log + cost ≤ queries log' ∧
        queries (y more ⟨after.cache, tape.waiting pending, log'⟩).2.log ≤
          queries (x more ⟨before.cache, readings.before tape, log⟩).2.log

namespace Opens

variable {cost cost' : Nat} {y : Nat → Resolution Tape β}

theorem refl (x : Nat → Resolution Tape α) (moment : Moment) : Opens 0 x moment x moment :=
  ⟨.nothing, .nil _, 0, fun _ _ tape log => ⟨tape.pending, log, le_rfl, le_rfl⟩⟩

theorem congr {x' : Nat → Resolution Tape α} {y' : Nat → Resolution Tape β}
    (opens : Opens cost x before y after) (fuel : Nat) (same : ∀ more, fuel ≤ more → x' more = x more)
    (same' : ∀ more, fuel ≤ more → y' more = y more) : Opens cost x' before y' after := by
  obtain ⟨readings, climbs, enough, opened⟩ := opens
  refine ⟨readings, climbs, max enough fuel, fun more both => ?_⟩
  rw [same more ((le_max_right _ _).trans both), same' more ((le_max_right _ _).trans both)]
  exact opened more ((le_max_left _ _).trans both)

/-- What follows the first half only adds to the log. -/
theorem first {γ : Type} {f : Nat → α → Resolution Tape γ} (opens : Opens cost x before y after)
    (grows : ∀ fuel a, Replays (fun fuel => f fuel a) fuel) :
    Opens cost (fun fuel => x fuel >>= f fuel) before y after := by
  obtain ⟨readings, climbs, enough, opened⟩ := opens
  refine ⟨readings, climbs, enough, fun more fuel tape log => ?_⟩
  obtain ⟨pending, log', noted, less⟩ := opened more fuel tape log
  refine ⟨pending, log', noted, less.trans ?_⟩
  dsimp only
  rw [Prog.bind_apply]
  rcases x more ⟨before.cache, readings.before tape, log⟩ with ⟨a | e | _ | _, s'⟩
  · exact (grows more a).grows s'
  all_goals exact le_rfl

theorem attempt (opens : Opens cost x before y after) :
    Opens cost (fun fuel => Prog.attempt (x fuel)) before y after := by
  obtain ⟨readings, climbs, enough, opened⟩ := opens
  refine ⟨readings, climbs, enough, fun more fuel tape log => ?_⟩
  simp only [Prog.attempt_apply]
  exact opened more fuel tape log

/-- The second half starts it, once the first has returned and sent so many queries. -/
theorem second {γ : Type} {f : Nat → α → Resolution Tape γ} {a : α}
    (possible : Possible x before a middle) (replays : ∀ fuel, Replays x fuel)
    (asks : ∀ fuel s s', x fuel s = (.ok a, s') → queries s.log + cost ≤ queries s'.log)
    (opens : Opens cost' (fun fuel => f fuel a) middle y after) :
    Opens (cost + cost') (fun fuel => x fuel >>= f fuel) before y after := by
  obtain ⟨readings, climbs, enough, again⟩ := possible.again replays
  obtain ⟨readings', climbs', enough', opened⟩ := opens
  refine ⟨readings.append readings', climbs.append climbs', max enough enough', fun more both tape log => ?_⟩
  obtain ⟨pending, log', run⟩ := again more ((le_max_left _ _).trans both) (readings'.before tape) log
  obtain ⟨pending', log'', noted, less⟩ :=
    opened more ((le_max_right _ _).trans both) (tape.waiting pending) log'
  have asked := asks more _ _ run
  refine ⟨pending', log'', ?_, ?_⟩
  · dsimp only at asked
    omega
  · dsimp only
    rw [Readings.append_before, Prog.bind_ok run]
    exact less

/-- A first half of which nothing is known but that it returns. -/
theorem later {γ : Type} {f : Nat → α → Resolution Tape γ} {a : α} (possible : Possible x before a middle)
    (replays : ∀ fuel, Replays x fuel) (opens : Opens cost (fun fuel => f fuel a) middle y after) :
    Opens cost (fun fuel => x fuel >>= f fuel) before y after := by
  have asks : ∀ fuel s s', x fuel s = (.ok a, s') → queries s.log + 0 ≤ queries s'.log := by
    intro fuel s s' run
    have grown := (replays fuel).grows s
    rw [run] at grown
    exact grown
  have opened := second possible replays asks opens
  rwa [Nat.zero_add] at opened

end Opens

end Possible

/-- A round of the referral loop of one call, with what it starts from. -/
structure Round where
  depth : Nat
  name : DnsName
  recordType : RecordType
  walk : Walk
  moment : Moment

namespace Round

/-- The first round of a call. -/
def first (depth : Nat) (name : DnsName) (recordType : RecordType) (moment : Moment) : Round :=
  ⟨depth, name, recordType, ⟨rootServers, []⟩, moment⟩

/-- The call is not nested too deeply, and a server of the round, one that a random number can choose,
gives the response. -/
def Answered (upstream : Upstream) (round : Round) (response : DnsMessage) : Prop :=
  round.depth ≤ MAX_RECURSION_DEPTH ∧ ∃ draw : UInt64, ∃ server,
    round.walk.nameservers[draw.toNat % round.walk.nameservers.length]? = some server ∧
      upstream server round.name round.recordType = some response

end Round

namespace Resolver

variable (resolver : Resolver Tape DnsMessage) (upstream : Upstream)

/-- The resolution of one level down. -/
def nested (depth fuel : Nat) (name : DnsName) (recordType : RecordType) :
    Resolution Tape (List DnsRecord) :=
  resolver.resolveRecursive fuel name recordType (depth + 1)

/-- The loop over the name servers of a referral comes to resolve the address of one: it is not in the
cache, and those before it have no address. -/
inductive Seeks (depth : Nat) : List DnsName → Moment → DnsName → Moment → Prop
  | here {nsName nsNames before after} :
      Possible (fun _ => resolver.cacheLookup nsName .A) before none after →
      Seeks depth (nsName :: nsNames) before nsName after
  | onward {nsName nsNames before middle sought after} :
      Possible (fun fuel => resolver.nsAddress (resolver.nested depth fuel) nsName) before [] middle →
      Seeks depth nsNames middle sought after → Seeks depth (nsName :: nsNames) before sought after

/-- A chain of aliases comes to ask for the target type of a name, or for its alias. -/
inductive Chases (depth : Nat) (targetType : RecordType) :
    Nat → DnsName → Moment → DnsName → RecordType → Moment → Prop
  | typed {rounds currentName moment} :
      Chases depth targetType (rounds + 1) currentName moment currentName targetType moment
  | aliased {rounds currentName before after} :
      Possible (fun fuel => resolver.nested depth fuel currentName targetType) before [] after →
      Chases depth targetType (rounds + 1) currentName before currentName .CNAME after
  | onward {rounds currentName before none middle cnameRecords name recordType after} :
      Possible (fun fuel => resolver.nested depth fuel currentName targetType) before [] none →
      Possible (fun fuel => resolver.nested depth fuel currentName .CNAME) none cnameRecords middle →
      Chases depth targetType rounds (extendChain [] currentName cnameRecords).2 middle name recordType
        after → Chases depth targetType (rounds + 1) currentName before name recordType after

/-- One of the servers of the round refers it to other name servers than those of the round before, and
the referral has been cached. -/
structure Refers (round : Round) (response : DnsMessage) (after : Moment) : Prop
    extends response.IsReferral where
  answered : round.Answered upstream response
  changes : response.nsNames ≠ round.walk.lastNsNames
  absorbed : Possible (fun _ => resolver.absorb round.name round.recordType response) round.moment
    (.referral response.nsNames response.glueAddrs) after

/-- What a round can lead to: the next round, with the glue of a referral or with the addresses found
for its name servers, or the first round of a call that it comes to start. -/
inductive Next : Round → Round → Prop
  | glue {round response after} : resolver.Refers upstream round response after → response.glueAddrs ≠ [] →
      Next round { round with walk := ⟨response.glueAddrs, response.nsNames⟩, moment := after }
  | found {round response middle addrs after} : resolver.Refers upstream round response middle →
      response.glueAddrs = [] →
      Possible (fun fuel => resolver.nsAddresses (resolver.nested round.depth fuel) response.nsNames) middle addrs
        after → addrs ≠ [] →
      Next round { round with walk := ⟨addrs, response.nsNames⟩, moment := after }
  | server {round response middle nsName after} : resolver.Refers upstream round response middle →
      response.glueAddrs = [] → resolver.Seeks round.depth response.nsNames middle nsName after →
      Next round (.first (round.depth + 1) nsName .A after)
  | target {round response middle cnames record currentName name recordType after} :
      round.Answered upstream response →
      Possible (fun _ => resolver.absorb round.name round.recordType response) round.moment (.aliases cnames)
        middle → cnames.getLast? = some record → record.rdata = .CNAME currentName →
      resolver.Chases round.depth round.recordType MAX_CNAME_CHAIN currentName middle name recordType after →
      Next round (.first (round.depth + 1) name recordType after)

theorem Next.shallow {resolver : Resolver Tape DnsMessage} {upstream : Upstream} {round next : Round}
    (step : resolver.Next upstream round next) : round.depth ≤ MAX_RECURSION_DEPTH := by
  cases step with
  | glue refers => exact refers.answered.1
  | found refers => exact refers.answered.1
  | server refers => exact refers.answered.1
  | target answered => exact answered.1

/-- From the round on there is always a next one. -/
def Endless (round : Round) : Prop :=
  ∃ rounds : Nat → Round, rounds 0 = round ∧ ∀ k, resolver.Next upstream (rounds k) (rounds (k + 1))

end Resolver

end DnsServer
