import DnsServer.Lib.Settles
import DnsServer.Resolver.Delegation
import Mathlib.Order.WellFounded

namespace DnsServer

namespace Resolver

end Resolver

/-- The loop from a round on, when so much of the fuel is spent. -/
def Round.loop (round : Round) (self : Resolver Tape DnsMessage) (spent fuel : Nat) :
    Resolution Tape (List DnsRecord) :=
  Prog.loop (self.referralStep (self.nested round.depth fuel) round.name round.recordType) (fuel - spent)
    round.walk

theorem Round.loop_succ (round : Round) (self : Resolver Tape DnsMessage) {spent fuel : Nat}
    (left : spent < fuel) :
    round.loop self spent fuel =
      self.referralStep (self.nested round.depth fuel) round.name round.recordType round.walk >>=
        Sum.elim (fun walk => { round with walk := walk : Round }.loop self (spent + 1) fuel) pure := by
  obtain ⟨rest, some⟩ : ∃ rest, fuel - spent = rest + 1 := ⟨fuel - spent - 1, by omega⟩
  have after : fuel - (spent + 1) = rest := by omega
  simp only [Round.loop]
  rw [some, after, Prog.loop_succ]

namespace Upstream

variable {upstream : Upstream} {self : Resolver Tape DnsMessage}

section Rounds

variable (connected : self.network = upstream.network) {round : Round} {s s' : State Tape}
  (start : round.moment.At s)

end Rounds

section Settles

/-! Everything that a round does comes to an end, as long as the calls that it starts do. -/

variable {depth : Nat} {before : Moment} {s : State Tape}

variable (connected : self.network = upstream.network)

include connected

end Settles

section Opens

/-! The other way round: what a round can lead to, some tape leads it to. -/

variable (connected : self.network = upstream.network)

include connected

end Opens

section Termination

variable (connected : self.network = upstream.network)

include connected

end Termination

section Drawn

/-! What one tape in particular leads to, when its draws choose servers that refer with glue. -/

variable {name : DnsName} {recordType : RecordType}

/-- The draw chooses a server that refers to the next round with glue. -/
def Draws (upstream : Upstream) (name : DnsName) (recordType : RecordType) (draw : UInt64)
    (walk next : Walk) : Prop :=
  ∃ server response, walk.nameservers[draw.toNat % walk.nameservers.length]? = some server ∧
    upstream server name recordType = some response ∧ response.IsReferral ∧
      response.nsNames ≠ walk.lastNsNames ∧ response.glueAddrs ≠ [] ∧
        next = ⟨response.glueAddrs, response.nsNames⟩

theorem absorb_runs (self : Resolver Tape DnsMessage) (name : DnsName) (recordType : RecordType)
    {response : DnsMessage} (referral : response.IsReferral) (s : State Tape) :
    ∃ s₁ s₂, self.cacheReferrals response.authorities s = (.ok response.nsNames, s₁) ∧
      self.cacheGlue response.nsNames response.additional s₁ = (.ok response.glueAddrs, s₂) ∧
      self.absorb name recordType response s =
        (.ok (.referral response.nsNames response.glueAddrs), s₂) := by
  obtain ⟨s₁, referrals, _⟩ := self.cacheEach_run .NS DnsRecord.nsTarget response.authorities s
  obtain ⟨s₂, glue, _⟩ :=
    self.cacheEach_run .A (fun record => record.glueFor response.nsNames) response.additional s₁
  exact ⟨s₁, s₂, referrals, glue,
    self.absorb_referral referral.noNameError referral.noAnswers referrals glue⟩

/-- A walk along glue that the draws can follow for ever is endless, whatever is cached. -/
theorem endless_of_draws (self : Resolver Tape DnsMessage) {depth : Nat}
    (shallow : depth ≤ MAX_RECURSION_DEPTH) {walks : Nat → Walk} (start : walks 0 = ⟨rootServers, []⟩)
    (steps : ∀ k, ∃ draw, upstream.Draws name recordType draw (walks k) (walks (k + 1)))
    (moment : Moment) : self.Endless upstream (.first depth name recordType moment) := by
  have next : ∀ k moment, ∃ after, self.Next upstream ⟨depth, name, recordType, walks k, moment⟩
      ⟨depth, name, recordType, walks (k + 1), after⟩ := by
    intro k moment
    obtain ⟨draw, server, response, chosen, given, referral, changes, reachable, same⟩ := steps k
    let s : State Tape :=
      ⟨moment.cache, ⟨fun _ => 0, fun _ => 0, fun _ => moment.now, fun _ => 0, none⟩, []⟩
    obtain ⟨_, s', _, _, run⟩ := absorb_runs self name recordType referral s
    have refers : self.Refers upstream ⟨depth, name, recordType, walks k, moment⟩ response (.of s') :=
      ⟨referral, ⟨shallow, draw, server, chosen, given⟩, changes, 0, s, s',
        ⟨rfl, le_rfl, fun _ _ _ => le_rfl⟩, run, rfl⟩
    rw [same]
    exact ⟨_, .glue refers reachable⟩
  choose after step using next
  let moments : Nat → Moment := fun k => Nat.rec moment after k
  refine ⟨fun k => ⟨depth, name, recordType, walks k, moments k⟩, ?_, fun k => step k (moments k)⟩
  change (⟨depth, name, recordType, walks 0, moment⟩ : Round) = _
  rw [start]
  rfl

end Drawn

section Alternating

end Alternating

end Upstream

end DnsServer
