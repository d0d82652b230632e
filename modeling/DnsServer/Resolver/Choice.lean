import DnsServer.Lib.Rounds
import DnsServer.Resolver.Resolve

/-! The choice of a nameserver: there is always one to choose from. -/

namespace DnsServer

namespace Resolver

variable {W D : Type} (self : Resolver W D)

section With

/-! `resolve_recursive` over any function in the place of `query_nameservers`. -/

variable (query : DnsName → RecordType → List SocketAddr → Resolution W DnsMessage)

def referralStepWith (rec : DnsName → RecordType → Resolution W (List DnsRecord)) (name : DnsName)
    (recordType : RecordType) (walk : Walk) : Resolution W (Walk ⊕ List DnsRecord) := do
  let response ← query name recordType walk.nameservers
  let absorbed ← self.absorb name recordType response
  self.continueWith rec recordType walk response.hasSoa absorbed

def resolveRecursiveWith (fuel : Nat) (name : DnsName) (recordType : RecordType) (depth : Nat) :
    Resolution W (List DnsRecord) :=
  if depth > MAX_RECURSION_DEPTH then Prog.fail .serverFailure
  else
    Prog.loop
      (self.referralStepWith query
        (fun name recordType => resolveRecursiveWith fuel name recordType (depth + 1)) name recordType)
      fuel ⟨rootServers, []⟩
termination_by MAX_RECURSION_DEPTH + 1 - depth

end With

/-- `query_nameservers` with another program in its place where the list is empty, so that it would divide
by zero, and where one of the indices is behind the end of the list. -/
def queryNameserversOr (otherwise : Resolution W DnsMessage) (name : DnsName) (recordType : RecordType)
    (nameservers : List SocketAddr) : Resolution W DnsMessage :=
  if nameservers = [] then otherwise
  else do
    if ← ask self.network.bind then
      let id ← ask self.network.randomU16
      let indices ← self.offsets nameservers.length (List.range MAX_RETRIES)
      if ∀ i ∈ indices, i < nameservers.length then
        self.tryServers id name recordType nameservers indices
      else otherwise
    else Prog.fail .serverFailure

/-- With some servers to choose from, every index is drawn, and each of them is one of the list. -/
theorem offsets_drawn {count : Nat} (some : 0 < count) (tries : List Nat) (s : State W) :
    ∃ indices s', self.offsets count tries s = (.ok indices, s') ∧ indices.length = tries.length ∧
      ∀ i ∈ indices, i < count := by
  induction tries generalizing s with
  | nil => exact ⟨[], s, rfl, rfl, fun _ member => absurd member List.not_mem_nil⟩
  | cons i is ih =>
    obtain ⟨rest, s', run, drawn, inside⟩ :=
      ih { s with world := (self.network.randomUsize s.world).2 }
    refine ⟨(UInt64.ofNat i + (self.network.randomUsize s.world).1).toNat % count :: rest, s', ?_, ?_, ?_⟩
    · rw [offsets, ask_bind, if_neg (Nat.ne_of_gt some), Prog.bind_ok run, Prog.pure_apply]
    · rw [List.length_cons, List.length_cons, drawn]
    · intro j member
      rcases List.mem_cons.mp member with rfl | member
      · exact Nat.mod_lt _ some
      · exact inside j member

theorem queryNameserversOr_some {nameservers : List SocketAddr} (some : nameservers ≠ [])
    (otherwise : Resolution W DnsMessage) (name : DnsName) (recordType : RecordType) :
    self.queryNameserversOr otherwise name recordType nameservers =
      self.queryNameservers name recordType nameservers := by
  funext s
  rw [queryNameserversOr, queryNameservers, if_neg some, ask_bind, ask_bind]
  split
  · rw [ask_bind, ask_bind]
    obtain ⟨indices, s', run, _, inside⟩ := self.offsets_drawn (List.length_pos_of_ne_nil some)
      (List.range MAX_RETRIES) _
    rw [Prog.bind_ok run, Prog.bind_ok run, if_pos inside]
  · rfl

section Rounds

variable (rec : DnsName → RecordType → Resolution W (List DnsRecord))

/-- The loop does not go on without a server: glue, or the addresses of a name server, or it fails. -/
theorem followReferral_onward (walk : Walk) (hasSoa : Bool) (newNsNames : List DnsName)
    (glueAddrs : List SocketAddr) : Prog.Gives (self.followReferral rec walk hasSoa newNsNames glueAddrs)
      (Sum.elim (fun next => next.nameservers ≠ []) fun _ => True) := by
  unfold followReferral
  split
  · split
    · exact .pure trivial
    · exact .fail _
  split
  · exact .fail _
  split
  · rename_i glue
    have some : glueAddrs ≠ [] := by simpa using glue
    exact .pure some
  · refine .after fun resolvedAddrs => ?_
    split
    · exact .fail _
    · rename_i resolved
      have some : resolvedAddrs ≠ [] := by simpa using resolved
      exact .pure some

theorem continueWith_onward (recordType : RecordType) (walk : Walk) (hasSoa : Bool) (absorbed : Absorbed) :
    Prog.Gives (self.continueWith rec recordType walk hasSoa absorbed)
      (Sum.elim (fun next => next.nameservers ≠ []) fun _ => True) := by
  cases absorbed with
  | answers result => exact .pure trivial
  | aliases cnames => exact .after fun _ => .pure trivial
  | referral newNsNames glueAddrs => exact self.followReferral_onward rec walk hasSoa _ _

theorem referralStep_onward (name : DnsName) (recordType : RecordType) (walk : Walk) :
    Prog.Gives (self.referralStep rec name recordType walk)
      (Sum.elim (fun next => next.nameservers ≠ []) fun _ => True) :=
  .after fun response => .after fun absorbed =>
    self.continueWith_onward rec recordType walk response.hasSoa absorbed

/-- The root servers at first, and then what a round has left. -/
theorem nameservers_of_comes {name : DnsName} {recordType : RecordType} {s s' : State W} {n : Nat}
    {walk : Walk}
    (comes : Prog.Comes (self.referralStep rec name recordType) ⟨rootServers, []⟩ s n walk s') :
    walk.nameservers ≠ [] := by
  refine comes.invariant (I := fun walk _ => walk.nameservers ≠ []) (by decide) ?_
  intro walk s next s' _ round
  exact self.referralStep_onward rec name recordType walk s (.inl next) (congrArg Prod.fst round)

end Rounds

theorem resolveRecursiveWith_agree {query : DnsName → RecordType → List SocketAddr → Resolution W DnsMessage}
    (agree : ∀ name recordType nameservers, nameservers ≠ [] →
      query name recordType nameservers = self.queryNameservers name recordType nameservers)
    (fuel : Nat) (name : DnsName) (recordType : RecordType) (depth : Nat) :
    self.resolveRecursiveWith query fuel name recordType depth =
      self.resolveRecursive fuel name recordType depth := by
  induction levels : MAX_RECURSION_DEPTH + 1 - depth generalizing name recordType depth with
  | zero => rw [resolveRecursiveWith, resolveRecursive, if_pos (by omega), if_pos (by omega)]
  | succ levels ih =>
    have below : (fun name recordType => self.resolveRecursiveWith query fuel name recordType (depth + 1)) =
        fun name recordType => self.resolveRecursive fuel name recordType (depth + 1) := by
      funext name recordType
      exact ih name recordType (depth + 1) (by omega)
    rw [resolveRecursiveWith, resolveRecursive, if_neg (by omega), if_neg (by omega), below]
    funext s
    refine Prog.loop_congr (fun n walk s' comes => ?_) fuel
    rw [referralStepWith, agree _ _ _ (self.nameservers_of_comes _ comes)]
    rfl

/-- Every round of the referral loop, at every recursion depth, has some nameservers to choose from, and
whatever the random numbers, the indices drawn for them are indices of their list. The whole run, with
all that it resolves on its way, is the same with any other program in place of a division by zero or a
read behind the end of the list. -/
theorem resolveRecursive_chooses (fuel : Nat) (name : DnsName) (recordType : RecordType) (depth : Nat)
    (s : State W) :
    (∀ n walk s', Prog.Comes (self.referralStep
          (fun name recordType => self.resolveRecursive fuel name recordType (depth + 1)) name recordType)
          ⟨rootServers, []⟩ s n walk s' →
        walk.nameservers ≠ [] ∧ ∀ drawing, ∃ indices drawn,
          self.offsets walk.nameservers.length (List.range MAX_RETRIES) drawing = (.ok indices, drawn) ∧
          indices.length = MAX_RETRIES ∧ ∀ i ∈ indices, i < walk.nameservers.length) ∧
      ∀ otherwise, self.resolveRecursiveWith (self.queryNameserversOr otherwise) fuel name recordType depth s =
        self.resolveRecursive fuel name recordType depth s := by
  constructor
  · intro n walk s' comes
    have some := self.nameservers_of_comes _ comes
    refine ⟨some, fun drawing => ?_⟩
    obtain ⟨indices, drawn, run, count, inside⟩ :=
      self.offsets_drawn (List.length_pos_of_ne_nil some) (List.range MAX_RETRIES) drawing
    exact ⟨indices, drawn, run, count.trans List.length_range, inside⟩
  · intro otherwise
    rw [self.resolveRecursiveWith_agree fun name recordType _ some =>
      self.queryNameserversOr_some some otherwise name recordType]

end Resolver

end DnsServer
