import DnsServer.Lib.Mirrors
import DnsServer.Resolver.Resolve

namespace DnsServer

namespace Resolver

variable {W D W' D' : Type} {R : State W → State W' → Prop}

section Recursion

variable {rec : DnsName → RecordType → Resolution W (List DnsRecord)}
  {rec' : DnsName → RecordType → Resolution W' (List DnsRecord)}
  (below : ∀ name recordType, Prog.Mirrors R (rec name recordType) (rec' name recordType))

include below

theorem chainRounds_mirrors (targetType : RecordType) (rounds : Nat) (chain : List DnsRecord)
    (currentName : DnsName) : Prog.Mirrors R (chainRounds rec targetType rounds chain currentName)
      (chainRounds rec' targetType rounds chain currentName) := by
  induction rounds generalizing chain currentName with
  | zero => exact .ret chain
  | succ rounds ih =>
    refine .bind (below currentName targetType) fun records => ?_
    split
    · exact .ret _
    · refine .bind (below currentName .CNAME).attempt fun caught => ?_
      cases caught with
      | ok cnameRecords => exact ih _ _
      | error _ => exact .ret chain

theorem followCnameChain_mirrors (cnames : List DnsRecord) (targetType : RecordType) :
    Prog.Mirrors R (followCnameChain rec cnames targetType) (followCnameChain rec' cnames targetType) := by
  unfold followCnameChain
  split
  · split
    · exact chainRounds_mirrors below targetType _ cnames _
    · exact .fail _
  · exact .fail _

end Recursion

/-- The calls of two resolvers that a resolution consists of do the same over corresponding states. -/
structure Alike (R : State W → State W' → Prop) (one : Resolver W D) (other : Resolver W' D') : Prop where
  lookup : ∀ name recordType,
    Prog.Mirrors R (one.cacheLookup name recordType) (other.cacheLookup name recordType)
  insert : ∀ name recordType records,
    Prog.Mirrors R (one.cacheInsert name recordType records) (other.cacheInsert name recordType records)
  validate : ∀ name recordType response, Prog.Mirrors R (one.validateAnswers name recordType response)
    (other.validateAnswers name recordType response)
  query : ∀ name recordType nameservers, Prog.Mirrors R
    (one.queryNameservers name recordType nameservers) (other.queryNameservers name recordType nameservers)

variable {self : Resolver W D} {self' : Resolver W' D'} (alike : Alike R self self')

include alike

theorem cacheEach_mirrors {α : Type} (recordType : RecordType) (pick : DnsRecord → Option α)
    (records : List DnsRecord) : Prog.Mirrors R (self.cacheEach recordType pick records)
      (self'.cacheEach recordType pick records) := by
  induction records with
  | nil => exact .ret []
  | cons record records ih =>
    unfold cacheEach
    split
    · exact .bind (alike.insert _ _ _) fun _ => .bind ih fun _ => .ret _
    · exact ih

theorem absorb_mirrors (name : DnsName) (recordType : RecordType) (response : DnsMessage) :
    Prog.Mirrors R (self.absorb name recordType response) (self'.absorb name recordType response) := by
  unfold absorb
  split
  · exact .fail _
  split
  · refine .bind (alike.validate name recordType response) fun _ => ?_
    unfold cacheAnswers
    split
    · exact .bind (alike.insert _ _ _) fun _ => .ret _
    split
    · exact .bind (alike.insert _ _ _) fun _ => .ret _
    · exact .ret _
  · exact .bind (cacheEach_mirrors alike _ _ _) fun _ =>
      .bind (cacheEach_mirrors alike _ _ _) fun _ => .ret _

section Recursion

variable {rec : DnsName → RecordType → Resolution W (List DnsRecord)}
  {rec' : DnsName → RecordType → Resolution W' (List DnsRecord)}
  (below : ∀ name recordType, Prog.Mirrors R (rec name recordType) (rec' name recordType))

include below

theorem nsAddresses_mirrors (nsNames : List DnsName) :
    Prog.Mirrors R (self.nsAddresses rec nsNames) (self'.nsAddresses rec' nsNames) := by
  induction nsNames with
  | nil => exact .ret []
  | cons nsName nsNames ih =>
    refine .bind ?_ fun found => ?_
    · refine .bind (alike.lookup nsName .A) fun cached => ?_
      cases cached with
      | some records => exact .ret _
      | none =>
        refine .bind (below nsName .A).attempt fun caught => ?_
        cases caught with
        | ok records => exact .ret _
        | error _ => exact .ret _
    · split
      · exact ih
      · exact .ret found

theorem followReferral_mirrors (walk : Walk) (hasSoa : Bool) (newNsNames : List DnsName)
    (glueAddrs : List SocketAddr) : Prog.Mirrors R
      (self.followReferral rec walk hasSoa newNsNames glueAddrs)
      (self'.followReferral rec' walk hasSoa newNsNames glueAddrs) := by
  unfold followReferral
  split
  · split
    · exact .ret _
    · exact .fail _
  split
  · exact .fail _
  split
  · exact .ret _
  · refine .bind (nsAddresses_mirrors alike below newNsNames) fun resolvedAddrs => ?_
    split
    · exact .fail _
    · exact .ret _

theorem referralStep_mirrors (name : DnsName) (recordType : RecordType) (walk : Walk) :
    Prog.Mirrors R (self.referralStep rec name recordType walk)
      (self'.referralStep rec' name recordType walk) := by
  refine .bind (alike.query name recordType walk.nameservers) fun response => ?_
  refine .bind (absorb_mirrors alike name recordType response) fun absorbed => ?_
  cases absorbed with
  | answers result => exact .ret _
  | aliases cnames => exact .bind (followCnameChain_mirrors below cnames recordType) fun _ => .ret _
  | referral newNsNames glueAddrs => exact followReferral_mirrors alike below walk _ _ _

end Recursion

/-- Resolvers whose calls do the same resolve every name in the same way. -/
theorem resolveRecursive_mirrors (fuel : Nat) (name : DnsName) (recordType : RecordType) (depth : Nat) :
    Prog.Mirrors R (self.resolveRecursive fuel name recordType depth)
      (self'.resolveRecursive fuel name recordType depth) := by
  induction levels : MAX_RECURSION_DEPTH + 1 - depth generalizing name recordType depth with
  | zero =>
    rw [resolveRecursive, resolveRecursive, if_pos (by omega), if_pos (by omega)]
    exact .fail _
  | succ levels ih =>
    rw [resolveRecursive, resolveRecursive, if_neg (by omega), if_neg (by omega)]
    have below : ∀ name recordType, Prog.Mirrors R (self.resolveRecursive fuel name recordType (depth + 1))
        (self'.resolveRecursive fuel name recordType (depth + 1)) :=
      fun name recordType => ih name recordType (depth + 1) (by omega)
    exact .loop (fun walk => referralStep_mirrors alike below name recordType walk) fuel _

end Resolver

end DnsServer
