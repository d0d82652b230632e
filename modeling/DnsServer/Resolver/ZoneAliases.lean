import DnsServer.Resolver.Asking
import DnsServer.Resolver.Authoritative

namespace DnsServer

/-- A zone with a record under a name has this name. -/
theorem Zone.hasName_of_lookup {zone : Zone} {name : DnsName} {recordType : RecordType}
    {records : List DnsRecord} (found : zone.lookup name recordType = some records) : zone.hasName name := by
  unfold hasName
  split
  · rfl
  · rename_i other
    have notSoa : ¬(recordType = .SOA ∧ name = zone.name) := fun both => other both.2
    have notNs : ¬(recordType = .NS ∧ name = zone.name ∧ ¬zone.nsRecords.isEmpty) := fun all => other all.2.1
    rw [lookup, if_neg notSoa, if_neg notNs] at found
    have present : (name, recordType) ∈ zone.records.keys :=
      AList.mem_keys.mpr (AList.lookup_isSome.mp (by rw [found]; rfl))
    exact List.any_eq_true.mpr ⟨_, present, decide_eq_true rfl⟩

namespace ZoneStore

/-- The chain of aliases that the zones hold from a name to its records of the type. -/
inductive Leads (zones : ZoneStore) (recordType : RecordType) :
    DnsName → List DnsRecord → List DnsRecord → Prop
  | records {name : DnsName} {records : List DnsRecord} :
      zones.lookup name recordType = some records → records ≠ [] → Leads zones recordType name [] records
  | follow {name target : DnsName} {cname : DnsRecord} {cnames records : List DnsRecord} :
      (zones.lookup name recordType).getD [] = [] → zones.lookup name .CNAME = some [cname] →
      cname.rdata = .CNAME target → Leads zones recordType target cnames records →
      Leads zones recordType name (cname :: cnames) records

/-- A chain of aliases that is not too long to be followed. -/
structure AliasChain (zones : ZoneStore) (recordType : RecordType) (name : DnsName)
    (cnames records : List DnsRecord) : Prop where
  leads : zones.Leads recordType name cnames records
  some : 1 ≤ cnames.length
  few : cnames.length ≤ MAX_CNAME_CHAIN
  notAlias : recordType ≠ .CNAME

/-- The question is answered with these records, whatever the cache holds and the servers do. -/
def Answers (zones : ZoneStore) (name : DnsName) (recordType : RecordType) (records : List DnsRecord) :
    Prop :=
  ∀ (W D : Type) (self : Resolver W D) (s : State W), self.zoneStore = zones →
    ∃ fuel, (self.resolve fuel name recordType s).1 = .ok records

variable {zones : ZoneStore} {name : DnsName} {recordType : RecordType}

section Silence

variable {self : Resolver Tape DnsMessage}

/-- The monitor that watches for nothing but a value that comes back. -/
abbrev returns : Monitor (State Tape) Event := monitor Tape (fun _ => []) (fun _ => True) fun _ => True

theorem unreached {α : Type} {Q : α → Prop} (x : Resolution Tape α) : returns.Ensures False x Q :=
  ⟨fun _ => List.prefix_rfl, fun _ impossible => impossible.elim⟩

theorem never_ok {α : Type} {x : Resolution Tape α} (silent : returns.Ensures True x fun _ => False)
    (s : State Tape) (a : α) : (x s).1 ≠ .ok a := by
  intro back
  exact (silent.keeps s trivial (fun _ member => absurd member List.not_mem_nil) trivial).2 a back

/-- From servers that never reply no call of the recursion returns an answer. -/
theorem resolveRecursive_silent (silent : self.network = silence.network) (fuel : Nat) (name : DnsName)
    (recordType : RecordType) (depth : Nat) :
    returns.Ensures True (self.resolveRecursive fuel name recordType depth) fun _ => False := by
  rw [Resolver.resolveRecursive]
  split
  · exact .fail
  · have round : ∀ walk : Walk, returns.Ensures True
        (self.referralStep (fun name recordType => self.resolveRecursive fuel name recordType (depth + 1))
          name recordType walk)
        (Sum.elim (fun _ => True) fun _ => False) := by
      intro walk
      have query : returns.Ensures _ _ _ :=
        Upstream.queryNameservers_ensures silent name recordType walk.nameservers
      refine .bind (query.weaken id fun response _ heard => ?_) fun _ => unreached _
      obtain ⟨server, _, original, id, given, _⟩ := heard
      cases given
    exact .loop round fuel _

theorem followCnameChain_silent (silent : self.network = silence.network) (fuel : Nat)
    (cnames : List DnsRecord) (targetType : RecordType) (depth : Nat) :
    returns.Ensures True (Resolver.followCnameChain
      (fun name recordType => self.resolveRecursive fuel name recordType depth) cnames targetType)
      fun _ => False := by
  unfold Resolver.followCnameChain
  split
  · split
    · exact .bind (resolveRecursive_silent silent fuel _ _ _) fun _ => unreached _
    · exact .fail
  · exact .fail

end Silence

/-- What the zones say about a name that stands at the start of a chain: nothing, or an alias that the
resolver follows. -/
theorem AliasChain.zoneResult {cnames records : List DnsRecord}
    (chain : zones.AliasChain recordType name cnames records) :
    zones.zoneResult name recordType = .found [] ∨
      ∃ cname, zones.zoneResult name recordType = .followCname [cname] := by
  obtain ⟨leads, some, _, notAlias⟩ := chain
  cases leads with
  | records => exact absurd some (by decide)
  | @follow _ _ cname _ _ bare held _ _ =>
    unfold ZoneStore.zoneResult
    rcases own : zones.lookup name recordType with _ | none
    · refine Or.inr ⟨cname, ?_⟩
      rcases found : zones.findZone name with _ | zone
      · rw [ZoneStore.lookup, found] at held
        cases held
      · rw [lookup_of_findZone found] at held
        dsimp only
        rw [if_pos ⟨Zone.hasName_of_lookup held, notAlias⟩, held]
    · rw [own] at bare
      change none = [] at bare
      exact Or.inl (by rw [bare])

/-- The servers never reply to the resolver of these zones. -/
def unheard (zones : ZoneStore) : Resolver Tape DnsMessage := { silence.resolver with zoneStore := zones }

/-- When no server replies, the start of a chain gets no answer that has its aliases. -/
theorem AliasChain.unanswered {cnames records : List DnsRecord}
    (chain : zones.AliasChain recordType name cnames records) (s : State Tape) (fuel : Nat) :
    (zones.unheard.resolve fuel name recordType s).1 ≠ .ok (cnames ++ records) := by
  have own : zones.unheard.zoneStore = zones := rfl
  rw [Resolver.resolve, own]
  rcases chain.zoneResult with bare | ⟨cname, follow⟩
  · rw [bare]
    intro back
    have none : [] = cnames ++ records := Outcome.ok.inj back
    have some := chain.some
    rw [(List.append_eq_nil_iff.mp none.symm).1] at some
    exact absurd some (by decide)
  · rw [follow]
    exact never_ok (followCnameChain_silent rfl fuel _ recordType 1) s _

/-- The zones answer no chain of aliases by themselves, although they hold all of it: the aliases are
followed at the servers. -/
theorem not_answers_of_aliasChain {cnames records : List DnsRecord}
    (chain : zones.AliasChain recordType name cnames records) :
    ¬zones.Answers name recordType (cnames ++ records) := by
  intro answers
  obtain ⟨fuel, back⟩ := answers Tape DnsMessage zones.unheard
    ⟨DnsCache.new 10, Upstream.blankTape, []⟩ rfl
  exact chain.unanswered _ fuel back

def webAlias : DnsRecord := DnsRecord.new ⟨["www", "example", "local"]⟩ .CNAME 300 (.CNAME exampleZone.name)

def apexAddress : DnsRecord := DnsRecord.new exampleZone.name .A 300 (.A ⟨127, 0, 0, 1⟩)

/-- The zone with its web server as an alias of its own name. -/
def aliasedZone : Zone :=
  { exampleZone with
    records := ((∅ : AList _).insert (webAlias.name, .CNAME) [webAlias]).insert (exampleZone.name, .A)
      [apexAddress] }

def aliasedZones : ZoneStore := ⟨[aliasedZone]⟩

theorem aliasedZones_chain : aliasedZones.AliasChain .A webAlias.name [webAlias] [apexAddress] where
  leads := .follow (by decide +kernel) (by decide +kernel) rfl (.records (by decide +kernel) (by decide))
  some := by decide
  few := by decide
  notAlias := by decide

theorem not_answers_of_aliasChain_web :
    ¬aliasedZones.Answers webAlias.name .A ([webAlias] ++ [apexAddress]) :=
  not_answers_of_aliasChain aliasedZones_chain

/-- The zone holds the alias and the address, and still the answer is not the same for all servers. -/
theorem aliasedZones_unanswered :
    aliasedZones.AliasChain .A webAlias.name [webAlias] [apexAddress] ∧
      ¬aliasedZones.Answers webAlias.name .A [webAlias, apexAddress] := by
  refine ⟨aliasedZones_chain, fun answers => ?_⟩
  obtain ⟨fuel, back⟩ := answers Tape DnsMessage aliasedZones.unheard
    ⟨DnsCache.new 10, Upstream.blankTape, []⟩ rfl
  exact aliasedZones_chain.unanswered _ fuel back

end ZoneStore

end DnsServer
