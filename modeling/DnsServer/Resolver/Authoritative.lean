import DnsServer.Resolver.Upstream

namespace DnsServer

namespace ZoneStore

/-- The answer comes from the zones alone: it is the same for every cache, every network and every
state of the world, and nothing is asked of any server. -/
def Decides (zones : ZoneStore) (name : DnsName) (recordType : RecordType) : Prop :=
  ∃ result, ∀ (W D : Type) (self : Resolver W D) (fuel : Nat) (s : State W), self.zoneStore = zones →
    (self.resolve fuel name recordType s).1 = result ∧
      (self.resolve fuel name recordType s).2.log = s.log

variable {zones : ZoneStore} {zone : Zone} {name : DnsName} {recordType : RecordType}

theorem lookup_of_findZone (found : zones.findZone name = some zone) :
    zones.lookup name recordType = zone.lookup name recordType := by
  rw [lookup, found]
  rfl

/-- Records of the type decide, and so does a name of the zone without an alias. -/
theorem decides_of_result {records : List DnsRecord}
    (decided : zones.zoneResult name recordType = .found records ∨
      zones.zoneResult name recordType = .noData ∧ records = []) : zones.Decides name recordType := by
  refine ⟨.ok records, ?_⟩
  rintro W D self fuel s rfl
  rcases decided with found | ⟨noData, rfl⟩
  · rw [Resolver.resolve, found]
    exact ⟨rfl, rfl⟩
  · rw [Resolver.resolve, noData]
    exact ⟨rfl, rfl⟩

/-- No server ever replies. -/
def silence : Upstream := fun _ _ _ => none

/-- Each of the tries with a silent root server leaves its query in the log. -/
theorem silence_asked (self : Resolver Tape DnsMessage) (silent : self.network = silence.network)
    (name : DnsName) (recordType : RecordType) :
    (self.resolveRecursive 1 name recordType 0 ⟨DnsCache.new 10, Upstream.blankTape, []⟩).2.log.length =
      MAX_RETRIES := by
  obtain ⟨network, zoneStore, dnssecValidator, enableDnssec⟩ := self
  subst silent
  rw [Resolver.resolveRecursive]
  rfl

/-- What is not found in the zones is asked of the root servers when the cache is empty. -/
theorem not_decides_of_notFound (missing : zones.zoneResult name recordType = .notFound) :
    ¬zones.Decides name recordType := by
  rintro ⟨result, decides⟩
  let self : Resolver Tape DnsMessage := { silence.resolver with zoneStore := zones }
  let start : State Tape := ⟨DnsCache.new 10, Upstream.blankTape, []⟩
  have quiet := (decides Tape DnsMessage self 1 start rfl).2
  have asked := silence_asked self rfl name recordType
  have empty : ∀ recordType, self.cacheLookup name recordType start = (.ok none, start) := fun _ => rfl
  have upstream : self.resolve 1 name recordType start = self.resolveRecursive 1 name recordType 0 start := by
    rw [Resolver.resolve, show self.zoneStore = zones from rfl, missing]
    change self.resolveUpstream 1 name recordType start = _
    rw [Resolver.resolveUpstream, Prog.bind_ok (empty recordType)]
    dsimp only
    split
    · rw [Prog.bind_ok (empty .CNAME)]
    · rfl
  rw [upstream] at quiet
  rw [quiet] at asked
  cases asked

/-- For a name of a loaded zone without an alias there, the zones decide exactly when the zone has
records of the type, or has the name and the question is not for its alias. -/
theorem decides_iff (found : zones.findZone name = some zone) (noAlias : zone.lookup name .CNAME = none) :
    zones.Decides name recordType ↔
      (zone.lookup name recordType).isSome ∨ (zone.hasName name ∧ recordType ≠ .CNAME) := by
  have inZone : zones.lookup name recordType = zone.lookup name recordType := lookup_of_findZone found
  rcases held : zone.lookup name recordType with _ | records
  · by_cases known : zone.hasName name ∧ recordType ≠ .CNAME
    · have noData : zones.zoneResult name recordType = .noData := by
        rw [zoneResult, inZone, held, found]
        dsimp only
        rw [if_pos known, noAlias]
      exact iff_of_true (decides_of_result (Or.inr ⟨noData, rfl⟩)) (Or.inr known)
    · refine iff_of_false (not_decides_of_notFound ?_) ?_
      · rw [zoneResult, inZone, held, found]
        dsimp only
        rw [if_neg known]
      · rintro (some | both)
        · cases some
        · exact known both
  · have answered : zones.zoneResult name recordType = .found records := by
      rw [zoneResult, inZone, held]
    exact iff_of_true (decides_of_result (Or.inl answered)) (Or.inl rfl)

def exampleZone : Zone where
  name := ⟨["example", "local"]⟩
  soa := DnsRecord.new ⟨["example", "local"]⟩ .SOA 300
    (.SOA ⟨["ns1", "example", "local"]⟩ ⟨["admin", "example", "local"]⟩ 2024010101 3600 900 604800 300)
  records := ∅
  nsRecords := []

theorem decides_iff_apex :
    (⟨[exampleZone]⟩ : ZoneStore).Decides exampleZone.name .MX ↔
      (exampleZone.lookup exampleZone.name .MX).isSome ∨
        (exampleZone.hasName exampleZone.name ∧ RecordType.MX ≠ .CNAME) :=
  decides_iff rfl rfl

/-- A name that does not exist in the zone is asked of the root servers. -/
theorem not_decides_missing :
    ¬(⟨[exampleZone]⟩ : ZoneStore).Decides ⟨["missing", "example", "local"]⟩ .A :=
  not_decides_of_notFound rfl

end ZoneStore

end DnsServer
