import DnsServer.CacheHistory
import DnsServer.Resolver.Resolution
import DnsServer.Resolver.Runs

/-! What a resolver with any history answers about the zones of the world. -/

namespace DnsServer

/-- The same records in the same order, none of them with a longer TTL. -/
def Aged (records aged : List DnsRecord) : Prop :=
  List.Forall₂ (fun record older => ∃ ttl, ttl.toNat ≤ record.ttl.toNat ∧ older = record.withTtl ttl)
    records aged

/-- The records of an answer may have aged, and nothing else is different. -/
inductive AgesTo : Outcome ResponseCode (List DnsRecord) → Outcome ResponseCode (List DnsRecord) → Prop
  | aged {records older : List DnsRecord} (aged : Aged records older) : AgesTo (.ok records) (.ok older)
  | same (outcome : Outcome ResponseCode (List DnsRecord)) : AgesTo outcome outcome

theorem Aged.refl (records : List DnsRecord) : Aged records records :=
  List.forall₂_same.mpr fun record _ => ⟨record.ttl, le_rfl, rfl⟩

theorem Aged.append {records records' aged aged' : List DnsRecord} (first : Aged records aged)
    (second : Aged records' aged') : Aged (records ++ records') (aged ++ aged') :=
  List.rel_append first second

/-- Age does not change where aliases lead. -/
theorem Aged.aliasTarget {cnames aged : List DnsRecord} (older : Aged cnames aged) :
    aliasTarget aged = DnsServer.aliasTarget cnames := by
  induction older with
  | nil => rfl
  | @cons record _ cnames aged first rest ih =>
    obtain ⟨ttl, _, rfl⟩ := first
    cases rest with
    | nil => rfl
    | cons next rest =>
      unfold DnsServer.aliasTarget at ih ⊢
      rw [List.getLast?_cons_cons, List.getLast?_cons_cons]
      exact ih

theorem behind_ages {cnames aged : List DnsRecord} (older : Aged cnames aged)
    (outcome : Outcome ResponseCode (List DnsRecord)) :
    AgesTo (behind cnames outcome) (behind aged outcome) := by
  cases outcome with
  | ok records => exact .aged (older.append (.refl records))
  | err error => exact .same _
  | panic => exact .same _
  | hang => exact .same _

namespace CacheEntry

theorem remainingTtl_le (entry : CacheEntry) (now : Nat) :
    (entry.remainingTtl now).toNat ≤ entry.ttl / NANOS_PER_SEC := by
  unfold remainingTtl
  split
  · exact Nat.zero_le _
  · rw [UInt32.toNat_ofNat']
    exact (Nat.mod_le _ _).trans (Nat.div_le_div_right (Nat.sub_le _ _))

end CacheEntry

namespace DnsCache

/-- Every entry is kept as long as the least TTL of its records spoken, and not beyond a day. -/
def Timed (cache : DnsCache) : Prop := ∀ key entry, cache.peek key = some entry →
  entry.ttl = min (minTtl entry.records) MAX_TTL * NANOS_PER_SEC

variable {cache : DnsCache} {name : DnsName} {recordType : RecordType} {records : List DnsRecord}
  {now later : Nat}

theorem timed_new (maxEntries : Nat) : Timed (new maxEntries) := by
  intro key entry found
  exact (stored_new (fun _ _ => False) maxEntries key entry found).elim

theorem Timed.lookup (timed : Timed cache) : Timed (cache.lookup name recordType now later).2 :=
  fun key entry found => timed key entry (peek_lookup_of_some found)

theorem Timed.insert (timed : Timed cache) : Timed (cache.insert name recordType records now) := by
  by_cases expired : minTtl records = 0
  · rwa [insert_ineffective expired]
  · rw [insert_effective expired]
    intro key entry found
    by_cases same : key = ⟨name, recordType⟩
    · rw [same, Lru.peek_put_self] at found
      cases found
      rfl
    · exact timed key entry (Lru.peek_put_of_some same found)

/-- What a lookup finds are the records of the entry, aged. -/
theorem Timed.lookup_aged (timed : Timed cache)
    (found : (cache.lookup name recordType now later).1 = some records) :
    ∃ entry, cache.peek ⟨name, recordType⟩ = some entry ∧ Aged entry.records records := by
  obtain ⟨entry, held, _, rfl⟩ := lookup_records found
  have short := entry.remainingTtl_le later
  rw [timed _ _ held, Nat.mul_div_cancel _ (by decide)] at short
  refine ⟨entry, held, ?_⟩
  rw [Aged, List.forall₂_map_right_iff, List.forall₂_same]
  intro record member
  exact ⟨_, short.trans ((min_le_left _ _).trans (minTtl_le member)), rfl⟩

end DnsCache

namespace Hierarchy

variable (h : Hierarchy) (name : DnsName) (recordType : RecordType)

/-- Under this key the resolver may keep a part of a referral only: the last NS record with this owner, or
the last address of this server. -/
def PartOfReferral : Prop := recordType = .NS ∨ recordType = .A ∧ ∃ zone ∈ h.zones, name ∈ zone.servers

/-- What the cache may hold under a key. -/
def Held (key : CacheKey) (records : List DnsRecord) : Prop :=
  h.lookup key.name key.recordType = .found records ∨ h.PartOfReferral key.name key.recordType

/-- The cache holds nothing but what is published and parts of referrals, each for as long as it lasts. -/
structure Recalls (cache : DnsCache) : Prop where
  stored : DnsCache.Stored h.Held cache
  timed : DnsCache.Timed cache

/-- The response is what a server of a zone on the way has to say. -/
inductive Says (response : DnsMessage) : Prop
  | tells (told : Tells recordType response (h.lookup name recordType))
  | delegates {next : PublishedZone} (below : next ∈ h.path name) (delegates : h.Delegates next response)

def Truthful : Event → Prop
  | .accepted _ name recordType response => h.Says name recordType response
  | _ => True

/-- All of these servers serve one zone on the way to the name. -/
structure Reachable (nameservers : List SocketAddr) : Prop where
  some : nameservers ≠ []
  serving : ∃ zone ∈ h.path name, ∀ server ∈ nameservers, server ∈ h.addresses zone

variable {h name recordType} {response : DnsMessage}

theorem mem_zones_of_path {zone : PublishedZone} (member : zone ∈ h.path name) : zone ∈ h.zones := by
  obtain ⟨up, _, found⟩ := List.mem_filterMap.mp (List.mem_reverse.mp member)
  exact List.mem_of_find?_eq_some found

theorem Says.typed (spoken : h.Says name recordType response)
    (noNameError : response.header.responseCode ≠ .nameError) (some : response.typedAnswers recordType ≠ []) :
    h.lookup name recordType = .found (response.typedAnswers recordType) := by
  have answered : response.answers ≠ [] := by
    intro none
    exact some (by rw [DnsMessage.typedAnswers, none]; rfl)
  cases spoken with
  | tells told =>
    cases published : h.lookup name recordType with
    | found records =>
      rw [published] at told
      rw [told.2]
    | aliased cnames =>
      rw [published] at told
      exact absurd told.2.1 some
    | noData =>
      rw [published] at told
      exact absurd told.2.1 answered
    | noName =>
      rw [published] at told
      exact absurd told noNameError
  | delegates below delegates => exact absurd delegates.noAnswers answered

/-- Aliases that are told of a name are what the name has of the type CNAME. -/
theorem lookup_cname {cnames : List DnsRecord} (aliased : h.lookup name recordType = .aliased cnames) :
    h.lookup name .CNAME = .found cnames := by
  unfold lookup at aliased ⊢
  split at aliased
  · unfold PublishedZone.lookup at aliased ⊢
    split at aliased
    · cases aliased
    split at aliased
    · rename_i some
      cases aliased
      exact if_pos some
    split at aliased <;> cases aliased
  · cases aliased

theorem Says.aliases (spoken : h.Says name recordType response)
    (noNameError : response.header.responseCode ≠ .nameError)
    (untyped : response.typedAnswers recordType = []) (some : response.aliasAnswers recordType ≠ []) :
    h.lookup name .CNAME = .found (response.aliasAnswers recordType) := by
  have answered : response.answers ≠ [] := by
    intro none
    exact some (by rw [DnsMessage.aliasAnswers, none]; rfl)
  cases spoken with
  | tells told =>
    cases published : h.lookup name recordType with
    | found records =>
      rw [published] at told
      exact absurd (told.2.symm.trans untyped) (lookup_found published)
    | aliased cnames =>
      rw [published] at told
      rw [told.2.2]
      exact lookup_cname published
    | noData =>
      rw [published] at told
      exact absurd told.2.1 answered
    | noName =>
      rw [published] at told
      exact absurd told noNameError
  | delegates below delegates => exact absurd delegates.noAnswers answered

/-- A response with name servers and without answers is a referral. -/
theorem Says.referral (spoken : h.Says name recordType response)
    (noNameError : response.header.responseCode ≠ .nameError) (noAnswers : response.answers = [])
    (some : response.nsNames ≠ []) : ∃ next ∈ h.path name, h.Delegates next response := by
  cases spoken with
  | tells told =>
    cases published : h.lookup name recordType with
    | found records =>
      rw [published, Tells, DnsMessage.typedAnswers, noAnswers] at told
      exact absurd told.2.symm (lookup_found published)
    | aliased cnames =>
      rw [published, Tells, DnsMessage.aliasAnswers, noAnswers] at told
      exact absurd told.2.2.symm (lookup_aliased published)
    | noData =>
      rw [published] at told
      exact absurd told.2.2.1 some
    | noName =>
      rw [published] at told
      exact absurd told noNameError
  | delegates below delegates => exact ⟨_, below, delegates⟩

theorem glueFor_listed {record : DnsRecord} {nsNames : List DnsName} {addr : SocketAddr}
    (glue : record.glueFor nsNames = some addr) : record.name ∈ nsNames := by
  unfold DnsRecord.glueFor at glue
  split at glue
  · split at glue
    · split at glue
      · rename_i listed
        obtain ⟨ns, member, same⟩ := List.any_eq_true.mp listed
        exact of_decide_eq_true same ▸ member
      · cases glue
    · cases glue
  · cases glue

/-- Truthful responses bring nothing else into the cache. -/
theorem recalls_closed (h : Hierarchy) : Closed h.Truthful h.Recalls (fun _ _ _ => True)
    (fun _ _ _ _ => True) fun _ _ => True where
  lookup _ _ _ _ _ recalls := ⟨recalls.stored.lookup, recalls.timed.lookup⟩
  cached _ _ _ _ _ _ _ := trivial
  resolved _ _ _ := trivial
  typed server name recordType response truthful noNameError some :=
    ⟨trivial, fun cache now recalls =>
      ⟨recalls.stored.insert fun _ => Or.inl (Says.typed truthful noNameError some), recalls.timed.insert⟩⟩
  aliases server name recordType response truthful noNameError untyped := by
    refine ⟨fun _ _ _ _ => trivial, fun cache now recalls =>
      ⟨recalls.stored.insert fun lasting => Or.inl ?_, recalls.timed.insert⟩⟩
    refine Says.aliases truthful noNameError untyped fun none => lasting ?_
    rw [none]
    rfl
  referral server name recordType response truthful noNameError noAnswers record member nsName target
      cache now recalls :=
    ⟨recalls.stored.insert fun _ => Or.inr (Or.inl rfl), recalls.timed.insert⟩
  glue server name recordType response truthful noNameError noAnswers record member addr glue cache now
      recalls := by
    refine ⟨recalls.stored.insert fun _ => Or.inr (Or.inr ⟨rfl, ?_⟩), recalls.timed.insert⟩
    have listed := glueFor_listed glue
    obtain ⟨next, below, delegates⟩ :=
      Says.referral truthful noNameError noAnswers (List.ne_nil_of_mem listed)
    exact ⟨next, mem_zones_of_path below, delegates.servers ▸ listed⟩
  empty _ _ := trivial
  ended _ _ _ _ _ := trivial
  answered _ _ _ _ _ _ _ := trivial
  extended _ _ _ _ _ _ _ := trivial

variable {upstream : Upstream} {self : Resolver Tape DnsMessage}

theorem queryNameservers_truthful (connected : self.network = upstream.network)
    (published : h.Publishes upstream) (name : DnsName) (recordType : RecordType)
    {nameservers : List SocketAddr} (reachable : h.Reachable name nameservers) (s : State Tape) :
    ∃ server ∈ nameservers, ∃ response s', self.queryNameservers name recordType nameservers s =
      (.ok response, s') ∧ s'.cache = s.cache ∧ h.Says name recordType response := by
  have inside : (s.world.draws 0).toNat % nameservers.length < nameservers.length :=
    Nat.mod_lt _ (List.length_pos_of_ne_nil reachable.some)
  have asked := List.getElem_mem inside
  obtain ⟨zone, member, serving⟩ := reachable.serving
  obtain ⟨before, after, way⟩ := List.append_of_mem member
  obtain ⟨front, closest, further, way', _, serves, none⟩ := exists_closest way (serving _ asked)
  obtain ⟨response, given, told⟩ := published.speaks name recordType _ _ closest further way' serves none
  obtain ⟨id, s', query, same, _⟩ :=
    Upstream.queryNameservers_drawn connected (List.getElem?_eq_getElem inside) given
  refine ⟨_, asked, response.withId id, s', query, same, ?_⟩
  cases further with
  | nil => exact .tells told
  | cons next rest =>
    have below : next ∈ h.path name := by
      rw [way']
      exact List.mem_append_right _ (List.mem_cons_of_mem _ List.mem_cons_self)
    exact .delegates below
      ⟨told.noError, told.noAnswers, told.servers, told.some, told.glue, told.addresses⟩

/-- In a published world only servers on the way to the name are asked, and whatever they say is true. -/
theorem heard_published (connected : self.network = upstream.network) (published : h.Publishes upstream)
    (I : DnsCache → Prop) : self.Heard (fun _ => []) h.Truthful I (fun _ _ => True)
      fun name _ nameservers => h.Reachable name nameservers where
  grows := growing_nil
  query name recordType nameservers := by
    refine .of_silent (fun _ => rfl) fun s reachable inv => ?_
    obtain ⟨server, asked, response, s', query, same, spoken⟩ :=
      queryNameservers_truthful connected published name recordType reachable s
    have kept : I s'.cache := by rwa [same]
    rw [query]
    refine ⟨kept, ?_⟩
    rintro _ ⟨⟩
    exact ⟨server, asked, spoken⟩
  roots name recordType := by
    obtain ⟨top, atRoot, rooted⟩ := published.top
    obtain ⟨after, way⟩ := path_top atRoot name
    exact ⟨by decide, top, way ▸ List.mem_cons_self, rooted⟩
  visits server name recordType response walk next asked truthful refers := by
    obtain ⟨zone, below, delegates⟩ :=
      Says.referral truthful refers.noNameError refers.noAnswers refers.delegates
    refine ⟨refers.reachable, zone, below, ?_⟩
    rcases refers.servers with glue | ⟨none, _⟩
    · rw [glue]
      exact delegates.addresses
    · exact absurd none delegates.glue

/-- Whatever was asked before, the cache holds nothing but what is published and parts of referrals. -/
theorem reached_recalls (connected : self.network = upstream.network) (published : h.Publishes upstream)
    {s : State Tape} (reached : self.Reached s) : h.Recalls s.cache := by
  induction reached with
  | start maxEntries world => exact ⟨DnsCache.stored_new _ _, DnsCache.timed_new _⟩
  | @call before fuel name recordType _ ih =>
    have ensures :=
      self.resolve_heard (recalls_closed h) (heard_published connected published _) fuel name recordType
    exact (ensures.keeps before trivial (fun _ member => absurd member List.not_mem_nil) ih).1

/-- A lookup of a key that is no part of a referral finds what is published, aged. -/
theorem cacheLookup_recalls (self : Resolver Tape DnsMessage) {s : State Tape}
    (recalls : h.Recalls s.cache) (own : ¬h.PartOfReferral name recordType) :
    ∃ found s', self.cacheLookup name recordType s = (.ok found, s') ∧
      h.Recalls s'.cache ∧
      ∀ aged, found = some aged →
        ∃ records, h.lookup name recordType = .found records ∧ Aged records aged := by
  refine ⟨_, _, rfl, ⟨recalls.stored.lookup, recalls.timed.lookup⟩, fun aged found => ?_⟩
  obtain ⟨entry, present, older⟩ := recalls.timed.lookup_aged found
  exact ⟨entry.records, (recalls.stored _ _ present).resolve_right own, older⟩

/-- With aliases of a name in the zone and no records of the type, the name is an alias for the type. -/
theorem lookup_of_cname {cnames : List DnsRecord} (aliases : h.lookup name .CNAME = .found cnames)
    (lone : ∀ records, h.lookup name recordType ≠ .found records) :
    h.lookup name recordType = .aliased cnames := by
  unfold lookup at aliases lone ⊢
  cases closest : (h.path name).getLast? with
  | none =>
    rw [closest] at aliases
    cases aliases
  | some zone =>
    rw [closest] at aliases lone
    dsimp only at aliases lone ⊢
    by_cases typed : (zone.find name recordType).isEmpty
    · by_cases none : (zone.find name .CNAME).isEmpty
      · rw [PublishedZone.lookup, if_neg (not_not.mpr none), if_neg (not_not.mpr none)] at aliases
        split at aliases <;> cases aliases
      · rw [PublishedZone.lookup, if_pos none] at aliases
        cases aliases
        rw [PublishedZone.lookup, if_neg (not_not.mpr typed), if_pos none]
    · exact absurd (if_pos typed) (lone _)

section Recalling

variable (connected : self.network = upstream.network) (published : h.Publishes upstream) {fuel : Nat}
  (enough : h.zones.length ≤ fuel)

include connected published enough

theorem followCnameChain_published {cnames aged : List DnsRecord} (older : Aged cnames aged)
    (aliased : h.lookup name recordType = .aliased cnames) (s : State Tape) :
    AgesTo (h.answer recordType (MAX_RECURSION_DEPTH + 1) name)
      (Resolver.followCnameChain (fun name recordType => self.resolveRecursive fuel name recordType 1) aged
        recordType s).1 := by
  have below : ∀ name recordType s, (self.resolveRecursive fuel name recordType 1 s).1 =
      h.answer recordType MAX_RECURSION_DEPTH name :=
    fun name recordType s => resolveRecursive_published connected published enough MAX_RECURSION_DEPTH
      name recordType (Nat.add_comm 1 _) s
  rw [answer, aliased]
  dsimp only
  cases target : aliasTarget cnames with
  | none =>
    rw [followCnameChain_astray (older.aliasTarget.trans target)]
    exact .same _
  | some next =>
    rw [followCnameChain_target (older.aliasTarget.trans target)]
    have chained : (Resolver.chainRounds (fun name recordType => self.resolveRecursive fuel name recordType 1)
        recordType MAX_CNAME_CHAIN aged next s).1 =
          behind aged (h.answer recordType MAX_RECURSION_DEPTH next) := by
      refine chainRounds_below (below next recordType) (fun empty s => ?_) 15 s
      have noAlias : h.lookup next .CNAME = .noData := lookup_noData (answer_nil empty)
      rw [below, MAX_RECURSION_DEPTH, answer, noAlias]
    rw [chained]
    exact behind_ages older _

/-- Whatever has been asked before, and however much time has passed, the resolver gives the answer of the
hierarchy. For a question that referrals are about, it may know a part of the answer from one of them; and
where a name has an alias, it has nothing else. -/
theorem resolve_recalled (elsewhere : self.zoneStore.zoneResult name recordType = .notFound)
    (own : ¬h.PartOfReferral name recordType)
    (lone : ∀ records cnames, recordType ≠ .CNAME → h.lookup name .CNAME = .found cnames →
      h.lookup name recordType ≠ .found records) {s : State Tape} (reached : self.Reached s) :
    AgesTo (h.answer recordType (MAX_RECURSION_DEPTH + 1) name) (self.resolve fuel name recordType s).1 := by
  have recalls := reached_recalls connected published reached
  have upward : ∀ s, AgesTo (h.answer recordType (MAX_RECURSION_DEPTH + 1) name)
      (self.resolveRecursive fuel name recordType 0 s).1 := by
    intro s
    rw [resolveRecursive_published connected published enough _ name recordType (Nat.zero_add _) s]
    exact .same _
  obtain ⟨found, s₁, lookup, recalls₁, source⟩ := cacheLookup_recalls self recalls own
  rw [Resolver.resolve, elsewhere]
  dsimp only
  rw [Resolver.resolveUpstream, Prog.bind_ok lookup]
  cases found with
  | some aged =>
    obtain ⟨records, told, older⟩ := source aged rfl
    rw [answer, told]
    exact .aged older
  | none =>
    dsimp only
    by_cases other : recordType ≠ .CNAME
    · have own' : ¬h.PartOfReferral name .CNAME := by
        rintro (⟨⟨⟩⟩ | ⟨⟨⟩, _⟩)
      obtain ⟨found', s₂, lookup', _, source'⟩ := cacheLookup_recalls self recalls₁ own'
      rw [if_pos other, Prog.bind_ok lookup']
      cases found' with
      | some aged =>
        obtain ⟨cnames, told, older⟩ := source' aged rfl
        have aliased := lookup_of_cname told fun records => lone records cnames other told
        exact followCnameChain_published connected published enough older aliased s₂
      | none => exact upward s₂
    · rw [if_neg other]
      exact upward s₁

end Recalling

/-- The alias is asked for once more, when the cache has it. -/
theorem resolve_recalled_twoZones :
    AgesTo (twoZones.answer .A (MAX_RECURSION_DEPTH + 1) Upstream.www)
      (twoZones.upstream.resolver.resolve 2 Upstream.www .A (twoZones.upstream.resolver.resolve 2
        Upstream.www .A ⟨DnsCache.new 10, Upstream.blankTape, []⟩).2).1 := by
  have aliased : twoZones.lookup Upstream.www .A =
      .aliased [DnsRecord.new Upstream.www .CNAME 300 (.CNAME Upstream.cdn)] := by
    rw [lookup, path, Upstream.www, DnsName.ancestors_eq]
    decide
  have own : ¬twoZones.PartOfReferral Upstream.www .A := by
    rintro (⟨⟨⟩⟩ | ⟨_, zone, member, serves⟩)
    revert zone
    decide
  refine resolve_recalled rfl (publishes_upstream twoZones_wellServed) (by decide) rfl own ?_
    (.call 2 Upstream.www .A (.start 10 Upstream.blankTape))
  intro records _ _ _ found
  rw [aliased] at found
  cases found

end Hierarchy

end DnsServer
