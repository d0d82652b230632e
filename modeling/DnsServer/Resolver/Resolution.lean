import DnsServer.Resolver.BogusAnswers
import DnsServer.Resolver.Hierarchy

/-! The resolver finds what the zones of the world have to say. -/

namespace DnsServer

namespace Resolver

variable {W D : Type} (self : Resolver W D) (name : DnsName) {recordType : RecordType} {response : DnsMessage}

/-- Validation lets every response pass, whether it is enabled or not. -/
theorem validateAnswers_run (recordType : RecordType) (response : DnsMessage) (s : State W) :
    ∃ s', self.validateAnswers name recordType response s = (.ok (), s') := by
  by_cases enabled : self.enableDnssec
  · exact ⟨_, self.validateAnswers_passes enabled name recordType response s⟩
  · refine ⟨s, ?_⟩
    rw [validateAnswers, if_neg enabled]
    rfl

theorem absorb_validated (recordType : RecordType) (noError : response.header.responseCode = .noError)
    (some : response.answers ≠ []) (s : State W) :
    ∃ s', self.absorb name recordType response s = self.cacheAnswers name recordType response s' := by
  have noNameError : response.header.responseCode ≠ .nameError := by
    rw [noError]
    decide
  have answered : ¬response.answers.isEmpty := by simpa using some
  obtain ⟨s', passed⟩ := self.validateAnswers_run name recordType response s
  refine ⟨s', ?_⟩
  rw [absorb, if_neg noNameError, if_pos answered, processAnswers, Prog.bind_ok passed]

theorem absorb_typed (noError : response.header.responseCode = .noError)
    (some : response.typedAnswers recordType ≠ []) (s : State W) :
    ∃ s', self.absorb name recordType response s = (.ok (.answers (response.typedAnswers recordType)), s') := by
  have answers : response.answers ≠ [] := by
    intro none
    exact some (by rw [DnsMessage.typedAnswers, none]; rfl)
  obtain ⟨s₁, absorbed⟩ := self.absorb_validated name recordType noError answers s
  have inserted := self.cacheInsert_run name recordType (response.typedAnswers recordType) s₁
  rw [absorbed, cacheAnswers, if_pos (by simpa using some)]
  exact ⟨_, Prog.bind_ok inserted⟩

theorem absorb_aliased (noError : response.header.responseCode = .noError)
    (untyped : response.typedAnswers recordType = []) (some : response.aliasAnswers recordType ≠ [])
    (s : State W) :
    ∃ s', self.absorb name recordType response s = (.ok (.aliases (response.aliasAnswers recordType)), s') := by
  have answers : response.answers ≠ [] := by
    intro none
    exact some (by rw [DnsMessage.aliasAnswers, none]; rfl)
  obtain ⟨s₁, absorbed⟩ := self.absorb_validated name recordType noError answers s
  have inserted := self.cacheInsert_run name .CNAME (response.aliasAnswers recordType) s₁
  rw [absorbed, cacheAnswers, untyped, if_neg (by simp), if_pos (by simpa using some)]
  exact ⟨_, Prog.bind_ok inserted⟩

theorem absorb_unanswered (recordType : RecordType) (noNameError : response.header.responseCode ≠ .nameError)
    (noAnswers : response.answers = []) (s : State W) :
    ∃ s', self.absorb name recordType response s =
      (.ok (.referral response.nsNames response.glueAddrs), s') := by
  obtain ⟨s₁, referrals, _⟩ := self.cacheEach_run .NS DnsRecord.nsTarget response.authorities s
  obtain ⟨s₂, glue, _⟩ :=
    self.cacheEach_run .A (fun record => record.glueFor response.nsNames) response.additional s₁
  exact ⟨s₂, self.absorb_referral noNameError noAnswers referrals glue⟩

/-- A lookup of what the cache does not have leaves it without it, and without what else it does not have. -/
theorem cacheLookup_absent {recordType : RecordType} {s : State W}
    (absent : s.cache.peek ⟨name, recordType⟩ = none) :
    ∃ s', self.cacheLookup name recordType s = (.ok none, s') ∧
      ∀ key, s.cache.peek key = none → s'.cache.peek key = none := by
  obtain ⟨found, s', lookup, source, held⟩ := self.cacheLookup_run name recordType s
  cases found with
  | some records =>
    obtain ⟨entry, _, present, _⟩ := source records rfl
    rw [absent] at present
    cases present
  | none =>
    refine ⟨s', lookup, fun key absent => ?_⟩
    by_contra present
    obtain ⟨entry, holds⟩ := Option.ne_none_iff_exists'.mp present
    rw [held key entry holds] at absent
    cases absent

/-- What neither the zones nor the cache know about is asked of the root servers. -/
theorem resolve_cold {name : DnsName} {recordType : RecordType} {s : State W}
    (elsewhere : self.zoneStore.zoneResult name recordType = .notFound)
    (cold : s.cache.peek ⟨name, recordType⟩ = none) (cold' : s.cache.peek ⟨name, .CNAME⟩ = none) (fuel : Nat) :
    ∃ s', self.resolve fuel name recordType s = self.resolveRecursive fuel name recordType 0 s' := by
  obtain ⟨s₁, lookup, absent⟩ := self.cacheLookup_absent name cold
  rw [resolve, elsewhere]
  dsimp only
  rw [resolveUpstream, Prog.bind_ok lookup]
  dsimp only
  split
  · obtain ⟨s₂, lookup', _⟩ := self.cacheLookup_absent name (absent _ cold')
    exact ⟨s₂, Prog.bind_ok lookup'⟩
  · exact ⟨s₁, rfl⟩

end Resolver

namespace Hierarchy

variable {h : Hierarchy} {upstream : Upstream} {self : Resolver Tape DnsMessage} {name : DnsName}
  {recordType : RecordType} (rec : DnsName → RecordType → Resolution Tape (List DnsRecord))

/-- What a level of the resolution ends with, once the zone of the name has had its say. -/
def ends (recordType : RecordType) : Published → Resolution Tape (List DnsRecord)
  | .found records => return records
  | .aliased cnames => Resolver.followCnameChain rec cnames recordType
  | .noData => return []
  | .noName => Prog.fail .nameError

/-- The servers that are asked are servers of a zone on the way down, and so are the names they came with. -/
structure Downward (h : Hierarchy) (zone : PublishedZone) (walk : Walk) : Prop where
  some : walk.nameservers ≠ []
  servers : ∀ server ∈ walk.nameservers, server ∈ h.addresses zone
  names : walk.lastNsNames = [] ∨ walk.lastNsNames = zone.servers

/-- The zone of the name ends the walk. -/
theorem continueWith_tells (self : Resolver Tape DnsMessage) {response : DnsMessage}
    (told : Tells recordType response (h.lookup name recordType)) (walk : Walk) (s : State Tape) :
    ∃ s', (self.absorb name recordType response >>= self.continueWith rec recordType walk response.hasSoa) s =
      (ends rec recordType (h.lookup name recordType) >>= fun records => pure (.inr records)) s' := by
  cases published : h.lookup name recordType with
  | found records =>
    rw [published] at told
    obtain ⟨noError, rfl⟩ := told
    obtain ⟨s', absorbed⟩ := self.absorb_typed name noError (lookup_found published) s
    exact ⟨s', by rw [Prog.bind_ok absorbed]; rfl⟩
  | aliased cnames =>
    rw [published] at told
    obtain ⟨noError, untyped, rfl⟩ := told
    obtain ⟨s', absorbed⟩ := self.absorb_aliased name noError untyped (lookup_aliased published) s
    exact ⟨s', by rw [Prog.bind_ok absorbed]; rfl⟩
  | noData =>
    rw [published] at told
    obtain ⟨noError, noAnswers, noServers, soa⟩ := told
    obtain ⟨s', absorbed⟩ := self.absorb_unanswered name recordType (by simp [noError]) noAnswers s
    refine ⟨s', ?_⟩
    rw [Prog.bind_ok absorbed, Resolver.continueWith, Resolver.followReferral, noServers, soa]
    rfl
  | noName =>
    rw [published] at told
    have refused : response.header.responseCode = .nameError := told
    refine ⟨s, ?_⟩
    rw [Resolver.absorb, if_pos refused]
    rfl

/-- A referral leads on to the next zone: its names are not those of the zone before it, because none of the
servers of that zone is a server of the next. -/
theorem continueWith_delegates (self : Resolver Tape DnsMessage) (name : DnsName) (recordType : RecordType)
    {next zone : PublishedZone} {response : DnsMessage} (delegates : h.Delegates next response) {walk : Walk}
    (downward : h.Downward zone walk) {server : SocketAddr} (asked : server ∈ walk.nameservers)
    (other : server ∉ h.addresses next) (s : State Tape) :
    ∃ s' walk', h.Downward next walk' ∧
      (self.absorb name recordType response >>= self.continueWith rec recordType walk response.hasSoa) s =
        (.ok (.inl walk'), s') := by
  obtain ⟨s', absorbed⟩ := self.absorb_unanswered name recordType (by simp [delegates.noError])
    delegates.noAnswers s
  have fresh : response.nsNames ≠ walk.lastNsNames := by
    rw [delegates.servers]
    intro same
    rcases downward.names with none | names
    · exact delegates.some (same.trans none)
    · have alike : h.addresses next = h.addresses zone := by
        rw [addresses, addresses, same.trans names]
      exact other (alike ▸ downward.servers server asked)
  have some : ¬response.nsNames.isEmpty := by simpa [delegates.servers] using delegates.some
  have glue : ¬response.glueAddrs.isEmpty := by simpa using delegates.glue
  refine ⟨s', ⟨response.glueAddrs, response.nsNames⟩,
    ⟨delegates.glue, delegates.addresses, Or.inr delegates.servers⟩, ?_⟩
  rw [Prog.bind_ok absorbed, Resolver.continueWith, Resolver.followReferral, if_neg some, if_neg fresh,
    if_pos glue]
  rfl

section Walking

variable (connected : self.network = upstream.network) (published : h.Publishes upstream)

include connected published

/-- A round of the loop ends with what the zone of the name has to say, or goes on with a zone further down. -/
theorem referralStep_published {before after : List PublishedZone} {zone : PublishedZone} {walk : Walk}
    (downward : h.Downward zone walk) (way : h.path name = before ++ zone :: after) (s : State Tape) :
    ∃ s', self.referralStep rec name recordType walk s =
        (ends rec recordType (h.lookup name recordType) >>= fun records => pure (.inr records)) s' ∨
      ∃ before' next rest walk', h.path name = before' ++ next :: rest ∧ rest.length < after.length ∧
        h.Downward next walk' ∧ self.referralStep rec name recordType walk s = (.ok (.inl walk'), s') := by
  have inside : (s.world.draws 0).toNat % walk.nameservers.length < walk.nameservers.length :=
    Nat.mod_lt _ (List.length_pos_of_ne_nil downward.some)
  have chosen := List.getElem?_eq_getElem inside
  have asked := List.getElem_mem inside
  obtain ⟨front, closest, further, way', short, serves, none⟩ :=
    exists_closest way (downward.servers _ asked)
  obtain ⟨response, given, told⟩ := published.speaks name recordType _ _ closest further way' serves none
  obtain ⟨id, s₁, query, _⟩ := Upstream.queryNameservers_drawn connected chosen given
  have round : self.referralStep rec name recordType walk s =
      (self.absorb name recordType (response.withId id) >>=
        self.continueWith rec recordType walk (response.withId id).hasSoa) s₁ := by
    rw [Resolver.referralStep, Prog.bind_ok query]
  cases further with
  | nil =>
    have tells : Tells recordType (response.withId id) (h.lookup name recordType) := told
    obtain ⟨s', ended⟩ := continueWith_tells rec self tells walk s₁
    exact ⟨s', Or.inl (round.trans ended)⟩
  | cons next rest =>
    have delegates : h.Delegates next (response.withId id) :=
      ⟨told.noError, told.noAnswers, told.servers, told.some, told.glue, told.addresses⟩
    obtain ⟨s', walk', onward, continued⟩ := continueWith_delegates rec self name recordType
      delegates downward asked (none next List.mem_cons_self) s₁
    refine ⟨s', Or.inr ⟨front ++ [closest], next, rest, walk', ?_, short, onward, round.trans continued⟩⟩
    rw [way', List.append_assoc, List.singleton_append]

/-- The loop comes down to the zone of the name within as many rounds as there are zones on the way. -/
theorem loop_published {before after : List PublishedZone} {zone : PublishedZone} {walk : Walk} {fuel : Nat}
    (downward : h.Downward zone walk) (way : h.path name = before ++ zone :: after)
    (enough : after.length < fuel) (s : State Tape) :
    ∃ s', Prog.loop (self.referralStep rec name recordType) fuel walk s =
      ends rec recordType (h.lookup name recordType) s' := by
  induction fuel generalizing before after zone walk s with
  | zero => exact absurd enough (Nat.not_lt_zero _)
  | succ fuel ih =>
    rw [Prog.loop_succ, Prog.bind_apply]
    obtain ⟨s', ended | ⟨before', next, rest, walk', way', fewer, onward, continued⟩⟩ :=
      referralStep_published rec connected published downward way s
    · refine ⟨s', ?_⟩
      rw [ended, Prog.bind_apply]
      rcases ends rec recordType (h.lookup name recordType) s' with ⟨_ | _ | _ | _, _⟩ <;> rfl
    · rw [continued]
      exact ih onward way' (by omega) s'

end Walking

section Aliases

variable {rec} {cnames : List DnsRecord} {next : DnsName}

theorem followCnameChain_target (target : aliasTarget cnames = some next) :
    Resolver.followCnameChain rec cnames recordType =
      Resolver.chainRounds rec recordType MAX_CNAME_CHAIN cnames next := by
  unfold aliasTarget at target
  unfold Resolver.followCnameChain
  cases last : cnames.getLast? with
  | none =>
    rw [last] at target
    cases target
  | some record =>
    rw [last] at target
    dsimp only at target ⊢
    cases leads : record.rdata with
    | CNAME name =>
      rw [leads] at target
      cases target
      rfl
    | _ =>
      rw [leads] at target
      cases target

theorem followCnameChain_astray (target : aliasTarget cnames = none) :
    Resolver.followCnameChain rec cnames recordType = Prog.fail .serverFailure := by
  unfold aliasTarget at target
  unfold Resolver.followCnameChain
  cases last : cnames.getLast? with
  | none => rfl
  | some record =>
    rw [last] at target
    dsimp only at target ⊢
    cases leads : record.rdata with
    | CNAME name =>
      rw [leads] at target
      cases target
    | _ => rfl

/-- A target without data is asked again and again, and the chain stays as it is. -/
theorem chainRounds_noData (noData : ∀ s, (rec next recordType s).1 = .ok [])
    (noAlias : ∀ s, (rec next .CNAME s).1 = .ok []) (rounds : Nat) (chain : List DnsRecord) (s : State Tape) :
    (Resolver.chainRounds rec recordType rounds chain next s).1 = .ok chain := by
  induction rounds generalizing s with
  | zero => rfl
  | succ rounds ih =>
    have run : rec next recordType s = (.ok [], (rec next recordType s).2) := Prod.ext (noData s) rfl
    have run' : rec next .CNAME (rec next recordType s).2 =
        (.ok [], (rec next .CNAME (rec next recordType s).2).2) := Prod.ext (noAlias _) rfl
    rw [Resolver.chainRounds, Prog.bind_ok run]
    dsimp only
    rw [if_neg (by decide), Prog.bind_ok (Prog.attempt_ok run')]
    exact ih _

/-- What stands at the end of the chain is what its target is resolved to. -/
theorem chainRounds_below {out : Outcome ResponseCode (List DnsRecord)}
    (below : ∀ s, (rec next recordType s).1 = out)
    (noAlias : out = .ok [] → ∀ s, (rec next .CNAME s).1 = .ok []) (rounds : Nat) (s : State Tape) :
    (Resolver.chainRounds rec recordType (rounds + 1) cnames next s).1 = behind cnames out := by
  have run : rec next recordType s = (out, (rec next recordType s).2) := Prod.ext (below s) rfl
  cases out with
  | ok records =>
    by_cases none : records = []
    · subst none
      have whole : behind cnames (.ok []) = .ok cnames := congrArg Outcome.ok (List.append_nil cnames)
      rw [whole]
      exact chainRounds_noData below (noAlias rfl) (rounds + 1) cnames s
    · rw [Resolver.chainRounds, Prog.bind_ok run, if_pos (by simpa using none)]
      rfl
  | err error => exact congrArg Prod.fst (Prog.bind_err run)
  | panic => exact congrArg Prod.fst (Prog.bind_panic run)
  | hang => exact congrArg Prod.fst (Prog.bind_hang run)

end Aliases

section Levels

variable (connected : self.network = upstream.network) (published : h.Publishes upstream)

include connected published

/-- Each level of the recursion gives the answer along the names that are left to it. -/
theorem resolveRecursive_published {fuel : Nat} (enough : h.zones.length ≤ fuel) (left : Nat) (name : DnsName)
    (recordType : RecordType) {depth : Nat} (levels : depth + left = MAX_RECURSION_DEPTH + 1) (s : State Tape) :
    (self.resolveRecursive fuel name recordType depth s).1 = h.answer recordType left name := by
  induction left generalizing name recordType depth s with
  | zero =>
    rw [Resolver.resolveRecursive, if_pos (by omega)]
    rfl
  | succ left ih =>
    have below : ∀ name recordType s, (self.resolveRecursive fuel name recordType (depth + 1) s).1 =
        h.answer recordType left name := fun name recordType s => ih name recordType (by omega) s
    obtain ⟨top, atRoot, rooted⟩ := published.top
    obtain ⟨after, way⟩ := path_top atRoot name
    have short := h.path_length name
    rw [way, List.length_cons] at short
    have downward : h.Downward top ⟨rootServers, []⟩ := ⟨by decide, rooted, Or.inl rfl⟩
    have inside : after.length < fuel := by omega
    obtain ⟨s', ended⟩ := loop_published (fun name recordType =>
      self.resolveRecursive fuel name recordType (depth + 1)) connected published downward
        (show h.path name = [] ++ top :: after from way) inside s
    rw [Resolver.resolveRecursive, if_neg (by omega), ended, answer]
    cases told : h.lookup name recordType with
    | found records => rfl
    | noData => rfl
    | noName => rfl
    | aliased cnames =>
      dsimp only [ends]
      cases target : aliasTarget cnames with
      | none =>
        rw [followCnameChain_astray target]
        rfl
      | some next =>
        rw [followCnameChain_target target]
        refine chainRounds_below (below next recordType) (fun empty s => ?_) 15 s'
        rw [below]
        cases left with
        | zero => cases empty
        | succ left =>
          rw [answer, lookup_noData (answer_nil empty)]

end Levels

/-- With nothing about the name in the cache and no zone of its own for it, the resolver gives the answer of
the hierarchy, whichever servers it happens to choose. -/
theorem resolve_published (connected : self.network = upstream.network) (published : h.Publishes upstream)
    (elsewhere : self.zoneStore.zoneResult name recordType = .notFound) {s : State Tape}
    (cold : s.cache.peek ⟨name, recordType⟩ = none) (cold' : s.cache.peek ⟨name, .CNAME⟩ = none) {fuel : Nat}
    (enough : h.zones.length ≤ fuel) :
    (self.resolve fuel name recordType s).1 = h.answer recordType (MAX_RECURSION_DEPTH + 1) name := by
  obtain ⟨s', upward⟩ := self.resolve_cold elsewhere cold cold' fuel
  rw [upward]
  exact resolveRecursive_published connected published enough _ name recordType (Nat.zero_add _) s'

/-- The two zones as the resolver sees them. -/
theorem resolve_published_twoZones :
    (twoZones.upstream.resolver.resolve 2 Upstream.www .A ⟨DnsCache.new 10, Upstream.blankTape, []⟩).1 =
      twoZones.answer .A (MAX_RECURSION_DEPTH + 1) Upstream.www :=
  resolve_published rfl (publishes_upstream twoZones_wellServed) rfl rfl rfl (by decide)

end Hierarchy

end DnsServer
