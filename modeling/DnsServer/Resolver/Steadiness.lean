import DnsServer.Resolver.Absorb
import DnsServer.Resolver.Coherence

namespace DnsServer

open DnsCache

namespace Upstream

variable {upstream : Upstream} {asked : DnsName → RecordType → Prop} {self : Resolver Tape DnsMessage}
  {now : UInt32} {name : DnsName} {recordType : RecordType} {walk : Walk} {response : DnsMessage}

/-- If the records answer a question asked, their aliases lead to questions asked. -/
def Linked (asked : DnsName → RecordType → Prop) (question : Prop) (records : List DnsRecord) : Prop :=
  question → ∀ record ∈ records, ∀ target, record.rdata = .CNAME target → Onward asked target

theorem Chased.linked (chased : upstream.Chased asked)
    (walked : asked name recordType → upstream.Walked name recordType walk) {server : SocketAddr}
    (member : server ∈ walk.nameservers) (given : upstream server name recordType = some response) :
    Linked asked (asked name recordType) response.answers :=
  fun question _ listed _ => chased.onward question (walked question) member given listed

theorem Linked.nil {question : Prop} : Linked asked question [] := fun _ _ member => absurd member List.not_mem_nil

/-- A verdict that is noted changes nothing else. -/
theorem noted_steady {same : Prop} (answers : List DnsRecord) (verdict : ValidationResult) :
    Prog.Steady same (upstream.Attentive asked self now name recordType response)
      (upstream.Attentive asked self now name recordType response)
      (note (.validated name recordType answers verdict) : Resolution Tape Unit) fun _ => True := by
  refine ⟨?_, fun _ _ _ _ => trivial, fun _ _ _ _ _ => rfl⟩
  rintro s ⟨orderly, server, id, accepted⟩
  exact ⟨orderly.noted trivial, server, id, List.mem_append_left _ accepted⟩

section Absorbing

variable {same : Prop} (connected : self.network = upstream.network)

include connected

theorem cacheInsert_steady {key : CacheKey} {records : List DnsRecord}
    (stores : self.Stores now name recordType response key records) :
    Prog.Steady same (upstream.Attentive asked self now name recordType response)
      (upstream.Attentive asked self now name recordType response)
      (self.cacheInsert key.name key.recordType records) fun _ => True := by
  refine ⟨?_, fun _ _ _ _ => trivial, fun _ _ _ _ _ => rfl⟩
  rintro s ⟨orderly, server, id, accepted⟩
  have still : ∀ i, (self.network.instant s.world).2.seconds i = now := by
    rw [connected]
    exact orderly.clock
  have source : minTtl records ≠ 0 → StoredFrom self now s.log key records := fun lasting =>
    ⟨lasting, server, name, recordType, response.withId id, accepted, stores.withId id⟩
  rw [self.cacheInsert_run]
  exact ⟨⟨still, orderly.heard, orderly.stored.insert source⟩, server, id, accepted⟩

theorem validateAnswers_steady :
    Prog.Steady same (upstream.Attentive asked self now name recordType response)
      (upstream.Attentive asked self now name recordType response)
      (self.validateAnswers name recordType response) fun _ => self.Passes now name recordType response := by
  have clock : Prog.Steady same (upstream.Attentive asked self now name recordType response)
      (upstream.Attentive asked self now name recordType response)
      (ask self.network.unixTime : Resolution Tape UInt32) fun reading => reading = now := by
    have reading : ∀ s, upstream.Attentive asked self now name recordType response s →
        (ask self.network.unixTime s : Outcome ResponseCode UInt32 × State Tape).1 = .ok now := by
      rw [connected]
      exact fun s attentive => congrArg Outcome.ok (attentive.1.clock 0)
    refine ⟨?_, fun s attentive a returned => ?_, fun _ s t attentive attentive' => ?_⟩
    · rw [connected]
      rintro s ⟨orderly, heard⟩
      exact ⟨⟨fun i => orderly.clock (i + 1), orderly.heard, orderly.stored⟩, heard⟩
    · rw [reading s attentive] at returned
      exact (Outcome.ok.inj returned).symm
    · rw [reading s attentive, reading t attentive']
  unfold Resolver.validateAnswers
  split
  · refine .bind clock (fun _ kept => kept) fun reading same => ?_
    subst same
    refine .bind (noted_steady _ _) (fun _ kept => kept) fun _ _ => ?_
    split
    · exact .fail _
    · rename_i passes
      exact .ret fun _ => passes
  · rename_i careless
    exact .ret fun checked => absurd checked careless

theorem cacheEach_steady {α : Type} (stored : RecordType) (pick : DnsRecord → Option α)
    {records : List DnsRecord} (stores : ∀ record ∈ records, ∀ found, pick record = some found →
      self.Stores now name recordType response ⟨record.name, stored⟩ [record]) :
    Prog.Steady same (upstream.Attentive asked self now name recordType response)
      (upstream.Attentive asked self now name recordType response)
      (self.cacheEach stored pick records) fun collected => collected = records.filterMap pick := by
  induction records with
  | nil => exact .ret rfl
  | cons record records ih =>
    have rest := ih fun r member => stores r (List.mem_cons_of_mem _ member)
    unfold Resolver.cacheEach
    split
    · rename_i found picked
      have insert : Prog.Steady same (upstream.Attentive asked self now name recordType response) _ _ _ :=
        cacheInsert_steady connected (stores record List.mem_cons_self found picked)
      refine .bind insert (fun _ kept => kept) fun _ _ => .bind rest (fun _ kept => kept) fun collected all => ?_
      rw [all, List.filterMap_cons, picked]
      exact .ret rfl
    · rename_i picked
      rw [List.filterMap_cons, picked]
      exact rest

/-- Absorbing a response that has been accepted has one outcome. -/
theorem absorb_steady (linked : Linked asked (asked name recordType) response.answers) :
    Prog.Steady same (upstream.Attentive asked self now name recordType response)
      (upstream.Attentive asked self now name recordType response) (self.absorb name recordType response)
      (Absorbed.Meets (fun name recordType => Linked asked (asked name recordType))
        (fun name recordType cnames _ => Linked asked (asked name recordType) cnames) name recordType response) := by
  unfold Resolver.absorb
  split
  · exact .fail _
  rename_i noNameError
  split
  · refine .bind (validateAnswers_steady connected) (fun _ kept => kept) fun _ passes => ?_
    unfold Resolver.cacheAnswers
    split
    · rename_i found
      have typed : response.typedAnswers recordType ≠ [] := by simpa using found
      have insert : Prog.Steady same (upstream.Attentive asked self now name recordType response) _ _ _ :=
        cacheInsert_steady connected (.answers noNameError passes typed)
      refine .bind insert (fun _ kept => kept) fun _ _ => .ret fun question record member => ?_
      exact linked question record (List.mem_of_mem_filter member)
    rename_i none
    have untyped : response.typedAnswers recordType = [] := by simpa using none
    split
    · rename_i found
      have aliased : response.aliasAnswers recordType ≠ [] := by simpa using found
      have insert : Prog.Steady same (upstream.Attentive asked self now name recordType response) _ _ _ :=
        cacheInsert_steady connected (.aliases noNameError passes untyped aliased)
      refine .bind insert (fun _ kept => kept) fun _ _ => .ret fun _ _ _ _ question record member => ?_
      exact linked question record (List.mem_of_mem_filter member)
    · exact .ret .nil
  · rename_i unanswered
    have none : response.answers = [] := by simpa using unanswered
    have referrals : Prog.Steady same (upstream.Attentive asked self now name recordType response) _ _ _ :=
      cacheEach_steady connected .NS DnsRecord.nsTarget fun _ member _ target =>
        .referral noNameError none member target
    refine .bind referrals (fun _ kept => kept) fun names collected => ?_
    subst collected
    have glue : Prog.Steady same (upstream.Attentive asked self now name recordType response) _ _ _ :=
      cacheEach_steady connected .A (fun record => record.glueFor response.nsNames)
        fun _ member _ address => .glue noNameError none member address
    refine .bind glue (fun _ kept => kept) fun addrs collected => .ret ?_
    exact ⟨noNameError, none, rfl, collected⟩

theorem cacheLookup_keeps (name : DnsName) (recordType : RecordType) :
    Prog.Keeps (upstream.Orderly asked self now) (self.cacheLookup name recordType) := by
  intro s orderly
  have still : ∀ i, (self.network.instant (self.network.instant s.world).2).2.seconds i = now := by
    rw [connected]
    exact orderly.clock
  exact ⟨still, orderly.heard, orderly.stored.lookup⟩

end Absorbing

/-- Absorbing a response that a server gave leaves all in order. -/
theorem absorb_given (connected : self.network = upstream.network) (chased : upstream.Chased asked)
    (walked : upstream.Walked name recordType walk) {server : SocketAddr} (member : server ∈ walk.nameservers)
    (given : upstream server name recordType = some response) {s : State Tape}
    (attentive : upstream.Attentive asked self now name recordType response s) :
    upstream.Orderly asked self now (self.absorb name recordType response s).2 := by
  have steady : Prog.Steady True (upstream.Attentive asked self now name recordType response)
      (upstream.Attentive asked self now name recordType response) _ _ :=
    absorb_steady connected (chased.linked (fun _ => walked) member given)
  exact (steady.keeps s attentive).1

section Recursion

variable {rec : DnsName → RecordType → Resolution Tape (List DnsRecord)}
  (below : ∀ name recordType, Prog.Steady (asked name recordType) (upstream.Orderly asked self now)
    (upstream.Orderly asked self now) (rec name recordType) (Linked asked (asked name recordType)))

include below

section Chains

variable {question : Prop}

/-- The chain of a question goes on with questions asked. The induction is on the rounds left. -/
theorem chainRounds_steady (rounds : Nat) {chain : List DnsRecord} {currentName : DnsName}
    (linked : Linked asked question chain) (typed : question → asked currentName recordType)
    (onward : question → Onward asked currentName) :
    Prog.Steady question (upstream.Orderly asked self now) (upstream.Orderly asked self now)
      (Resolver.chainRounds rec recordType rounds chain currentName) (Linked asked question) := by
  induction rounds generalizing chain currentName with
  | zero => exact .ret linked
  | succ rounds ih =>
    have first : Prog.Steady question (upstream.Orderly asked self now) _ _ _ :=
      (below currentName recordType).weaken typed (fun _ start => start) (fun _ kept => kept) fun _ found => found
    refine .bind first (fun _ kept => kept) fun records found => ?_
    split
    · refine .ret fun holds record member => ?_
      rcases List.mem_append.mp member with member | member
      · exact linked holds record member
      · exact found (typed holds) record member
    · have second : Prog.Steady question (upstream.Orderly asked self now) _ _ _ :=
        (below currentName .CNAME).attempt.weaken (fun holds => (onward holds).1) (fun _ start => start)
          (fun _ kept => kept) fun _ found => found
      refine .bind second (fun _ kept => kept) fun caught aliases => ?_
      cases caught with
      | ok cnameRecords =>
        have more : Linked asked question cnameRecords :=
          fun holds => aliases cnameRecords rfl (onward holds).1
        have next : question → Onward asked (Resolver.extendChain chain currentName cnameRecords).2 :=
          fun holds => Resolver.extendChain_target (onward holds) (more holds)
        exact ih (fun holds => Resolver.extendChain_all (linked holds) (more holds))
          (fun holds => (next holds).2 currentName recordType (typed holds)) next
      | error _ => exact .ret linked

theorem followCnameChain_steady {cnames : List DnsRecord} (linked : ∀ record target,
      cnames.getLast? = some record → record.rdata = .CNAME target →
      Linked asked question cnames ∧ (question → asked target recordType)) :
    Prog.Steady question (upstream.Orderly asked self now) (upstream.Orderly asked self now)
      (Resolver.followCnameChain rec cnames recordType) (Linked asked question) := by
  unfold Resolver.followCnameChain
  split
  · rename_i record last
    split
    · rename_i target rdata
      obtain ⟨all, typed⟩ := linked record target last rdata
      exact chainRounds_steady below _ all typed
        fun holds => all holds record (List.mem_of_getLast? last) target rdata
    · exact .fail _
  · exact .fail _

end Chains

variable (connected : self.network = upstream.network)

include connected

theorem nsAddresses_keeps (nsNames : List DnsName) :
    Prog.Keeps (upstream.Orderly asked self now) (self.nsAddresses rec nsNames) := by
  induction nsNames with
  | nil => exact fun _ orderly => orderly
  | cons nsName nsNames ih =>
    unfold Resolver.nsAddresses
    refine .bind ?_ fun found => ?_
    · refine .bind (cacheLookup_keeps connected nsName .A) fun cached => ?_
      split
      · exact fun _ orderly => orderly
      · have kept : Prog.Keeps (upstream.Orderly asked self now) (rec nsName .A) := (below nsName .A).keeps
        refine .bind kept.attempt fun caught => ?_
        split <;> exact fun _ orderly => orderly
    · split
      · exact ih
      · exact fun _ orderly => orderly

/-- The referral for a question asked has glue, and leads to the next round without a look at the cache. -/
theorem followReferral_steady (coherent : upstream.Coherent asked)
    (walked : asked name recordType → upstream.Walked name recordType walk) {server : SocketAddr}
    (member : server ∈ walk.nameservers) (given : upstream server name recordType = some response)
    {nsNames : List DnsName} {glueAddrs : List SocketAddr}
    (meets : Absorbed.Meets (fun name recordType => Linked asked (asked name recordType))
      (fun name recordType cnames _ => Linked asked (asked name recordType) cnames) name recordType response
      (.referral nsNames glueAddrs)) :
    Prog.Steady (asked name recordType) (upstream.Orderly asked self now) (upstream.Orderly asked self now)
      (self.followReferral rec walk response.hasSoa nsNames glueAddrs)
      (Sum.elim (fun next => asked name recordType → upstream.Walked name recordType next)
        (Linked asked (asked name recordType))) := by
  obtain ⟨noNameError, noAnswers, rfl, rfl⟩ := meets
  unfold Resolver.followReferral
  split
  · split
    · exact .ret .nil
    · exact .fail _
  rename_i delegates
  have referral : response.IsReferral := ⟨noNameError, noAnswers, by simpa using delegates⟩
  split
  · exact .fail _
  rename_i changes
  split
  · exact .ret fun question => .next (walked question) member given referral changes
  · rename_i bare
    have noGlue : response.glueAddrs = [] := by simpa using bare
    have never : ¬asked name recordType :=
      fun question => coherent.glued question (walked question) member given referral noGlue
    refine .bind (.of_keeps (nsAddresses_keeps below connected response.nsNames) never) (fun _ kept => kept)
      fun resolved _ => ?_
    split
    · exact .fail _
    · exact .ret fun question => absurd question never

theorem referralStep_steady (coherent : upstream.Coherent asked) (chased : upstream.Chased asked)
    (walked : asked name recordType → upstream.Walked name recordType walk) :
    Prog.Steady (asked name recordType) (upstream.Orderly asked self now) (upstream.Orderly asked self now)
      (self.referralStep rec name recordType walk)
      (Sum.elim (fun next => asked name recordType → upstream.Walked name recordType next)
        (Linked asked (asked name recordType))) := by
  refine queryNameservers_steady connected coherent walked (fun _ _ => rfl) fun server member response given => ?_
  have linked := chased.linked walked member given
  refine .bind (absorb_steady connected linked) (fun _ kept => kept.1) fun absorbed meets => ?_
  have continued : Prog.Steady (asked name recordType) (upstream.Orderly asked self now)
      (upstream.Orderly asked self now)
      (self.continueWith rec recordType walk response.hasSoa absorbed)
      (Sum.elim (fun next => asked name recordType → upstream.Walked name recordType next)
        (Linked asked (asked name recordType))) := by
    cases absorbed with
    | answers result => exact .ret meets
    | aliases cnames =>
      refine .bind (followCnameChain_steady below fun record target last rdata => ?_) (fun _ kept => kept)
        fun _ found => .ret found
      have linked := meets record target last rdata
      refine ⟨linked, fun question => ?_⟩
      exact (linked question record (List.mem_of_getLast? last) target rdata).2 name recordType question
    | referral nsNames glueAddrs => exact followReferral_steady below connected coherent walked member given meets
  exact continued.weaken id (fun _ attentive => attentive.1) (fun _ kept => kept) fun _ done => done

end Recursion

/-- Whatever the cache holds, the recursive resolution of a question asked ends in the same way. -/
theorem resolveRecursive_steady (connected : self.network = upstream.network)
    (coherent : upstream.Coherent asked) (chased : upstream.Chased asked) (fuel : Nat) (name : DnsName)
    (recordType : RecordType) (depth : Nat) :
    Prog.Steady (asked name recordType) (upstream.Orderly asked self now) (upstream.Orderly asked self now)
      (self.resolveRecursive fuel name recordType depth) (Linked asked (asked name recordType)) := by
  induction levels : MAX_RECURSION_DEPTH + 1 - depth generalizing name recordType depth with
  | zero =>
    rw [Resolver.resolveRecursive, if_pos (by omega)]
    exact .fail _
  | succ levels ih =>
    rw [Resolver.resolveRecursive, if_neg (by omega)]
    have below : ∀ name recordType, Prog.Steady (asked name recordType) (upstream.Orderly asked self now)
        (upstream.Orderly asked self now) (self.resolveRecursive fuel name recordType (depth + 1))
        (Linked asked (asked name recordType)) :=
      fun name recordType => ih name recordType (depth + 1) (by omega)
    exact .loop (fun walk walked => referralStep_steady below connected coherent chased walked) fuel
      fun _ => .start

section Passing

variable (rec : DnsName → RecordType → Resolution Tape (List DnsRecord)) {server : SocketAddr}
  (connected : self.network = upstream.network) (coherent : upstream.Coherent asked)
  (chased : upstream.Chased asked) (question : asked name recordType)
  (walked : upstream.Walked name recordType walk) (member : server ∈ walk.nameservers)
  (given : upstream server name recordType = some response)

include connected coherent question walked member given

/-- A round of the loop absorbs the one response that its servers give. -/
theorem referralStep_given {s : State Tape} (orderly : upstream.Orderly asked self now s) :
    ∃ s', upstream.Attentive asked self now name recordType response s' ∧
      self.referralStep rec name recordType walk s =
        (self.absorb name recordType response >>= self.continueWith rec recordType walk response.hasSoa) s' := by
  obtain ⟨id, s', run, attentive⟩ :=
    queryNameservers_given connected coherent question walked member given orderly
  refine ⟨s', attentive, ?_⟩
  rw [Resolver.referralStep, Prog.bind_ok run]
  rfl

include chased

/-- A loop that comes back from a round with a referral comes back from the next round. -/
theorem loop_refers (referral : response.IsReferral) (changes : response.nsNames ≠ walk.lastNsNames)
    {fuel : Nat} {s : State Tape} {result : List DnsRecord} (orderly : upstream.Orderly asked self now s)
    (returned : (Prog.loop (self.referralStep rec name recordType) fuel walk s).1 = .ok result) :
    ∃ fuel' s', upstream.Orderly asked self now s' ∧ (Prog.loop (self.referralStep rec name recordType) fuel'
      ⟨response.glueAddrs, response.nsNames⟩ s').1 = .ok result := by
  cases fuel with
  | zero => cases returned
  | succ fuel =>
    obtain ⟨s₁, attentive, step⟩ := referralStep_given rec connected coherent question walked member given orderly
    obtain ⟨s₂, referrals, _⟩ := self.cacheEach_run .NS DnsRecord.nsTarget response.authorities s₁
    obtain ⟨s₃, glue, _⟩ := self.cacheEach_run .A (fun record => record.glueFor response.nsNames)
      response.additional s₂
    have absorbed : self.absorb name recordType response s₁ =
        (.ok (.referral response.nsNames response.glueAddrs), s₃) :=
      Resolver.absorb_referral self referral.noNameError referral.noAnswers referrals glue
    have after := absorb_given connected chased walked member given attentive
    rw [absorbed] at after
    have glued := coherent.glued question walked member given referral
    have onward : self.followReferral rec walk response.hasSoa response.nsNames response.glueAddrs s₃ =
        (.ok (.inl ⟨response.glueAddrs, response.nsNames⟩), s₃) := by
      rw [Resolver.followReferral, if_neg (by simpa using referral.delegates), if_neg changes,
        if_pos (by simpa using glued)]
      rfl
    rw [Prog.loop, Prog.bind_ok (step.trans ((Prog.bind_ok absorbed).trans onward))] at returned
    exact ⟨fuel, s₃, after, returned⟩

/-- What a loop returns at a round with answers: those of the type, or what their aliases lead to. -/
theorem loop_answered (some : response.answers ≠ []) {fuel : Nat} {s : State Tape} {result : List DnsRecord}
    (orderly : upstream.Orderly asked self now s)
    (returned : (Prog.loop (self.referralStep rec name recordType) fuel walk s).1 = .ok result) :
    (response.typedAnswers recordType ≠ [] → result = response.typedAnswers recordType) ∧
    (response.typedAnswers recordType = [] → response.aliasAnswers recordType ≠ [] →
      ∃ s', upstream.Orderly asked self now s' ∧
        (Resolver.followCnameChain rec (response.aliasAnswers recordType) recordType s').1 = .ok result) := by
  cases fuel with
  | zero => cases returned
  | succ fuel =>
    obtain ⟨s₁, attentive, step⟩ := referralStep_given rec connected coherent question walked member given orderly
    have after := absorb_given connected chased walked member given attentive
    rw [Prog.loop] at returned
    obtain ⟨next, s₃, stepped, back⟩ := Prog.bind_eq_ok.mp (Prod.ext returned rfl)
    rw [step] at stepped
    obtain ⟨absorbed, s₂, ran, continued⟩ := Prog.bind_eq_ok.mp stepped
    rw [ran] at after
    obtain ⟨answers, aliases⟩ := self.absorb_answered some ran
    refine ⟨fun typed => ?_, fun untyped aliased => ⟨s₂, after, ?_⟩⟩
    · rw [answers typed] at continued
      cases continued
      cases back
      rfl
    · rw [aliases untyped aliased] at continued
      obtain ⟨followed, s₄, chain, inner⟩ := Prog.bind_eq_ok.mp continued
      cases inner
      cases back
      rw [chain]

end Passing

/-- A loop that comes back has passed through every round. The induction is on the rounds. -/
theorem loop_passes (connected : self.network = upstream.network) (coherent : upstream.Coherent asked)
    (chased : upstream.Chased asked) (question : asked name recordType)
    (rec : DnsName → RecordType → Resolution Tape (List DnsRecord))
    (walked : upstream.Walked name recordType walk) {fuel : Nat} {s : State Tape} {result : List DnsRecord}
    (orderly : upstream.Orderly asked self now s)
    (returned : (Prog.loop (self.referralStep rec name recordType) fuel ⟨rootServers, []⟩ s).1 = .ok result) :
    ∃ fuel' s', upstream.Orderly asked self now s' ∧
      (Prog.loop (self.referralStep rec name recordType) fuel' walk s').1 = .ok result := by
  induction walked with
  | start => exact ⟨fuel, s, orderly, returned⟩
  | next walked member given referral changes ih =>
    obtain ⟨fuel', s', kept, back⟩ := ih
    exact loop_refers rec connected coherent chased question walked member given referral changes kept back

/-- A resolution that comes back has used the response with answers that its question has in any round. -/
theorem resolveRecursive_answered (connected : self.network = upstream.network)
    (coherent : upstream.Coherent asked) (chased : upstream.Chased asked) (question : asked name recordType)
    (walked : upstream.Walked name recordType walk) {server : SocketAddr}
    (member : server ∈ walk.nameservers) (given : upstream server name recordType = some response)
    (some : response.answers ≠ []) {fuel : Nat} {s : State Tape} {result : List DnsRecord}
    (orderly : upstream.Orderly asked self now s)
    (returned : (self.resolveRecursive fuel name recordType 0 s).1 = .ok result) :
    (response.typedAnswers recordType ≠ [] → result = response.typedAnswers recordType) ∧
    (response.typedAnswers recordType = [] → response.aliasAnswers recordType ≠ [] →
      ∃ s', upstream.Orderly asked self now s' ∧
        (Resolver.followCnameChain (fun name recordType => self.resolveRecursive fuel name recordType 1)
          (response.aliasAnswers recordType) recordType s').1 = .ok result) := by
  rw [Resolver.resolveRecursive, if_neg (by decide)] at returned
  obtain ⟨fuel', s', kept, back⟩ := loop_passes connected coherent chased question _ walked orderly returned
  exact loop_answered _ connected coherent chased question walked member given some kept back

end Upstream

end DnsServer
