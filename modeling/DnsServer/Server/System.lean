import DnsServer.Server.PacketLoop
import DnsServer.Server.Tasks

/-! The whole server: any number of tasks at once, each for a request of its own, over one cache. -/

namespace DnsServer

/-- What a listener can receive: a datagram, a connection with all that the client sends on it, or an
HTTP request. -/
inductive Request (K E : Type) where
  | datagram (client : K) (payload : List UInt8)
  | connection (client : K) (received : List UInt8)
  | http (client : K) (request : Doh.Request E)

/-- What a task hands to the socket of its client. -/
inductive Reply where
  | datagram (sent : Option (List UInt8))
  | stream (written : List (List UInt8))
  | http (response : Doh.Response)

variable {K E : Type}

/-- The reply of the sequential handlers. -/
def Request.respond {σ : Type} (engine : Doh.Engine E)
    (resolve : DnsName → RecordType → Prog σ ResponseCode (List DnsRecord)) :
    Request K E → Prog σ Empty Reply
  | .datagram _ payload => do
    match ← Prog.rescue (Server.serveUdp resolve (payload.take Server.BUFFER_SIZE)) with
    | .ok sent => return .datagram sent
    | .error _ => return .datagram none
  | .connection _ received => do
    match ← Prog.rescue (Server.serveTcp resolve received) with
    | .ok written => return .stream written
    | .error _ => return .stream []
  | .http _ request => do
    let response ← Doh.handleRequest engine resolve request
    return .http response

namespace Task

/-- The task that a listener spawns for a request. -/
def serve (engine : Doh.Engine E)
    (resolve : DnsName → RecordType → ServerTask ResponseCode (List DnsRecord)) :
    Request K E → ServerTask Empty Reply
  | .datagram _ payload => do
    match ← Process.rescue (serveUdp resolve (payload.take Server.BUFFER_SIZE)) with
    | .ok sent => return .datagram sent
    | .error _ => return .datagram none
  | .connection _ received => do
    match ← Process.rescue (serveTcp resolve received) with
    | .ok written => return .stream written
    | .error _ => return .stream []
  | .http _ request => do
    let response ← handleRequest engine resolve request
    return .http response

/-- A resolver without a state, and without calls. -/
abbrev Settled := DnsName → RecordType → Prog Unit ResponseCode (List DnsRecord)

section Asks

variable {ε ε' α β : Type} {resolve : DnsName → RecordType → ServerTask ResponseCode (List DnsRecord)}

/-- The task ends at once, and the handler comes to the same end. -/
def Silent (x : ServerTask ε α) (y : Settled → Prog Unit ε α) : Prop :=
  ∃ outcome, x = .done outcome ∧ ∀ f, y f = Prog.lift outcome

/-- The task asks the resolver one question or none and makes no calls of its own, and the handler does
the same with the answer. -/
def Asks (resolve : DnsName → RecordType → ServerTask ResponseCode (List DnsRecord)) (x : ServerTask ε α)
    (y : Settled → Prog Unit ε α) : Prop :=
  Silent x y ∨ ∃ name recordType, ∃ next : Except ResponseCode (List DnsRecord) → ServerTask ε α,
    ∃ next' : Except ResponseCode (List DnsRecord) → Settled → Prog Unit ε α,
    (∀ caught, Silent (next caught) (next' caught)) ∧ x = (resolve name recordType).rescue >>= next ∧
      ∀ f, y f = Prog.rescue (f name recordType) >>= fun caught => next' caught f

variable {x : ServerTask ε α} {y : Settled → Prog Unit ε α} {k : α → ServerTask ε β}
  {k' : α → Settled → Prog Unit ε β}

namespace Silent

theorem ret (a : α) : Silent (pure a : ServerTask ε α) fun _ => pure a := ⟨.ok a, rfl, fun _ => rfl⟩

theorem fail (e : ε) : Silent (Process.fail e : ServerTask ε α) fun _ => Prog.fail e :=
  ⟨.err e, rfl, fun _ => rfl⟩

theorem lift (outcome : Outcome ε α) :
    Silent (Process.lift outcome : ServerTask ε α) fun _ => Prog.lift outcome := ⟨outcome, rfl, fun _ => rfl⟩

theorem bind (silent : Silent x y) (rest : ∀ a, Silent (k a) (k' a)) :
    Silent (x >>= k) fun f => y f >>= fun a => k' a f := by
  obtain ⟨outcome, rfl, same⟩ := silent
  simp only [same]
  cases outcome with
  | ok a => exact rest a
  | err e => exact ⟨.err e, rfl, fun _ => rfl⟩
  | panic => exact ⟨.panic, rfl, fun _ => rfl⟩
  | hang => exact ⟨.hang, rfl, fun _ => rfl⟩

theorem rescue (silent : Silent x y) :
    Silent (x.rescue : ServerTask ε' (Except ε α)) fun f => Prog.rescue (y f) := by
  obtain ⟨outcome, rfl, same⟩ := silent
  simp only [same]
  cases outcome with
  | ok a => exact ⟨.ok (.ok a), rfl, fun _ => rfl⟩
  | err e => exact ⟨.ok (.error e), rfl, fun _ => rfl⟩
  | panic => exact ⟨.panic, rfl, fun _ => rfl⟩
  | hang => exact ⟨.hang, rfl, fun _ => rfl⟩

theorem attempt (silent : Silent x y) : Silent x.attempt fun f => Prog.attempt (y f) := by
  simp only [Prog.attempt_eq_rescue]
  exact silent.rescue

end Silent

namespace Asks

theorem ret (a : α) : Asks resolve (pure a : ServerTask ε α) fun _ => pure a := Or.inl (.ret a)

theorem fail (e : ε) : Asks resolve (Process.fail e : ServerTask ε α) fun _ => Prog.fail e := Or.inl (.fail e)

/-- The question itself. -/
theorem ask (name : DnsName) (recordType : RecordType)
    {next : Except ResponseCode (List DnsRecord) → ServerTask ε α}
    {next' : Except ResponseCode (List DnsRecord) → Settled → Prog Unit ε α}
    (rest : ∀ caught, Silent (next caught) (next' caught)) :
    Asks resolve ((resolve name recordType).rescue >>= next)
      fun f => Prog.rescue (f name recordType) >>= fun caught => next' caught f :=
  Or.inr ⟨name, recordType, next, next', rest, rfl, fun _ => rfl⟩

theorem bind (asks : Asks resolve x y) (rest : ∀ a, Silent (k a) (k' a)) :
    Asks resolve (x >>= k) fun f => y f >>= fun a => k' a f := by
  rcases asks with silent | ⟨name, recordType, next, next', rest', rfl, same⟩
  · exact Or.inl (silent.bind rest)
  · refine Or.inr ⟨name, recordType, fun caught => next caught >>= k,
      fun caught f => next' caught f >>= fun a => k' a f, fun caught => (rest' caught).bind rest,
      Process.bind_assoc _ _ _, fun f => ?_⟩
    simp only [same f, Prog.bind_assoc]

/-- What comes before the question needs no calls. -/
theorem after (silent : Silent x y) (rest : ∀ a, Asks resolve (k a) (k' a)) :
    Asks resolve (x >>= k) fun f => y f >>= fun a => k' a f := by
  obtain ⟨outcome, rfl, same⟩ := silent
  simp only [same]
  cases outcome with
  | ok a => exact rest a
  | err e => exact Or.inl ⟨.err e, rfl, fun _ => rfl⟩
  | panic => exact Or.inl ⟨.panic, rfl, fun _ => rfl⟩
  | hang => exact Or.inl ⟨.hang, rfl, fun _ => rfl⟩

theorem rescue (asks : Asks resolve x y) :
    Asks resolve (x.rescue : ServerTask ε' (Except ε α)) fun f => Prog.rescue (y f) := by
  rcases asks with silent | ⟨name, recordType, next, next', rest, rfl, same⟩
  · exact Or.inl silent.rescue
  · refine Or.inr ⟨name, recordType, fun caught => (next caught).rescue,
      fun caught f => Prog.rescue (next' caught f), fun caught => (rest caught).rescue,
      Process.rescue_bind _ _, fun f => ?_⟩
    simp only [same f, Prog.rescue_bind]

theorem attempt (asks : Asks resolve x y) : Asks resolve x.attempt fun f => Prog.attempt (y f) := by
  simp only [Prog.attempt_eq_rescue]
  exact asks.rescue

end Asks

theorem handleQuery_asks (data : List UInt8) :
    Asks resolve (handleQuery resolve data) fun f => Server.handleQuery f data := by
  refine .after (.lift (DnsMessage.parse data)) fun query => ?_
  rcases query.questions with _ | ⟨question, rest⟩
  · exact .ret _
  · exact .ask question.name question.recordType fun outcome => .ret _

theorem serveUdp_asks (data : List UInt8) :
    Asks resolve (serveUdp resolve data) fun f => Server.serveUdp f data := by
  refine .bind (handleQuery_asks data).attempt fun caught => ?_
  cases caught with
  | error _ => exact .ret _
  | ok responseBytes =>
    dsimp only
    split
    · refine .bind (Silent.lift (DnsMessage.parse responseBytes)).attempt fun caught => ?_
      cases caught with
      | ok response => exact .ret _
      | error _ => exact .ret _
    · exact .ret _

theorem serveTcp_asks (received : List UInt8) :
    Asks resolve (serveTcp resolve received) fun f => Server.serveTcp f received := by
  unfold serveTcp Server.serveTcp
  rcases received with _ | ⟨high, _ | ⟨low, rest⟩⟩
  · exact .ret _
  · exact .ret _
  · dsimp only
    split
    · exact .ret _
    split
    · exact .ret _
    · refine .bind (handleQuery_asks _).attempt fun caught => ?_
      cases caught with
      | ok responseBytes => exact .ret _
      | error _ => exact .ret _

variable {engine : Doh.Engine E}

theorem processDnsQuery_asks (queryBytes : List UInt8) :
    Asks resolve (processDnsQuery resolve queryBytes : ServerTask (Doh.Error E) Doh.Response)
      fun f => Doh.processDnsQuery f queryBytes := by
  refine .after (Silent.lift (DnsMessage.parse queryBytes)).rescue fun caught => ?_
  cases caught with
  | error error => exact .fail _
  | ok query =>
    dsimp only
    rcases query.questions with _ | ⟨question, rest⟩
    · exact .ret _
    · exact .ask question.name question.recordType fun outcome => .ret _

theorem route_asks (request : Doh.Request E) :
    Asks resolve (route engine resolve request) fun f => Doh.route engine f request := by
  unfold route Doh.route
  split
  · unfold handleGet Doh.handleGet
    rcases Doh.dnsParam (request.query.getD "") with _ | param
    · exact .fail _
    · dsimp only
      rcases engine.decode param with error | dnsBytes
      · exact .fail _
      · exact processDnsQuery_asks dnsBytes
  split
  · unfold handlePost Doh.handlePost
    split
    · exact .ret _
    · rcases request.body with error | body
      · exact .fail _
      · exact processDnsQuery_asks body
  split
  · exact .ret _
  · exact .ret _

/-- Each task does what the handler of its request does, with the one answer that it gets. -/
theorem serve_asks (request : Request K E) :
    Asks resolve (serve engine resolve request) fun f => request.respond engine f := by
  cases request with
  | datagram client payload =>
    refine .bind (serveUdp_asks _).rescue fun caught => ?_
    cases caught with
    | ok sent => exact .ret _
    | error _ => exact .ret _
  | connection client received =>
    refine .bind (serveTcp_asks _).rescue fun caught => ?_
    cases caught with
    | ok written => exact .ret _
    | error _ => exact .ret _
  | http client request =>
    refine .bind (.bind (route_asks request).rescue fun caught => ?_) fun response => .ret _
    cases caught with
    | ok response => exact .ret _
    | error _ => exact .ret _

end Asks

end Task

namespace ZoneStore

/-- The zones have the answer themselves: these records, or none for a name that is theirs. -/
def Supplies (zones : ZoneStore) (name : DnsName) (recordType : RecordType) (records : List DnsRecord) : Prop :=
  zones.zoneResult name recordType = .found records ∨ zones.zoneResult name recordType = .noData ∧ records = []

/-- What the zones answer, and a failure for everything else. -/
def answerOrFail (zones : ZoneStore) (name : DnsName) (recordType : RecordType) :
    Outcome ResponseCode (List DnsRecord) :=
  match zones.zoneResult name recordType with
  | .found records => .ok records
  | .noData => .ok []
  | _ => .err .serverFailure

theorem answerOrFail_eq_ok {zones : ZoneStore} {name : DnsName} {recordType : RecordType}
    {records : List DnsRecord} :
    zones.answerOrFail name recordType = .ok records ↔ zones.Supplies name recordType records := by
  unfold answerOrFail Supplies
  cases zones.zoneResult name recordType <;> simp [eq_comm]

end ZoneStore

namespace SharedResolver

/-- Outcomes of the resolver that can be accounted for: every record has a source, and what the zones
answer themselves is not answered otherwise. -/
def Accountable (self : SharedResolver (List UInt8)) (s : Shared (List UInt8))
    (outcome : DnsName → RecordType → Outcome ResponseCode (List DnsRecord)) : Prop :=
  ∀ name recordType,
    (∀ records, outcome name recordType = .ok records → ∀ record ∈ records, self.Sourced s record) ∧
    ∀ records, self.zoneStore.Supplies name recordType records → outcome name recordType = .ok records

variable {self : SharedResolver (List UInt8)} {s : Shared (List UInt8)}

theorem answers_sourced {name : DnsName} {recordType : RecordType} {records : List DnsRecord}
    (answers : self.zoneStore.Supplies name recordType records) : ∀ record ∈ records, self.Sourced s record := by
  intro record member
  rcases answers with found | ⟨_, rfl⟩
  · exact Or.inl ⟨name, recordType, records, zoneResult_found found, member⟩
  · cases member

theorem accountable_answerOrFail : self.Accountable s self.zoneStore.answerOrFail :=
  fun _ _ => ⟨fun _ ok => answers_sourced (ZoneStore.answerOrFail_eq_ok.mp ok),
    fun _ answers => ZoneStore.answerOrFail_eq_ok.mpr answers⟩

/-- The outcome of a caught call. -/
def caughtOutcome {ε α : Type} : Except ε α → Outcome ε α
  | .ok a => .ok a
  | .error e => .err e

/-- What the resolver said to the one question, and what the zones say to all others. -/
def withAnswer (zones : ZoneStore) (name : DnsName) (recordType : RecordType)
    (caught : Except ResponseCode (List DnsRecord)) (name' : DnsName) (recordType' : RecordType) :
    Outcome ResponseCode (List DnsRecord) :=
  if name' = name ∧ recordType' = recordType then caughtOutcome caught
  else zones.answerOrFail name' recordType'

/-- Zones that have the answer give it without a call, so that no other task can come in between. -/
theorem resolve_rescue_meets {ε : Type} (fuel : Nat) (name : DnsName) (recordType : RecordType) :
    self.sharing.Meets (fun caught s => self.Accountable s (withAnswer self.zoneStore name recordType caught))
      ((self.resolve fuel name recordType).rescue : Task.ServerTask ε _) s := by
  have accountable : ∀ {s : Shared (List UInt8)} {caught : Except ResponseCode (List DnsRecord)},
      (∀ records, caught = .ok records → ∀ record ∈ records, self.Sourced s record) →
      (∀ records, self.zoneStore.Supplies name recordType records → caught = .ok records) →
      self.Accountable s (withAnswer self.zoneStore name recordType caught) := by
    intro s caught sourced zoned name' recordType'
    by_cases asked : name' = name ∧ recordType' = recordType
    · obtain ⟨rfl, rfl⟩ := asked
      simp only [withAnswer, and_self, if_true]
      refine ⟨fun records ok => sourced records ?_, fun records answers => ?_⟩
      · cases caught <;> cases ok
        rfl
      · rw [zoned records answers]
        rfl
    · simp only [withAnswer, asked, if_false]
      exact accountable_answerOrFail name' recordType'
  by_cases zoned : ∃ records, self.zoneStore.Supplies name recordType records
  · obtain ⟨records, answers⟩ := zoned
    have silent : self.resolve fuel name recordType = pure records := by
      unfold resolve
      rcases answers with found | ⟨noData, rfl⟩
      · rw [found]
      · rw [noData]
    rw [silent]
    refine .ret fun s' _ _ => accountable ?_ fun records' answers' => ?_
    · rintro _ ⟨⟩
      exact answers_sourced answers
    · have one := ZoneStore.answerOrFail_eq_ok.mpr answers
      have other := ZoneStore.answerOrFail_eq_ok.mpr answers'
      rw [one] at other
      cases other
      rfl
  · refine (resolve_meets fuel name recordType).rescue.weaken fun caught s' _ _ sourced => ?_
    exact accountable sourced fun records answers => absurd ⟨records, answers⟩ zoned

/-- Whatever a task returns, the handler returns for accountable outcomes of the resolver. -/
theorem asks_meets {ε α : Type} {fuel : Nat} {x : Task.ServerTask ε α} {y : Task.Settled → Prog Unit ε α}
    (asks : Task.Asks (self.resolve fuel) x y) :
    self.sharing.Meets (fun a s => ∃ outcome, self.Accountable s outcome ∧
      y (fun name recordType => Prog.lift (outcome name recordType)) () = (.ok a, ())) x s := by
  rcases asks with ⟨outcome, rfl, same⟩ | ⟨name, recordType, next, next', silent, rfl, same⟩
  · cases outcome with
    | ok a =>
      refine fun s' _ _ => ⟨self.zoneStore.answerOrFail, accountable_answerOrFail, ?_⟩
      rw [same]
      rfl
    | _ => exact trivial
  · refine .bind (resolve_rescue_meets fuel name recordType) fun caught s₁ _ _ accountable => ?_
    obtain ⟨outcome, ended, same'⟩ := silent caught
    rw [ended]
    cases outcome with
    | ok a =>
      refine fun s' after holds => ⟨_, accountable s' after holds, ?_⟩
      have given : (Prog.rescue (Prog.lift (withAnswer self.zoneStore name recordType caught name recordType)) :
          Prog Unit ε (Except ResponseCode (List DnsRecord))) () = (.ok caught, ()) := by
        rw [withAnswer, if_pos ⟨rfl, rfl⟩]
        cases caught <;> rfl
      rw [same, Prog.bind_ok given, same']
      rfl
    | _ => exact trivial

/-- The resolver of a server whose upstream payloads are bytes. -/
def new (zoneStore : ZoneStore) (dnssecValidator : DnssecValidator) (enableDnssec : Bool) :
    SharedResolver (List UInt8) :=
  ⟨DnsMessage.parse, zoneStore, dnssecValidator, enableDnssec⟩

end SharedResolver

/-- A server under way, with its requests, its tasks and the replies they ended with. -/
abbrev ServerPool (K E : Type) :=
  Pool (Request K E) Call (Call.Answer (List UInt8)) (Shared (List UInt8)) Empty Reply

namespace ServerPool

/-- All that can become of a server that starts with an empty cache: any requests at any time, and the
calls of their tasks in any order. -/
def Reached (engine : Doh.Engine E) (self : SharedResolver (List UInt8)) (maxEntries clock : Nat) :
    ServerPool K E → Prop :=
  Pool.Reaches self.sharing
    (fun request task => ∃ fuel, task = Task.serve engine (self.resolve fuel) request)
    ⟨DnsCache.new maxEntries, clock, [], []⟩

variable {engine : Doh.Engine E} {zones : ZoneStore} {validator : DnssecValidator} {enableDnssec : Bool}
  {maxEntries clock : Nat} {pool : ServerPool K E}

theorem holds_initial (self : SharedResolver (List UInt8)) (maxEntries clock : Nat) :
    self.Holds ⟨DnsCache.new maxEntries, clock, [], []⟩ where
  past _ member := absurd member List.not_mem_nil
  stored key entry found := by
    unfold DnsCache.new at found
    split at found <;> cases found
  contacted _ member := absurd member List.not_mem_nil

theorem Reached.sound {self : SharedResolver (List UInt8)} (reached : Reached engine self maxEntries clock pool) :
    Pool.Sound self.sharing (fun (request : Request K E) reply s => ∃ outcome, self.Accountable s outcome ∧
      request.respond engine (fun name recordType => Prog.lift (outcome name recordType)) () =
        (.ok reply, ())) pool := by
  refine Pool.Reaches.sound ?_ (holds_initial self maxEntries clock) reached
  rintro request _ ⟨fuel, rfl⟩ s _
  exact SharedResolver.asks_meets (Task.serve_asks request)

section Example

/-! A server without zones that is asked for the address of the root, with nothing else going on. -/

/-- Everything succeeds, every number is zero, and upstream always says the same. -/
def obliging (payload : List UInt8) (c : Call) (s : Shared (List UInt8)) :
    c.Answer (List UInt8) × Shared (List UInt8) :=
  match c with
  | .cacheLookup name recordType =>
    ((s.cache.lookup name recordType s.clock s.clock).1,
      { s with cache := (s.cache.lookup name recordType s.clock s.clock).2 })
  | .cachePut name recordType records now =>
    ((), { s with cache := s.cache.insert name recordType records now })
  | .instant => (s.clock, s)
  | .unixTime => (0, s)
  | .bind => (true, s)
  | .randomU16 => (0, s)
  | .randomUsize => (0, s)
  | .sendTo _ server => (true, s.contact server)
  | .recvFrom => (some payload, s.receive (some payload))
  | .connect server => (true, s.contact server)
  | .exchange _ server => (some payload, (s.contact server).receive (some payload))
  | .note _ => ((), s)

theorem obliging_legal (payload : List UInt8) (c : Call) (s : Shared (List UInt8)) :
    Shared.Answers c s (obliging payload c s).1 (obliging payload c s).2 := by
  cases c with
  | cacheLookup name recordType => exact ⟨s.clock, le_rfl, rfl, rfl⟩
  | instant => exact ⟨rfl, rfl⟩
  | _ => rfl

def rootAddress : List UInt8 :=
  (Upstream.answering [DnsRecord.new DnsName.root .A 60 (.A ⟨192, 0, 2, 1⟩)]).serialize

def rootRequest : Request Unit Unit := .datagram () (Resolver.tcpQuery 7 DnsName.root .A).serialize

def rootReply : Reply := .datagram <| some
  [0, 7, 128, 128, 0, 1, 0, 1, 0, 0, 0, 0, 0, 0, 1, 0, 1, 0, 0, 1, 0, 1, 0, 0, 0, 60, 0, 4, 192, 0, 2, 1]

def bareResolver : SharedResolver (List UInt8) := .new ⟨[]⟩ Upstream.distrustful false

def noEngine : Doh.Engine Unit := ⟨fun _ => "", fun _ => .error (), fun _ => none⟩

def rootRun : Prog (Shared (List UInt8)) Empty Reply :=
  (Task.serve noEngine (bareResolver.resolve 1) rootRequest).alone (obliging rootAddress)

def atStart : Shared (List UInt8) := ⟨DnsCache.new 10, 5, [], []⟩

theorem bareResolver_unroll (name : DnsName) (recordType : RecordType) :
    bareResolver.resolveRecursive 1 name recordType 0 =
      .loop (bareResolver.referralStep (fun name recordType => bareResolver.resolveRecursive 1 name recordType 1)
        name recordType) 1 ⟨rootServers, []⟩ := by
  rw [SharedResolver.resolveRecursive, if_neg (by decide)]

theorem rootRun_reply : (rootRun atStart).1 = .ok rootReply := by
  simp only [rootRun, rootRequest, Task.serve, Task.serveUdp, Task.handleQuery, SharedResolver.resolve,
    SharedResolver.resolveUpstream, bareResolver_unroll]
  rfl

theorem rootRun_contacted : (rootRun atStart).2.contacted = [⟨⟨198, 41, 0, 4⟩, 53⟩] := by
  simp only [rootRun, rootRequest, Task.serve, Task.serveUdp, Task.handleQuery, SharedResolver.resolve,
    SharedResolver.resolveUpstream, bareResolver_unroll]
  decide +kernel

theorem rootRun_cached : ∃ entry, (rootRun atStart).2.cache.peek ⟨DnsName.root, .A⟩ = some entry := by
  simp only [rootRun, rootRequest, Task.serve, Task.serveUdp, Task.handleQuery, SharedResolver.resolve,
    SharedResolver.resolveUpstream, bareResolver_unroll]
  exact Option.isSome_iff_exists.mp (by decide +kernel)

def rootPool : ServerPool Unit Unit :=
  ⟨(rootRun atStart).2, [rootRequest], [], [(rootRequest, (rootRun atStart).1)]⟩

theorem reached_rootPool : Reached noEngine bareResolver 10 5 rootPool :=
  Pool.Reaches.alone (obliging_legal rootAddress)
    (.step .initial (.start rootRequest (Task.serve noEngine (bareResolver.resolve 1) rootRequest) ⟨1, rfl⟩))

end Example

/-- However the tasks of a server interleave: a reply is to a request that was received, it is what the
handler makes of that request alone for outcomes of the resolver that can be accounted for, and no request
has more than one. -/
theorem replies_accountable
    (reached : Reached engine (SharedResolver.new zones validator enableDnssec) maxEntries clock pool) :
    (pool.finished.map Prod.fst).Subperm pool.requests ∧
      ∀ request reply, (request, Outcome.ok reply) ∈ pool.finished →
        ∃ outcome, (SharedResolver.new zones validator enableDnssec).Accountable pool.shared outcome ∧
          request.respond engine (fun name recordType => Prog.lift (outcome name recordType)) () =
            (.ok reply, ()) := by
  constructor
  · exact (List.sublist_append_left _ _).subperm.trans (Pool.Reaches.subperm reached)
  · intro request reply member
    have sound := reached.sound
    exact (sound.finished _ member reply rfl).now sound.shared

theorem replies_accountable_rootPool :
    (rootPool.finished.map Prod.fst).Subperm rootPool.requests ∧
      ∀ request reply, (request, Outcome.ok reply) ∈ rootPool.finished →
        ∃ outcome, (SharedResolver.new ⟨[]⟩ Upstream.distrustful false).Accountable rootPool.shared outcome ∧
          request.respond noEngine (fun name recordType => Prog.lift (outcome name recordType)) () =
            (.ok reply, ()) :=
  replies_accountable reached_rootPool

example : rootPool.finished = [(rootRequest, .ok rootReply)] := by
  rw [rootPool, rootRun_reply]

/-- However the tasks interleave, the cache holds nothing but records that had come from upstream when they
were stored, and none of them for longer than its TTL or a day. -/
theorem cached_heard
    (reached : Reached engine (SharedResolver.new zones validator enableDnssec) maxEntries clock pool)
    {key : CacheKey} {entry : CacheEntry} (held : pool.shared.cache.peek key = some entry) :
    entry.insertedAt ≤ pool.shared.clock ∧ entry.ttl ≤ DnsCache.MAX_TTL * NANOS_PER_SEC ∧
      ∀ record ∈ entry.records, entry.ttl ≤ record.ttl.toNat * NANOS_PER_SEC ∧
        (SharedResolver.new zones validator enableDnssec).Heard pool.shared entry.insertedAt record := by
  obtain ⟨inserted, lifetime, heard⟩ := reached.sound.shared.stored key entry held
  rw [lifetime]
  refine ⟨inserted, Nat.mul_le_mul_right _ (min_le_right _ _), fun record member => ?_⟩
  refine ⟨Nat.mul_le_mul_right _ ?_, heard record member⟩
  exact (min_le_left _ _).trans (DnsCache.minTtl_le member)

theorem cached_heard_rootPool :
    ∃ entry, rootPool.shared.cache.peek ⟨DnsName.root, .A⟩ = some entry ∧
      entry.insertedAt ≤ rootPool.shared.clock ∧ entry.ttl ≤ DnsCache.MAX_TTL * NANOS_PER_SEC ∧
      ∀ record ∈ entry.records, entry.ttl ≤ record.ttl.toNat * NANOS_PER_SEC ∧
        (SharedResolver.new ⟨[]⟩ Upstream.distrustful false).Heard rootPool.shared entry.insertedAt record := by
  obtain ⟨entry, held⟩ := rootRun_cached
  exact ⟨entry, held, cached_heard reached_rootPool held⟩

/-- However the tasks interleave, the server turns to no one but the root servers and servers whose
address it was told by a message from upstream. -/
theorem contacted_known
    (reached : Reached engine (SharedResolver.new zones validator enableDnssec) maxEntries clock pool) :
    ∀ server ∈ pool.shared.contacted,
      (SharedResolver.new zones validator enableDnssec).Known pool.shared server :=
  reached.sound.shared.contacted

theorem contacted_known_rootPool : rootPool.shared.contacted = [⟨⟨198, 41, 0, 4⟩, 53⟩] ∧
    ∀ server ∈ rootPool.shared.contacted,
      (SharedResolver.new ⟨[]⟩ Upstream.distrustful false).Known rootPool.shared server :=
  ⟨rootRun_contacted, contacted_known reached_rootPool⟩

end ServerPool

end DnsServer
