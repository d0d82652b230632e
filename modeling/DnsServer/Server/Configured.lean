import DnsServer.Server.Forwarding
import DnsServer.Server.System
import DnsServer.Startup

/-! From the zones file to the replies of the running server. -/

namespace DnsServer

open Bytes

variable {K E : Type}

/-- The DNS message in an HTTP request, when there is one. -/
def Doh.Request.message (engine : Doh.Engine E) (request : Doh.Request E) : Option (List UInt8) :=
  if request.method = .GET ∧ request.path = "/dns-query" then
    (Doh.dnsParam (request.query.getD "")).bind fun param => (engine.decode param).toOption
  else if request.method = .POST ∧ request.path = "/dns-query" then
    if (request.contentType.bind engine.toStr).getD "" = Doh.DNS_MESSAGE_TYPE then request.body.toOption
    else none
  else none

/-- The DNS message in a request, when there is one. -/
def Request.message (engine : Doh.Engine E) : Request K E → Option (List UInt8)
  | .datagram _ payload => some (payload.take Server.BUFFER_SIZE)
  | .connection _ received => Peer.readMessage received
  | .http _ request => request.message engine

/-- The client gets these bytes. Over UDP, when they are too many, it gets what is left of the message
in them without its records, and with the TC bit, or nothing when they are refused as a message. -/
def Reply.Carries (bytes : List UInt8) : Reply → Prop
  | .datagram sent => bytes.length ≤ Server.UDP_LIMIT ∧ sent = some bytes ∨
      Server.UDP_LIMIT < bytes.length ∧
        ((∃ whole, DnsMessage.parse bytes = .ok whole ∧ sent = some whole.truncate.serialize ∧
            Server.tcBit whole.truncate.serialize) ∨
          ∃ error, DnsMessage.parse bytes = .err error ∧ sent = none)
  | .stream written => written = [toBe16 (UInt16.ofNat bytes.length), bytes]
  | .http response => response.status = .OK ∧ response.body = bytes

section Respond

variable {engine : Doh.Engine E} {f : Task.Settled} {data : List UInt8} {query : DnsMessage}
  {question : DnsQuestion} {rest : List DnsQuestion} {records : List DnsRecord} {reply : Reply}

theorem serveUdp_carries {client : K} {payload bytes : List UInt8}
    (handled : Server.handleQuery f (payload.take Server.BUFFER_SIZE) () = (.ok bytes, ()))
    (responds : (Request.datagram client payload : Request K E).respond engine f () = (.ok reply, ())) :
    reply.Carries bytes := by
  rw [Request.respond] at responds
  rcases Nat.lt_or_ge Server.UDP_LIMIT bytes.length with long | short
  · have served := Server.serveUdp_long handled long
    rcases again : DnsMessage.parse bytes with response | error | _ | _ <;> rw [again] at served
    · rw [Prog.bind_ok (Prog.rescue_ok served)] at responds
      cases responds
      exact Or.inr ⟨long, Or.inl ⟨response, again, rfl, Server.tcBit_truncate response⟩⟩
    · rw [Prog.bind_ok (Prog.rescue_ok served)] at responds
      cases responds
      exact Or.inr ⟨long, Or.inr ⟨error, again, rfl⟩⟩
    · rw [Prog.bind_apply, Prog.rescue, served] at responds
      cases responds
    · rw [Prog.bind_apply, Prog.rescue, served] at responds
      cases responds
  · have served := Server.serveUdp_short handled short
    rw [Prog.bind_ok (Prog.rescue_ok served)] at responds
    cases responds
    exact Or.inl ⟨short, rfl⟩

theorem readMessage_eq_some {received : List UInt8} (read : Peer.readMessage received = some data) :
    data.length ≤ 65535 ∧ ∃ more, received = toBe16 (UInt16.ofNat data.length) ++ (data ++ more) := by
  unfold Peer.readMessage at read
  split at read
  · rename_i high low rest
    split at read
    · cases read
    · rename_i enough
      cases read
      have count := (fromBe16 high low).toNat_lt
      have size : (rest.take (fromBe16 high low).toNat).length = (fromBe16 high low).toNat := by
        rw [List.length_take]
        omega
      refine ⟨by omega, rest.drop (fromBe16 high low).toNat, ?_⟩
      rw [size, UInt16.ofNat_toNat, toBe16_fromBe16, List.take_append_drop]
      rfl
  · cases read

theorem serveTcp_carries {client : K} {received bytes : List UInt8}
    (read : Peer.readMessage received = some data)
    (handled : Server.handleQuery f data () = (.ok bytes, ()))
    (responds : (Request.connection client received : Request K E).respond engine f () = (.ok reply, ())) :
    reply.Carries bytes := by
  obtain ⟨short, more, rfl⟩ := readMessage_eq_some read
  have served := Server.serveTcp_handled short handled more
  rw [Request.respond, Prog.bind_ok (Prog.rescue_ok served)] at responds
  cases responds
  rfl

theorem route_carries {request : Doh.Request E} {bytes : List UInt8}
    (message : request.message engine = some data)
    (handled : Server.handleQuery f data () = (.ok bytes, ())) :
    ∃ headers, Doh.route engine f request () = (.ok ⟨.OK, headers, bytes⟩, ()) := by
  obtain ⟨headers, processed⟩ := Doh.processDnsQuery_of_handleQuery (E := E) handled
  refine ⟨headers, ?_⟩
  unfold Doh.Request.message at message
  unfold Doh.route
  split at message
  · rename_i get
    obtain ⟨param, present, decoded⟩ := Option.bind_eq_some_iff.mp message
    rw [if_pos get, Doh.handleGet, present]
    dsimp only
    cases given : engine.decode param with
    | error error =>
      rw [given] at decoded
      cases decoded
    | ok dnsBytes =>
      rw [given] at decoded
      cases decoded
      exact processed
  split at message
  · rename_i noGet post
    split at message
    · rename_i typed
      rw [if_neg noGet, if_pos post, Doh.handlePost, if_neg (not_not.mpr typed)]
      cases given : request.body with
      | error error =>
        rw [given] at message
        cases message
      | ok body =>
        rw [given] at message
        cases message
        exact processed
    · cases message
  · cases message

/-- Over each transport, the client of a request gets what the handler makes of its message. -/
theorem respond_carries {request : Request K E} (message : request.message engine = some data)
    (accepted : DnsMessage.parse data = .ok query) (asked : query.questions = question :: rest)
    (given : f question.name question.recordType () = (.ok records, ()))
    (responds : request.respond engine f () = (.ok reply, ())) :
    reply.Carries (query.answer (.ok records)).serialize := by
  have handled : Server.handleQuery f data () = (.ok (query.answer (.ok records)).serialize, ()) :=
    Server.handleQuery_asked accepted asked (Prog.rescue_ok given)
  cases request with
  | datagram client payload =>
    cases message
    exact serveUdp_carries handled responds
  | connection client received => exact serveTcp_carries message handled responds
  | http client request =>
    obtain ⟨headers, routed⟩ := route_carries message handled
    rw [Request.respond, Prog.bind_ok (Doh.handleRequest_of_route routed)] at responds
    cases responds
    exact ⟨rfl, rfl⟩

end Respond

namespace Startup

/-- The resolver that the listeners share. -/
def Launch.resolver (launch : Launch) (validator : DnssecValidator) : SharedResolver (List UInt8) :=
  .new launch.zoneStore validator launch.enableDnssec

/-- All that can become of a server that was started so. -/
def Launch.Reached (launch : Launch) (validator : DnssecValidator) (engine : Doh.Engine E) (clock : Nat) :
    ServerPool K E → Prop :=
  Pool.Reaches (launch.resolver validator).sharing
    (fun request task => ∃ fuel, task = Task.serve engine ((launch.resolver validator).resolve fuel) request)
    ⟨launch.cache, clock, [], []⟩

variable {F : Type} {toml : Toml F} {readToString : String → Option String} {launch : Launch}
  {store : ZoneStore} {config : Config} {content : String} {zoneConfig : ZoneConfig}
  {validator : DnssecValidator} {engine : Doh.Engine E} {clock : Nat} {pool : ServerPool K E}
  {definition : ZoneDefinition} {apex name : DnsName} {recordType : RecordType}

/-- What a task answers to a question that the zones decide. -/
theorem Launch.Reached.carries {cacheSize : Nat} (empty : launch.cache = DnsCache.new cacheSize)
    (reached : launch.Reached validator engine clock pool) {records : List DnsRecord}
    (found : launch.zoneStore.zoneResult name recordType = .found records) {request : Request K E}
    {reply : Reply} {data : List UInt8} {query : DnsMessage} {question : DnsQuestion}
    {rest : List DnsQuestion} (member : (request, Outcome.ok reply) ∈ pool.finished)
    (message : request.message engine = some data) (accepted : DnsMessage.parse data = .ok query)
    (asked : query.questions = question :: rest) (named : question.name = name)
    (typed : question.recordType = recordType) : reply.Carries (query.answer (.ok records)).serialize := by
  rw [Launch.Reached, empty] at reached
  have known : ServerPool.Reached engine (launch.resolver validator) cacheSize clock pool := reached
  have sound := known.sound
  obtain ⟨outcome, accountable, responds⟩ := (sound.finished _ member reply rfl).now sound.shared
  have given := (accountable question.name question.recordType).2 records
    (Or.inl (by rw [named, typed]; exact found))
  refine respond_carries message accepted asked ?_ responds
  rw [given]
  rfl

/-- However the tasks of a server interleave that was started with a zones file: each reply to a question about
a name of its zones carries the records of the file for the name and the type, in the order of the file. -/
theorem replies_configured (started : main toml readToString ⟨[]⟩ = (.ok launch, store))
    (configured : loadConfig toml readToString = .ok config)
    (held : config.zonesFile.bind readToString = some content) (parsed : toml.zones content = .ok zoneConfig)
    (reached : launch.Reached validator engine clock pool) (closest : zoneConfig.Closest definition apex name)
    (notSoa : recordType ≠ .SOA) (notApexNs : ¬(recordType = .NS ∧ name = apex))
    (some : definition.recordsOf apex name recordType ≠ []) {request : Request K E} {reply : Reply}
    {data : List UInt8} {query : DnsMessage} {question : DnsQuestion} {rest : List DnsQuestion}
    (member : (request, Outcome.ok reply) ∈ pool.finished) (message : request.message engine = Option.some data)
    (accepted : DnsMessage.parse data = .ok query) (asked : query.questions = question :: rest)
    (named : question.name = name) (typed : question.recordType = recordType) :
    reply.Carries (query.answer (.ok (definition.recordsOf apex name recordType))).serialize := by
  obtain ⟨config', configured', zoned, rfl⟩ := main_eq_ok.mp started
  cases configured.symm.trans configured'
  rcases zoned with ⟨missing, _⟩ | ⟨content', zones, held', parsed', loaded⟩
  · cases held.symm.trans missing
  · cases held.symm.trans held'
    cases parsed.symm.trans parsed'
    have found := ZoneStore.zoneResult_of_closest loaded closest notSoa notApexNs some
    exact Launch.Reached.carries rfl reached found member message accepted asked named typed

section Example

/-! A server with a zone that delegates, asked for the servers that it delegates to. -/

/-- The text of a configuration file that names a file of zones. -/
def configText : String := "zones_file = \"config/zones.toml\"\n"

/-- The text of a file with the zone. -/
def zonesText : String := "\n".intercalate [
  "[[zones]]",
  "name = \"example.local\"",
  "[zones.soa]",
  "mname = \"ns1.example.local\"",
  "rname = \"admin.example.local\"",
  "serial = 1",
  "refresh = 3600",
  "retry = 600",
  "expire = 86400",
  "minimum = 300",
  "[[zones.records]]",
  "name = \"@\"",
  "type = \"NS\"",
  "value = \"ns1.example.local\"",
  "[[zones.records]]",
  "name = \"sub\"",
  "type = \"NS\"",
  "value = \"ns.sub.example.local\"",
  ""]

/-- The tables of these two texts. -/
def localToml : Toml Unit where
  config text := if text = configText then .ok ⟨none, none, none, none, some "config/zones.toml"⟩ else .error ()
  zones text := if text = zonesText then .ok ⟨[Zone.delegatingZone]⟩ else .error ()

/-- The two files, and no other. -/
def localFiles (path : String) : Option String :=
  if path = "config/config.toml" then some configText
  else if path = "config/zones.toml" then some zonesText
  else none

def localConfig : Config := ⟨defaultListenAddr, defaultCacheSize, false, none, some "config/zones.toml"⟩

def localLaunch : Launch := ⟨DnsCache.new 10000, .delegatingStore, false, none, defaultListenAddr⟩

theorem config_configText :
    localToml.config configText = .ok ⟨none, none, none, none, some "config/zones.toml"⟩ := by
  simp [localToml]

theorem zones_zonesText : localToml.zones zonesText = .ok ⟨[Zone.delegatingZone]⟩ := by
  simp [localToml]

theorem loadConfig_localToml : loadConfig localToml localFiles = .ok localConfig :=
  loadConfigFrom_eq_ok.mpr (Or.inr ⟨configText, _, rfl, config_configText, rfl⟩)

theorem localFiles_zones : localConfig.zonesFile.bind localFiles = some zonesText := rfl

theorem main_localToml : main localToml localFiles ⟨[]⟩ = (.ok localLaunch, .delegatingStore) :=
  main_eq_ok.mpr ⟨localConfig, loadConfig_localToml, Or.inr ⟨zonesText, ⟨[Zone.delegatingZone]⟩, localFiles_zones,
    zones_zonesText, ZoneStore.loadConfig_delegatingZone⟩, rfl⟩

def subzoneRequest : Request Unit Unit := .datagram () (Resolver.tcpQuery 7 Zone.subzone .NS).serialize

def subzoneTask : Task.ServerTask Empty Reply :=
  Task.serve ServerPool.noEngine ((localLaunch.resolver Upstream.distrustful).resolve 1) subzoneRequest

def subzoneRun : Outcome Empty Reply × Shared (List UInt8) :=
  subzoneTask.alone (ServerPool.obliging []) ⟨localLaunch.cache, 5, [], []⟩

def subzonePool : ServerPool Unit Unit :=
  ⟨subzoneRun.2, [subzoneRequest], [], [(subzoneRequest, subzoneRun.1)]⟩

theorem reached_subzonePool :
    localLaunch.Reached Upstream.distrustful ServerPool.noEngine 5 subzonePool := by
  unfold Launch.Reached subzonePool subzoneRun
  exact Pool.Reaches.alone (ServerPool.obliging_legal [])
    (.step .initial (.start subzoneRequest subzoneTask ⟨1, rfl⟩))

def isReply : Outcome Empty Reply → Bool
  | .ok _ => true
  | _ => false

theorem subzoneRun_replies : ∃ reply, subzoneRun.1 = .ok reply := by
  have replied : isReply subzoneRun.1 = true := by decide +kernel
  cases outcome : subzoneRun.1 with
  | ok reply => exact ⟨reply, rfl⟩
  | _ =>
    rw [outcome] at replied
    cases replied

theorem closest_subzone :
    (⟨[Zone.delegatingZone]⟩ : ZoneConfig).Closest Zone.delegatingZone Zone.delegatedZone.name
      Zone.subzone where
  listed := List.mem_singleton_self _
  named := (Zone.fromConfig_loaded Zone.fromConfig_delegatingZone).name
  above := by
    rw [DnsName.ancestors_eq]
    decide
  lowest := fun other member _ _ _ => Or.inr (List.mem_singleton.mp member)

def subzoneQuery : DnsMessage := (Resolver.tcpQuery 7 Zone.subzone .NS).reread

theorem parse_subzoneQuery :
    DnsMessage.parse ((Resolver.tcpQuery 7 Zone.subzone .NS).serialize.take Server.BUFFER_SIZE) =
      .ok subzoneQuery := by
  decide +kernel

theorem recordsOf_subzone :
    Zone.delegatingZone.recordsOf Zone.delegatedZone.name Zone.subzone .NS = [Zone.delegation] := by
  have table := (Zone.fromConfig_loaded Zone.fromConfig_delegatingZone).lookup_records Zone.subzone .NS
  have held : Zone.delegatedZone.records.lookup (Zone.subzone, .NS) = some [Zone.delegation] := by
    decide +kernel
  have same := Zone.unlessEmpty_getD
    (Zone.delegatingZone.recordsOf Zone.delegatedZone.name Zone.subzone .NS)
  rw [← table, held] at same
  exact same.symm

theorem replies_configured_subzone :
    ∃ reply, (subzoneRequest, Outcome.ok reply) ∈ subzonePool.finished ∧
      reply.Carries (subzoneQuery.answer (.ok [Zone.delegation])).serialize := by
  obtain ⟨reply, replied⟩ := subzoneRun_replies
  have member : (subzoneRequest, Outcome.ok reply) ∈ subzonePool.finished := by
    rw [subzonePool, replied]
    exact List.mem_singleton_self _
  have some : Zone.delegatingZone.recordsOf Zone.delegatedZone.name Zone.subzone .NS ≠ [] := by
    rw [recordsOf_subzone]
    exact List.cons_ne_nil _ _
  have carried := replies_configured main_localToml loadConfig_localToml localFiles_zones zones_zonesText
    reached_subzonePool closest_subzone
    RecordType.noConfusion (fun both => absurd both.2 (by decide)) some member rfl parse_subzoneQuery
    rfl rfl rfl
  rw [recordsOf_subzone] at carried
  exact ⟨reply, member, carried⟩

end Example

end Startup

end DnsServer
