import DnsServer.Resolver.Chase
import DnsServer.Zone.Enclosing

/-! A world of zones, each published by its name servers, and what the resolver finds in it. -/

namespace DnsServer

structure PublishedZone where
  apex : DnsName
  servers : List DnsName
  records : List DnsRecord

/-- What a zone has to say to a question. -/
inductive Published where
  | found (records : List DnsRecord)
  | aliased (cnames : List DnsRecord)
  | noData
  | noName
  deriving DecidableEq

namespace PublishedZone

def find (zone : PublishedZone) (name : DnsName) (recordType : RecordType) : List DnsRecord :=
  zone.records.filter fun record => record.name = name ∧ record.recordType = recordType

def lookup (zone : PublishedZone) (name : DnsName) (recordType : RecordType) : Published :=
  if ¬(zone.find name recordType).isEmpty then .found (zone.find name recordType)
  else if ¬(zone.find name .CNAME).isEmpty then .aliased (zone.find name .CNAME)
  else if zone.records.any fun record => record.name = name then .noData
  else .noName

end PublishedZone

/-- The zones of the world, and the addresses of their servers. -/
structure Hierarchy where
  zones : List PublishedZone
  address : DnsName → List Ipv4Addr

/-- The name that the last of the aliases leads to. -/
def aliasTarget (cnames : List DnsRecord) : Option DnsName :=
  match cnames.getLast? with
  | some record =>
    match record.rdata with
    | .CNAME name => some name
    | _ => none
  | none => none

/-- The aliases in front of what their target is resolved to. -/
def behind (cnames : List DnsRecord) :
    Outcome ResponseCode (List DnsRecord) → Outcome ResponseCode (List DnsRecord)
  | .ok records => .ok (cnames ++ records)
  | failure => failure

namespace Hierarchy

variable (h : Hierarchy)

def zoneAt (apex : DnsName) : Option PublishedZone := h.zones.find? fun zone => zone.apex = apex

/-- The zones above a name, from the top down. -/
def path (name : DnsName) : List PublishedZone := (name.ancestors.filterMap h.zoneAt).reverse

def addresses (zone : PublishedZone) : List SocketAddr :=
  zone.servers.flatMap fun server => (h.address server).map fun addr => ⟨addr, 53⟩

/-- The zone closest to the name has the say. -/
def lookup (name : DnsName) (recordType : RecordType) : Published :=
  match (h.path name).getLast? with
  | some zone => zone.lookup name recordType
  | none => .noName

/-- The answer to a question, along at most so many names. -/
def answer (recordType : RecordType) : Nat → DnsName → Outcome ResponseCode (List DnsRecord)
  | 0, _ => .err .serverFailure
  | left + 1, name =>
    match h.lookup name recordType with
    | .found records => .ok records
    | .noData => .ok []
    | .noName => .err .nameError
    | .aliased cnames =>
      match aliasTarget cnames with
      | some next => behind cnames (answer recordType left next)
      | none => .err .serverFailure

/-- The response refers to the next zone, with the address of a server of it. -/
structure Delegates (next : PublishedZone) (response : DnsMessage) : Prop where
  noError : response.header.responseCode = .noError
  noAnswers : response.answers = []
  servers : response.nsNames = next.servers
  some : next.servers ≠ []
  glue : response.glueAddrs ≠ []
  addresses : ∀ server ∈ response.glueAddrs, server ∈ h.addresses next

/-- The response says what the zone has to say. -/
def Tells (recordType : RecordType) (response : DnsMessage) : Published → Prop
  | .found records => response.header.responseCode = .noError ∧ response.typedAnswers recordType = records
  | .aliased cnames => response.header.responseCode = .noError ∧ response.typedAnswers recordType = [] ∧
      response.aliasAnswers recordType = cnames
  | .noData => response.header.responseCode = .noError ∧ response.answers = [] ∧ response.nsNames = [] ∧
      response.hasSoa = true
  | .noName => response.header.responseCode = .nameError

/-- The root servers serve the zone at the top, and every server answers from the closest zone to the name
that it serves: for the name itself where no zone is closer, and with a referral to the next zone where
one is. -/
structure Publishes (upstream : Upstream) : Prop where
  top : ∃ zone, h.zoneAt DnsName.root = some zone ∧ ∀ server ∈ rootServers, server ∈ h.addresses zone
  speaks : ∀ name recordType server before zone after, h.path name = before ++ zone :: after →
    server ∈ h.addresses zone → (∀ closer ∈ after, server ∉ h.addresses closer) →
    ∃ response, upstream server name recordType = some response ∧
      match after with
      | [] => Tells recordType response (h.lookup name recordType)
      | next :: _ => h.Delegates next response

variable {h} {name : DnsName} {recordType : RecordType}

theorem lookup_found {records : List DnsRecord} (found : h.lookup name recordType = .found records) :
    records ≠ [] := by
  unfold lookup at found
  split at found
  · unfold PublishedZone.lookup at found
    split at found
    · rename_i some
      cases found
      simpa using some
    split at found
    · cases found
    split at found <;> cases found
  · cases found

theorem lookup_aliased {cnames : List DnsRecord} (aliased : h.lookup name recordType = .aliased cnames) :
    cnames ≠ [] := by
  unfold lookup at aliased
  split at aliased
  · unfold PublishedZone.lookup at aliased
    split at aliased
    · cases aliased
    split at aliased
    · rename_i some
      cases aliased
      simpa using some
    split at aliased <;> cases aliased
  · cases aliased

/-- A name without data of a type has no alias either. -/
theorem lookup_noData (empty : h.lookup name recordType = .noData) : h.lookup name .CNAME = .noData := by
  unfold lookup at empty ⊢
  split at empty
  · unfold PublishedZone.lookup at empty ⊢
    split at empty
    · cases empty
    split at empty
    · cases empty
    rename_i noAlias
    split at empty
    · rename_i held
      rw [if_neg noAlias, if_neg noAlias, if_pos held]
    · cases empty
  · cases empty

/-- Only a name without data has no records for an answer. -/
theorem answer_nil {left : Nat} (empty : h.answer recordType (left + 1) name = .ok []) :
    h.lookup name recordType = .noData := by
  rw [answer] at empty
  cases published : h.lookup name recordType with
  | found records =>
    rw [published] at empty
    exact absurd (Outcome.ok.inj empty) (lookup_found published)
  | noData => rfl
  | noName =>
    rw [published] at empty
    cases empty
  | aliased cnames =>
    rw [published] at empty
    dsimp only at empty
    split at empty
    · unfold behind at empty
      split at empty
      · exact absurd (List.append_eq_nil_iff.mp (Outcome.ok.inj empty)).1 (lookup_aliased published)
      · rename_i other
        exact absurd empty (other _)
    · cases empty

theorem zoneAt_apex {apex : DnsName} {zone : PublishedZone} (found : h.zoneAt apex = some zone) :
    zone.apex = apex := by
  simpa using List.find?_some found

theorem ancestors_concat (name : DnsName) : ∃ front, name.ancestors = front ++ [DnsName.root] := by
  obtain ⟨labels⟩ := name
  induction labels with
  | nil => exact ⟨[], DnsName.ancestors_eq []⟩
  | cons label labels ih =>
    obtain ⟨front, split⟩ := ih
    rw [DnsName.ancestors_eq] at split
    refine ⟨⟨label :: labels⟩ :: front, ?_⟩
    rw [DnsName.ancestors_eq, List.tails_cons, List.map_cons, split, List.cons_append]

/-- The way down to any name begins at the top. -/
theorem path_top {zone : PublishedZone} (top : h.zoneAt DnsName.root = some zone) (name : DnsName) :
    ∃ after, h.path name = zone :: after := by
  obtain ⟨front, split⟩ := ancestors_concat name
  refine ⟨(front.filterMap h.zoneAt).reverse, ?_⟩
  rw [path, split, List.filterMap_append, List.reverse_append]
  simp [top]

/-- No way down has more zones than there are. -/
theorem path_length (h : Hierarchy) (name : DnsName) : (h.path name).length ≤ h.zones.length := by
  have distinct : name.ancestors.Nodup :=
    name.ancestors_descending.imp fun {below above} fewer same => by
      rw [same] at fewer
      exact lt_irrefl _ fewer
  have nodup : (name.ancestors.filterMap h.zoneAt).Nodup := by
    refine distinct.filterMap fun up up' zone first second => ?_
    rw [← zoneAt_apex (Option.mem_def.mp first), ← zoneAt_apex (Option.mem_def.mp second)]
  have listed : name.ancestors.filterMap h.zoneAt ⊆ h.zones := by
    intro zone member
    obtain ⟨up, _, found⟩ := List.mem_filterMap.mp member
    exact List.mem_of_find?_eq_some found
  rw [path, List.length_reverse]
  exact (List.subperm_of_subset nodup listed).length_le

/-- The last element that has a property. -/
theorem exists_last {α : Type} {P : α → Prop} {xs : List α} (some : ∃ x ∈ xs, P x) :
    ∃ before x after, xs = before ++ x :: after ∧ P x ∧ ∀ y ∈ after, ¬P y := by
  induction xs with
  | nil =>
    obtain ⟨_, member, _⟩ := some
    exact absurd member List.not_mem_nil
  | cons first xs ih =>
    by_cases later : ∃ x ∈ xs, P x
    · obtain ⟨before, x, after, split, holds, none⟩ := ih later
      exact ⟨first :: before, x, after, by rw [split, List.cons_append], holds, none⟩
    · obtain ⟨x, member, holds⟩ := some
      rcases List.mem_cons.mp member with rfl | behind
      · exact ⟨[], x, xs, rfl, holds, fun y inside held => later ⟨y, inside, held⟩⟩
      · exact absurd ⟨x, behind, holds⟩ later

/-- Of the zones on the way that a server serves, one is the closest to the name. -/
theorem exists_closest {server : SocketAddr} {before after : List PublishedZone} {zone : PublishedZone}
    (way : h.path name = before ++ zone :: after) (serves : server ∈ h.addresses zone) :
    ∃ before' closest further, h.path name = before' ++ closest :: further ∧
      further.length ≤ after.length ∧ server ∈ h.addresses closest ∧
      ∀ closer ∈ further, server ∉ h.addresses closer := by
  have served : ∃ z ∈ zone :: after, server ∈ h.addresses z := ⟨zone, List.mem_cons_self, serves⟩
  obtain ⟨front, closest, further, split, here, none⟩ := exists_last served
  refine ⟨before ++ front, closest, further, by rw [way, split, List.append_assoc], ?_, here, none⟩
  have lengths := congrArg List.length split
  simp only [List.length_cons, List.length_append] at lengths
  omega

section Publication

variable (h)

/-- A referral to a zone, with the addresses of all its servers. -/
def referral (next : PublishedZone) : DnsMessage where
  header := { DnsHeader.newQuery 0 with isResponse := true }
  questions := []
  answers := []
  authorities := next.servers.map fun server => DnsRecord.new next.apex .NS 300 (.NS server)
  additional := next.servers.flatMap fun server => (h.address server).map fun addr =>
    DnsRecord.new server .A 300 (.A addr)

def statement (name : DnsName) : Published → DnsMessage
  | .found records => Upstream.answering records
  | .aliased cnames => Upstream.answering cnames
  | .noData =>
    { Upstream.answering [] with
      authorities := [DnsRecord.new name .SOA 300 (.SOA DnsName.root DnsName.root 1 300 300 300 300)] }
  | .noName =>
    ⟨{ DnsHeader.newQuery 0 with isResponse := true, responseCode := .nameError }, [], [], [], []⟩

/-- What a server of a zone has to say when these zones come after it on the way. -/
def say (name : DnsName) (recordType : RecordType) : List PublishedZone → DnsMessage
  | [] => statement name (h.lookup name recordType)
  | next :: _ => h.referral next

/-- What a server has to say that serves some of the zones on the way. -/
def respond (server : SocketAddr) (name : DnsName) (recordType : RecordType) :
    List PublishedZone → Option DnsMessage
  | [] => none
  | zone :: after =>
    match respond server name recordType after with
    | some closer => some closer
    | none =>
      if server ∈ h.addresses zone then some (h.say name recordType after) else none

/-- The servers of the hierarchy. -/
def upstream : Upstream := fun server name recordType => h.respond server name recordType (h.path name)

/-- Every zone has a server with an address, and the root servers are those of the zone at the top. -/
structure WellServed : Prop where
  top : ∃ zone, h.zoneAt DnsName.root = some zone ∧ ∀ server ∈ rootServers, server ∈ h.addresses zone
  served : ∀ zone ∈ h.zones, h.addresses zone ≠ []

variable {h}

theorem respond_none {server : SocketAddr} {zones : List PublishedZone}
    (none : ∀ zone ∈ zones, server ∉ h.addresses zone) : h.respond server name recordType zones = .none := by
  induction zones with
  | nil => rfl
  | cons zone zones ih =>
    rw [respond, ih fun closer member => none closer (List.mem_cons_of_mem _ member)]
    exact if_neg (none zone List.mem_cons_self)

theorem respond_closest {server : SocketAddr} {before after : List PublishedZone} {zone : PublishedZone}
    (serves : server ∈ h.addresses zone) (none : ∀ closer ∈ after, server ∉ h.addresses closer) :
    h.respond server name recordType (before ++ zone :: after) = some (h.say name recordType after) := by
  induction before with
  | nil =>
    rw [List.nil_append, respond, respond_none none]
    exact if_pos serves
  | cons first before ih =>
    rw [List.cons_append, respond, ih]

theorem find_typed {zone : PublishedZone} {record : DnsRecord} (member : record ∈ zone.find name recordType) :
    record.recordType = recordType :=
  (of_decide_eq_true (List.mem_filter.mp member).2).2

theorem lookup_found_typed {records : List DnsRecord} (found : h.lookup name recordType = .found records) :
    ∀ record ∈ records, record.recordType = recordType := by
  unfold lookup at found
  split at found
  · unfold PublishedZone.lookup at found
    split at found
    · cases found
      exact fun _ member => find_typed member
    split at found
    · cases found
    split at found <;> cases found
  · cases found

theorem lookup_aliased_typed {cnames : List DnsRecord} (aliased : h.lookup name recordType = .aliased cnames) :
    recordType ≠ .CNAME ∧ ∀ record ∈ cnames, record.recordType = .CNAME := by
  unfold lookup at aliased
  split at aliased
  · unfold PublishedZone.lookup at aliased
    split at aliased
    · cases aliased
    rename_i untyped
    split at aliased
    · rename_i some
      cases aliased
      exact ⟨fun same => untyped (same ▸ some), fun _ member => find_typed member⟩
    split at aliased <;> cases aliased
  · cases aliased

theorem tells_statement (name : DnsName) (recordType : RecordType) :
    Tells recordType (statement name (h.lookup name recordType)) (h.lookup name recordType) := by
  cases published : h.lookup name recordType with
  | found records =>
    refine ⟨rfl, List.filter_eq_self.mpr fun record member => ?_⟩
    exact decide_eq_true (lookup_found_typed published record member)
  | aliased cnames =>
    obtain ⟨other, typed⟩ := lookup_aliased_typed published
    refine ⟨rfl, List.filter_eq_nil_iff.mpr fun record member => ?_,
      List.filter_eq_self.mpr fun record member => ?_⟩
    · simpa [typed record member] using other.symm
    · simpa [typed record member] using other.symm
  | noData => exact ⟨rfl, rfl, rfl, rfl⟩
  | noName => rfl

theorem delegates_referral {next : PublishedZone} (served : h.addresses next ≠ []) :
    h.Delegates next (h.referral next) := by
  have servers : (h.referral next).nsNames = next.servers := by
    have target : ∀ server, (DnsRecord.new next.apex .NS 300 (.NS server)).nsTarget = some server :=
      fun _ => rfl
    simp only [DnsMessage.nsNames, referral, List.filterMap_map, Function.comp_def, target,
      List.filterMap_some]
  have glue : (h.referral next).glueAddrs = h.addresses next := by
    rw [DnsMessage.glueAddrs, servers, addresses, referral, List.filterMap_flatMap]
    refine List.flatMap_congr fun server member => ?_
    have listed : (next.servers.any fun ns => ns = server) = true :=
      List.any_eq_true.mpr ⟨server, member, decide_eq_true rfl⟩
    have address : ∀ addr, (DnsRecord.new server .A 300 (.A addr)).glueFor next.servers = some ⟨addr, 53⟩ :=
      fun _ => if_pos listed
    simp only [List.filterMap_map, Function.comp_def, address]
    exact congrFun List.filterMap_eq_map' _
  refine ⟨rfl, rfl, servers, ?_, glue ▸ served, fun server member => glue ▸ member⟩
  intro none
  exact served (by rw [addresses, none]; rfl)

/-- The servers of a hierarchy publish it. -/
theorem publishes_upstream (wellServed : h.WellServed) : h.Publishes h.upstream where
  top := wellServed.top
  speaks := by
    intro name recordType server before zone after way serves none
    have told : h.respond server name recordType (before ++ zone :: after) =
        some (h.say name recordType after) := respond_closest serves none
    rw [← way] at told
    cases after with
    | nil => exact ⟨_, told, tells_statement name recordType⟩
    | cons next rest =>
      refine ⟨_, told, delegates_referral (wellServed.served next ?_)⟩
      have listed : next ∈ h.path name := by
        rw [way]
        exact List.mem_append_right _ (List.mem_cons_of_mem _ List.mem_cons_self)
      obtain ⟨up, _, found⟩ := List.mem_filterMap.mp (List.mem_reverse.mp listed)
      exact List.mem_of_find?_eq_some found

/-- The name of the root servers, and of the server of the one zone below the root. -/
def rootServer : DnsName := ⟨["root-servers", "net"]⟩

def exampleServer : DnsName := ⟨["ns", "example", "com"]⟩

/-- The root, and a zone with an alias and the address that it leads to. -/
def twoZones : Hierarchy where
  zones :=
    [⟨DnsName.root, [rootServer], []⟩,
      ⟨⟨["example", "com"]⟩, [exampleServer], Upstream.aliasWithAddress⟩]
  address name :=
    if name = rootServer then ROOT_SERVERS.map Prod.snd
    else if name = exampleServer then [⟨192, 0, 2, 53⟩]
    else []

theorem twoZones_wellServed : twoZones.WellServed where
  top := ⟨_, rfl, by decide⟩
  served := by decide

example : twoZones.answer .A 33 Upstream.www = .ok Upstream.aliasWithAddress := by
  have www : twoZones.lookup Upstream.www .A =
      .aliased [DnsRecord.new Upstream.www .CNAME 300 (.CNAME Upstream.cdn)] := by
    rw [lookup, path, Upstream.www, DnsName.ancestors_eq]
    decide
  have cdn : twoZones.lookup Upstream.cdn .A =
      .found [DnsRecord.new Upstream.cdn .A 300 (.A ⟨192, 0, 2, 7⟩)] := by
    rw [lookup, path, Upstream.cdn, DnsName.ancestors_eq]
    decide
  rw [show 33 = 31 + 1 + 1 from rfl, answer, www]
  dsimp only [aliasTarget, List.getLast?_singleton, DnsRecord.new]
  rw [answer, cdn]
  rfl

end Publication

end Hierarchy

end DnsServer
