import DnsServer.Resolver.Resolve

namespace DnsServer

def DnsMessage.withId (message : DnsMessage) (id : UInt16) : DnsMessage :=
  { message with header := { message.header with id := id } }

/-- The servers of the world as a function of the address and the question: a response or a failure. -/
abbrev Upstream := SocketAddr → DnsName → RecordType → Option DnsMessage

/-- The random numbers and the clock readings still to come, and the datagram that waits to be
received. -/
structure Tape where
  ids : Nat → UInt16
  draws : Nat → UInt64
  instants : Nat → Nat
  seconds : Nat → UInt32
  pending : Option DnsMessage

namespace Upstream

/-- The reply to a query, under the identifier of the query. -/
def reply (upstream : Upstream) (query : DnsMessage) (server : SocketAddr) : Option DnsMessage :=
  match query.questions with
  | question :: _ =>
    (upstream server question.name question.recordType).map fun response => response.withId query.header.id
  | [] => none

def network (upstream : Upstream) : Network Tape DnsMessage where
  decode := .ok
  bind tape := (true, tape)
  randomU16 tape := (tape.ids 0, { tape with ids := fun i => tape.ids (i + 1) })
  randomUsize tape := (tape.draws 0, { tape with draws := fun i => tape.draws (i + 1) })
  sendTo query server tape := (true, { tape with pending := upstream.reply query server })
  recvFrom tape := (tape.pending, { tape with pending := none })
  connect _ tape := (true, tape)
  exchange query server tape := (upstream.reply query server, tape)
  instant tape := (tape.instants 0, { tape with instants := fun i => tape.instants (i + 1) })
  unixTime tape := (tape.seconds 0, { tape with seconds := fun i => tape.seconds (i + 1) })

/-- Every random number and every clock reading is zero. -/
def blankTape : Tape := ⟨fun _ => 0, fun _ => 0, fun _ => 0, fun _ => 0, none⟩

/-- No signature verifies. -/
def distrustful : DnssecValidator :=
  ⟨fun _ _ _ _ _ => false, fun _ _ _ => false, fun _ _ _ => false, fun _ _ _ => false⟩

/-- A resolver without zones of its own and without DNSSEC validation. -/
def resolver (upstream : Upstream) : Resolver Tape DnsMessage where
  network := upstream.network
  zoneStore := ⟨[]⟩
  dnssecValidator := distrustful
  enableDnssec := false

/-- A response with the given answers and nothing else. -/
def answering (answers : List DnsRecord) : DnsMessage :=
  ⟨{ DnsHeader.newQuery 0 with isResponse := true }, [], answers, [], []⟩

def www : DnsName := ⟨["www", "example", "com"]⟩

def cdn : DnsName := ⟨["cdn", "example", "com"]⟩

/-- An alias together with the address of its target, as servers usually send it. -/
def aliasWithAddress : List DnsRecord :=
  [DnsRecord.new www .CNAME 300 (.CNAME cdn), DnsRecord.new cdn .A 300 (.A ⟨192, 0, 2, 7⟩)]

/-- The alias alone for its own name, and the address for the target. -/
def stepwise : Upstream := fun _ name _ =>
  some (answering (if name = www then aliasWithAddress.take 1 else aliasWithAddress.drop 1))

def wholeChain : Upstream := fun _ _ _ => some (answering aliasWithAddress)

def bank : DnsName := ⟨["bank", "test"]⟩

def bankServer : DnsName := ⟨["ns", "bank", "test"]⟩

/-- A referral for a zone with the address of its server. -/
def referring (zone server : DnsName) (addr : Ipv4Addr) : DnsMessage :=
  { answering [] with
    authorities := [DnsRecord.new zone .NS 300 (.NS server)]
    additional := [DnsRecord.new server .A 300 (.A addr)] }

def bankReferral : DnsMessage := referring bank bankServer ⟨203, 0, 113, 66⟩

/-- Whatever is asked, the servers refer to that zone. -/
def intruding : Upstream := fun _ _ _ => some bankReferral

end Upstream

end DnsServer
