import DnsServer.Dns.RoundTrip
import DnsServer.Dns.SectionFraming
import DnsServer.Resolver.AnswerChain
import DnsServer.Resolver.Authoritative
import DnsServer.Resolver.Bailiwick
import DnsServer.Resolver.BogusAnswers
import DnsServer.Resolver.CacheKeys
import DnsServer.Lib.Settles
import DnsServer.Resolver.Asking
import DnsServer.Resolver.Delegation
import DnsServer.Resolver.Termination
import DnsServer.CacheHistory
import DnsServer.Server.Handler
import DnsServer.Server.Replies
import DnsServer.Resolver.Acceptance
import DnsServer.Lib.Mirrors
import DnsServer.Resolver.Mirrors
import DnsServer.Resolver.Traffic
import DnsServer.Resolver.ZoneAliases
import DnsServer.Lib.AsciiCase
import DnsServer.Dns.NameForm
import DnsServer.Lib.SmallLetters
import DnsServer.Dns.Reserialise
import DnsServer.Lib.Steady
import DnsServer.Resolver.Steadiness
import DnsServer.Resolver.Transparency
import DnsServer.Resolver.Coherence
import DnsServer.Dnssec.CoveredRecords
import DnsServer.Lib.KeyedOrder
import DnsServer.Dnssec.CanonicalOrder
import DnsServer.Doh.Service
import DnsServer.Doh.Transports
import DnsServer.Server.Flags
import DnsServer.Dns.QuestionWire
import DnsServer.Server.Echo
import DnsServer.Lib.PacketNetwork
import DnsServer.Server.PacketLoop
import DnsServer.Dns.Presentation
import DnsServer.Dns.Rereading
import DnsServer.Lib.LruWrites
import DnsServer.Resolver.ReferralSets
import DnsServer.Zone.Config
import DnsServer.Zone.Lookup
import DnsServer.Zone.Wire
import DnsServer.Lib.Utf8Validity
import DnsServer.Dns.RDataBytes
import DnsServer.Zone.Enclosing
import DnsServer.Zone.Owners
import DnsServer.Zone.Loading
import DnsServer.Dnssec.KeyTag
import DnsServer.Dnssec.Soundness
import DnsServer.Resolver.Chase
import DnsServer.Dns.Pointers
import DnsServer.Lib.Fronts
import DnsServer.Dns.NameReach
import DnsServer.Dns.RDataReach
import DnsServer.Lib.Rounds
import DnsServer.Dns.NameRounds
import DnsServer.Resolver.Choice
import DnsServer.Lib.Process
import DnsServer.Lib.Pool
import DnsServer.Resolver.Interleaved
import DnsServer.Resolver.Alone
import DnsServer.Resolver.Provenance
import DnsServer.Server.Tasks
import DnsServer.Server.System
import DnsServer.Lib.LruRetention
import DnsServer.CacheRetention
import DnsServer.Lib.SelfDelimiting
import DnsServer.Dnssec.SignedForms
import DnsServer.Dnssec.DsDigest
import DnsServer.Zone.NameText
import DnsServer.Resolver.Hierarchy
import DnsServer.Resolver.Resolution
import DnsServer.Zone.Served
import DnsServer.Server.Forwarding
import DnsServer.Startup
import DnsServer.Server.Configured
import DnsServer.Resolver.Recall
