import DnsServer.Dns.Message
import Mathlib.Data.List.AList

namespace DnsServer

structure Zone where
  name : DnsName
  soa : DnsRecord
  records : AList fun _ : DnsName × RecordType => List DnsRecord
  nsRecords : List DnsRecord

namespace Zone

def lookup (zone : Zone) (name : DnsName) (recordType : RecordType) : Option (List DnsRecord) :=
  if recordType = .SOA ∧ name = zone.name then some [zone.soa]
  else if recordType = .NS ∧ name = zone.name ∧ ¬zone.nsRecords.isEmpty then some zone.nsRecords
  else zone.records.lookup (name, recordType)

def contains (zone : Zone) (name : DnsName) : Bool := name.isSubdomainOf zone.name || name = zone.name

def hasName (zone : Zone) (name : DnsName) : Bool :=
  if name = zone.name then true else zone.records.keys.any fun key => key.1 = name

end Zone

/-- `max_by_key`: of several elements with the greatest key, the last. -/
def maxByKey {α : Type} (key : α → Nat) : List α → Option α
  | [] => none
  | x :: xs =>
    match maxByKey key xs with
    | some y => if key x ≤ key y then some y else some x
    | none => some x

structure ZoneStore where
  zones : List Zone

namespace ZoneStore

def findZone (store : ZoneStore) (name : DnsName) : Option Zone :=
  maxByKey (fun zone => zone.name.labelCount) (store.zones.filter fun zone => zone.contains name)

def lookup (store : ZoneStore) (name : DnsName) (recordType : RecordType) : Option (List DnsRecord) := do
  let zone ← store.findZone name
  zone.lookup name recordType

end ZoneStore

end DnsServer
