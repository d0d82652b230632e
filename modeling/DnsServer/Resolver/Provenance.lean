import DnsServer.CacheHistory
import DnsServer.Lib.Pool
import DnsServer.Resolver.Interleaved
import DnsServer.Resolver.Runs

namespace DnsServer

/-- What the tasks of a server share: the cache and the clock. What was received from upstream, each
payload with its time, and the servers that were contacted are there for an observer; the code keeps no
record of them. -/
structure Shared (D : Type) where
  cache : DnsCache
  clock : Nat
  received : List (Nat × D)
  contacted : List SocketAddr

namespace Shared

variable {D : Type}

def receive (s : Shared D) (reply : Option D) : Shared D :=
  { s with received := (reply.map fun payload => (s.clock, payload)).toList ++ s.received }

def contact (s : Shared D) (server : SocketAddr) : Shared D :=
  { s with contacted := server :: s.contacted }

/-- Any answer that the surroundings can give. A lookup reads the clock twice while it holds the lock. -/
def Answers : (c : Call) → Shared D → c.Answer D → Shared D → Prop
  | .cacheLookup name recordType, s, found, s' => ∃ later, s.clock ≤ later ∧
      found = (s.cache.lookup name recordType s.clock later).1 ∧
      s' = { s with cache := (s.cache.lookup name recordType s.clock later).2, clock := later }
  | .cachePut name recordType records now, s, _, s' =>
      s' = { s with cache := s.cache.insert name recordType records now }
  | .instant, s, now, s' => now = s.clock ∧ s' = s
  | .sendTo _ server, s, _, s' => s' = s.contact server
  | .recvFrom, s, reply, s' => s' = s.receive reply
  | .connect server, s, _, s' => s' = s.contact server
  | .exchange _ server, s, reply, s' => s' = (s.contact server).receive reply
  | .unixTime, s, _, s' => s' = s
  | .bind, s, _, s' => s' = s
  | .randomU16, s, _, s' => s' = s
  | .randomUsize, s, _, s' => s' = s
  | .note _, s, _, s' => s' = s

/-- Time goes on, and what was received stays received. -/
def Later (s s' : Shared D) : Prop := s.clock ≤ s'.clock ∧ s.received ⊆ s'.received

theorem Later.refl (s : Shared D) : s.Later s := ⟨le_rfl, List.Subset.refl _⟩

theorem Later.trans {s s' s'' : Shared D} (first : s.Later s') (second : s'.Later s'') : s.Later s'' :=
  ⟨first.1.trans second.1, List.Subset.trans first.2 second.2⟩

end Shared

namespace SharedResolver

variable {D : Type} (self : SharedResolver D)

/-- The record stood in a message that had been received by that time. -/
def Heard (s : Shared D) (time : Nat) (record : DnsRecord) : Prop :=
  ∃ entry ∈ s.received, entry.1 ≤ time ∧ ∃ message, self.decode entry.2 = .ok message ∧
    record ∈ message.allRecords

/-- The record was heard from upstream with a TTL that has not grown since: what it has now, together
with the whole seconds for which it has been kept, is no more than what it had. -/
def Fresh (s : Shared D) (record : DnsRecord) : Prop :=
  ∃ original since until', self.Heard s since original ∧ since ≤ until' ∧ until' ≤ s.clock ∧
    record = original.withTtl record.ttl ∧
    record.ttl.toNat + (until' - since) / NANOS_PER_SEC ≤ original.ttl.toNat

/-- A root server, or a server whose address stood in a record from upstream. -/
def Known (s : Shared D) (server : SocketAddr) : Prop :=
  server ∈ rootServers ∨ ∃ record, self.Heard s s.clock record ∧ server ∈ addressesOf [record]

/-- What every call keeps: the past is past, the cache holds nothing but records from upstream, none of
them for longer than its TTL, and only servers were contacted that the resolver knows. -/
structure Holds (resolver : SharedResolver D) (s : Shared D) : Prop where
  past : ∀ entry ∈ s.received, entry.1 ≤ s.clock
  stored : ∀ key entry, s.cache.peek key = some entry → entry.insertedAt ≤ s.clock ∧
    entry.ttl = min (DnsCache.minTtl entry.records) DnsCache.MAX_TTL * NANOS_PER_SEC ∧
    ∀ record ∈ entry.records, resolver.Heard s entry.insertedAt record
  contacted : ∀ server ∈ s.contacted, resolver.Known s server

/-- The payload has come in from upstream. -/
def Arrived (s : Shared D) (payload : D) : Prop := ∃ entry ∈ s.received, entry.1 ≤ s.clock ∧ entry.2 = payload

/-- All of the records were heard by now. -/
def AllHeard (s : Shared D) (records : List DnsRecord) : Prop := ∀ record ∈ records, self.Heard s s.clock record

variable {self} {s s' : Shared D}

theorem Heard.later {time time' : Nat} {record : DnsRecord} (heard : self.Heard s time record)
    (grown : s.received ⊆ s'.received) (after : time ≤ time') : self.Heard s' time' record := by
  obtain ⟨entry, member, before, message⟩ := heard
  exact ⟨entry, grown member, before.trans after, message⟩

theorem AllHeard.later {records : List DnsRecord} (heard : self.AllHeard s records) (later : s.Later s') :
    self.AllHeard s' records :=
  fun record member => (heard record member).later later.2 later.1

theorem Arrived.allHeard {payload : D} {message : DnsMessage} (arrived : Arrived s payload)
    (decoded : self.decode payload = .ok message) : self.AllHeard s message.allRecords := by
  obtain ⟨entry, member, past, rfl⟩ := arrived
  exact fun record listed => ⟨entry, member, past, message, decoded, listed⟩

theorem Fresh.later {record : DnsRecord} (fresh : self.Fresh s record) (later : s.Later s') :
    self.Fresh s' record := by
  obtain ⟨original, since, until', heard, ordered, past, same, less⟩ := fresh
  exact ⟨original, since, until', heard.later later.2 le_rfl, ordered, past.trans later.1, same, less⟩

theorem Known.later {server : SocketAddr} (known : self.Known s server) (later : s.Later s') :
    self.Known s' server := by
  refine known.imp id ?_
  rintro ⟨record, heard, address⟩
  exact ⟨record, heard.later later.2 later.1, address⟩

/-- A record that is given on at once. -/
theorem Heard.fresh {record : DnsRecord} (heard : self.Heard s s.clock record) : self.Fresh s record := by
  refine ⟨record, s.clock, s.clock, heard, le_rfl, le_rfl, rfl, ?_⟩
  rw [Nat.sub_self, Nat.zero_div, Nat.add_zero]

theorem Fresh.known {record : DnsRecord} {server : SocketAddr} (fresh : self.Fresh s record)
    (address : server ∈ addressesOf [record]) : self.Known s server := by
  obtain ⟨original, since, until', heard, ordered, past, same, _⟩ := fresh
  rw [same] at address
  exact Or.inr ⟨original, heard.later (List.Subset.refl _) (ordered.trans past), address⟩

theorem Holds.later (holds : self.Holds s) (past : ∀ entry ∈ s'.received, entry.1 ≤ s'.clock)
    (later : s.Later s')
    (stored : ∀ key entry, s'.cache.peek key = some entry → s.cache.peek key = some entry)
    (contacted : ∀ server ∈ s'.contacted, server ∈ s.contacted ∨ self.Known s server) :
    self.Holds s' where
  past := past
  stored key entry found := by
    obtain ⟨inserted, lifetime, heard⟩ := holds.stored key entry (stored key entry found)
    exact ⟨inserted.trans later.1, lifetime, fun record member => (heard record member).later later.2 le_rfl⟩
  contacted server member := by
    rcases contacted server member with before | known
    · exact (holds.contacted server before).later later
    · exact known.later later

/-- The seconds that a fresh entry still gives to its records, by a clock that is read again a little
later, together with those that have passed. -/
theorem remainingTtl_add {entry : CacheEntry} {lifetime now later : Nat} (fresh : entry.elapsed now < entry.ttl)
    (capped : entry.ttl = min lifetime DnsCache.MAX_TTL * NANOS_PER_SEC) (after : now ≤ later) :
    (entry.remainingTtl later).toNat + (now - entry.insertedAt) / NANOS_PER_SEC ≤ lifetime := by
  have short : min lifetime DnsCache.MAX_TTL ≤ lifetime := min_le_left _ _
  have capped' : entry.ttl ≤ DnsCache.MAX_TTL * NANOS_PER_SEC := by
    rw [capped]
    exact Nat.mul_le_mul_right _ (min_le_right _ _)
  have passed : entry.elapsed now ≤ entry.elapsed later := Nat.sub_le_sub_right after _
  have elapsed : entry.elapsed now = now - entry.insertedAt := rfl
  by_cases still : entry.elapsed later < entry.ttl
  · have remaining := DnsCache.remainingTtl_toNat still capped'
    rw [remaining, capped]
    have together := DnsCache.remaining_add_elapsed (capped ▸ still)
    have less := Nat.div_le_div_right (c := NANOS_PER_SEC) passed
    rw [← elapsed]
    omega
  · have none : entry.remainingTtl later = 0 := if_pos (by omega)
    rw [none, ← elapsed]
    have less := Nat.div_le_div_right (c := NANOS_PER_SEC) fresh.le
    rw [capped, Nat.mul_div_cancel _ (by decide)] at less
    change 0 + _ ≤ _
    omega

/-- The clock may go on at any time. -/
def sharing (self : SharedResolver D) : Sharing Call (Call.Answer D) (Shared D) where
  Answers := Shared.Answers
  Passes s s' := ∃ later, s.clock ≤ later ∧ s' = { s with clock := later }
  Invariant := self.Holds
  Later := Shared.Later
  refl := Shared.Later.refl
  trans _ _ _ := Shared.Later.trans
  passes := by
    rintro s _ holds ⟨later, after, rfl⟩
    have later : s.Later { s with clock := later } := ⟨after, List.Subset.refl _⟩
    refine ⟨holds.later (fun entry member => ?_) later (fun _ _ => id) (fun _ => Or.inl), later⟩
    exact (holds.past entry member).trans after

/-- What a reply from upstream has become once it is received. -/
theorem Holds.receive (holds : self.Holds s) (reply : Option D) :
    self.Holds (s.receive reply) ∧ s.Later (s.receive reply) ∧
      ∀ payload, reply = some payload → Arrived (s.receive reply) payload := by
  have later : s.Later (s.receive reply) := ⟨le_rfl, List.subset_append_right _ _⟩
  refine ⟨holds.later (fun entry member => ?_) later (fun _ _ => id) (fun _ => Or.inl), later, ?_⟩
  · rcases List.mem_append.mp member with new | old
    · obtain ⟨payload, _, rfl⟩ := Option.map_eq_some_iff.mp (Option.mem_toList.mp new)
      exact le_rfl
    · exact holds.past entry old
  · rintro payload rfl
    exact ⟨(s.clock, payload), List.mem_append_left _ (List.mem_singleton_self _), le_rfl, rfl⟩

theorem Holds.contact (holds : self.Holds s) {server : SocketAddr} (known : self.Known s server) :
    self.Holds (s.contact server) ∧ s.Later (s.contact server) := by
  refine ⟨holds.later holds.past ⟨le_rfl, List.Subset.refl _⟩ (fun _ _ => id) fun other member => ?_,
    le_rfl, List.Subset.refl _⟩
  rcases List.mem_cons.mp member with rfl | before
  · exact Or.inr known
  · exact Or.inl before

section Calls

/-! What each call gives to the task that makes it. -/

/-- A call that changes nothing that is shared. -/
theorem quiet_meets (c : Call) (quiet : ∀ (s : Shared D) a s', Shared.Answers c s a s' → s' = s) :
    self.sharing.Meets (fun _ _ => True) (perform c) s := by
  refine .perform fun s' _ holds a s'' answers => ?_
  rw [quiet s' a s'' answers]
  exact ⟨holds, Shared.Later.refl s', fun _ _ _ => trivial⟩

theorem cacheLookup_meets (name : DnsName) (recordType : RecordType) :
    self.sharing.Meets (fun found s => ∀ records, found = some records → ∀ record ∈ records,
      self.Fresh s record) (cacheLookup name recordType) s := by
  refine .perform fun s' _ holds found s'' answers => ?_
  obtain ⟨later, after, rfl, rfl⟩ := answers
  have onward : s'.Later { s' with
      cache := (s'.cache.lookup name recordType s'.clock later).2, clock := later } :=
    ⟨after, List.Subset.refl _⟩
  refine ⟨holds.later (fun entry member => (holds.past entry member).trans after) onward
    (fun key entry => DnsCache.peek_lookup_of_some) (fun _ => Or.inl), onward, ?_⟩
  intro final after' _ records found record member
  obtain ⟨entry, held, fresh, rfl⟩ := DnsCache.lookup_records found
  obtain ⟨original, kept, rfl⟩ := List.mem_map.mp member
  obtain ⟨inserted, lifetime, heard⟩ := holds.stored _ entry held
  have heard' := (heard original kept).later (List.Subset.trans onward.2 after'.2) le_rfl
  refine ⟨original, entry.insertedAt, s'.clock, heard', inserted, onward.1.trans after'.1, rfl, ?_⟩
  exact (remainingTtl_add fresh lifetime after).trans (DnsCache.minTtl_le kept)

theorem Arrived.later {payload : D} (arrived : Arrived s payload) (later : s.Later s') :
    Arrived s' payload := by
  obtain ⟨entry, member, past, same⟩ := arrived
  exact ⟨entry, later.2 member, past.trans later.1, same⟩

theorem contact_meets {server : SocketAddr} (known : self.Known s server) {c : Call}
    (contacts : ∀ (s : Shared D) a s', Shared.Answers c s a s' → s' = s.contact server) :
    self.sharing.Meets (fun _ _ => True) (perform c) s := by
  refine .perform fun s' after holds a s'' answers => ?_
  obtain ⟨kept, later⟩ := holds.contact (known.later after)
  rw [contacts s' a s'' answers]
  exact ⟨kept, later, fun _ _ _ => trivial⟩

theorem recvFrom_meets :
    self.sharing.Meets (fun reply s => ∀ payload, reply = some payload → Arrived s payload)
      (perform .recvFrom) s := by
  refine .perform fun s' _ holds reply s'' answers => ?_
  change s'' = s'.receive reply at answers
  obtain ⟨kept, later, arrived⟩ := holds.receive reply
  rw [answers]
  exact ⟨kept, later, fun final after _ payload same => (arrived payload same).later after⟩

theorem exchange_meets {server : SocketAddr} (known : self.Known s server) (query : DnsMessage) :
    self.sharing.Meets (fun reply s => ∀ payload, reply = some payload → Arrived s payload)
      (perform (.exchange query server)) s := by
  refine .perform fun s' after holds reply s'' answers => ?_
  change s'' = (s'.contact server).receive reply at answers
  obtain ⟨contacted, first⟩ := holds.contact (known.later after)
  obtain ⟨kept, second, arrived⟩ := contacted.receive reply
  rw [answers]
  exact ⟨kept, first.trans second, fun final later _ payload same => (arrived payload same).later later⟩

theorem cacheInsert_meets {records : List DnsRecord} (name : DnsName) (recordType : RecordType)
    (heard : self.AllHeard s records) :
    self.sharing.Meets (fun _ _ => True) (cacheInsert name recordType records) s := by
  refine .bind (P := fun now s => now ≤ s.clock ∧ ∀ record ∈ records, self.Heard s now record) ?_ ?_
  · refine .perform fun s' after holds now s'' answers => ?_
    obtain ⟨rfl, rfl⟩ := answers
    refine ⟨holds, Shared.Later.refl s'', fun final later _ => ⟨later.1, fun record member => ?_⟩⟩
    exact (heard record member).later (List.Subset.trans after.2 later.2) after.1
  · intro now s₁ _ _ known
    refine .perform fun s' after holds _ s'' answers => ?_
    obtain ⟨past, heard'⟩ := known s' after holds
    change s'' = { s' with cache := s'.cache.insert name recordType records now } at answers
    have onward : s'.Later { s' with cache := s'.cache.insert name recordType records now } :=
      ⟨le_rfl, List.Subset.refl _⟩
    rw [answers]
    refine ⟨⟨holds.past, fun key entry found => ?_, holds.contacted⟩, onward, fun _ _ _ => trivial⟩
    by_cases expired : DnsCache.minTtl records = 0
    · rw [DnsCache.insert_ineffective expired] at found
      exact holds.stored key entry found
    · rw [DnsCache.insert_effective expired] at found
      by_cases same : key = ⟨name, recordType⟩
      · rw [same, Lru.peek_put_self] at found
        cases found
        exact ⟨past, rfl, heard'⟩
      · exact holds.stored key entry (Lru.peek_put_of_some same found)

end Calls

section Queries

theorem decoded_meets {payload : D} (arrived : Arrived s payload) :
    self.sharing.Meets (fun message s => ∀ m, message = .ok m → self.AllHeard s m.allRecords)
      (self.decoded payload) s := by
  unfold decoded
  split
  · rename_i message decoded
    refine .ret fun s' after _ => ?_
    rintro m ⟨⟩
    exact (arrived.later after).allHeard decoded
  · exact .ret fun s' _ _ m other => by cases other
  · exact .panic
  · exact .hang

theorem queryTcp_meets {server : SocketAddr} (known : self.Known s server) (name : DnsName)
    (recordType : RecordType) :
    self.sharing.Meets (fun response s => self.AllHeard s response.allRecords)
      (self.queryTcp name recordType server) s := by
  refine .bind (contact_meets known fun _ _ _ => id) fun connected s₁ after₁ _ _ => ?_
  cases connected with
  | false => exact .fail _
  | true =>
    refine .bind (quiet_meets .randomU16 fun _ _ _ => id) fun id s₂ after₂ _ _ => ?_
    refine .bind (quiet_meets _ fun _ _ _ => fun same => same) fun _ s₃ after₃ _ _ => ?_
    have known' := ((known.later after₁).later after₂).later after₃
    refine .bind (exchange_meets known' _) fun reply s₄ _ holds arrived => ?_
    cases reply with
    | none => exact .fail _
    | some payload =>
      refine .bind (decoded_meets (arrived.now holds payload rfl)) fun message s₅ _ _ heard => ?_
      cases message with
      | error _ => exact .fail _
      | ok response => exact .ret (heard.mono fun _ _ _ all => all response rfl)

theorem offsets_meets (count : Nat) (tries : List Nat) :
    self.sharing.Meets (fun _ _ => True) (offsets count tries) s := by
  induction tries generalizing s with
  | nil => exact .ret fun _ _ _ => trivial
  | cons i tries ih =>
    refine .bind (quiet_meets .randomUsize fun _ _ _ => id) fun random s₁ _ _ _ => ?_
    split
    · exact .panic
    · exact .bind ih fun rest _ _ _ _ => .ret fun _ _ _ => trivial

theorem tryServer_meets {server : SocketAddr} (known : self.Known s server) (id : UInt16) (name : DnsName)
    (recordType : RecordType) :
    self.sharing.Meets (fun tried s => ∀ response, tried = some response →
      self.AllHeard s response.allRecords) (self.tryServer id name recordType server) s := by
  refine .bind (quiet_meets _ fun _ _ _ same => same) fun _ s₁ after₁ _ _ => ?_
  refine .bind (contact_meets (known.later after₁) fun _ _ _ same => same) fun sent s₂ after₂ _ _ => ?_
  have none : ∀ s, self.sharing.Meets (fun tried s => ∀ response, tried = some response →
      self.AllHeard s response.allRecords) (pure none : Tasked D (Option DnsMessage)) s :=
    fun _ => .ret fun _ _ _ _ other => by cases other
  cases sent with
  | false => exact none _
  | true =>
    refine .bind recvFrom_meets fun reply s₃ after₃ holds arrived => ?_
    cases reply with
    | none => exact none _
    | some payload =>
      refine .bind (decoded_meets (arrived.now holds payload rfl)) fun message s₄ after₄ holds heard => ?_
      cases message with
      | error _ => exact none _
      | ok response =>
        have taken : ∀ s', s₄.Later s' → self.sharing.Meets (fun tried s => ∀ response,
            tried = some response → self.AllHeard s response.allRecords)
            (pure (some response) : Tasked D (Option DnsMessage)) s' := by
          refine fun s' after => .ret fun s'' onward holds => ?_
          rintro _ ⟨⟩
          exact heard s'' (after.trans onward) holds response rfl
        dsimp only
        split
        · split
          · have known' := (((known.later after₁).later after₂).later after₃).later after₄
            refine .bind (queryTcp_meets known' name recordType).attempt fun caught s₅ after₅ _ tcp => ?_
            cases caught with
            | error _ => exact taken _ after₅
            | ok tcpResponse =>
              refine .ret (tcp.mono fun s' _ _ all => ?_)
              rintro _ ⟨⟩
              exact all tcpResponse rfl
          · exact taken _ (Shared.Later.refl _)
        · exact none _

theorem tryServers_meets {nameservers : List SocketAddr} (known : ∀ server ∈ nameservers, self.Known s server)
    (id : UInt16) (name : DnsName) (recordType : RecordType) (indices : List Nat) :
    self.sharing.Meets (fun response s => self.AllHeard s response.allRecords)
      (self.tryServers id name recordType nameservers indices) s := by
  induction indices generalizing s with
  | nil => exact .fail _
  | cons i indices ih =>
    rw [tryServers]
    rcases at' : nameservers[i]? with _ | server
    · exact .panic
    · have member := List.mem_of_getElem? at'
      refine .bind (tryServer_meets (known server member) id name recordType) fun tried s₁ after₁ _ heard => ?_
      cases tried with
      | none => exact ih fun server member => (known server member).later after₁
      | some response =>
        refine .bind (quiet_meets _ fun _ _ _ same => same) fun _ s₂ after₂ _ _ => ?_
        exact .ret ((heard.later after₂).mono fun _ _ _ all => all response rfl)

theorem queryNameservers_meets {nameservers : List SocketAddr}
    (known : ∀ server ∈ nameservers, self.Known s server) (name : DnsName) (recordType : RecordType) :
    self.sharing.Meets (fun response s => self.AllHeard s response.allRecords)
      (self.queryNameservers name recordType nameservers) s := by
  refine .bind (quiet_meets .bind fun _ _ _ => id) fun bound s₁ after₁ _ _ => ?_
  cases bound with
  | false => exact .fail _
  | true =>
    refine .bind (quiet_meets .randomU16 fun _ _ _ => id) fun id s₂ after₂ _ _ => ?_
    refine .bind (offsets_meets _ _) fun indices s₃ after₃ _ _ => ?_
    refine tryServers_meets (fun server member => ?_) id name recordType indices
    exact (((known server member).later after₁).later after₂).later after₃

end Queries

section Rounds

/-- What the resolver goes on with was heard from upstream. -/
def AbsorbedSound (self : SharedResolver D) (absorbed : Absorbed) (s : Shared D) : Prop :=
  match absorbed with
  | .answers result => self.AllHeard s result
  | .aliases cnames => self.AllHeard s cnames
  | .referral _ glueAddrs => ∀ server ∈ glueAddrs, self.Known s server

theorem cacheEach_meets {α : Type} (recordType : RecordType) (pick : DnsRecord → Option α)
    {records : List DnsRecord} (heard : self.AllHeard s records) :
    self.sharing.Meets (fun found _ => ∀ x ∈ found, ∃ record ∈ records, pick record = some x)
      (cacheEach recordType pick records) s := by
  induction records generalizing s with
  | nil => exact .ret fun _ _ _ x member => absurd member List.not_mem_nil
  | cons record records ih =>
    have rest : self.AllHeard s records := fun other member => heard other (List.mem_cons_of_mem _ member)
    have wider : ∀ x, (∃ other ∈ records, pick other = some x) →
        ∃ other ∈ record :: records, pick other = some x := by
      rintro x ⟨other, member, picked⟩
      exact ⟨other, List.mem_cons_of_mem _ member, picked⟩
    rw [cacheEach]
    rcases picked : pick record with _ | found
    · exact (ih rest).weaken fun found _ _ _ origin x member => wider x (origin x member)
    · have one : self.AllHeard s [record] := fun other member =>
        List.mem_singleton.mp member ▸ heard record List.mem_cons_self
      refine .bind (cacheInsert_meets record.name recordType one) fun _ s₁ after₁ _ _ => ?_
      refine .bind (ih (rest.later after₁)) fun more s₂ _ _ origins => .ret ?_
      refine origins.mono fun _ _ _ origin x member => ?_
      rcases List.mem_cons.mp member with rfl | member
      · exact ⟨record, List.mem_cons_self, picked⟩
      · exact wider x (origin x member)

theorem glueFor_known {record : DnsRecord} {nsNames : List DnsName} {server : SocketAddr}
    (heard : self.Heard s s.clock record) (glue : record.glueFor nsNames = some server) :
    self.Known s server := by
  refine Or.inr ⟨record, heard, ?_⟩
  unfold DnsRecord.glueFor at glue
  split at glue
  · split at glue
    · rename_i addr isA
      split at glue
      · cases glue
        simp only [addressesOf, List.filterMap_cons, isA, List.filterMap_nil, List.mem_singleton]
      · cases glue
    · cases glue
  · cases glue

theorem absorb_meets {response : DnsMessage} (heard : self.AllHeard s response.allRecords) (name : DnsName)
    (recordType : RecordType) :
    self.sharing.Meets self.AbsorbedSound (self.absorb name recordType response) s := by
  have answers : self.AllHeard s response.answers := fun record member =>
    heard record (List.mem_append_left _ (List.mem_append_left _ member))
  have authorities : self.AllHeard s response.authorities := fun record member =>
    heard record (List.mem_append_left _ (List.mem_append_right _ member))
  have additional : self.AllHeard s response.additional := fun record member =>
    heard record (List.mem_append_right _ member)
  have typed : self.AllHeard s (response.typedAnswers recordType) := fun record member =>
    answers record (List.mem_filter.mp member).1
  have aliases : self.AllHeard s (response.aliasAnswers recordType) := fun record member =>
    answers record (List.mem_filter.mp member).1
  unfold absorb
  split
  · exact .fail _
  split
  · refine .bind (P := fun _ _ => True) ?_ fun _ s₁ after₁ _ _ => ?_
    · unfold validateAnswers
      split
      · refine .bind (quiet_meets .unixTime fun _ _ _ => id) fun now s₁ _ _ _ => ?_
        refine .bind (quiet_meets (.note _) fun _ _ _ => id) fun _ s₂ _ _ _ => ?_
        split
        · exact .fail _
        · exact .ret fun _ _ _ => trivial
      · exact .ret fun _ _ _ => trivial
    · unfold cacheAnswers
      split
      · refine .bind (cacheInsert_meets name recordType (typed.later after₁)) fun _ s₂ after₂ _ _ => ?_
        exact .ret (.of_stable ((typed.later after₁).later after₂) fun _ later heard => heard.later later)
      split
      · refine .bind (cacheInsert_meets name .CNAME (aliases.later after₁)) fun _ s₂ after₂ _ _ => ?_
        exact .ret (.of_stable ((aliases.later after₁).later after₂) fun _ later heard => heard.later later)
      · exact .ret fun _ _ _ record member => absurd member List.not_mem_nil
  · refine .bind (cacheEach_meets .NS DnsRecord.nsTarget authorities) fun newNsNames s₁ after₁ _ _ => ?_
    refine .bind (cacheEach_meets .A (fun record => record.glueFor newNsNames) (additional.later after₁))
      fun glueAddrs s₂ after₂ _ origins => .ret ?_
    intro s' after holds server member
    obtain ⟨record, listed, glue⟩ := origins s' after holds server member
    exact glueFor_known (((additional.later after₁).later after₂).later after record listed) glue

variable {rec : DnsName → RecordType → Tasked D (List DnsRecord)}
  (below : ∀ name recordType s, self.sharing.Meets (fun records s => ∀ record ∈ records, self.Fresh s record)
    (rec name recordType) s)

theorem addressesOf_known {records : List DnsRecord} {server : SocketAddr}
    (fresh : ∀ record ∈ records, self.Fresh s record) (member : server ∈ addressesOf records) :
    self.Known s server := by
  obtain ⟨record, listed, address⟩ := List.mem_filterMap.mp member
  refine (fresh record listed).known ?_
  exact List.mem_filterMap.mpr ⟨record, List.mem_singleton_self _, address⟩

include below

theorem nsAddresses_meets (nsNames : List DnsName) :
    self.sharing.Meets (fun servers s => ∀ server ∈ servers, self.Known s server)
      (nsAddresses rec nsNames) s := by
  induction nsNames generalizing s with
  | nil => exact .ret fun _ _ _ server member => absurd member List.not_mem_nil
  | cons nsName nsNames ih =>
    refine .bind (P := fun servers s => ∀ server ∈ servers, self.Known s server) ?_ fun found s₁ _ _ known => ?_
    · refine .bind (cacheLookup_meets nsName .A) fun cached s₁ _ _ fresh => ?_
      cases cached with
      | some cached =>
        exact .ret (fresh.mono fun _ _ _ all server member => addressesOf_known (all cached rfl) member)
      | none =>
        refine .bind (below nsName .A _).attempt fun caught s₂ _ _ fresh => ?_
        cases caught with
        | ok records =>
          exact .ret (fresh.mono fun _ _ _ all server member => addressesOf_known (all records rfl) member)
        | error _ => exact .ret fun _ _ _ server member => absurd member List.not_mem_nil
    · split
      · exact ih
      · exact .ret known

variable (P : Shared D → DnsRecord → Prop) (stays : ∀ {s s' record}, P s record → s.Later s' → P s' record)
  (covers : ∀ {s record}, self.Fresh s record → P s record)

include stays covers

theorem chainRounds_meets (targetType : RecordType) (rounds : Nat) {chain : List DnsRecord}
    (currentName : DnsName) (held : ∀ record ∈ chain, P s record) :
    self.sharing.Meets (fun records s => ∀ record ∈ records, P s record)
      (chainRounds rec targetType rounds chain currentName) s := by
  induction rounds generalizing chain currentName s with
  | zero => exact .ret fun s' after _ record member => stays (held record member) after
  | succ rounds ih =>
    refine .bind (below currentName targetType s) fun records s₁ after₁ _ fresh => ?_
    split
    · refine .ret fun s' after holds record member => ?_
      rcases List.mem_append.mp member with old | new
      · exact stays (stays (held record old) after₁) after
      · exact covers (fresh s' after holds record new)
    · refine .bind (below currentName .CNAME s₁).attempt fun caught s₂ after₂ holds fresh => ?_
      have held' : ∀ record ∈ chain, P s₂ record := fun record member =>
        stays (stays (held record member) after₁) after₂
      cases caught with
      | error _ => exact .ret fun s' after _ record member => stays (held' record member) after
      | ok cnameRecords =>
        refine ih _ (Resolver.extendChain_all held' fun record member => ?_)
        exact covers (fresh.now holds cnameRecords rfl record member)

theorem followCnameChain_meets {cnames : List DnsRecord} (targetType : RecordType)
    (held : ∀ record ∈ cnames, P s record) :
    self.sharing.Meets (fun records s => ∀ record ∈ records, P s record)
      (followCnameChain rec cnames targetType) s := by
  unfold followCnameChain
  split
  · split
    · exact chainRounds_meets below P stays covers targetType _ _ held
    · exact .fail _
  · exact .fail _

omit stays covers

/-- From known servers a round goes on to known servers, or it ends with records that were heard. -/
theorem referralStep_meets (name : DnsName) (recordType : RecordType) {walk : Walk}
    (known : ∀ server ∈ walk.nameservers, self.Known s server) :
    self.sharing.Meets (Sum.elim (fun walk s => ∀ server ∈ walk.nameservers, self.Known s server)
      fun records s => ∀ record ∈ records, self.Fresh s record)
      (self.referralStep rec name recordType walk) s := by
  refine .bind (queryNameservers_meets known name recordType) fun response s₁ _ holds heard => ?_
  refine .bind (absorb_meets (heard.now holds) name recordType) fun absorbed s₂ after₂ holds sound => ?_
  cases absorbed with
  | answers result =>
    exact .ret (sound.mono fun _ _ _ all record member => (all record member).fresh)
  | aliases cnames =>
    refine .bind (followCnameChain_meets below self.Fresh Fresh.later id recordType ?_)
      fun result _ _ _ fresh => .ret fresh
    exact fun record member => (sound.now holds record member).fresh
  | referral newNsNames glueAddrs =>
    change self.sharing.Meets _ (followReferral rec walk _ newNsNames glueAddrs) _
    unfold followReferral
    split
    · split
      · exact .ret fun _ _ _ record member => absurd member List.not_mem_nil
      · exact .fail _
    split
    · exact .fail _
    split
    · exact .ret sound
    · refine .bind (nsAddresses_meets below newNsNames) fun resolvedAddrs _ _ _ known => ?_
      split
      · exact .fail _
      · exact .ret known

end Rounds

theorem resolveRecursive_meets (fuel : Nat) (name : DnsName) (recordType : RecordType) (depth : Nat)
    (s : Shared D) :
    self.sharing.Meets (fun records s => ∀ record ∈ records, self.Fresh s record)
      (self.resolveRecursive fuel name recordType depth) s := by
  induction levels : MAX_RECURSION_DEPTH + 1 - depth generalizing name recordType depth s with
  | zero =>
    rw [resolveRecursive, if_pos (by omega)]
    exact .fail _
  | succ levels ih =>
    rw [resolveRecursive, if_neg (by omega)]
    have below : ∀ name recordType s, self.sharing.Meets (fun records s => ∀ record ∈ records,
        self.Fresh s record) (self.resolveRecursive fuel name recordType (depth + 1)) s :=
      fun name recordType s => ih name recordType (depth + 1) s (by omega)
    refine .loop (J := fun walk s => ∀ server ∈ walk.nameservers, self.Known s server) (fun walk s known => ?_)
      fuel fun s' _ _ server root => Or.inl root
    exact .of_henceforth fun s' after holds => referralStep_meets below name recordType (known s' after holds)

/-- The record comes from the local zones, or from upstream. -/
def Sourced (self : SharedResolver D) (s : Shared D) (record : DnsRecord) : Prop :=
  (∃ name recordType records, self.zoneStore.lookup name recordType = some records ∧ record ∈ records) ∨
    self.Fresh s record

theorem Sourced.later {record : DnsRecord} (sourced : self.Sourced s record) (later : s.Later s') :
    self.Sourced s' record :=
  sourced.imp id fun fresh => fresh.later later

theorem zoneResult_found {zones : ZoneStore} {name : DnsName} {recordType : RecordType}
    {records : List DnsRecord} (zone : zones.zoneResult name recordType = .found records) :
    zones.lookup name recordType = some records := by
  unfold ZoneStore.zoneResult at zone
  split at zone
  · rename_i found
    cases zone
    exact found
  · split at zone
    · split at zone
      · split at zone <;> cases zone
      · cases zone
    · cases zone

theorem zoneResult_followCname {zones : ZoneStore} {name : DnsName} {recordType : RecordType}
    {cnames : List DnsRecord} (zone : zones.zoneResult name recordType = .followCname cnames) :
    zones.lookup name .CNAME = some cnames := by
  unfold ZoneStore.zoneResult at zone
  split at zone
  · cases zone
  · split at zone
    · rename_i enclosing found
      split at zone
      · split at zone
        · rename_i owned
          cases zone
          rw [ZoneStore.lookup, found]
          exact owned
        · cases zone
      · cases zone
    · cases zone

/-- What the resolver gives to any task, whatever the others do meanwhile. -/
theorem resolve_meets (fuel : Nat) (name : DnsName) (recordType : RecordType) :
    self.sharing.Meets (fun records s => ∀ record ∈ records, self.Sourced s record)
      (self.resolve fuel name recordType) s := by
  have below : ∀ name recordType s, self.sharing.Meets (fun records s => ∀ record ∈ records,
      self.Fresh s record) (self.resolveRecursive fuel name recordType 1) s :=
    fun name recordType s => resolveRecursive_meets fuel name recordType 1 s
  have fresh : ∀ {s : Shared D} {records : List DnsRecord},
      self.sharing.Henceforth (fun s => ∀ record ∈ records, self.Fresh s record) s →
      self.sharing.Meets (fun records s => ∀ record ∈ records, self.Sourced s record)
        (pure records : Tasked D (List DnsRecord)) s :=
    fun fresh => .ret (fresh.mono fun _ _ _ all record member => Or.inr (all record member))
  unfold resolve
  rcases zone : self.zoneStore.zoneResult name recordType with records | cnames | _ | _
  · refine .ret fun s' _ _ record member => Or.inl ⟨name, recordType, records, ?_, member⟩
    exact zoneResult_found zone
  · refine followCnameChain_meets below self.Sourced Sourced.later Or.inr recordType ?_
    exact fun record member => Or.inl ⟨name, .CNAME, cnames, zoneResult_followCname zone, member⟩
  · exact .ret fun _ _ _ record member => absurd member List.not_mem_nil
  · refine .bind (cacheLookup_meets name recordType) fun cached s₁ _ _ found => ?_
    have recursive : ∀ s, self.sharing.Meets (fun records s => ∀ record ∈ records, self.Sourced s record)
        (self.resolveRecursive fuel name recordType 0) s :=
      fun s => (resolveRecursive_meets fuel name recordType 0 s).weaken
        fun _ _ _ _ all record member => Or.inr (all record member)
    cases cached with
    | some records => exact fresh (found.mono fun _ _ _ all => all records rfl)
    | none =>
      dsimp only
      split
      · refine .bind (cacheLookup_meets name .CNAME) fun cached s₂ _ holds found => ?_
        cases cached with
        | none => exact recursive _
        | some cnames =>
          refine followCnameChain_meets below self.Sourced Sourced.later Or.inr recordType ?_
          exact fun record member => Or.inr (found.now holds cnames rfl record member)
      · exact recursive _

end SharedResolver

end DnsServer
