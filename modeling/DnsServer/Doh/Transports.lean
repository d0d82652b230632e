import DnsServer.Doh.Service
import DnsServer.Lib.Base64
import DnsServer.Server.Replies

namespace DnsServer

open Utf8

namespace Doh

/-- A parameter of a query string. The separators stand in neither part, save for `=` in the value. -/
structure Pair where
  key : List Char
  value : List Char
  key_plain : ∀ c ∈ key, c ≠ '&' ∧ c ≠ '='
  value_plain : ∀ c ∈ value, c ≠ '&'

def Pair.text (pair : Pair) : List Char := pair.key ++ '=' :: pair.value

/-- The parameters with `&` between them. -/
def queryString (pairs : List Pair) : String := String.ofList (['&'].intercalate (pairs.map Pair.text))

/-- The value of the first parameter with the key `dns`. -/
def firstDns (pairs : List Pair) : Option String :=
  (pairs.find? fun pair => pair.key = ['d', 'n', 's']).map fun pair => String.ofList pair.value

theorem keyValue_text (pair : Pair) : keyValue pair.text = some (pair.key, pair.value) := by
  have plain : ∀ c ∈ pair.key, decide (c ≠ '=') = true := fun c member =>
    decide_eq_true (pair.key_plain c member).2
  rw [keyValue, Pair.text, List.dropWhile_append_of_pos plain, List.takeWhile_append_of_pos plain]
  simp only [ne_eq, not_true_eq_false, decide_false, Bool.false_eq_true, not_false_eq_true,
    List.dropWhile_cons_of_neg, List.takeWhile_cons_of_neg, List.append_nil]

theorem Pair.text_plain (pair : Pair) : '&' ∉ pair.text := by
  intro member
  rcases List.mem_append.mp member with inKey | rest
  · exact (pair.key_plain _ inKey).1 rfl
  · rcases List.mem_cons.mp rest with equals | inValue
    · exact absurd equals (by decide)
    · exact pair.value_plain _ inValue rfl

/-- The splitter recovers the value from whatever parameters stand around it. -/
theorem dnsParam_queryString (pairs : List Pair) : dnsParam (queryString pairs) = firstDns pairs := by
  by_cases none : pairs = []
  · subst none
    rfl
  have plain : ∀ text ∈ pairs.map Pair.text, '&' ∉ text := by
    intro text member
    obtain ⟨pair, _, rfl⟩ := List.mem_map.mp member
    exact pair.text_plain
  have some : pairs.map Pair.text ≠ [] := fun empty => none (List.map_eq_nil_iff.mp empty)
  rw [dnsParam, queryString, String.toList_ofList, List.splitOn_intercalate '&' plain some]
  clear none plain some
  induction pairs with
  | nil => rfl
  | cons pair pairs ih =>
    rw [List.map_cons, List.findSome?_cons, keyValue_text]
    dsimp only
    by_cases dns : pair.key = ['d', 'n', 's']
    · rw [if_pos dns, firstDns, List.find?_cons, decide_eq_true dns]
      rfl
    · rw [if_neg dns, ih, firstDns, firstDns, List.find?_cons, decide_eq_false dns]

variable {σ E : Type} {engine : Engine E} {resolve : DnsName → RecordType → Prog σ ResponseCode (List DnsRecord)}
  {data : List UInt8} {query : DnsMessage} {s s' : σ}

structure Request.Gets (request : Request E) (pairs : List Pair) : Prop where
  method : request.method = .GET
  path : request.path = "/dns-query"
  query : request.query = some (queryString pairs)

structure Request.Posts (request : Request E) (data : List UInt8) : Prop where
  method : request.method = .POST
  path : request.path = "/dns-query"
  contentType : request.contentType = some (asBytes DNS_MESSAGE_TYPE)
  body : request.body = .ok data

theorem handleGet_param {request : Request E} {pairs : List Pair} (gets : request.Gets pairs)
    (inverse : ∀ bytes, engine.decode (engine.encode bytes) = .ok bytes)
    (first : firstDns pairs = some (engine.encode data)) :
    handleGet engine resolve request = processDnsQuery resolve data := by
  rw [handleGet, gets.query, Option.getD_some, dnsParam_queryString, first]
  dsimp only
  rw [inverse]

theorem handlePost_body {request : Request E} (posts : request.Posts data)
    (readable : engine.toStr (asBytes DNS_MESSAGE_TYPE) = some DNS_MESSAGE_TYPE) :
    handlePost engine resolve request = processDnsQuery resolve data := by
  have expected : ((some (asBytes DNS_MESSAGE_TYPE)).bind engine.toStr).getD "" = DNS_MESSAGE_TYPE := by
    rw [Option.bind_some, readable]
    rfl
  rw [handlePost, posts.contentType, if_neg (not_not.mpr expected), posts.body]

/-- Every accepted query gets the same bytes from the handler of the DNS server, in the response to a
POST with it, and in the response to a GET with its encoding. -/
theorem transports_agree (inverse : ∀ bytes, engine.decode (engine.encode bytes) = .ok bytes)
    (readable : engine.toStr (asBytes DNS_MESSAGE_TYPE) = some DNS_MESSAGE_TYPE)
    (accepted : DnsMessage.parse data = .ok query)
    (returns : ∀ question ∈ query.questions.head?,
      (resolve question.name question.recordType s).1.Returns)
    {pairs : List Pair} (first : firstDns pairs = some (engine.encode data))
    {get post : Request E} (gets : get.Gets pairs) (posts : post.Posts data) :
    ∃ reply s' headers headers', Server.handleQuery resolve data s = (.ok reply, s') ∧
      handleRequest engine resolve post s = (.ok ⟨.OK, headers, reply⟩, s') ∧
      handleRequest engine resolve get s = (.ok ⟨.OK, headers', reply⟩, s') := by
  obtain ⟨reply, s', handled, _⟩ := Server.handleQuery_answers accepted returns
  obtain ⟨headers, processed⟩ := processDnsQuery_of_handleQuery (E := E) handled
  have routedPost : route engine resolve post = processDnsQuery resolve data := by
    have other : ¬(post.method = .GET ∧ post.path = "/dns-query") := by
      rw [posts.method]
      exact fun both => absurd both.1 (by decide)
    rw [route, if_neg other, if_pos ⟨posts.method, posts.path⟩, handlePost_body posts readable]
  have routedGet : route engine resolve get = processDnsQuery resolve data := by
    rw [route, if_pos ⟨gets.method, gets.path⟩, handleGet_param gets inverse first]
  exact ⟨reply.serialize, s', headers, headers, handled,
    handleRequest_of_route ((congrFun routedPost s).trans processed),
    handleRequest_of_route ((congrFun routedGet s).trans processed)⟩

/-- The text of a header value that has visible ASCII, blanks and tabs only. -/
def visibleText (value : List UInt8) : Option String :=
  if value.all fun b => (32 ≤ b.toNat ∧ b.toNat < 127) ∨ b.toNat = 9 then
    some (String.ofList (value.map fun b => Char.ofNat b.toNat))
  else none

/-- The engine of RFC 4648, whose errors are all alike, and header values of visible ASCII. -/
def urlSafe : Engine Unit where
  encode := fun bytes => String.ofList (Base64.encode bytes)
  decode := fun text =>
    match Base64.decode text.toList with
    | some bytes => .ok bytes
    | none => .error ()
  toStr := visibleText

theorem urlSafe_inverse (bytes : List UInt8) : urlSafe.decode (urlSafe.encode bytes) = .ok bytes := by
  simp only [urlSafe, String.toList_ofList, Base64.decode_encode]

theorem urlSafe_readable : urlSafe.toStr (asBytes DNS_MESSAGE_TYPE) = some DNS_MESSAGE_TYPE := by
  decide +kernel

/-- The parameter that carries a message. -/
def dnsPair (bytes : List UInt8) : Pair where
  key := ['d', 'n', 's']
  value := Base64.encode bytes
  key_plain := by simp
  value_plain := by
    rintro c member rfl
    exact absurd (Base64.mem_alphabet_of_mem_encode _ member) (by decide)

def otherPair : Pair where
  key := ['c', 't']
  value := ['a', '=', 'b']
  key_plain := by simp
  value_plain := by simp

theorem transports_agree_rootQuery :
    ∃ reply s' headers headers',
      Server.handleQuery Server.failing Server.rootQuery.serialize () = (.ok reply, s') ∧
      handleRequest urlSafe Server.failing
        ⟨.POST, "/dns-query", none, some (asBytes DNS_MESSAGE_TYPE), .ok Server.rootQuery.serialize⟩ () =
          (.ok ⟨.OK, headers, reply⟩, s') ∧
      handleRequest urlSafe Server.failing
        ⟨.GET, "/dns-query", some (queryString [otherPair, dnsPair Server.rootQuery.serialize]), none, .ok []⟩ () =
          (.ok ⟨.OK, headers', reply⟩, s') :=
  have first : firstDns [otherPair, dnsPair Server.rootQuery.serialize] =
      some (urlSafe.encode Server.rootQuery.serialize) := rfl
  have returns : ∀ question ∈ Server.rootQuery.questions.head?,
      (Server.failing question.name question.recordType ()).1.Returns := fun _ _ => trivial
  transports_agree urlSafe_inverse urlSafe_readable Server.parse_rootQuery returns first ⟨rfl, rfl, rfl⟩
    ⟨rfl, rfl, rfl, rfl⟩

end Doh

end DnsServer
