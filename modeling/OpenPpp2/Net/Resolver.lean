import Mathlib.Data.List.Infix
import OpenPpp2.Lib.Decimal
import OpenPpp2.Lib.Run

/-!
# The built-in resolver

`vdns.cpp`: a request asks for the addresses of both families under two transaction ids, and
collects what the responses carry until both have come or a timer fires.
-/

namespace OpenPpp2.Net.Resolver

open Lib.Run Lib.Decimal List Function

abbrev Text := List UInt8

abbrev Id := BitVec 16

def caseInsensitiveEqual (left right : Text) : Bool := left.map toLower = right.map toLower

/-- `IsReverseQuery`, of a name under `.ip6.arpa` or `.in-addr.arpa`. -/
def isReverseQuery (hostname : Text) : Bool :=
  let hostname := hostname.takeWhile (· ≠ 0)
  let ip6 : Text := [46, 105, 112, 54, 46, 97, 114, 112, 97]
  let inAddr : Text := [46, 105, 110, 45, 97, 100, 100, 114, 46, 97, 114, 112, 97]
  hostname.length < 64 && (ip6.length < hostname.length && ip6.isSuffixOf hostname ||
    inAddr.length < hostname.length && inAddr.isSuffixOf hostname)

inductive RecordType where
  | a
  | aaaa
  | cname
  | other
  deriving DecidableEq, Repr

/-- A record of the answer section; `address` is its data when it is of the record's type. -/
structure ResourceRecord (Address : Type) where
  internet : Bool
  type : RecordType
  ttl : Nat
  address : Option Address

structure Message (Address : Type) where
  id : Id
  qr : Bool
  rCode : BitVec 16
  questions : List Text
  answers : List (ResourceRecord Address)

/-- `has_cacheable_terminal` and `min_positive_ttl`. -/
structure Tally where
  cacheable : Bool := false
  least : Nat := 4294967295

def Tally.note (tally : Tally) (ttl : Nat) (terminal : Bool) : Tally :=
  if ttl < 1 then { tally with least := 0 }
  else if tally.least ≠ 0 then ⟨tally.cacheable || terminal, min tally.least ttl⟩
  else tally

section Request

variable {Bytes Address : Type}

def collect (taken : Tally × List Address) (record : ResourceRecord Address) :
    Tally × List Address :=
  if !record.internet then taken
  else match record.type, record.address with
    | .a, some address | .aaaa, some address =>
      (taken.1.note record.ttl true, taken.2 ++ [address])
    | .cname, _ => (taken.1.note record.ttl false, taken.2)
    | _, _ => taken

/-- The transaction id, the addresses and the time to live of a response to the question. -/
def processAResponseAddresses (message : Message Address) (expected : Text) :
    Option (Id × List Address × Nat) :=
  if !message.qr ∨ message.rCode ≠ 0 then none
  else match message.questions with
    | [] => none
    | question :: _ =>
      if isReverseQuery question then none
      else if !caseInsensitiveEqual question expected then none
      else
        let (tally, addresses) := message.answers.foldl collect ({}, [])
        let cached := tally.cacheable ∧ tally.least ≠ 4294967295
        some (message.id, addresses, if cached then tally.least else 0)

inductive State where
  | pending
  | finished
  | timedOut
  | cancelled
  deriving DecidableEq, Repr

/-- `handed` and `stored` are what the callback and the cache got; `received` lists the datagrams
of the pending request. -/
structure RequestContext (Bytes Address : Type) where
  hostname : Text
  aId : Id
  aaaaId : Id
  ttlCap : Nat
  aReceived : Bool := false
  aaaaReceived : Bool := false
  addresses : List Address := []
  minResponseTtl : Nat := 0
  uncacheableResponseSeen : Bool := false
  completion : State := .pending
  mergeTimer : Bool := false
  handed : List Address := []
  stored : List Address := []
  received : List Bytes := []

namespace RequestContext

variable (c : RequestContext Bytes Address)

def cache : List Address :=
  if c.ttlCap < 1 ∨ c.minResponseTtl < 1 ∨ c.uncacheableResponseSeen then [] else c.addresses

def finish (timeout : Bool) : RequestContext Bytes Address :=
  if c.completion ≠ .pending then c
  else { c with
    completion := if timeout then .timedOut else .finished
    mergeTimer := false
    handed := c.addresses
    stored := if !timeout && (c.aReceived || c.aaaaReceived) && !isReverseQuery c.hostname then
      c.cache else [] }

def merge (ack : Id) (addresses : List Address) (ttl : Nat) : RequestContext Bytes Address :=
  { c with
    addresses := c.addresses ++ addresses
    minResponseTtl := if 0 < ttl then
      (if c.minResponseTtl < 1 then ttl else min c.minResponseTtl ttl) else c.minResponseTtl
    uncacheableResponseSeen := c.uncacheableResponseSeen || (ttl == 0 && !addresses.isEmpty)
    aReceived := c.aReceived || ack == c.aId
    aaaaReceived := c.aaaaReceived || (ack != c.aId && ack == c.aaaaId) }

def conclude : RequestContext Bytes Address :=
  if (c.aId = 0 ∨ c.aReceived) ∧ (c.aaaaId = 0 ∨ c.aaaaReceived) then c.finish false
  else { c with mergeTimer := true }

variable (decode : Bytes → Option (Message Address))

/-- `DNS_ProcessAResponseAddresses` on the bytes of a datagram. -/
def response (bytes : Bytes) : Option (Id × List Address × Nat) :=
  (decode bytes).bind fun message => processAResponseAddresses message c.hostname

def hear (bytes : Bytes) : RequestContext Bytes Address :=
  { c with received := bytes :: c.received }

def onResponse (bytes : Bytes) : RequestContext Bytes Address :=
  if c.completion ≠ .pending then c
  else match c.response decode bytes with
    | some (ack, addresses, ttl) => ((c.hear bytes).merge ack addresses ttl).conclude
    | none => (c.hear bytes).conclude

inductive Event (Bytes : Type) where
  | datagram (bytes : Bytes)
  | mergeTimer
  | timeout
  | cancel

def step (c : RequestContext Bytes Address) : Event Bytes → RequestContext Bytes Address
  | .datagram bytes => c.onResponse decode bytes
  | .mergeTimer => if c.mergeTimer then c.finish false else c
  | .timeout => c.finish true
  | .cancel => if c.completion = .pending then { c with completion := .cancelled } else c

/-- The response has one of the ids of the request and its question. -/
def Own (message : Message Address) : Prop :=
  (message.id = c.aId ∨ message.id = c.aaaaId) ∧ message.qr ∧
    ∃ question rest, message.questions = question :: rest ∧
      caseInsensitiveEqual question c.hostname

/-- The address stands in an answer of a response to the request. -/
def Sourced (address : Address) : Prop :=
  ∃ bytes ∈ c.received, ∃ message, decode bytes = some message ∧ c.Own message ∧
    ∃ record ∈ message.answers, record.address = some address

/-- No datagram that passes the parser has a foreign id. -/
def Allowed (c : RequestContext Bytes Address) : Event Bytes → Prop
  | .datagram bytes => ∀ ack addresses ttl, c.response decode bytes = some (ack, addresses, ttl) →
      ack = c.aId ∨ ack = c.aaaaId
  | _ => True

end RequestContext

theorem mem_collect (records : List (ResourceRecord Address)) (taken : Tally × List Address)
    (address : Address) (member : address ∈ (records.foldl collect taken).2) :
    address ∈ taken.2 ∨ ∃ record ∈ records, record.address = some address := by
  induction records generalizing taken with
  | nil => exact .inl member
  | cons record rest ih =>
    rcases ih _ member with before | ⟨other, inside, found⟩
    · unfold collect at before
      grind
    · exact .inr ⟨other, by simp [inside], found⟩

namespace RequestContext

variable {c : RequestContext Bytes Address} {decode : Bytes → Option (Message Address)}

theorem response_spec {bytes : Bytes} {ack : Id} {addresses : List Address} {ttl : Nat}
    (passed : c.response decode bytes = some (ack, addresses, ttl)) :
    ∃ message, decode bytes = some message ∧ message.id = ack ∧ message.qr ∧
      (∃ question rest, message.questions = question :: rest ∧
        caseInsensitiveEqual question c.hostname) ∧
      ∀ address ∈ addresses, ∃ record ∈ message.answers, record.address = some address := by
  obtain ⟨message, decoded, passed⟩ := Option.bind_eq_some_iff.1 passed
  refine ⟨message, decoded, ?_⟩
  have taken := mem_collect message.answers ({}, [])
  unfold processAResponseAddresses at passed
  grind

structure Clean (decode : Bytes → Option (Message Address)) (c : RequestContext Bytes Address) :
    Prop where
  addresses : ∀ address ∈ c.addresses, c.Sourced decode address
  handed : c.handed ⊆ c.addresses
  stored : c.stored ⊆ c.addresses

theorem Clean.finish (clean : Clean decode c) (timeout : Bool) :
    Clean decode (c.finish timeout) := by
  have part : c.cache ⊆ c.addresses := by
    unfold cache
    split_ifs <;> simp
  unfold RequestContext.finish
  by_cases settled : c.completion ≠ .pending
  · rwa [if_pos settled]
  · rw [if_neg settled]
    refine ⟨clean.addresses, Subset.refl _, ?_⟩
    by_cases kept : (!timeout && (c.aReceived || c.aaaaReceived) && !isReverseQuery c.hostname)
    · rwa [if_pos kept]
    · rw [if_neg kept]
      exact nil_subset _

theorem Clean.conclude (clean : Clean decode c) : Clean decode c.conclude := by
  unfold RequestContext.conclude
  split_ifs
  · exact clean.finish false
  · exact ⟨clean.addresses, clean.handed, clean.stored⟩

theorem Clean.onResponse (clean : Clean decode c) (bytes : Bytes)
    (allowed : Allowed decode c (.datagram bytes)) : Clean decode (c.onResponse decode bytes) := by
  have earlier : ∀ address, c.Sourced decode address → (c.hear bytes).Sourced decode address :=
    fun address ⟨source, member, found⟩ => ⟨source, mem_cons_of_mem _ member, found⟩
  unfold RequestContext.onResponse
  split_ifs with settled
  · exact clean
  · cases passed : c.response decode bytes with
    | none =>
      exact .conclude ⟨fun address member => earlier address (clean.addresses address member),
        clean.handed, clean.stored⟩
    | some found =>
      obtain ⟨ack, addresses, ttl⟩ := found
      obtain ⟨message, decoded, same, reply, question, held⟩ := response_spec passed
      have own := same ▸ allowed ack addresses ttl passed
      refine conclude ⟨fun address member => ?_, ?_, ?_⟩
      · cases mem_append.1 member with
        | inl before => exact earlier address (clean.addresses address before)
        | inr new =>
          exact ⟨bytes, mem_cons_self, message, decoded, ⟨own, reply, question⟩, held address new⟩
      · exact Subset.trans clean.handed (subset_append_left _ _)
      · exact Subset.trans clean.stored (subset_append_left _ _)

theorem Clean.step (clean : Clean decode c) (event : Event Bytes)
    (allowed : Allowed decode c event) : Clean decode (c.step decode event) := by
  cases event with
  | datagram bytes => exact clean.onResponse bytes allowed
  | mergeTimer =>
    simp only [RequestContext.step]
    split_ifs
    · exact clean.finish false
    · exact clean
  | timeout => exact clean.finish true
  | cancel =>
    simp only [RequestContext.step]
    split_ifs
    · exact ⟨clean.addresses, clean.handed, clean.stored⟩
    · exact clean

def collected (c : RequestContext Bytes Address) : List Address × Nat × Bool × Bool :=
  (c.addresses, c.minResponseTtl, c.aReceived, c.aaaaReceived)

theorem collected_conclude : c.conclude.collected = c.collected := by
  unfold conclude finish
  split_ifs <;> rfl

/-- As long as no datagram with a foreign id passes the parser, every address that is handed over or
stored stands in an answer to the request, and a datagram with a foreign id changes nothing. -/
theorem resolver_accepts_own_answers (decode : Bytes → Option (Message Address)) (hostname : Text)
    (aId aaaaId : Id) (ttlCap : Nat) (events : List (Event Bytes))
    (guarded : Guarded (step decode) (Allowed decode) { hostname, aId, aaaaId, ttlCap } events) :
    let c := run (step decode) { hostname, aId, aaaaId, ttlCap } events
    (∀ address, address ∈ c.handed ∨ address ∈ c.stored → c.Sourced decode address) ∧
      ∀ bytes message, decode bytes = some message →
        message.id ≠ c.aId → message.id ≠ c.aaaaId → Allowed decode c (.datagram bytes) →
        (c.onResponse decode bytes).collected = c.collected := by
  have clean := guarded_invariant (fun _ event allowed clean => Clean.step clean event allowed)
    guarded ⟨nofun, nil_subset _, nil_subset _⟩
  refine ⟨fun address given => clean.addresses address ?_, ?_⟩
  · exact given.elim (fun member => clean.handed member) fun member => clean.stored member
  · intro bytes message decoded notA notAaaa allowed
    unfold onResponse
    split_ifs with settled
    · rfl
    · cases passed : response _ decode bytes with
      | none => exact collected_conclude
      | some found =>
        obtain ⟨heard, same, named, _⟩ := response_spec passed
        cases decoded.symm.trans same
        cases allowed _ _ _ passed with
        | inl own => exact absurd (named.trans own) notA
        | inr own => exact absurd (named.trans own) notAaaa

/-- A response to the question under a foreign id: its address is collected, and handed over once the
two answers have come. -/
theorem foreign_id_is_collected :
    let forged : Message Nat := ⟨9, true, 0, [[97]], [⟨true, .a, 60, some 666⟩]⟩
    let decode : Nat → Option (Message Nat) := fun bytes =>
      some (if bytes = 0 then forged else ⟨BitVec.ofNat 16 bytes, true, 0, [[97]], []⟩)
    let c := run (step decode) { hostname := [97], aId := 1, aaaaId := 2, ttlCap := 60 }
      [.datagram 0, .datagram 1, .datagram 2]
    c.handed = [666] ∧ c.stored = [666] ∧ forged.id ≠ c.aId ∧ forged.id ≠ c.aaaaId := by
  decide +kernel

theorem resolver_accepts_own_answers_early :
    let decode : Nat → Option (Message Nat) := fun bytes =>
      some ⟨BitVec.ofNat 16 bytes, true, 0, [[65]], [⟨true, .a, 60, some bytes⟩]⟩
    let c := run (step decode) { hostname := [97], aId := 1, aaaaId := 2, ttlCap := 60 }
      [.datagram 1, .mergeTimer]
    c.handed = [1] ∧ ∀ address ∈ c.handed, c.Sourced decode address := by
  intro decode c
  refine ⟨by decide +kernel, fun address member => ?_⟩
  refine (resolver_accepts_own_answers decode [97] 1 2 60 [.datagram 1, .mergeTimer]
    ⟨fun ack addresses ttl passed => ?_, trivial, trivial⟩).1 address (.inl member)
  obtain ⟨message, decoded, rfl, _⟩ := response_spec passed
  cases decoded
  exact .inl rfl

end RequestContext

end Request

open Option

variable {Address : Type}

def Message.answered (message : Message Address) : List Address × Nat :=
  let (tally, addresses) := message.answers.foldl collect ({}, [])
  (addresses, if tally.cacheable ∧ tally.least ≠ 4294967295 then tally.least else 0)

structure NamespaceRecord (Address : Type) where
  ipv4 : Bool := false
  ipv6 : Bool := false
  expiredTime : Nat := 0
  addresses : List Address := []

abbrev NamespaceRecords (Address : Type) := Text → Option (NamespaceRecord Address)

/-- What one call stores, and when: the responses are those whose addresses it has. -/
structure Entry (Address : Type) where
  hostname : Text
  responses : List (Message Address)
  addresses : List Address
  seconds : Nat
  ttlCap : Nat
  now : Nat
  ipv4 : Bool
  ipv6 : Bool

def Entry.expireTime (entry : Entry Address) : Nat :=
  entry.now + min entry.seconds entry.ttlCap * 1000

namespace RequestContext

def heard (c : RequestContext Unit Address) (responses : List (Message Address)) :
    RequestContext Unit Address :=
  responses.foldl (fun c message =>
    match processAResponseAddresses message c.hostname with
    | some (ack, addresses, ttl) => c.merge ack addresses ttl
    | none => c) c

def entry (c : RequestContext Unit Address) (responses : List (Message Address)) (now : Nat) :
    Option (Entry Address) :=
  let c := c.heard responses
  if c.cache.isEmpty then none
  else some
    { hostname := c.hostname, responses, addresses := c.addresses, seconds := c.minResponseTtl
      ttlCap := c.ttlCap, now, ipv4 := c.aReceived, ipv6 := c.aaaaReceived }

end RequestContext

/-- What `AddCache` stores for a response whose first question asks for the A records or not. -/
def addCache (message : Message Address) (asksA : Bool) (ttlCap now : Nat) :
    Option (Entry Address) :=
  if !message.qr ∨ message.rCode ≠ 0 then none
  else match message.questions with
    | [] => none
    | question :: _ =>
      let hostname := question.map toLower
      let (addresses, seconds) := message.answered
      if isReverseQuery question ∨ hostname.isEmpty ∨ isReverseQuery hostname ∨
          addresses.isEmpty ∨ seconds < 1 ∨ ttlCap < 1 then none
      else some
        { hostname, responses := [message], addresses, seconds, ttlCap, now
          ipv4 := asksA, ipv6 := !asksA }

def NamespaceRecord.merge (record : NamespaceRecord Address) (entry : Entry Address) :
    NamespaceRecord Address :=
  { ipv4 := record.ipv4 || entry.ipv4, ipv6 := record.ipv6 || entry.ipv6
    expiredTime := entry.expireTime, addresses := record.addresses ++ entry.addresses }

namespace NamespaceRecords

variable (records : NamespaceRecords Address)

def present (hostname : Text) : NamespaceRecord Address := (records hostname).getD {}

def store (entry : Entry Address) : NamespaceRecords Address :=
  update records entry.hostname (some ((records.present entry.hostname).merge entry))

/-- `UpdateAsync`; `DNS_ResolveFromCache` does the same to the record it looks for. -/
def updateAsync (now : Nat) : NamespaceRecords Address := fun hostname =>
  (records hostname).filter (now < ·.expiredTime)

/-- The record that every lookup takes its addresses from, and the cache afterwards. -/
def resolveFromCache (hostname : Text) (now : Nat) :
    Option (NamespaceRecord Address) × NamespaceRecords Address :=
  let found := records.updateAsync now hostname
  (found, update records hostname found)

/-- The answers, their time to live and the response code. -/
def queryCache2 (isV4 : Address → Bool) (hostname : Text) (wantV4 : Bool) (now : Nat) :
    Option (List Address × Nat × BitVec 16) :=
  (records.resolveFromCache hostname now).1.bind fun record =>
    let remaining := max 1 ((record.expiredTime - now + 999) / 1000)
    if !(if wantV4 then record.ipv4 else record.ipv6) then none
    else
      let answers := record.addresses.filter (isV4 · == wantV4)
      some (answers, remaining, if answers.isEmpty then 3 else 0)

end NamespaceRecords

structure Cache (Address : Type) where
  records : NamespaceRecords Address := fun _ => none
  stored : List (Entry Address) := []

namespace Cache

inductive Op (Address : Type) where
  | cache (hostname : Text) (aId aaaaId : Id) (ttlCap : Nat) (responses : List (Message Address))
    (now : Nat)
  | addCache (message : Message Address) (asksA : Bool) (ttlCap now : Nat)
  | resolveFromCache (hostname : Text) (now : Nat)
  | updateAsync (now : Nat)

def Op.entry : Op Address → Option (Entry Address)
  | .cache hostname aId aaaaId ttlCap responses now =>
    RequestContext.entry { hostname, aId, aaaaId, ttlCap } responses now
  | .addCache message asksA ttlCap now => Resolver.addCache message asksA ttlCap now
  | _ => none

def step (cache : Cache Address) (op : Op Address) : Cache Address :=
  match op.entry, op with
  | some entry, _ => ⟨cache.records.store entry, entry :: cache.stored⟩
  | none, .resolveFromCache hostname now =>
    { cache with records := (cache.records.resolveFromCache hostname now).2 }
  | none, .updateAsync now => { cache with records := cache.records.updateAsync now }
  | none, _ => cache

def Keeps (holds : List (Entry Address) → Text → NamespaceRecord Address → Prop)
    (cache : Cache Address) : Prop :=
  ∀ hostname record, cache.records hostname = some record → holds cache.stored hostname record

variable {cache : Cache Address} {op : Op Address}

theorem Keeps.step {holds : List (Entry Address) → Text → NamespaceRecord Address → Prop}
    (kept : Keeps holds cache)
    (grows : ∀ entry stored hostname record, holds stored hostname record →
      holds (entry :: stored) hostname record)
    (merged : ∀ entry, op.entry = some entry → holds (entry :: cache.stored) entry.hostname
      ((cache.records.present entry.hostname).merge entry)) : Keeps holds (cache.step op) := by
  intro hostname record found
  cases made : op.entry with
  | some entry =>
    simp only [Cache.step, made] at found ⊢
    by_cases same : hostname = entry.hostname
    · subst same
      rw [NamespaceRecords.store, update_self] at found
      cases found
      exact merged entry made
    · rw [NamespaceRecords.store, update_of_ne same] at found
      exact grows _ _ _ _ (kept hostname record found)
  | none =>
    have same : (cache.step op).stored = cache.stored := by
      cases op <;> simp [step, made]
    rw [same]
    refine kept hostname record ?_
    cases op <;> simp only [step, made, NamespaceRecords.resolveFromCache,
      NamespaceRecords.updateAsync, update_apply] at found <;>
      grind [filter_eq_some_iff]

/-- The address was contained in a response stored for the host that is still valid. -/
def Fresh (stored : List (Entry Address)) (hostname : Text) (address : Address) (now : Nat) :
    Prop :=
  ∃ entry ∈ stored, entry.hostname = hostname ∧ ∃ message ∈ entry.responses,
    (∃ answer ∈ message.answers, answer.address = some address) ∧
      ∀ answer ∈ message.answers, now < entry.now + 1000 * min entry.ttlCap answer.ttl

/-- The answer is one that `DNS_ProcessAResponseAddresses` takes the time to live of. -/
def Counted (answer : ResourceRecord Address) : Prop :=
  answer.internet ∧
    (answer.type = .cname ∨ answer.type ≠ .other ∧ answer.address.isSome)

def Plain (message : Message Address) : Prop := ∀ answer ∈ message.answers, Counted answer

/-- Nothing stored carries answers of other types or classes, and what outlasts the record of its
host brings all the addresses of the record again. -/
def Renews (cache : Cache Address) (op : Op Address) : Prop :=
  ∀ entry ∈ op.entry, (∀ message ∈ entry.responses, Plain message) ∧
    ∀ record ∈ cache.records entry.hostname,
      entry.expireTime ≤ record.expiredTime ∨ record.addresses ⊆ entry.addresses

theorem least_note (tally : Tally) (ttl : Nat) (terminal : Bool) :
    (tally.note ttl terminal).least ≤ min tally.least ttl := by
  unfold Tally.note
  grind

theorem least_counted (taken : Tally × List Address) {answer : ResourceRecord Address}
    (counted : Counted answer) : (collect taken answer).1.least ≤ min taken.1.least answer.ttl := by
  obtain ⟨internet, type, ttl, address⟩ := answer
  have noted := least_note taken.1 ttl
  cases type <;> cases address <;> simp_all [collect, Counted]

theorem least_collect (records : List (ResourceRecord Address)) (taken : Tally × List Address)
    (counted : ∀ record ∈ records, Counted record) :
    (records.foldl collect taken).1.least ≤ taken.1.least ∧
      ∀ record ∈ records, (records.foldl collect taken).1.least ≤ record.ttl := by
  induction records generalizing taken with
  | nil => simp
  | cons record rest ih =>
    have here := least_counted taken (counted record (by simp))
    grind

/-- Every address stands in one of the responses, and no answer of it is outlasted. -/
def Backed (responses : List (Message Address)) (addresses : List Address) (seconds : Nat) : Prop :=
  ∀ address ∈ addresses, 0 < seconds ∧ ∃ message ∈ responses,
    (∃ answer ∈ message.answers, answer.address = some address) ∧
      ∀ answer ∈ message.answers, seconds ≤ answer.ttl

variable {addresses : List Address} {message : Message Address}

theorem Backed.mono {responses more : List (Message Address)}
    {seconds fewer : Nat} (backed : Backed responses addresses seconds) (kept : responses ⊆ more)
    (less : 0 < seconds → 0 < fewer ∧ fewer ≤ seconds) : Backed more addresses fewer := by
  intro address member
  obtain ⟨positive, message, inside, contained, least⟩ := backed address member
  exact ⟨(less positive).1, message, kept inside, contained,
    fun answer part => (less positive).2.trans (least answer part)⟩

theorem backed_answered (plain : Plain message) (lives : 0 < message.answered.2) :
    Backed [message] message.answered.1 message.answered.2 := by
  intro address member
  have sourced := mem_collect message.answers ({}, []) address member
  have least := (least_collect message.answers ({}, []) plain).2
  refine ⟨lives, message, by simp, by simpa using sourced, fun answer inside => ?_⟩
  unfold Message.answered
  grind

theorem processAResponseAddresses_answered {expected : Text} {ack : Id} {ttl : Nat}
    (passed : processAResponseAddresses message expected = some (ack, addresses, ttl)) :
    addresses = message.answered.1 ∧ ttl = message.answered.2 := by
  unfold processAResponseAddresses Message.answered at *
  grind

theorem backed_heard {c : RequestContext Unit Address} (fresh : c.addresses = [])
    (responses : List (Message Address)) (plain : ∀ message ∈ responses, Plain message)
    (cacheable : (c.heard responses).uncacheableResponseSeen = false) :
    Backed responses (c.heard responses).addresses (c.heard responses).minResponseTtl := by
  induction responses using reverseRecOn with
  | nil => simp [Backed, RequestContext.heard, fresh]
  | append_singleton before message ih =>
    have earlier := ih fun other inside => plain other (by simp [inside])
    have own := backed_answered (plain message (by simp))
    simp only [RequestContext.heard, foldl_append, foldl_cons, foldl_nil] at *
    generalize before.foldl _ c = c at *
    cases passed : processAResponseAddresses message c.hostname with
    | none =>
      simp only [passed] at cacheable ⊢
      exact (earlier cacheable).mono (by simp) fun lives => ⟨lives, le_rfl⟩
    | some found =>
      obtain ⟨ack, addresses, ttl⟩ := found
      obtain ⟨rfl, rfl⟩ := processAResponseAddresses_answered passed
      simp only [passed, RequestContext.merge, Bool.or_eq_false_iff] at cacheable ⊢
      intro address member
      rcases mem_append.1 member with old | new
      · refine (earlier cacheable.1).mono (by simp) (fun lives => ?_) address old
        split_ifs <;> omega
      · have lives : 0 < message.answered.2 := by
          grind
        refine (own lives).mono (by simp) (fun _ => ?_) address new
        split_ifs <;> omega

theorem backed_entry {op : Op Address} {entry : Entry Address} (made : op.entry = some entry)
    (plain : ∀ message ∈ entry.responses, Plain message) :
    Backed entry.responses entry.addresses entry.seconds := by
  cases op with
  | cache hostname aId aaaaId ttlCap responses now =>
    simp only [Op.entry, RequestContext.entry] at made
    split_ifs at made with stored
    cases made
    refine backed_heard rfl responses plain ?_
    unfold RequestContext.cache at stored
    grind
  | addCache message asksA ttlCap now =>
    have := @backed_answered _ message
    simp only [Op.entry, addCache] at made
    grind
  | resolveFromCache hostname now | updateAsync now => cases made

/-- None of the addresses outlasts the response that brought it. -/
def Lasting (stored : List (Entry Address)) (hostname : Text) (record : NamespaceRecord Address) :
    Prop :=
  ∀ address ∈ record.addresses, ∀ now < record.expiredTime, Fresh stored hostname address now

theorem lasting_cons (entry : Entry Address) (stored : List (Entry Address)) (hostname : Text)
    (record : NamespaceRecord Address) (lasting : Lasting stored hostname record) :
    Lasting (entry :: stored) hostname record := by
  intro address member now lives
  obtain ⟨earlier, inside, rest⟩ := lasting address member now lives
  exact ⟨earlier, mem_cons_of_mem _ inside, rest⟩

theorem Keeps.lasting_step (kept : Keeps Lasting cache) (allowed : Renews cache op) :
    Keeps Lasting (cache.step op) := by
  refine kept.step lasting_cons fun entry made address member now lives => ?_
  obtain ⟨plain, renewed⟩ := allowed entry made
  by_cases new : address ∈ entry.addresses
  · obtain ⟨-, message, inside, contained, least⟩ := backed_entry made plain address new
    refine ⟨entry, mem_cons_self, rfl, message, inside, contained, fun answer part => ?_⟩
    have := least answer part
    simp only [NamespaceRecord.merge, Entry.expireTime] at lives
    omega
  · have known := (mem_append.1 member).resolve_right new
    cases present : cache.records entry.hostname with
    | none => simp [NamespaceRecords.present, present] at known
    | some old =>
      simp only [NamespaceRecords.present, present, getD_some] at known
      have shorter := (renewed old present).resolve_right fun all => new (all known)
      exact lasting_cons _ _ _ _ (kept _ old present) address known now (lives.trans_le shorter)

/-- As long as a record's life is extended only by responses that bring all its addresses again, no
address is returned once the response that brought it has expired. -/
theorem cached_addresses_fresh (ops : List (Op Address)) (guarded : Guarded step Renews {} ops)
    (hostname : Text) (now : Nat) (record : NamespaceRecord Address)
    (found : ((run step {} ops).records.resolveFromCache hostname now).1 = some record)
    (address : Address) (returned : address ∈ record.addresses) :
    Fresh (run step {} ops).stored hostname address now := by
  have kept : Keeps Lasting (run step {} ops) :=
    guarded_invariant (fun _ _ allowed kept => kept.lasting_step allowed) guarded nofun
  obtain ⟨held, lives⟩ := filter_eq_some_iff.1 found
  exact kept hostname record held address returned now (by simpa using lives)

/-- The response to the question for `a` with one address and ten seconds to live. -/
def tenSeconds (address : Nat) : Message Nat := ⟨1, true, 0, [[97]], [⟨true, .a, 10, some address⟩]⟩

/-- The second response keeps the address of the first alive. -/
theorem merged_response_revives_address :
    let cache := run step {}
      [.addCache (tenSeconds 1) true 60 0, .addCache (tenSeconds 2) true 60 9000]
    ((cache.records.resolveFromCache [97] 15000).1.map (·.addresses)) = some [1, 2] ∧
      ¬ Fresh cache.stored [97] 1 15000 := by
  unfold Fresh
  decide +kernel

theorem cached_addresses_fresh_renewed :
    let ops := [.addCache (tenSeconds 1) true 60 0, .addCache (tenSeconds 1) true 60 9000]
    Fresh (run step {} ops).stored [97] 1 15000 := by
  refine cached_addresses_fresh
    [.addCache (tenSeconds 1) true 60 0, .addCache (tenSeconds 1) true 60 9000] ⟨?_, ?_, trivial⟩
    [97] 15000 ⟨true, false, 19000, [1, 1]⟩ rfl 1 (by decide) <;>
  · unfold Renews Plain Counted
    decide +kernel

/-- A family that the record is marked with has an address. -/
def Covers (isV4 : Address → Bool) (ipv4 ipv6 : Bool) (addresses : List Address) : Prop :=
  (ipv4 → ∃ address ∈ addresses, isV4 address) ∧
    (ipv6 → ∃ address ∈ addresses, isV4 address = false)

/-- What is stored for an answered question has an address of its family, or the record does. -/
def Answers (isV4 : Address → Bool) (cache : Cache Address) (op : Op Address) : Prop :=
  ∀ entry ∈ op.entry, Covers isV4 entry.ipv4 entry.ipv6
    ((cache.records.present entry.hostname).addresses ++ entry.addresses)

/-- As long as every answered question brings an address of its family, the cache denies no name. -/
theorem queryCache2_never_denies (isV4 : Address → Bool) (ops : List (Op Address))
    (guarded : Guarded step (Answers isV4) {} ops) (hostname : Text) (wantV4 : Bool) (now : Nat)
    (answers : List Address) (remaining : Nat) (rCode : BitVec 16)
    (answered : (run step {} ops).records.queryCache2 isV4 hostname wantV4 now =
      some (answers, remaining, rCode)) : rCode ≠ 3 := by
  have kept : Keeps (fun _ _ record => Covers isV4 record.ipv4 record.ipv6 record.addresses)
      (run step {} ops) := by
    refine guarded_invariant (fun cache op allowed kept => Keeps.step kept ?_ ?_) guarded nofun
    · exact fun _ _ _ _ covered => covered
    · intro entry made
      have answered := allowed entry made
      have earlier := kept entry.hostname
      unfold Covers NamespaceRecord.merge NamespaceRecords.present at *
      cases present : cache.records entry.hostname <;> grind
  obtain ⟨record, found, chosen⟩ := bind_eq_some_iff.1 answered
  have covered := kept hostname record (filter_eq_some_iff.1 found).1
  unfold Covers at covered
  grind [List.isEmpty_iff, filter_eq_nil_iff]

/-- Only the question for the first family has an address, yet the second is marked as well. -/
theorem empty_family_is_denied :
    let cache := run step {} [.cache [97] 1 2 60 [tenSeconds 1, ⟨2, true, 0, [[97]], []⟩] 0]
    cache.records.queryCache2 (fun _ => true) [97] false 5000 = some ([], 5, 3) ∧
      (cache.records [97]).map (·.addresses) = some [1] := by
  decide +kernel

theorem queryCache2_never_denies_answered :
    let cache := run step {} [.cache [97] 1 2 60 [tenSeconds 1] 0]
    cache.records.queryCache2 (fun _ => true) [97] true 5000 = some ([1], 5, 0) ∧
      (0 : BitVec 16) ≠ 3 := by
  refine ⟨by decide +kernel, queryCache2_never_denies (fun _ => true)
    [.cache [97] 1 2 60 [tenSeconds 1] 0] ⟨?_, trivial⟩ [97] true 5000 [1] 5 0 (by decide +kernel)⟩
  unfold Answers Covers
  decide +kernel

end Cache

end OpenPpp2.Net.Resolver
