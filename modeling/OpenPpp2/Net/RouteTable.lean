import Mathlib.Data.List.AList
import Mathlib.Data.List.Sort
import Mathlib.Data.Set.Basic
import OpenPpp2.Lib.PrefixMask
import OpenPpp2.Lib.Run

/-!
# Route and forwarding tables

`rib.cpp`: the route information table keeps, under every destination address, the list of routes
with that destination; the forwarding table is a copy of it with every list sorted by prefix length,
longest first, and a lookup masks the address with every prefix length from 32 down and takes the
first route of the bucket that is not longer than the mask.
-/

namespace OpenPpp2.Net.RouteTable

open Lib.PrefixMask Lib.Run List Option BitVec Set

def anyAddress : BitVec 32 := 0x00000000#32

def noneAddress : BitVec 32 := 0xffffffff#32

/-- The byte swap between host and network order on a little-endian host. -/
def htonl (word : BitVec 32) : BitVec 32 :=
  word.extractLsb' 0 8 ++ word.extractLsb' 8 8 ++ word.extractLsb' 16 8 ++ word.extractLsb' 24 8

/-- `IPEndPoint::PrefixToNetmask`: the shift is on a 64-bit word, cut to 32 bits. -/
def prefixToNetmask (prefixLength : Int) : BitVec 32 :=
  htonl (if prefixLength = 0 then 0#32
    else (BitVec.allOnes 64 <<< (32 - prefixLength).toNat).setWidth 32)

theorem getLsbD_htonl (word : BitVec 32) (index : Nat) (inside : index < 32) :
    (htonl word).getLsbD index = word.getLsbD (24 + index % 8 - index / 8 * 8) := by
  have within : index % 8 < 8 := Nat.mod_lt _ (by decide)
  have quotient : index / 8 = 0 ∨ index / 8 = 1 ∨ index / 8 = 2 ∨ index / 8 = 3 := by omega
  have split : index = index / 8 * 8 + index % 8 := by omega
  generalize index / 8 = byte at *
  generalize index % 8 = bit at *
  subst split
  simp only [htonl, getLsbD_append, getLsbD_extractLsb']
  obtain rfl | rfl | rfl | rfl := quotient
  all_goals
    simp (disch := omega) only [if_pos, if_neg, decide_eq_true, Bool.true_and]
    exact congrArg word.getLsbD (by omega)

theorem htonl_and (first second : BitVec 32) :
    htonl (first &&& second) = htonl first &&& htonl second := by
  apply eq_of_getLsbD_eq
  intro index inside
  simp only [getLsbD_and, getLsbD_htonl _ _ inside]

theorem htonl_htonl (word : BitVec 32) : htonl (htonl word) = word := by
  apply eq_of_getLsbD_eq
  intro index inside
  rw [getLsbD_htonl _ _ inside, getLsbD_htonl _ _ (by omega)]
  congr 1
  omega

theorem prefixToNetmask_natCast (length : Nat) :
    prefixToNetmask length = htonl (mask 32 length) := by
  unfold prefixToNetmask
  congr 1
  split_ifs with none
  · have zero : length = 0 := by omega
    subst zero
    decide
  · have shift : (32 - (length : Int)).toNat = 32 - length := by omega
    apply eq_of_getLsbD_eq
    intro index inside
    simp [mask, getLsbD_shiftLeft]

def network (length : Nat) (ip : BitVec 32) : BitVec 32 := ip &&& prefixToNetmask length

theorem network_network (first second : Nat) (ip : BitVec 32) :
    network second (network first ip) = network (min first second) ip := by
  simp only [network, prefixToNetmask_natCast]
  rw [← htonl_htonl ip, ← htonl_and, ← htonl_and, ← htonl_and, and_mask_and_mask]

structure RouteEntry where
  destination : BitVec 32
  prefixLength : Int
  nextHop : BitVec 32
  deriving DecidableEq, Repr

abbrev RouteEntries := List RouteEntry

abbrev RouteEntriesTable := AList fun _ : BitVec 32 => RouteEntries

def accepts (ip : BitVec 32) (prefixLength : Int) (gw : BitVec 32) : Bool :=
  !(decide (prefixLength < 0) || decide (prefixLength > 32)) && !(noneAddress == ip) &&
    !(anyAddress == gw || noneAddress == gw) && (ip &&& prefixToNetmask prefixLength == ip)

def putEntry (ip : BitVec 32) (prefixLength : Int) (gw : BitVec 32) : RouteEntries → RouteEntries
  | [] => [⟨ip, prefixLength, gw⟩]
  | entry :: rest =>
    if entry.prefixLength = prefixLength then { entry with nextHop := gw } :: rest
    else entry :: putEntry ip prefixLength gw rest

/-- `AddRoute(ip, prefix, gw)`: what it returns, and the table afterwards. -/
def addRoute (routes : RouteEntriesTable) (ip : BitVec 32) (prefixLength : Int)
    (gw : BitVec 32) : Bool × RouteEntriesTable :=
  if accepts ip prefixLength gw then
    (true, routes.insert ip (putEntry ip prefixLength gw ((routes.lookup ip).getD [])))
  else (false, routes)

def deleteRoute (routes : RouteEntriesTable) (ip : BitVec 32) : Bool × RouteEntriesTable :=
  match routes.lookup ip with
  | none => (false, routes)
  | some _ => (true, routes.erase ip)

/-- The entry `DeleteRoute(ip, prefix, gw)` looks for. -/
def isEntry (prefixLength : Int) (gw : BitVec 32) (entry : RouteEntry) : Bool :=
  entry.prefixLength == prefixLength && entry.nextHop == gw

/-- `DeleteRoute(ip, prefix, gw)`: an emptied bucket is removed with its last entry. -/
def deleteRouteExact (routes : RouteEntriesTable) (ip : BitVec 32) (prefixLength : Int)
    (gw : BitVec 32) : Bool × RouteEntriesTable :=
  match routes.lookup ip with
  | none => (false, routes)
  | some entries =>
    if entries.any (isEntry prefixLength gw) then
      let left := entries.eraseP (isEntry prefixLength gw)
      (true, if left.isEmpty then routes.erase ip else routes.insert ip left)
    else (false, routes)

/-- `DeleteRoute(ip, gw)`: the prefix lengths are collected first, then deleted one by one. -/
def deleteRouteVia (routes : RouteEntriesTable) (ip gw : BitVec 32) : Bool × RouteEntriesTable :=
  match routes.lookup ip with
  | none => (false, routes)
  | some entries =>
    let lengths := (entries.filter fun route => route.nextHop == gw).map (·.prefixLength)
    (decide (0 < lengths.length),
      lengths.foldl (fun table length => (deleteRouteExact table ip length gw).2) routes)

/-- The order in which `Fill` sorts a bucket: longest prefix first. -/
def longestFirst (entries : RouteEntries) : RouteEntries :=
  entries.insertionSort fun first second => second.prefixLength ≤ first.prefixLength

/-- `ForwardInformationTable::Fill`: a copy of the table with every bucket sorted. -/
def fill (routes : RouteEntriesTable) : RouteEntriesTable where
  entries := routes.entries.map fun bucket => ⟨bucket.1, longestFirst bucket.2⟩
  nodupKeys := by
    have keys : (routes.entries.map fun bucket =>
        (⟨bucket.1, longestFirst bucket.2⟩ : Sigma fun _ : BitVec 32 => RouteEntries)).keys =
        routes.entries.keys := by
      simp [List.keys, Function.comp_def]
    rw [List.NodupKeys, keys]
    exact routes.nodupKeys

def lengthsDown (lowest : Nat) : Nat → List Nat
  | 0 => if lowest = 0 then [0] else []
  | length + 1 => if lowest ≤ length + 1 then (length + 1) :: lengthsDown lowest length else []

def RouteEntry.within (length : Nat) (entry : RouteEntry) : Bool :=
  decide (entry.prefixLength ≤ length)

/-- One turn of the loop of `GetNextHop`: the first entry of the masked address's bucket that
is not longer than the mask. -/
def lookupAt (routes : RouteEntriesTable) (ip : BitVec 32) (length : Nat) : Option RouteEntry :=
  (routes.lookup (network length ip)).bind fun entries =>
    entries.find? (RouteEntry.within length)

def getNextHopBetween (ip : BitVec 32) (lowest highest : Nat) (routes : RouteEntriesTable) :
    BitVec 32 :=
  match (lengthsDown lowest highest).findSome? (lookupAt routes ip) with
  | some entry => entry.nextHop
  | none => noneAddress

def getNextHop (ip : BitVec 32) (routes : RouteEntriesTable) : BitVec 32 :=
  getNextHopBetween ip 0 32 routes

inductive Edit where
  | add (ip : BitVec 32) (prefixLength : Int) (gw : BitVec 32)
  | delete (ip : BitVec 32)
  | deleteVia (ip gw : BitVec 32)
  | deleteExact (ip : BitVec 32) (prefixLength : Int) (gw : BitVec 32)
  deriving DecidableEq, Repr

def edit (routes : RouteEntriesTable) : Edit → RouteEntriesTable
  | .add ip prefixLength gw => (addRoute routes ip prefixLength gw).2
  | .delete ip => (deleteRoute routes ip).2
  | .deleteVia ip gw => (deleteRouteVia routes ip gw).2
  | .deleteExact ip prefixLength gw => (deleteRouteExact routes ip prefixLength gw).2

def bucket (routes : RouteEntriesTable) (destination : BitVec 32) : RouteEntries :=
  (routes.lookup destination).getD []

section

variable (routes : RouteEntriesTable) (ip destination : BitVec 32)

theorem bucket_insert (entries : RouteEntries) : bucket (routes.insert ip entries) destination =
      if destination = ip then entries else bucket routes destination := by
  unfold bucket
  split_ifs with same
  · rw [same, AList.lookup_insert, getD_some]
  · rw [AList.lookup_insert_ne same]

theorem bucket_erase : bucket (routes.erase ip) destination =
      if destination = ip then [] else bucket routes destination := by
  unfold bucket
  split_ifs with same
  · rw [same, AList.lookup_erase, getD_none]
  · rw [AList.lookup_erase_ne same]

theorem bucket_deleteRoute : bucket (deleteRoute routes ip).2 destination =
      if destination = ip then [] else bucket routes destination := by
  unfold deleteRoute
  split
  next absent =>
    split_ifs with same
    · rw [same, bucket, absent, getD_none]
    · rfl
  next found => exact bucket_erase routes ip destination

end

theorem bucket_deleteRouteExact (routes : RouteEntriesTable) (ip : BitVec 32)
    (prefixLength : Int) (gw destination : BitVec 32) :
    bucket (deleteRouteExact routes ip prefixLength gw).2 destination =
      if destination = ip then (bucket routes ip).eraseP (isEntry prefixLength gw)
      else bucket routes destination := by
  unfold deleteRouteExact
  split
  next absent =>
    split_ifs with same
    · rw [same, bucket, absent, getD_none, eraseP_nil]
    · rfl
  next entries found =>
    have stored : bucket routes ip = entries := by rw [bucket, found, getD_some]
    rw [stored]
    by_cases present : entries.any (isEntry prefixLength gw)
    · simp only [present, if_true]
      by_cases emptied : (entries.eraseP (isEntry prefixLength gw)).isEmpty
      · rw [if_pos emptied, bucket_erase, isEmpty_iff.mp emptied]
      · rw [if_neg emptied, bucket_insert]
    · have none : ∀ entry ∈ entries, ¬ isEntry prefixLength gw entry := by
        intro entry member found
        exact present (any_eq_true.mpr ⟨entry, member, found⟩)
      rw [eraseP_of_forall_not none]
      split_ifs with same
      · rw [same, stored]
      · rfl

/-- The entries of one bucket: each has passed the tests of `AddRoute` and stands under its own
destination, and no two have the same prefix length. -/
structure SoundBucket (destination : BitVec 32) (entries : RouteEntries) : Prop where
  stored : ∀ entry ∈ entries, entry.destination = destination
  accepted : ∀ entry ∈ entries, accepts entry.destination entry.prefixLength entry.nextHop
  distinct : entries.Pairwise fun first second => first.prefixLength ≠ second.prefixLength

def Sound (routes : RouteEntriesTable) : Prop :=
  ∀ destination, SoundBucket destination (bucket routes destination)

theorem soundBucket_nil (destination : BitVec 32) : SoundBucket destination [] := by
  constructor <;> simp

variable {entries : RouteEntries} {routes : RouteEntriesTable}

variable {destination ip : BitVec 32}

theorem SoundBucket.sublist {left : RouteEntries}
    (sound : SoundBucket destination entries) (kept : left.Sublist entries) :
    SoundBucket destination left where
  stored entry member := sound.stored entry (kept.subset member)
  accepted entry member := sound.accepted entry (kept.subset member)
  distinct := sound.distinct.sublist kept

section

variable (sound : SoundBucket ip entries)
include sound

theorem mem_putEntry (prefixLength : Int) (gw : BitVec 32) (entry : RouteEntry) :
    entry ∈ putEntry ip prefixLength gw entries ↔
      entry = ⟨ip, prefixLength, gw⟩ ∨ entry ∈ entries ∧ entry.prefixLength ≠ prefixLength := by
  induction entries with
  | nil => simp [putEntry]
  | cons first rest ih =>
    have headStored := sound.stored first mem_cons_self
    have apart := (pairwise_cons.mp sound.distinct).1
    have later := ih (sound.sublist (sublist_cons_self first rest))
    unfold putEntry
    split_ifs with same
    · have replaced : ({ first with nextHop := gw } : RouteEntry) = ⟨ip, prefixLength, gw⟩ := by
        rw [← headStored, ← same]
      rw [replaced, mem_cons, mem_cons]
      constructor
      · rintro (new | old)
        · exact .inl new
        · exact .inr ⟨.inr old, fun equal => apart entry old (same.trans equal.symm)⟩
      · rintro (new | ⟨rfl | old, other⟩)
        · exact .inl new
        · exact absurd same other
        · exact .inr old
    · rw [mem_cons, mem_cons, later]
      constructor
      · rintro (rfl | new | ⟨old, other⟩)
        · exact .inr ⟨.inl rfl, same⟩
        · exact .inl new
        · exact .inr ⟨.inr old, other⟩
      · rintro (new | ⟨rfl | old, other⟩)
        · exact .inr (.inl new)
        · exact .inl rfl
        · exact .inr (.inr ⟨old, other⟩)

variable {prefixLength : Int} {gw : BitVec 32}

theorem distinct_putEntry : (putEntry ip prefixLength gw entries).Pairwise
      fun first second => first.prefixLength ≠ second.prefixLength := by
  induction entries with
  | nil => simp [putEntry]
  | cons first rest ih =>
    have restSound := sound.sublist (sublist_cons_self first rest)
    have apart := (pairwise_cons.mp sound.distinct).1
    unfold putEntry
    split_ifs with same
    · exact pairwise_cons.mpr ⟨apart, restSound.distinct⟩
    · apply pairwise_cons.mpr
      refine ⟨?_, ih restSound⟩
      intro entry member
      obtain rfl | ⟨old, _⟩ := (mem_putEntry restSound _ _ entry).mp member
      · exact same
      · exact apart entry old

theorem soundBucket_putEntry (accepted : accepts ip prefixLength gw) :
    SoundBucket ip (putEntry ip prefixLength gw entries) where
  stored entry member := by
    obtain rfl | ⟨old, _⟩ := (mem_putEntry sound _ _ entry).mp member
    · rfl
    · exact sound.stored entry old
  accepted entry member := by
    obtain rfl | ⟨old, _⟩ := (mem_putEntry sound _ _ entry).mp member
    · exact accepted
    · exact sound.accepted entry old
  distinct := distinct_putEntry sound

end

theorem mem_eraseP_isEntry (sound : SoundBucket destination entries)
    (prefixLength : Int) (gw : BitVec 32) (entry : RouteEntry) :
    entry ∈ entries.eraseP (isEntry prefixLength gw) ↔ entry ∈ entries ∧ isEntry prefixLength gw
      entry = false := by
  by_cases matched : isEntry prefixLength gw entry
  · rw [matched]
    simp only [Bool.true_eq_false, and_false, iff_false]
    intro member
    obtain ⟨first, before, after, unmatched, here, split, erased⟩ :=
      exists_of_eraseP (mem_of_mem_eraseP member) matched
    have distinct := sound.distinct
    rw [split, pairwise_append, pairwise_cons] at distinct
    rw [erased] at member
    rcases mem_append.mp member with early | late
    · exact unmatched entry early matched
    · simp only [isEntry, Bool.and_eq_true, beq_iff_eq] at matched here
      exact distinct.2.1.1 entry late (here.1.trans matched.1.symm)
  · rw [mem_eraseP_of_neg matched]
    simp [matched]

theorem sound_deleteRouteExact (sound : Sound routes) (ip : BitVec 32) (prefixLength : Int)
    (gw : BitVec 32) : Sound (deleteRouteExact routes ip prefixLength gw).2 := by
  intro destination
  rw [bucket_deleteRouteExact]
  split_ifs with same
  · rw [same]
    exact (sound ip).sublist eraseP_sublist
  · exact sound destination

theorem deleteLengths_spec (lengths : List Int) (sound : Sound routes) (ip gw : BitVec 32) :
    let after := lengths.foldl (fun table length => (deleteRouteExact table ip length gw).2) routes
    Sound after ∧ ∀ destination entry, entry ∈ bucket after destination ↔
      entry ∈ bucket routes destination ∧
        ¬ (destination = ip ∧ entry.nextHop = gw ∧ entry.prefixLength ∈ lengths) := by
  induction lengths generalizing routes with
  | nil => simp [sound]
  | cons length rest ih =>
    have later := ih (sound_deleteRouteExact sound ip length gw)
    refine ⟨later.1, ?_⟩
    intro destination entry
    simp only [foldl_cons]
    rw [later.2 destination entry, bucket_deleteRouteExact]
    split_ifs with same
    · rw [same, mem_eraseP_isEntry (sound ip)]
      simp only [isEntry, Bool.and_eq_false_iff, beq_eq_false_iff_ne, mem_cons, true_and]
      tauto
    · simp [same]

/-- What an edit does to a set of routes: an accepted route replaces the one with its
destination and length, a deletion removes the routes it names. -/
def remaining (routes : Set RouteEntry) : Edit → Set RouteEntry
  | .add ip prefixLength gw =>
    if accepts ip prefixLength gw then
      { route | route = ⟨ip, prefixLength, gw⟩ ∨
        route ∈ routes ∧ ¬ (route.destination = ip ∧ route.prefixLength = prefixLength) }
    else routes
  | .delete ip => { route ∈ routes | route.destination ≠ ip }
  | .deleteVia ip gw => { route ∈ routes | ¬ (route.destination = ip ∧ route.nextHop = gw) }
  | .deleteExact ip prefixLength gw => { route ∈ routes | route ≠ ⟨ip, prefixLength, gw⟩ }

def stored (routes : RouteEntriesTable) : Set RouteEntry :=
  { route | route ∈ bucket routes route.destination }

section

variable (sound : Sound routes)
include sound

theorem mem_stored {route : RouteEntry}
    (member : route ∈ bucket routes destination) : route ∈ stored routes := by
  have own := (sound destination).stored route member
  rw [stored, mem_ofPred_eq, own]
  exact member

theorem add_spec (ip : BitVec 32) (prefixLength : Int) (gw : BitVec 32) :
    Sound (addRoute routes ip prefixLength gw).2 ∧ stored (addRoute routes ip prefixLength gw).2 =
      remaining (stored routes) (.add ip prefixLength gw) := by
  by_cases accepted : accepts ip prefixLength gw
  · simp only [addRoute, remaining, accepted, if_true]
    constructor
    · intro destination
      rw [bucket_insert]
      split_ifs with same
      · rw [same]
        exact soundBucket_putEntry (sound ip) accepted
      · exact sound destination
    · apply Set.ext
      intro route
      simp only [stored, Set.mem_ofPred_eq, bucket_insert]
      split_ifs with same
      · have put := mem_putEntry (sound ip) prefixLength gw route
        simp only [same, true_and]
        exact put
      · constructor
        · intro old
          exact .inr ⟨old, fun both => same both.1⟩
        · rintro (rfl | old)
          · exact absurd rfl same
          · exact old.1
  · simp only [addRoute, remaining, accepted, if_false, Bool.false_eq_true]
    exact ⟨sound, trivial⟩

theorem delete_spec (ip : BitVec 32) : Sound (deleteRoute routes ip).2 ∧
      stored (deleteRoute routes ip).2 = remaining (stored routes) (.delete ip) := by
  constructor
  · intro destination
    rw [bucket_deleteRoute]
    split_ifs with same
    · exact soundBucket_nil destination
    · exact sound destination
  · apply Set.ext
    intro route
    simp only [stored, remaining, Set.mem_ofPred_eq, bucket_deleteRoute]
    split_ifs with same <;> simp [same]

theorem deleteVia_spec (ip gw : BitVec 32) : Sound (deleteRouteVia routes ip gw).2 ∧
      stored (deleteRouteVia routes ip gw).2 = remaining (stored routes) (.deleteVia ip gw) := by
  unfold deleteRouteVia
  split
  next absent =>
    refine ⟨sound, ext fun route => ?_⟩
    simp only [stored, remaining, mem_ofPred_eq]
    constructor
    · intro member
      refine ⟨member, fun both => ?_⟩
      rw [both.1, bucket, absent] at member
      cases member
    · exact fun both => both.1
  next entries found =>
    have own : bucket routes ip = entries := by rw [bucket, found, getD_some]
    have loop := deleteLengths_spec
      ((entries.filter fun route => route.nextHop == gw).map (·.prefixLength)) sound ip gw
    refine ⟨loop.1, ext fun route => ?_⟩
    simp only [stored, remaining, mem_ofPred_eq, loop.2]
    -- A stored route with that destination and next hop is among those whose length is collected.
    have collected : route ∈ bucket routes route.destination → route.destination = ip →
        route.nextHop = gw → route.prefixLength ∈
          (entries.filter fun route => route.nextHop == gw).map (·.prefixLength) := by
      intro member same hop
      rw [same, own] at member
      exact mem_map_of_mem (mem_filter.mpr ⟨member, beq_iff_eq.mpr hop⟩)
    tauto

theorem deleteExact_spec (ip : BitVec 32) (prefixLength : Int) (gw : BitVec 32) :
    Sound (deleteRouteExact routes ip prefixLength gw).2 ∧ stored
      (deleteRouteExact routes ip prefixLength gw).2 = remaining (stored routes)
      (.deleteExact ip prefixLength gw) := by
  refine ⟨sound_deleteRouteExact sound ip prefixLength gw, ext fun route => ?_⟩
  simp only [stored, remaining, mem_ofPred_eq, bucket_deleteRouteExact]
  split_ifs with same
  · rw [mem_eraseP_isEntry (sound ip), same]
    apply and_congr_right
    intro _
    obtain ⟨destination, length, hop⟩ := route
    simp only at same
    simp [isEntry, same]
  · constructor
    · intro member
      refine ⟨member, fun equal => same ?_⟩
      rw [equal]
    · exact fun both => both.1

theorem edit_spec (taken : Edit) :
    Sound (edit routes taken) ∧ stored (edit routes taken) = remaining (stored routes) taken := by
  cases taken with
  | add ip prefixLength gw => exact add_spec sound ip prefixLength gw
  | delete ip => exact delete_spec sound ip
  | deleteVia ip gw => exact deleteVia_spec sound ip gw
  | deleteExact ip prefixLength gw => exact deleteExact_spec sound ip prefixLength gw

end

theorem sound_empty : Sound ∅ := by
  intro destination
  exact soundBucket_nil destination

theorem stored_empty : stored ∅ = ∅ := by
  apply Set.ext
  intro route
  simp [stored, bucket]

theorem run_edit_spec (sound : Sound routes) (edits : List Edit) : Sound (run edit routes edits) ∧
      stored (run edit routes edits) = run remaining (stored routes) edits := by
  induction edits generalizing routes with
  | nil => exact ⟨sound, rfl⟩
  | cons first rest ih =>
    have step := edit_spec sound first
    rw [run_cons, run_cons, ← step.2]
    exact ih step.1

/-- The network of a route contains an address: the leading bits of the address, as many as
the prefix has, are those of the destination. -/
def RouteEntry.Contains (route : RouteEntry) (ip : BitVec 32) : Prop :=
  ∀ index < route.prefixLength.toNat,
    (htonl ip).getMsbD index = (htonl route.destination).getMsbD index

/-- What a route that `AddRoute` let through satisfies. -/
structure Accepted (route : RouteEntry) : Prop where
  lower : 0 ≤ route.prefixLength
  upper : route.prefixLength ≤ 32
  hop : route.nextHop ≠ noneAddress
  own : network route.prefixLength.toNat route.destination = route.destination

variable {route : RouteEntry} {routes : RouteEntriesTable} {found : RouteEntry} {length : Nat}

theorem accepted_of_accepts (passed : accepts route.destination route.prefixLength route.nextHop) :
    Accepted route := by
  simp only [accepts, Bool.and_eq_true, Bool.not_eq_true', Bool.or_eq_false_iff,
    decide_eq_false_iff_not, beq_iff_eq, beq_eq_false_iff_ne] at passed
  obtain ⟨⟨⟨⟨notBelow, notAbove⟩, _⟩, _, notNone⟩, own⟩ := passed
  have cast : (route.prefixLength.toNat : Int) = route.prefixLength := by omega
  refine ⟨by omega, by omega, fun equal => notNone equal.symm, ?_⟩
  rw [network, cast, own]

theorem accepted_of_mem (sound : Sound routes) {destination : BitVec 32}
    (member : route ∈ bucket routes destination) : Accepted route :=
  accepted_of_accepts ((sound destination).accepted route member)

theorem contains_iff (accepted : Accepted route) (ip : BitVec 32) :
    route.Contains ip ↔ network route.prefixLength.toNat ip = route.destination := by
  have own := accepted.own
  rw [RouteEntry.Contains, ← and_mask_eq_and_mask_iff]
  simp only [network, prefixToNetmask_natCast] at own ⊢
  have image (address : BitVec 32) : htonl (htonl address &&& mask 32 route.prefixLength.toNat) =
      address &&& htonl (mask 32 route.prefixLength.toNat) := by
    rw [htonl_and, htonl_htonl]
  constructor
  · intro equal
    rw [← image, equal, image, own]
  · intro equal
    have same : htonl (htonl ip &&& mask 32 route.prefixLength.toNat) =
        htonl (htonl route.destination &&& mask 32 route.prefixLength.toNat) := by
      rw [image, image, equal, own]
    rw [← htonl_htonl (htonl ip &&& _), same, htonl_htonl]

theorem lookup_fill (routes : RouteEntriesTable) (destination : BitVec 32) :
    (fill routes).lookup destination = (routes.lookup destination).map longestFirst :=
  dlookup_map₂ (f := fun _ => longestFirst) destination

theorem lookupAt_fill (routes : RouteEntriesTable) (ip : BitVec 32) (length : Nat) :
    lookupAt (fill routes) ip length =
      (longestFirst (bucket routes (network length ip))).find? (RouteEntry.within length) := by
  rw [lookupAt, lookup_fill, bucket]
  cases routes.lookup (network length ip) with
  | none => rfl
  | some entries => rfl

theorem mem_longestFirst (entries : RouteEntries) (entry : RouteEntry) :
    entry ∈ longestFirst entries ↔ entry ∈ entries :=
  (perm_insertionSort _ entries).mem_iff

theorem find_longest {entries : RouteEntries}
    (sorted : entries.Pairwise fun first second => second.prefixLength ≤ first.prefixLength)
    (first : entries.find? (RouteEntry.within length) = some found) :
    ∀ entry ∈ entries, entry.prefixLength ≤ length → entry.prefixLength ≤ found.prefixLength := by
  induction entries with
  | nil => cases first
  | cons head rest ih =>
    rw [pairwise_cons] at sorted
    by_cases within : head.within length
    · rw [find?_cons_of_pos within] at first
      cases first
      intro entry member _
      obtain rfl | later := mem_cons.mp member
      · exact le_refl _
      · exact sorted.1 entry later
    · rw [find?_cons_of_neg within] at first
      intro entry member bounded
      obtain rfl | later := mem_cons.mp member
      · exact absurd (decide_eq_true bounded) within
      · exact ih sorted.2 first entry later bounded

theorem lookupAt_some {ip : BitVec 32} (found_eq : lookupAt (fill routes) ip length = some found) :
    found ∈ bucket routes (network length ip) ∧ found.prefixLength ≤ length ∧ ∀ entry ∈ bucket
      routes (network length ip), entry.prefixLength ≤ length → entry.prefixLength ≤
      found.prefixLength := by
  rw [lookupAt_fill] at found_eq
  have sorted := pairwise_insertionSort
    (fun first second : RouteEntry => second.prefixLength ≤ first.prefixLength)
    (bucket routes (network length ip))
  have bounded : found.within length := find?_some found_eq
  refine ⟨(mem_longestFirst _ found).mp (mem_of_find?_eq_some found_eq),
    of_decide_eq_true bounded, ?_⟩
  intro entry member within
  exact find_longest sorted found_eq entry ((mem_longestFirst _ entry).mpr member) within

theorem lookupAt_none {ip : BitVec 32} (missed : lookupAt (fill routes) ip length = none) :
    ∀ entry ∈ bucket routes (network length ip), ¬ entry.prefixLength ≤ length := by
  rw [lookupAt_fill, find?_eq_none] at missed
  intro entry member within
  exact missed entry ((mem_longestFirst _ entry).mpr member) (decide_eq_true within)

theorem findSome_lengthsDown (highest : Nat) (search : Nat → Option RouteEntry) :
    match (lengthsDown 0 highest).findSome? search with
    | some found => ∃ length ≤ highest, search length = some found ∧
        ∀ longer ≤ highest, length < longer → search longer = none
    | none => ∀ length ≤ highest, search length = none := by
  induction highest with
  | zero =>
    simp only [lengthsDown, if_true, findSome?_cons, findSome?_nil]
    cases here : search 0 with
    | some found => exact ⟨0, le_refl 0, here, fun longer upper above => by omega⟩
    | none =>
      intro length bounded
      rwa [Nat.le_zero.mp bounded]
  | succ highest ih =>
    simp only [lengthsDown, Nat.zero_le, if_true, findSome?_cons]
    cases here : search (highest + 1) with
    | some found => exact ⟨highest + 1, le_refl _, here, fun longer upper above => by omega⟩
    | none =>
      simp only
      split at ih
      next found _ =>
        obtain ⟨length, bounded, found_eq, first⟩ := ih
        refine ⟨length, by omega, found_eq, ?_⟩
        intro longer upper above
        by_cases top : longer = highest + 1
        · rwa [top]
        · exact first longer (by omega) above
      next _ =>
        intro length bounded
        by_cases top : length = highest + 1
        · rwa [top]
        · exact ih length (by omega)

theorem found_at_own_length (sound : Sound routes) {ip : BitVec 32} (member : route ∈ stored routes)
    (contains : route.Contains ip) : route ∈ bucket routes (network route.prefixLength.toNat ip) ∧
      route.prefixLength.toNat ≤ 32 ∧
      lookupAt (fill routes) ip route.prefixLength.toNat ≠ none := by
  have accepted := accepted_of_mem sound member
  have upper := accepted.upper
  have masked := (contains_iff accepted ip).mp contains
  have own : route ∈ bucket routes (network route.prefixLength.toNat ip) := by
    rw [masked]
    exact member
  refine ⟨own, by omega, fun missed => ?_⟩
  exact lookupAt_none missed route own (by omega)

theorem getNextHop_fill (sound : Sound routes) (ip : BitVec 32) :
    (∃ route ∈ stored routes, route.Contains ip ∧ getNextHop ip (fill routes) = route.nextHop ∧
      ∀ other ∈ stored routes, other.Contains ip → other.prefixLength ≤ route.prefixLength) ∨
    (getNextHop ip (fill routes) = noneAddress ∧ ∀ route ∈ stored routes, ¬ route.Contains ip) := by
  have walk := findSome_lengthsDown 32 (lookupAt (fill routes) ip)
  split at walk
  next found found_eq =>
    have hop : getNextHop ip (fill routes) = found.nextHop := by
      simp only [getNextHop, getNextHopBetween, found_eq]
    obtain ⟨length, bounded, here, first⟩ := walk
    obtain ⟨member, within, longest⟩ := lookupAt_some here
    have accepted := accepted_of_mem sound member
    have own := (sound _).stored found member
    left
    refine ⟨found, mem_stored sound member, ?_, hop, ?_⟩
    · rw [contains_iff accepted]
      exact cut_eq_of_bucket network_network own.symm accepted.own (by omega)
    · intro other otherMember otherContains
      have otherAccepted := accepted_of_mem sound otherMember
      obtain ⟨otherBucket, otherUpper, notMissed⟩ :=
        found_at_own_length sound otherMember otherContains
      by_contra longer
      by_cases beyond : length < other.prefixLength.toNat
      · exact notMissed (first _ otherUpper beyond)
      · -- The other route lies in the bucket the lookup stopped at.
        have same := bucket_eq_of_between network_network own.symm accepted.own
          (by omega) (by omega) ((contains_iff otherAccepted ip).mp otherContains)
        have inBucket : other ∈ bucket routes (network length ip) := by
          rw [← own, ← same]
          exact otherMember
        exact longer (longest other inBucket (by omega))
  next missed =>
    have hop : getNextHop ip (fill routes) = noneAddress := by
      simp only [getNextHop, getNextHopBetween, missed]
    right
    refine ⟨hop, fun route member contains => ?_⟩
    obtain ⟨_, upper, notMissed⟩ := found_at_own_length sound member contains
    exact notMissed (walk _ upper)

/-- After any sequence of `AddRoute` and `DeleteRoute` calls and `Fill`, `GetNextHop` returns the
next hop of a longest remaining route that contains the address, and the none address exactly
when no remaining route contains it. -/
theorem getNextHop_longest_match (edits : List Edit) (ip : BitVec 32) :
    let routes := run remaining ∅ edits
    let hop := getNextHop ip (fill (run edit ∅ edits))
    (hop = noneAddress ↔ ∀ route ∈ routes, ¬ route.Contains ip) ∧
    ((∃ route ∈ routes, route.Contains ip) →
      ∃ route ∈ routes, route.Contains ip ∧ hop = route.nextHop ∧
        ∀ other ∈ routes, other.Contains ip → other.prefixLength ≤ route.prefixLength) := by
  intro routes hop
  obtain ⟨sound, same⟩ := run_edit_spec sound_empty edits
  rw [stored_empty] at same
  have lookup := getNextHop_fill sound ip
  rw [same] at lookup
  obtain ⟨route, member, contains, hop_eq, longest⟩ | ⟨hop_eq, none⟩ := lookup
  · have stored_mem : route ∈ stored (run edit ∅ edits) := by rwa [same]
    have real := (accepted_of_mem sound stored_mem).hop
    constructor
    · constructor
      · intro isNone
        exact absurd (hop_eq.symm.trans isNone) real
      · intro noRoute
        exact absurd contains (noRoute route member)
    · intro _
      exact ⟨route, member, contains, hop_eq, longest⟩
  · constructor
    · exact ⟨fun _ => none, fun _ => hop_eq⟩
    · rintro ⟨route, member, contains⟩
      exact absurd contains (none route member)

end OpenPpp2.Net.RouteTable
