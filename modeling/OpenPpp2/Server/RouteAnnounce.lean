import OpenPpp2.Net.Firewall
import OpenPpp2.Policy.Compiler

/-!
# Which peer prefixes may be announced

`PeerRouteAnnouncePolicy.h`: a prefix must be on the allowlist of its session, and must not lie in a
reserved range. A prefix that is shorter than a reserved range is not compared with it.
-/

namespace OpenPpp2.Server.RouteAnnounce

open Lib.PrefixMask Net Policy

structure AllowEntry where
  network : Text
  prefixLength : Int
  guid : Text

structure AnnounceEntry where
  network : Text
  prefixLength : Int

def AnnounceEntry.hasAny (entry : AnnounceEntry) : Bool :=
  !entry.network.isEmpty && decide (0 < entry.prefixLength)

/-- The ranges of `IsDangerousPeerPrefix`. -/
def reserved : List (BitVec 32 × Nat) :=
  [(0x00000000, 8), (0x7f000000, 8), (0xa9fe0000, 16), (0xe0000000, 4), (0xf0000000, 4)]

def isDangerousPeerPrefix (network : BitVec 32) (length : Int) : Bool :=
  if length ≤ 0 ∨ 32 < length then true
  else if network &&& mask 32 length.toNat = 0 then true
  else reserved.any fun range =>
    decide (range.2 ≤ length) && network &&& mask 32 range.2 == range.1 &&& mask 32 range.2

def normalizePeerRouteGuid (guid : Text) : Text :=
  Firewall.trim
    ((guid.filter fun char => !(char == 123 || char == 125)).map Lib.Decimal.toLower)

-- `boost::asio::ip::make_address`, which fails on a text that is no address
variable (makeAddress : Text → Option Firewall.Address)

def parsePeerPrefixNetwork (network : Text) (length : Int) : Option (BitVec 32) :=
  if network.isEmpty ∨ length ≤ 0 ∨ 32 < length then none
  else
    -- The parser is given a pointer and stops at a zero byte.
    match makeAddress (network.takeWhile (· != 0)) with
    | some (.v4 raw) => some (raw &&& mask 32 length.toNat)
    | _ => none

def isPeerRouteAnnouncementAllowed (allowed : List AllowEntry) (sessionGuid : Text)
    (entry : AnnounceEntry) : Bool :=
  let session := normalizePeerRouteGuid sessionGuid
  if session.isEmpty || !entry.hasAny then false
  else
    match parsePeerPrefixNetwork makeAddress entry.network entry.prefixLength with
    | none => false
    | some requested =>
      if isDangerousPeerPrefix requested entry.prefixLength then false
      else allowed.any fun row =>
        let owner := normalizePeerRouteGuid row.guid
        !owner.isEmpty && owner == session && row.prefixLength == entry.prefixLength &&
          parsePeerPrefixNetwork makeAddress row.network row.prefixLength == some requested

def Announced (entry : AnnounceEntry) (address : BitVec 32) : Prop :=
  parsePeerPrefixNetwork makeAddress entry.network entry.prefixLength =
    some (address &&& mask 32 entry.prefixLength.toNat)

def Reserved (address : BitVec 32) : Prop :=
  ∃ range ∈ reserved, address &&& mask 32 range.2 = range.1

variable {makeAddress} {allowed : List AllowEntry} {sessionGuid : Text} {entry : AnnounceEntry}
  {requested : BitVec 32}

theorem not_dangerous_of_allowed
    (accepted : isPeerRouteAnnouncementAllowed makeAddress allowed sessionGuid entry)
    (parsed : parsePeerPrefixNetwork makeAddress entry.network entry.prefixLength =
      some requested) : isDangerousPeerPrefix requested entry.prefixLength = false := by
  unfold isPeerRouteAnnouncementAllowed at accepted
  simp only [parsed] at accepted
  split_ifs at accepted with _ safe
  exact Bool.eq_false_iff.mpr safe

theorem outside_of_not_dangerous {range : BitVec 32 × Nat} (member : range ∈ reserved)
    (safe : isDangerousPeerPrefix requested entry.prefixLength = false)
    (longer : range.2 ≤ entry.prefixLength) : requested &&& mask 32 range.2 ≠ range.1 := by
  have based : ∀ range ∈ reserved, range.1 &&& mask 32 range.2 = range.1 := by decide
  intro inside
  unfold isDangerousPeerPrefix at safe
  split_ifs at safe
  rw [List.any_eq_false] at safe
  apply safe range member
  simp [longer, inside, based range member]

/-- An accepted prefix stays clear of the reserved ranges exactly when it is not a shorter prefix
that a whole reserved range lies in. -/
theorem announced_not_reserved_iff (makeAddress : Text → Option Firewall.Address)
    (allowed : List AllowEntry) (sessionGuid : Text) (entry : AnnounceEntry)
    (accepted : isPeerRouteAnnouncementAllowed makeAddress allowed sessionGuid entry = true) :
    (∀ address, Announced makeAddress entry address → ¬ Reserved address) ↔
      ∀ range ∈ reserved, entry.prefixLength < range.2 → ¬ Announced makeAddress entry range.1 := by
  constructor
  · intro clear range member shorter announced
    have based : ∀ range ∈ reserved, range.1 &&& mask 32 range.2 = range.1 := by decide
    exact clear range.1 announced ⟨range, member, based range member⟩
  · rintro apart address announced ⟨range, member, inside⟩
    by_cases longer : range.2 ≤ entry.prefixLength
    · apply outside_of_not_dangerous member (not_dangerous_of_allowed accepted announced) longer
      rw [and_mask_and_mask, Nat.min_eq_right (by omega), inside]
    · apply apart range member (by omega)
      rw [Announced, announced, ← inside, and_mask_and_mask, Nat.min_eq_right (by omega)]

def shortEntry : AnnounceEntry := { network := text "126.0.0.0", prefixLength := 7 }

def shortRow : AllowEntry :=
  { network := text "126.0.0.0", prefixLength := 7, guid := text "\x7bA1\x7d" }

/-- `126.0.0.0/7` is accepted, and 127.0.0.1 lies in it. -/
theorem short_prefix_announces_loopback :
    isPeerRouteAnnouncementAllowed (fun text => (ip text).map .v4) [shortRow] (text "a1")
        shortEntry = true ∧
      Announced (fun text => (ip text).map .v4) shortEntry 0x7f000001 ∧ Reserved 0x7f000001 := by
  unfold Announced Reserved
  decide +kernel

def homeEntry : AnnounceEntry := { network := text "10.1.0.0", prefixLength := 16 }

def homeRow : AllowEntry :=
  { network := text "10.1.0.0", prefixLength := 16, guid := text "a1" }

theorem home_prefix_clear :
    isPeerRouteAnnouncementAllowed (fun text => (ip text).map .v4) [homeRow] (text "a1")
        homeEntry = true ∧ ∀ address, Announced (fun text => (ip text).map .v4) homeEntry address →
        ¬ Reserved address := by
  refine ⟨?accepted, (announced_not_reserved_iff _ _ _ _ ?accepted).mpr ?_⟩
  · decide +kernel
  · unfold Announced
    decide +kernel

end OpenPpp2.Server.RouteAnnounce
