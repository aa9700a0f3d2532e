import OpenPpp2.Lib.Run

/-!
# The takeover routes of IPv6

`IPv6RouteTransaction.cpp` over a route owner: an egress pin that is staged and then committed, two
half routes that are replaced together, and the routes that were retired but could not be deleted,
for a later attempt.
-/

namespace OpenPpp2.Ipv6

open Lib.Run

inductive RouteKind where
  | egressPin
  | lowerHalf
  | upperHalf
  deriving DecidableEq, Repr

inductive PairMode where
  | none
  | sink
  | managed
  deriving DecidableEq, Repr

/-- `IsExactRouteMatch` compares all the fields. -/
structure RouteIdentity where
  kind : RouteKind := .egressPin
  destination : BitVec 128 := 0
  prefixLength : BitVec 8 := 0
  interfaceLuid : BitVec 64 := 0
  interfaceIndex : BitVec 32 := 0
  nextHop : BitVec 128 := 0
  nextHopScopeId : BitVec 32 := 0
  metric : BitVec 32 := 0
  protocol : BitVec 32 := 0
  origin : BitVec 32 := 0
  sitePrefixLength : BitVec 8 := 0
  loopback : Bool := false
  autoconfigureAddress : Bool := false
  publish : Bool := false
  immortal : Bool := false
  deriving DecidableEq, Repr

inductive OwnershipMutation where
  | changed
  | unchanged
  | failed
  deriving DecidableEq, Repr

/-- The host and the records of the route owner; any call may fail. -/
structure Host where
  routes : List RouteIdentity
  created : List RouteIdentity := []
  fails : Nat → Bool
  calls : Nat := 0

namespace Host

variable (host : Host)

def tick : Host := { host with calls := host.calls + 1 }

def create (route : RouteIdentity) : OwnershipMutation × Host :=
  if host.fails host.calls then (.failed, host.tick)
  else if route ∈ host.routes then (.unchanged, host.tick)
  else (.changed, { host.tick with
    routes := route :: host.routes, created := route :: host.created })

/-- `IRouteMutator::Delete`, of a route that the owner has created. -/
def delete (route : RouteIdentity) : Bool × Host :=
  if host.fails host.calls ∨ route ∉ host.created then (false, host.tick)
  else (true, { host.tick with
    routes := host.routes.filter (· ≠ route), created := host.created.filter (· ≠ route) })

end Host

structure RouteSlot where
  identity : RouteIdentity := {}
  present : Bool := false
  owned : Bool := false
  deriving DecidableEq, Repr

def deleteSlot (slot : RouteSlot) (host : Host) : Bool × RouteSlot × Host :=
  if !slot.present || !slot.owned then (true, {}, host)
  else match host.delete slot.identity with
    | (true, host) => (true, {}, host)
    | (false, host) => (false, slot, host)

def queueOwned (slot : RouteSlot) (pending : List RouteSlot) : List RouteSlot :=
  if slot.present && slot.owned then pending ++ [slot] else pending

def retryPending (kind : RouteKind) : List RouteSlot → Host → Bool × List RouteSlot × Host
  | [], host => (true, [], host)
  | slot :: rest, host =>
    if slot.identity.kind ≠ kind then
      let (clean, kept, host) := retryPending kind rest host
      (clean, slot :: kept, host)
    else match host.delete slot.identity with
      | (true, host) => retryPending kind rest host
      | (false, host) =>
        let (_, kept, host) := retryPending kind rest host
        (false, slot :: kept, host)

/-- `stagedRoute` and `pinRoute` remember the route of the staged and of the committed pin, which
is missing for the pin of `StageNoPin`; no function reads them. -/
structure Transaction where
  host : Host
  mode : PairMode := .none
  lower : RouteSlot := {}
  upper : RouteSlot := {}
  staged : RouteSlot := {}
  committed : RouteSlot := {}
  pending : List RouteSlot := []
  stagedRoute : Option RouteIdentity := none
  pinRoute : Option RouteIdentity := none

namespace Transaction

variable (t : Transaction)

def retry (kind : RouteKind) : Bool × Transaction :=
  let (clean, pending, host) := retryPending kind t.pending t.host
  (clean, { t with pending, host })

def rollbackStagedPin : Bool × Transaction :=
  let (clean, staged, host) := deleteSlot t.staged t.host
  (clean, { t with staged, host })

def stagePin (pin : RouteIdentity) : Bool × Transaction :=
  if pin.kind ≠ .egressPin then (false, t)
  else match t.rollbackStagedPin with
    | (false, t) => (false, t)
    | (true, t) => match t.host.create pin with
      | (.failed, host) => (false, { t with host })
      | (mutation, host) => (true, { t with
          host, staged := ⟨pin, true, mutation = .changed⟩, stagedRoute := some pin })

def stageNoPin : Bool × Transaction :=
  match t.rollbackStagedPin with
  | (false, t) => (false, t)
  | (true, t) => (true, { t with staged := ⟨{}, true, false⟩, stagedRoute := none })

def commitStagedPin : Bool × Transaction :=
  if !t.staged.present then (false, t)
  else if t.committed.present ∧ t.committed.identity = t.staged.identity then
    (true, ({ t with
      pending := queueOwned t.staged t.pending, staged := {}, pinRoute := t.stagedRoute }.retry
        .egressPin).2)
  else
    (true, ({ t with
      pending := queueOwned t.committed t.pending, committed := t.staged, staged := {}
      pinRoute := t.stagedRoute }.retry .egressPin).2)

def applyPair (mode : PairMode) (lower upper : RouteIdentity) : Bool × Transaction :=
  if lower.kind ≠ .lowerHalf ∨ upper.kind ≠ .upperHalf then (false, t)
  else if t.lower.present ∧ t.upper.present ∧ t.lower.identity = lower ∧
      t.upper.identity = upper then (true, { t with mode })
  else match t.host.create lower with
    | (.failed, host) => (false, { t with host })
    | (lowerResult, host) =>
      let nextLower : RouteSlot := ⟨lower, true, lowerResult = .changed⟩
      match host.create upper with
      | (.failed, host) => match deleteSlot nextLower host with
        | (true, _, host) => (false, { t with host })
        | (false, slot, host) => (false, { t with host, pending := queueOwned slot t.pending })
      | (upperResult, host) =>
        let applied := { t with
          host, mode, lower := nextLower,
          upper := ⟨upper, true, upperResult = OwnershipMutation.changed⟩
          pending := queueOwned t.lower (queueOwned t.upper t.pending) }
        (true, ((applied.retry .upperHalf).2.retry .lowerHalf).2)

/-- `Stop`; its result, which no call reads, is left out. -/
def stop : Transaction :=
  let (_, upper, host) := deleteSlot t.upper t.host
  let (_, lower, host) := deleteSlot t.lower host
  let t := { t with upper, lower, host, mode := .none }
  let t := ((t.retry .upperHalf).2.retry .lowerHalf).2
  let t := (t.rollbackStagedPin.2.retry .egressPin).2
  let (_, committed, host) := deleteSlot t.committed t.host
  let t := { t with
    committed, host, pinRoute := if committed.present then t.pinRoute else none }
  (t.retry .egressPin).2

def hasPendingCleanup : Bool :=
  !t.pending.isEmpty || t.lower.present && t.lower.owned || t.upper.present && t.upper.owned ||
    t.staged.present && t.staged.owned || t.committed.present && t.committed.owned

inductive Call where
  | stagePin (pin : RouteIdentity)
  | stageNoPin
  | commitStagedPin
  | rollbackStagedPin
  | ensureSinkMode (lower upper : RouteIdentity)
  | activateManagedMode (lower upper : RouteIdentity)
  | stop

def step (t : Transaction) : Call → Transaction
  | .stagePin pin => (t.stagePin pin).2
  | .stageNoPin => t.stageNoPin.2
  | .commitStagedPin => t.commitStagedPin.2
  | .rollbackStagedPin => t.rollbackStagedPin.2
  | .ensureSinkMode lower upper => (t.applyPair .sink lower upper).2
  | .activateManagedMode lower upper => (t.applyPair .managed lower upper).2
  | .stop => t.stop

end Transaction

@[grind] def RouteSlot.holds (slot : RouteSlot) (route : RouteIdentity) : Nat :=
  if slot.present ∧ slot.owned ∧ slot.identity = route then 1 else 0

def queued (pending : List RouteSlot) (route : RouteIdentity) : Nat :=
  (pending.map (·.identity)).count route

variable {route : RouteIdentity} {slot : RouteSlot}

@[grind =] theorem queued_cons {rest : List RouteSlot} :
    queued (slot :: rest) route = queued rest route + if slot.identity = route then 1 else 0 := by
  simp [queued, List.count_cons]

@[grind =] theorem queued_queueOwned {pending : List RouteSlot} :
    queued (queueOwned slot pending) route = queued pending route + slot.holds route := by
  unfold queueOwned queued RouteSlot.holds
  grind

abbrev Same (before after : Host) (route : RouteIdentity) : Prop :=
  (route ∈ after.routes ↔ route ∈ before.routes) ∧ (route ∈ after.created ↔ route ∈ before.created)

abbrev Gone (before after : Host) (route : RouteIdentity) : Prop :=
  route ∈ before.created ∧ route ∉ after.created ∧ route ∉ after.routes

theorem delete_spec (host : Host) (route other : RouteIdentity) :
    (host.delete route).1 ∧ other = route ∧ Gone host (host.delete route).2 other ∨
      ((host.delete route).1 = false ∨ other ≠ route) ∧ Same host (host.delete route).2 other := by
  unfold Host.delete
  split_ifs <;> grind [Host.tick]

theorem create_spec (host : Host) (route other : RouteIdentity) :
    (host.create route).1 = .failed ∧ Same host (host.create route).2 other ∨
      (host.create route).1 = .unchanged ∧ Same host (host.create route).2 other ∧
        route ∈ host.routes ∨
      (host.create route).1 = .changed ∧ other ≠ route ∧ Same host (host.create route).2 other ∨
      (host.create route).1 = .changed ∧ other = route ∧ route ∉ host.routes ∧
        route ∈ (host.create route).2.routes ∧ route ∈ (host.create route).2.created := by
  unfold Host.create
  split_ifs with failed found <;> grind [Host.tick]

theorem deleteSlot_spec (slot : RouteSlot) (host : Host) (route : RouteIdentity) :
    (deleteSlot slot host).1 ∧ (deleteSlot slot host).2.1 = {} ∧
        (slot.holds route = 0 ∧ Same host (deleteSlot slot host).2.2 route ∨
          slot.holds route = 1 ∧ Gone host (deleteSlot slot host).2.2 route) ∨
      (deleteSlot slot host).1 = false ∧ (deleteSlot slot host).2.1 = slot ∧
        slot.owned ∧ Same host (deleteSlot slot host).2.2 route := by
  have spec := delete_spec host slot.identity route
  unfold deleteSlot
  split_ifs with free
  · grind
  · generalize host.delete slot.identity = out at spec ⊢
    obtain ⟨done, after⟩ := out
    cases done <;> grind

theorem retryPending_spec (kind : RouteKind) (pending : List RouteSlot) (host : Host)
    (route : RouteIdentity) (once : queued pending route ≤ 1) :
    queued (retryPending kind pending host).2.1 route = queued pending route ∧
        Same host (retryPending kind pending host).2.2 route ∨
      route.kind = kind ∧ queued pending route = 1 ∧
        queued (retryPending kind pending host).2.1 route = 0 ∧
        Gone host (retryPending kind pending host).2.2 route := by
  induction pending generalizing host with
  | nil => exact .inl ⟨rfl, Iff.rfl, Iff.rfl⟩
  | cons slot rest ih =>
    unfold retryPending
    split_ifs with other
    · have := ih host
      grind
    · have spec := delete_spec host slot.identity route
      generalize host.delete slot.identity = out at spec ⊢
      obtain ⟨done, after⟩ := out
      cases done <;> grind

namespace Transaction

/-- How many slots have to see to the deletion of the route. -/
abbrev owners (t : Transaction) (route : RouteIdentity) : Nat :=
  t.lower.holds route + t.upper.holds route + t.staged.holds route + t.committed.holds route +
    queued t.pending route

/-- A route that was created and not deleted has exactly one owner, a route in use is installed and
not queued, and the kinds keep the slots apart. -/
@[grind cases] structure Kept (t : Transaction) (route : RouteIdentity) : Prop where
  once : t.owners route ≤ 1
  created : route ∈ t.host.created ↔ t.owners route = 1
  routes : route ∈ t.host.created → route ∈ t.host.routes
  pin : t.pinRoute = some route → route ∈ t.host.routes ∧ t.committed.present ∧
    t.committed.identity = route ∧ queued t.pending route = 0 ∧ t.staged.holds route = 0
  staging : t.stagedRoute = some route → t.staged.present →
    t.staged.identity = route ∧ (queued t.pending route = 0 → route ∈ t.host.routes)
  lower : t.lower.present → t.lower.identity = route →
    route ∈ t.host.routes ∧ queued t.pending route = 0 ∧ route.kind = .lowerHalf
  upper : t.upper.present → t.upper.identity = route →
    route ∈ t.host.routes ∧ queued t.pending route = 0 ∧ route.kind = .upperHalf
  staged : t.staged.present → t.staged.identity = route → route.kind = .egressPin
  committed : t.committed.present → t.committed.identity = route → route.kind = .egressPin

structure Installed (t : Transaction) : Prop where
  kept : ∀ route, Kept t route
  pair : t.mode ≠ .none → t.lower.present ∧ t.upper.present

variable {t : Transaction}

theorem Kept.pinned (kept : Kept t route)
    (pinned : t.pinRoute = some route) : t.lower.holds route = 0 ∧ t.upper.holds route = 0 := by
  grind

theorem Installed.retry (inst : Installed t) (kind : RouteKind)
    (free : kind = .egressPin → t.staged.present → t.staged.owned) :
    Installed (t.retry kind).2 := by
  refine ⟨fun route => ?_, inst.pair⟩
  have kept := inst.kept route
  have spec := retryPending_spec kind t.pending t.host route (by grind)
  unfold Transaction.retry
  generalize retryPending kind t.pending t.host = out at spec ⊢
  obtain ⟨clean, pending, host⟩ := out
  rcases spec with ⟨queue, same⟩ | ⟨due, one, zero, gone⟩
  · constructor <;> grind -ring -linarith -order -ac
  · -- the queue was the only owner: no slot in use names the route
    have unheld : t.lower.holds route = 0 ∧ t.upper.holds route = 0 ∧
        t.staged.holds route = 0 ∧ t.committed.holds route = 0 := by
      have once := kept.once
      unfold owners at once
      omega
    constructor <;> grind -ring -linarith -order -ac

theorem Installed.rollbackStagedPin (inst : Installed t) : Installed t.rollbackStagedPin.2 := by
  refine ⟨fun route => ?_, inst.pair⟩
  have kept := inst.kept route
  have spec := deleteSlot_spec t.staged t.host route
  unfold Transaction.rollbackStagedPin
  generalize deleteSlot t.staged t.host = out at spec ⊢
  obtain ⟨clean, staged, host⟩ := out
  rcases spec with ⟨done, rfl, ⟨other, same⟩ | ⟨own, gone⟩⟩ | ⟨failed, rfl, owned, same⟩
  · constructor <;> grind -ring -linarith -order -ac
  · -- a pin that was created is committed or queued nowhere
    have alone : t.committed.holds route = 0 ∧ queued t.pending route = 0 := by
      have once := kept.once
      unfold owners at once
      omega
    constructor <;> grind -ring -linarith -order -ac
  · constructor <;> grind -ring -linarith -order -ac

theorem staged_rollbackStagedPin : (t.rollbackStagedPin.1 → t.rollbackStagedPin.2.staged = {}) ∧
      (t.rollbackStagedPin.2.staged.present → t.rollbackStagedPin.2.staged.owned) := by
  have spec := deleteSlot_spec t.staged t.host {}
  unfold rollbackStagedPin
  constructor <;> grind

theorem Installed.stagePin (inst : Installed t) (pin : RouteIdentity) :
    Installed (t.stagePin pin).2 := by
  have free := (@staged_rollbackStagedPin t).1
  have inst' := inst.rollbackStagedPin
  unfold Transaction.stagePin
  split_ifs with kind
  · exact inst
  · generalize t.rollbackStagedPin = out at free inst' ⊢
    obtain ⟨clean, t⟩ := out
    cases clean with
    | false => exact inst'
    | true =>
      have made := create_spec t.host pin
      dsimp only
      generalize t.host.create pin = out at made ⊢
      obtain ⟨result, host⟩ := out
      refine ⟨fun route => ?_, by cases result <;> exact inst'.pair⟩
      have kept := inst'.kept route
      rcases made route with ⟨rfl, same⟩ | ⟨rfl, same, there⟩ | ⟨rfl, apart, same⟩ |
        ⟨rfl, rfl, absent, there, mine⟩ <;> clear made
      · constructor <;> grind -ring -linarith -order -ac
      · -- found: the staged slot does not own it
        constructor <;> grind -ring -linarith -order -ac
      · constructor <;> grind -ring -linarith -order -ac
      · -- created: it was not installed, so that it had no owner
        have unowned : t.owners route ≠ 1 := fun one =>
          absent (kept.routes (kept.created.2 one))
        constructor <;> grind -ring -linarith -order -ac

theorem Installed.stageNoPin (inst : Installed t) : Installed t.stageNoPin.2 := by
  have free := (@staged_rollbackStagedPin t).1
  have inst' := inst.rollbackStagedPin
  unfold Transaction.stageNoPin
  generalize t.rollbackStagedPin = out at free inst' ⊢
  obtain ⟨clean, t⟩ := out
  cases clean with
  | false => exact inst'
  | true =>
    refine ⟨fun route => ?_, inst'.pair⟩
    have kept := inst'.kept route
    constructor <;> grind -ring -linarith -order -ac

/-- The calls that adopt no route whose deletion is still due: the pin to commit is not queued and
not about to be, and a new pair does not reuse a half that is queued or that the pair owns. -/
def Allowed (t : Transaction) : Call → Prop
  | .commitStagedPin => ∀ route, t.staged.present → t.stagedRoute = some route →
      queued t.pending route = 0 ∧
        (t.committed.present → t.committed.identity = route → t.staged.owned = false)
  | .ensureSinkMode lower upper | .activateManagedMode lower upper =>
      t.lower.present ∧ t.upper.present ∧ t.lower.identity = lower ∧
          t.upper.identity = upper ∨
        queued t.pending lower = 0 ∧ queued t.pending upper = 0 ∧
          t.lower.holds lower = 0 ∧ t.upper.holds upper = 0
  | _ => True

section

variable (inst : Installed t)
include inst

theorem Installed.commitStagedPin (allowed : Allowed t .commitStagedPin) :
    Installed t.commitStagedPin.2 := by
  unfold Transaction.commitStagedPin
  simp only [Allowed] at allowed
  split_ifs with absent same
  · exact inst
  all_goals
    apply retry _ .egressPin (fun _ staged => Bool.noConfusion staged)
    refine ⟨fun route => ?_, inst.pair⟩
    -- a pin that is owned and replaced moves from its slot to the queue
    have kept := inst.kept route
    constructor <;> grind -ring -linarith -order -ac

theorem Installed.applyPair {mode : PairMode} {lower upper : RouteIdentity}
    (allowed : Allowed t (.ensureSinkMode lower upper)) :
    Installed (t.applyPair mode lower upper).2 := by
  unfold Transaction.applyPair
  split_ifs with kinds same
  · exact inst
  · refine ⟨fun route => ?_, fun _ => ⟨same.1, same.2.1⟩⟩
    have kept := inst.kept route
    constructor <;> grind -ring -linarith -order -ac
  · replace allowed := allowed.resolve_left same
    have made := create_spec t.host lower
    generalize t.host.create lower = out at made ⊢
    obtain ⟨result, host⟩ := out
    have made' := create_spec host upper
    cases result
    case failed =>
      refine ⟨fun route => ?_, inst.pair⟩
      have kept := inst.kept route
      constructor <;> grind -ring -linarith -order -ac
    all_goals
      dsimp only
      generalize host.create upper = out at made' ⊢
      obtain ⟨result', host'⟩ := out
      cases result'
      case failed =>
        dsimp only
        generalize owned : RouteSlot.mk lower true _ = next
        have undone := deleteSlot_spec next host'
        generalize deleteSlot next host' = out at undone ⊢
        obtain ⟨done, slot, after⟩ := out
        refine ⟨fun route => ?_, by cases done <;> exact inst.pair⟩
        -- the lower half is deleted again, or queued if it cannot be
        specialize made' route
        specialize undone route
        have kept := inst.kept route
        cases done <;> constructor <;> grind -ring -linarith -order -ac
      all_goals
        apply (retry ?_ .upperHalf nofun).retry .lowerHalf nofun
        refine ⟨fun route => ?_, fun _ => ⟨rfl, rfl⟩⟩
        -- the new halves own what was created for them, the old ones move to the queue
        specialize made route
        specialize made' route
        have pinned := (inst.kept route).pinned
        have kept := inst.kept route
        constructor <;> grind -ring -linarith -order -ac

-- For each of the three slots a route is left alone, deleted with its owner, or still held.
theorem Installed.dropUpper : Installed { t with
      upper := (deleteSlot t.upper t.host).2.1, host := (deleteSlot t.upper t.host).2.2
      mode := .none } := by
  refine ⟨fun route => ?_, nofun⟩
  have kept := inst.kept route
  have spec := deleteSlot_spec t.upper t.host route
  rcases spec with ⟨_, cleared, ⟨other, same⟩ | ⟨own, gone⟩⟩ | ⟨_, held, _, same⟩ <;>
    constructor <;> grind -ring -linarith -order -ac

theorem Installed.dropLower : Installed { t with
      lower := (deleteSlot t.lower t.host).2.1, host := (deleteSlot t.lower t.host).2.2
      mode := .none } := by
  refine ⟨fun route => ?_, nofun⟩
  have kept := inst.kept route
  have spec := deleteSlot_spec t.lower t.host route
  rcases spec with ⟨_, cleared, ⟨other, same⟩ | ⟨own, gone⟩⟩ | ⟨_, held, _, same⟩ <;>
    constructor <;> grind -ring -linarith -order -ac

theorem Installed.dropCommitted (free : t.staged.present → t.staged.owned) : Installed { t with
      committed := (deleteSlot t.committed t.host).2.1
      host := (deleteSlot t.committed t.host).2.2
      pinRoute := if (deleteSlot t.committed t.host).2.1.present then t.pinRoute else none } := by
  refine ⟨fun route => ?_, inst.pair⟩
  have kept := inst.kept route
  have spec := deleteSlot_spec t.committed t.host route
  rcases spec with ⟨_, cleared, ⟨other, same⟩ | ⟨own, gone⟩⟩ | ⟨_, held, _, same⟩ <;>
    constructor <;> grind -ring -linarith -order -ac

theorem Installed.stop : Installed t.stop := by
  have dropped := ((inst.dropUpper.dropLower.retry .upperHalf nofun).retry .lowerHalf nofun)
  have rolled := dropped.rollbackStagedPin.retry .egressPin fun _ => staged_rollbackStagedPin.2
  have released := rolled.dropCommitted staged_rollbackStagedPin.2
  exact released.retry .egressPin fun _ => staged_rollbackStagedPin.2

theorem Installed.step (call : Call) (allowed : Allowed t call) : Installed (t.step call) := by
  cases call with
  | stagePin pin => exact inst.stagePin pin
  | stageNoPin => exact inst.stageNoPin
  | commitStagedPin => exact inst.commitStagedPin allowed
  | rollbackStagedPin => exact inst.rollbackStagedPin
  | ensureSinkMode lower upper => exact inst.applyPair allowed
  | activateManagedMode lower upper => exact inst.applyPair allowed
  | stop => exact inst.stop

end

theorem installed_init (host : Host) (fresh : host.created = []) : Installed { host } := by
  refine ⟨fun route => ?_, nofun⟩
  constructor <;> simp [fresh, owners, queued, RouteSlot.holds]

theorem hasPendingCleanup_of_owners (owned : t.owners route = 1) : t.hasPendingCleanup := by
  unfold hasPendingCleanup
  have : t.pending = [] → queued t.pending route = 0 := by grind [queued]
  grind

/-- In every run of allowed calls, on any host and however its calls fail, the committed pin and the
two halves of the pair stay installed, and a route that was created has its owner until its
deletion. -/
theorem takeover_routes_stay_installed (host : Host) (fresh : host.created = [])
    (calls : List Call) (guarded : Guarded step Allowed { host } calls) :
    let t := run step { host } calls
    (∀ route, t.pinRoute = some route → route ∈ t.host.routes) ∧
      (t.mode ≠ .none → t.lower.identity ∈ t.host.routes ∧ t.upper.identity ∈ t.host.routes) ∧
      ∀ route ∈ t.host.created, t.owners route = 1 ∧ t.hasPendingCleanup = true := by
  have inst := guarded_invariant (fun _ call allowed inst => Installed.step inst call allowed)
    guarded (installed_init host fresh)
  refine ⟨fun route pinned => ((inst.kept route).pin pinned).1, fun active => ?_, ?_⟩
  · have held := inst.pair active
    exact ⟨((inst.kept _).lower held.1 rfl).1, ((inst.kept _).upper held.2 rfl).1⟩
  · intro route created
    have owned := (inst.kept route).created.1 created
    exact ⟨owned, hasPendingCleanup_of_owners owned⟩

/-- The sink pair cannot be deleted when the managed one replaces it. When it is applied again,
`Create` finds it, and then the retry deletes it. -/
theorem retired_half_is_deleted :
    let lower : RouteIdentity := { kind := .lowerHalf }
    let upper : RouteIdentity := { kind := .upperHalf }
    let t := run step { host := { routes := [], fails := fun call => call = 4 ∨ call = 5 } }
      [.ensureSinkMode lower upper,
        .activateManagedMode { lower with metric := 1 } { upper with metric := 1 },
        .ensureSinkMode lower upper]
    t.mode = .sink ∧ t.lower.identity = lower ∧ t.upper.identity = upper ∧ t.host.routes = [] := by
  decide +kernel

theorem sink_pair_over_pin_stays_installed :
    let pin : RouteIdentity := { metric := 1 }
    let lower : RouteIdentity := { kind := .lowerHalf }
    let upper : RouteIdentity := { kind := .upperHalf }
    let host : Host := { routes := [], fails := fun call => call = 1 }
    let calls := [.stagePin pin, .ensureSinkMode lower upper, .commitStagedPin,
      .ensureSinkMode lower upper]
    let t := run step { host } calls
    (∀ route, t.pinRoute = some route → route ∈ t.host.routes) ∧
      (t.mode ≠ .none → t.lower.identity ∈ t.host.routes ∧ t.upper.identity ∈ t.host.routes) ∧
      ∀ route ∈ t.host.created, t.owners route = 1 ∧ t.hasPendingCleanup = true := by
  intro pin lower upper host calls
  refine takeover_routes_stay_installed host rfl calls ⟨trivial, ?_, ?_, ?_, trivial⟩
  · exact .inr (by decide +kernel)
  · intro route staged found
    cases found
    decide +kernel
  · exact .inr (by decide +kernel)

end Transaction

end OpenPpp2.Ipv6
