import Mathlib.Data.BitVec
import OpenPpp2.Lib.Run

/-!
# Handing items from one producer to one consumer

`SpscHandoff.h`, one atomic access a step: the producer publishes a batch and then commits the
wake-up, the consumer arms the gate when it has found the queue empty and then looks again, and any
number of other threads request the close or abort. The items in the slots that the same indices
address stand at the end.
-/

namespace OpenPpp2.Threading.SpscHandoff

open Lib.Run Function

inductive Gate where
  | running
  | waiting
  | scheduled
  | closed
  deriving DecidableEq, Repr

/-- `CommitWake` on the state it loaded last: where it stands after the next exchange, the gate,
and what it returns. A weak exchange may fail on an unchanged gate. -/
structure Exchange where
  gate : Gate
  next : Option Gate
  result : Option Bool

def commitWake (gate expected : Gate) (spurious : Bool) : Exchange :=
  if expected = .closed then ⟨gate, none, some false⟩
  else if gate ≠ expected ∨ spurious then ⟨gate, some gate, none⟩
  else if expected = .waiting then ⟨.scheduled, none, some true⟩
  else ⟨gate, none, some false⟩

def free (capacity : Nat) (head tail : BitVec 64) : Nat :=
  (BitVec.ofNat 64 capacity - (tail - head)).toNat

/-- Where the producer stands: in `TryPushBatch`, or in `CommitWake`. -/
inductive Producer where
  | idle
  | checked (count : Nat)
  | opened (count : Nat)
  | loaded (count : Nat) (tail : BitVec 64)
  | writing (count : Nat) (tail : BitVec 64)
  | published
  | committing (expected : Gate)
  deriving DecidableEq, Repr

/-- Where the consumer stands: in its drain loop, or in `ArmWaitAndRecheck`. -/
inductive Consumer where
  | idle
  | draining
  | drained
  | armed
  | rechecking
  | foundEmpty
  | rearming
  deriving DecidableEq, Repr

/-- Where a thread stands that called `RequestClose` or `Abort`. -/
inductive Closer where
  | idle
  | requested
  | aborting
  | committing (expected : Gate)
  deriving DecidableEq, Repr

inductive Caller where
  | producer
  | closer (id : Nat)
  deriving DecidableEq, Repr

/-- `told` lists the callers to whom `CommitWake` has returned true. -/
structure State where
  capacity : Nat
  epoch : Nat
  head : BitVec 64 := 0
  tail : BitVec 64 := 0
  gate : Gate := .waiting
  closing : Bool := false
  producer : Producer := .idle
  consumer : Consumer := .idle
  closers : Nat → Closer := fun _ => .idle
  told : List Caller := []

inductive Step where
  | producer (count : Nat) (spurious : Bool)
  | consumer (epoch : Nat)
  | closer (id : Nat) (abort spurious : Bool)

namespace State

variable (s : State)

def tell (caller : Caller) (result : Option Bool) : List Caller :=
  if result = some true then s.told ++ [caller] else s.told

/-- `TryPushBatch` and the `CommitWake` that follows an accepted batch. -/
def stepProducer (count : Nat) (spurious : Bool) : State :=
  match s.producer with
  | .idle => if s.closing then s else { s with producer := .checked count }
  | .checked count =>
    if s.gate = .closed then { s with producer := .idle }
    else { s with producer := .opened count }
  | .opened count => { s with producer := .loaded count s.tail }
  | .loaded count tail =>
    if free s.capacity s.head tail < count then { s with producer := .idle }
    else { s with producer := .writing count tail }
  | .writing count tail =>
    { s with tail := tail + BitVec.ofNat 64 count, producer := .published }
  | .published => { s with producer := .committing s.gate }
  | .committing expected =>
    let exchange := commitWake s.gate expected spurious
    { s with
      gate := exchange.gate
      producer := (exchange.next.map Producer.committing).getD .idle
      told := s.tell .producer exchange.result }

/-- `Claim`, the drain loop over `TryPop`, `ArmWait` and `RecheckAfterArm`. -/
def stepConsumer (epoch : Nat) : State :=
  match s.consumer with
  | .idle =>
    if epoch = s.epoch ∧ s.gate = .scheduled then
      { s with gate := .running, consumer := .draining }
    else s
  | .draining =>
    if s.head = s.tail then { s with consumer := .drained } else { s with head := s.head + 1 }
  | .drained =>
    if s.gate = .running then { s with gate := .waiting, consumer := .armed }
    else { s with consumer := .idle }
  | .armed => { s with consumer := if s.gate = .closed then .idle else .rechecking }
  | .rechecking => { s with consumer := if s.head = s.tail then .foundEmpty else .rearming }
  | .foundEmpty => { s with consumer := if s.closing then .rearming else .idle }
  | .rearming =>
    if s.gate = .waiting then { s with gate := .running, consumer := .draining }
    else { s with consumer := .idle }

def setCloser (id : Nat) (closer : Closer) : Nat → Closer := update s.closers id closer

/-- `RequestClose` and `Abort`; both publish `closing_` first. -/
def stepCloser (id : Nat) (abort spurious : Bool) : State :=
  match s.closers id with
  | .idle =>
    { s with closing := true, closers := s.setCloser id (if abort then .aborting else .requested) }
  | .aborting => { s with gate := .closed, closers := s.setCloser id .idle }
  | .requested => { s with closers := s.setCloser id (.committing s.gate) }
  | .committing expected =>
    let exchange := commitWake s.gate expected spurious
    { s with
      gate := exchange.gate
      closers := s.setCloser id ((exchange.next.map Closer.committing).getD .idle)
      told := s.tell (.closer id) exchange.result }

end State

def step (s : State) : Step → State
  | .producer count spurious => s.stepProducer count spurious
  | .consumer epoch => s.stepConsumer epoch
  | .closer id abort spurious => s.stepCloser id abort spurious

/-- Who may be told of a wake-up that the step makes. -/
def Step.caller : Step → Option Caller
  | .producer _ _ => some .producer
  | .consumer _ => none
  | .closer id _ _ => some (.closer id)

/-- The steps of a run that move the gate from `Waiting` to `Scheduled`, by their callers. -/
def wakes : State → List Step → List (Option Caller)
  | _, [] => []
  | s, taken :: rest =>
    (if s.gate = .waiting ∧ (step s taken).gate = .scheduled then [taken.caller] else []) ++
      wakes (step s taken) rest

variable {gate expected : Gate} {spurious : Bool} {s : State}

theorem commitWake_gate : (commitWake gate expected spurious).gate = gate ∨
      gate = .waiting ∧ (commitWake gate expected spurious).gate = .scheduled := by
  unfold commitWake
  grind

theorem commitWake_next (opened : expected ≠ .closed)
    (waiting : (commitWake gate expected spurious).gate = .waiting) :
    (commitWake gate expected spurious).next = some .waiting := by
  unfold commitWake at *
  grind

theorem commitWake_closed (closed : (commitWake gate expected spurious).next = some .closed) :
    (commitWake gate expected spurious).gate = .closed := by
  unfold commitWake at *
  grind

theorem commitWake_result : (commitWake gate expected spurious).result = some true ↔
      gate = .waiting ∧ (commitWake gate expected spurious).gate = .scheduled := by
  unfold commitWake
  grind

/-- The producer has published a batch and has not finished its `CommitWake`. -/
def Producer.Pending : Producer → Prop
  | .published | .committing _ => True
  | _ => False

/-- The consumer has armed the gate and has not looked at the queue since, or has found items. -/
def Consumer.Rechecks : Consumer → Prop
  | .armed | .rechecking | .rearming => True
  | _ => False

structure Sound (s : State) : Prop where
  watched : s.head ≠ s.tail → s.gate = .waiting → s.producer.Pending ∨ s.consumer.Rechecks
  seen : s.producer = .committing .closed → s.gate = .closed

theorem Sound.producer (sound : Sound s) (count : Nat) : Sound (s.stepProducer count spurious) := by
  obtain ⟨watched, seen⟩ := sound
  unfold State.stepProducer
  cases at_ : s.producer with
  | idle | checked | opened | loaded | writing | published =>
    constructor <;> grind [Producer.Pending]
  | committing expected =>
    constructor
    · intro _ waiting
      have opened : expected ≠ .closed := by
        rintro rfl
        have same := @commitWake_gate s.gate .closed spurious
        grind
      simp only [commitWake_next opened waiting]
      exact .inl trivial
    · intro found
      apply commitWake_closed
      cases next : (commitWake s.gate expected spurious).next with
      | none => simp [next] at found
      | some loaded => simpa [next] using found

theorem Sound.consumer (sound : Sound s) (epoch : Nat) : Sound (s.stepConsumer epoch) := by
  obtain ⟨watched, seen⟩ := sound
  unfold State.stepConsumer
  cases at_ : s.consumer
  all_goals
    constructor <;> grind [Consumer.Rechecks]

theorem Sound.closer (sound : Sound s) (id : Nat) (abort : Bool) :
    Sound (s.stepCloser id abort spurious) := by
  obtain ⟨watched, seen⟩ := sound
  unfold State.stepCloser
  cases s.closers id with
  | idle | requested | aborting => constructor <;> grind
  | committing expected =>
    have moved := @commitWake_gate s.gate expected spurious
    constructor <;> grind

theorem Sound.step (sound : Sound s) (taken : Step) : Sound (step s taken) := by
  cases taken with
  | producer count spurious => exact sound.producer count
  | consumer epoch => exact sound.consumer epoch
  | closer id abort spurious => exact sound.closer id abort

theorem told_step (s : State) (taken : Step) : (step s taken).told.map some = s.told.map some ++
    (if s.gate = .waiting ∧ (step s taken).gate = .scheduled then [taken.caller] else []) := by
  cases taken with
  | consumer epoch =>
    unfold step State.stepConsumer
    cases s.consumer <;> grind
  | producer count spurious =>
    unfold step State.stepProducer
    cases s.producer with
    | idle | checked | opened | loaded | writing | published => grind
    | committing expected =>
      simp only [State.tell, commitWake_result, Step.caller]
      split_ifs <;> simp
  | closer id abort spurious =>
    unfold step State.stepCloser
    cases at_ : s.closers id with
    | idle | requested | aborting => cases s.gate <;> simp [at_]
    | committing expected =>
      simp only [at_, State.tell, commitWake_result, Step.caller]
      split_ifs <;> simp

theorem told_run (s : State) (steps : List Step) :
    (run step s steps).told.map some = s.told.map some ++ wakes s steps := by
  induction steps generalizing s with
  | nil => simp [wakes]
  | cons taken rest ih => rw [run_cons, ih, told_step, wakes, List.append_assoc]

/-- A queue with items has somebody who will look at it, and every move of the gate from `Waiting`
to `Scheduled` was made by one call of `CommitWake`, the only one to return true for it. -/
theorem handoff_never_loses_wake (capacity epoch : Nat) (steps : List Step) :
    let start : State := { capacity, epoch }
    let s := run step start steps
    (s.head ≠ s.tail → s.gate ≠ .closed → s.gate = .running ∨ s.gate = .scheduled ∨
      s.producer.Pending ∨ s.consumer.Rechecks) ∧
    s.told.map some = wakes start steps := by
  intro start s
  have initial : Sound start := ⟨fun filled => absurd rfl filled, fun found => nomatch found⟩
  have sound : Sound s := run_invariant (fun _ taken kept => kept.step taken) initial steps
  constructor
  · intro filled opened
    cases at_ : s.gate with
    | running => exact .inl rfl
    | scheduled => exact .inr (.inl rfl)
    | waiting => exact .inr (.inr (sound.watched filled at_))
    | closed => exact absurd at_ opened
  · exact told_run start steps

open List

/-- Where the producer stands in `TryPushBatch`. -/
inductive Pushing (α : Type) where
  | idle
  | opened (items : List α)
  | loaded (items : List α) (tail : BitVec 64)
  | writing (items : List α) (tail : BitVec 64) (done : Nat)

/-- Where the consumer stands in `TryPop`; a slot without an object has no item. -/
inductive Popping (α : Type) where
  | idle
  | loaded (head : BitVec 64)
  | found (head : BitVec 64)
  | taken (head : BitVec 64) (item : Option α)

/-- `batches` and `popped` are what the calls have accepted and returned. -/
structure Ring (α : Type) where
  head : BitVec 64
  tail : BitVec 64
  slots : Nat → Option α := fun _ => none
  pushing : Pushing α := .idle
  popping : Popping α := .idle
  batches : List (List α) := []
  popped : List (Option α) := []

def backingLoop (capacity backing : Nat) : Nat :=
  if 0 < backing ∧ backing < capacity then backingLoop capacity (backing * 2) else backing
termination_by capacity - backing

def storage (capacity : Nat) (index : BitVec 64) : Nat :=
  (index &&& BitVec.ofNat 64 (backingLoop capacity 1) - 1).toNat

inductive Access (α : Type) where
  | push (items : List α) (closed : Bool)
  | pop

namespace Ring

variable {α : Type} (capacity : Nat) (s : Ring α)

def tryPushBatch (items : List α) (closed : Bool) : Ring α :=
  match s.pushing with
  | .idle => if closed then s else { s with pushing := .opened items }
  | .opened items => { s with pushing := .loaded items s.tail }
  | .loaded items tail =>
    if free capacity s.head tail < items.length then
      { s with pushing := .idle }
    else { s with pushing := .writing items tail 0 }
  | .writing items tail done =>
    match items[done]? with
    | some item =>
      { s with
        slots := update s.slots (storage capacity (tail + BitVec.ofNat 64 done)) item
        pushing := .writing items tail (done + 1) }
    | none =>
      { s with
        tail := tail + BitVec.ofNat 64 items.length
        pushing := .idle
        batches := s.batches ++ [items] }

def tryPop : Ring α :=
  match s.popping with
  | .idle => { s with popping := .loaded s.head }
  | .loaded head => { s with popping := if head = s.tail then .idle else .found head }
  | .found head =>
    { s with
      slots := update s.slots (storage capacity head) none
      popping := .taken head (s.slots (storage capacity head)) }
  | .taken head item =>
    { s with head := head + 1, popping := .idle, popped := s.popped ++ [item] }

def access : Access α → Ring α
  | .push items closed => s.tryPushBatch capacity items closed
  | .pop => s.tryPop capacity

end Ring

variable {α : Type} {capacity : Nat}

theorem backingLoop_spec (bits : Nat) (low : 2 ^ bits < 2 * capacity ∨ bits = 0) :
    ∃ more, backingLoop capacity (2 ^ bits) = 2 ^ more ∧ capacity ≤ 2 ^ more ∧
      (2 ^ more < 2 * capacity ∨ more = 0) := by
  generalize start : 2 ^ bits = backing at low
  fun_induction backingLoop capacity backing generalizing bits with
  | case1 backing below ih =>
    exact ih (bits + 1) (by rw [← start, pow_succ]) (.inl (by omega))
  | case2 backing done =>
    have positive : 0 < backing := start ▸ Nat.two_pow_pos bits
    exact ⟨bits, start.symm, by omega, start ▸ low⟩

def Valid (capacity : Nat) : Prop := 0 < capacity ∧ capacity ≤ (2 ^ 64 - 1) / 4

theorem storage_eq (valid : Valid capacity) : ∃ bits, capacity ≤ 2 ^ bits ∧
    ∀ (start : BitVec 64) count,
      storage capacity (start + BitVec.ofNat 64 count) = (start.toNat + count) % 2 ^ bits := by
  obtain ⟨bits, backing, large, small⟩ := @backingLoop_spec capacity 0 (.inr rfl)
  unfold Valid at valid
  have fits : 2 ^ bits < 2 ^ 64 := by
    rcases small with low | rfl <;> omega
  refine ⟨bits, large, fun start count => ?_⟩
  have divides := Nat.pow_dvd_pow 2 ((Nat.pow_lt_pow_iff_right (by decide)).mp fits).le
  have mask : (BitVec.ofNat 64 (2 ^ bits) - 1).toNat = 2 ^ bits - 1 := by
    have positive := Nat.two_pow_pos bits
    generalize 2 ^ bits = backing at fits positive
    bv_omega
  rw [storage, ← pow_zero 2, backing, BitVec.toNat_and, mask, Nat.and_two_pow_sub_one_eq_mod,
    BitVec.toNat_add, BitVec.toNat_ofNat, Nat.add_mod_mod, Nat.mod_mod_of_dvd _ divides]

theorem storage_ne (valid : Valid capacity) (start : BitVec 64) {first second : Nat}
    (order : first < second) (near : second < first + capacity) :
    storage capacity (start + BitVec.ofNat 64 first) ≠
      storage capacity (start + BitVec.ofNat 64 second) := by
  obtain ⟨bits, large, place⟩ := storage_eq valid
  rw [place, place]
  intro same
  have rest := Nat.sub_mod_eq_zero_of_mod_eq same.symm
  rw [Nat.add_sub_add_left, Nat.mod_eq_of_lt (by omega)] at rest
  omega

/-- The items of the batch in hand that stand in their slots. -/
def Pushing.written : Pushing α → List α
  | .writing items _ done => items.take done
  | _ => []

/-- The items that have left their slots and are not counted. -/
def Popping.left : Popping α → Nat
  | .taken _ _ => 1
  | _ => 0

namespace Ring

structure Sound (capacity : Nat) (start : BitVec 64) (s : Ring α) : Prop where
  popped : s.popped = (s.batches.flatten.take s.popped.length).map some
  head : s.head = start + BitVec.ofNat 64 s.popped.length
  tail : s.tail = start + BitVec.ofNat 64 s.batches.flatten.length
  room : s.popped.length ≤ s.batches.flatten.length ∧
    s.batches.flatten.length ≤ s.popped.length + capacity
  pushing : match s.pushing with
    | .loaded _ tail => tail = s.tail
    | .writing items tail done => tail = s.tail ∧ done ≤ items.length ∧
      s.batches.flatten.length + items.length ≤ s.popped.length + capacity
    | _ => True
  popping : match s.popping with
    | .idle => True
    | .loaded head => head = s.head
    | .found head => head = s.head ∧ s.popped.length < s.batches.flatten.length
    | .taken head item => head = s.head ∧
      ∃ next, s.batches.flatten[s.popped.length]? = some next ∧ item = some next
  slots : ∀ number item, s.popped.length + s.popping.left ≤ number →
    (s.batches.flatten ++ s.pushing.written)[number]? = some item →
    s.slots (storage capacity (start + BitVec.ofNat 64 number)) = some item

variable {start : BitVec 64} {s : Ring α}

theorem Sound.number_lt (sound : Sound capacity start s) {number : Nat} {item : α}
    (stands : (s.batches.flatten ++ s.pushing.written)[number]? = some item) :
    number < s.popped.length + capacity := by
  have inside := (List.getElem?_eq_some_iff.mp stands).1
  have room := sound.room.2
  have pushing := sound.pushing
  rw [length_append] at inside
  cases at_ : s.pushing with
  | writing items tail done =>
    rw [at_] at inside pushing
    simp only [Pushing.written, length_take] at inside
    dsimp only at pushing
    omega
  | _ =>
    rw [at_] at inside
    exact inside.trans_le room

theorem Sound.tryPop (valid : Valid capacity) (sound : Sound capacity start s) :
    Sound capacity start (s.tryPop capacity) := by
  have near := @Sound.number_lt _ _ _ _ sound
  obtain ⟨popped, head, tail, room, pushing, popping, slots⟩ := sound
  unfold Ring.tryPop
  cases at_ : s.popping with
  | idle =>
    rw [at_] at slots
    exact ⟨popped, head, tail, room, pushing, rfl, slots⟩
  | loaded index =>
    rw [at_] at popping slots
    cases popping
    dsimp only
    split_ifs with empty
    · exact ⟨popped, head, tail, room, pushing, trivial, slots⟩
    · refine ⟨popped, head, tail, room, pushing, ⟨rfl, room.1.lt_of_ne fun all => empty ?_⟩, slots⟩
      rw [head, tail, all]
  | found index =>
    rw [at_] at popping slots
    obtain ⟨rfl, filled⟩ := popping
    have next := getElem?_eq_getElem filled
    refine ⟨popped, head, tail, room, pushing, ⟨rfl, _, next, ?_⟩, ?_⟩
    · rw [head]
      exact slots _ _ le_rfl (by rw [getElem?_append_left filled, next])
    · intro number item after stands
      dsimp only
      rw [head, update_of_ne, slots number item (Nat.le_of_succ_le after) stands]
      exact (storage_ne valid start after (near stands)).symm
  | taken index item =>
    rw [at_] at popping slots
    obtain ⟨rfl, next, stands, rfl⟩ := popping
    have inside := (List.getElem?_eq_some_iff.mp stands).1
    have count : (s.popped ++ [some next]).length = s.popped.length + 1 := length_append
    constructor
    all_goals dsimp only
    · rw [count, take_add_one, stands, map_append, ← popped]
      rfl
    · rw [count, head, BitVec.ofNat_add, ← BitVec.add_assoc]
      rfl
    · exact tail
    · omega
    · cases holding : s.pushing with
      | writing items tail done =>
        rw [holding] at pushing
        exact ⟨pushing.1, pushing.2.1, pushing.2.2.trans (by omega)⟩
      | _ => rwa [holding] at pushing
    · rw [count]
      exact slots

theorem Sound.tryPushBatch (valid : Valid capacity) (sound : Sound capacity start s)
    (batch : List α) (closed : Bool) :
    Sound capacity start (s.tryPushBatch capacity batch closed) := by
  obtain ⟨popped, head, tail, room, pushing, popping, slots⟩ := sound
  unfold Ring.tryPushBatch
  cases at_ : s.pushing with
  | idle =>
    rw [at_] at slots
    dsimp only
    split_ifs
    · exact ⟨popped, head, tail, room, pushing, popping, at_ ▸ slots⟩
    · exact ⟨popped, head, tail, room, trivial, popping, slots⟩
  | opened batch =>
    rw [at_] at slots
    exact ⟨popped, head, tail, room, rfl, popping, slots⟩
  | loaded batch index =>
    rw [at_] at pushing slots
    cases pushing
    dsimp only
    split_ifs with full
    · exact ⟨popped, head, tail, room, trivial, popping, slots⟩
    · refine ⟨popped, head, tail, room, ⟨rfl, Nat.zero_le _, ?_⟩, popping, slots⟩
      unfold Valid at valid
      rw [free, head, tail] at full
      dsimp only
      bv_omega
  | writing batch index done =>
    rw [at_] at pushing slots
    obtain ⟨rfl, inside, fits⟩ := pushing
    have place (count : Nat) : s.tail + BitVec.ofNat 64 count =
        start + BitVec.ofNat 64 (s.batches.flatten.length + count) := by
      rw [tail, BitVec.add_assoc, ← BitVec.ofNat_add]
    dsimp only [Pushing.written] at slots ⊢
    cases next : batch[done]? with
    | some item =>
      have below := (List.getElem?_eq_some_iff.mp next).1
      refine ⟨popped, head, tail, room, ⟨rfl, below, fits⟩, popping, ?_⟩
      intro number value after stands
      dsimp only [Pushing.written] at after stands ⊢
      rw [take_add_one, next, ← append_assoc, getElem?_append, length_append, length_take,
        min_eq_left inside] at stands
      rw [place]
      split_ifs at stands with old
      · rw [update_of_ne, slots number value after stands]
        exact storage_ne valid start old (by omega)
      · obtain ⟨zero, rfl⟩ : number - (s.batches.flatten.length + done) = 0 ∧ item = value := by
          simpa [getElem?_singleton] using stands
        have here : number = s.batches.flatten.length + done := by omega
        rw [here, update_self]
    | none =>
      have more : (s.batches ++ [batch]).flatten = s.batches.flatten ++ batch := by simp
      rw [take_of_length_le (List.getElem?_eq_none_iff.mp next)] at slots
      constructor
      all_goals dsimp only [Pushing.written]
      all_goals try rw [more]
      · rw [take_append_of_le_length room.1, ← popped]
      · exact head
      · rw [place, length_append]
      · rw [length_append]
        omega
      · cases holding : s.popping with
        | found index =>
          rw [holding] at popping
          exact ⟨popping.1, popping.2.trans_le (by simp)⟩
        | taken index item =>
          rw [holding] at popping
          obtain ⟨loaded, value, stands, rfl⟩ := popping
          refine ⟨loaded, value, ?_, rfl⟩
          rw [getElem?_append_left (List.getElem?_eq_some_iff.mp stands).1, stands]
        | _ => rwa [holding] at popping
      · rwa [append_nil]

variable (start) in
/-- For every capacity that the constructor takes, every initial index and every interleaving: what
was popped is a prefix of the accepted batches, at most `capacity` items are left of them, the tail
stands behind a whole batch, and the slot to be popped is none that the batch in hand is written
to. -/
theorem handoff_is_bounded_fifo (valid : Valid capacity) (steps : List (Access α)) :
    let s := run (access capacity) { head := start, tail := start } steps
    s.popped <+: s.batches.flatten.map some ∧
    s.batches.flatten.length ≤ s.popped.length + capacity ∧
    s.tail = start + BitVec.ofNat 64 s.batches.flatten.length ∧
    ∀ index items tail done, s.popping = .found index → s.pushing = .writing items tail done →
      ∀ place < items.length,
        storage capacity index ≠ storage capacity (tail + BitVec.ofNat 64 place) := by
  intro s
  have sound : Sound capacity start s := by
    apply @run_invariant _ _ _ (Sound capacity start)
    · intro s taken sound
      cases taken with
      | push items closed => exact sound.tryPushBatch valid items closed
      | pop => exact sound.tryPop valid
    · constructor <;> simp [Pushing.written]
  obtain ⟨popped, head, tail, room, pushing, popping, _⟩ := sound
  refine ⟨?_, room.2, tail, ?_⟩
  · rw [popped]
    apply IsPrefix.map
    exact take_prefix ..
  · intro index batch last done found writing place inside
    rw [found] at popping
    rw [writing] at pushing
    rw [popping.1, head, pushing.1, tail, BitVec.add_assoc, ← BitVec.ofNat_add]
    obtain ⟨_, filled⟩ := popping
    obtain ⟨_, _, fits⟩ := pushing
    exact storage_ne valid start (by omega) (by omega)

/-- The first of two items pushed to the last index and to the first. -/
theorem handoff_is_bounded_fifo_across_wrap :
    let s := run (access 3) { head := -1, tail := -1 }
      (replicate 6 (.push [5, 6] false) ++ replicate 4 .pop)
    s.popped = [some 5] ∧ s.popped <+: s.batches.flatten.map some :=
  ⟨by decide +kernel, (handoff_is_bounded_fifo (-1) ⟨by decide, by decide⟩ _).1⟩

end Ring

end OpenPpp2.Threading.SpscHandoff
