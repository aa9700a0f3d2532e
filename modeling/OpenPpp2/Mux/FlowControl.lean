import OpenPpp2.Mux.Receive

/-!
# Stopping and resuming the peer

A socket whose receive queue fills tells its peer to stop, and to go on once the queue is half
empty.
-/

namespace OpenPpp2.Mux

open Lib.BigEndian Lib.Run List Option

/-- The payload of an acceleration frame: `[state][version]`. -/
def flowControlPayload (state : Bool) (version : BitVec 32) : List UInt8 :=
  (if state then 1 else 0) :: bigEndian 4 version.toNat

/-- The part of `vmux_skt` that stops and resumes its peer. -/
structure RxFlow where
  rxCongestions : Int
  rxAcceleration : Bool := true
  fcTxVersion : BitVec 32 := 0
  deriving DecidableEq

namespace RxFlow

/-- `post_flow_control`, with the payload it posts. -/
def postFlowControl (flow : RxFlow) (state : Bool) : RxFlow × List UInt8 :=
  let version := flow.fcTxVersion + 1
  ({ flow with fcTxVersion := version }, flowControlPayload state version)

/-- `rx_congestions`, with the payload it posts. -/
def congest (flow : RxFlow) (value maxCongestions : Int) : RxFlow × Option (List UInt8) :=
  if value = 0 then (flow, none)
  else if maxCongestions < 1 then (flow, none)
  else
    let counted := { flow with rxCongestions := max 0 (flow.rxCongestions + value) }
    match flowControlNext counted.rxAcceleration counted.rxCongestions maxCongestions with
    | .sendXoff =>
      let posted := { counted with rxAcceleration := false }.postFlowControl false
      (posted.1, some posted.2)
    | .sendXon =>
      let posted := { counted with rxAcceleration := true }.postFlowControl true
      (posted.1, some posted.2)
    | .none => (counted, none)

theorem congest_cases (flow : RxFlow) (value maxCongestions : Int) :
    ((flow.congest value maxCongestions).1.fcTxVersion = flow.fcTxVersion ∧
      (flow.congest value maxCongestions).2 = none) ∨
    ∃ state, (flow.congest value maxCongestions).1.fcTxVersion = flow.fcTxVersion + 1 ∧
      (flow.congest value maxCongestions).2 =
        some (flowControlPayload state (flow.fcTxVersion + 1)) := by
  rw [congest]
  split
  · exact .inl ⟨rfl, rfl⟩
  split
  · exact .inl ⟨rfl, rfl⟩
  simp only
  split
  · exact .inr ⟨false, rfl, rfl⟩
  · exact .inr ⟨true, rfl, rfl⟩
  · exact .inl ⟨rfl, rfl⟩

end RxFlow

def accelerationOf (payload : List UInt8) : Bool :=
  (payload.head?.map fun flag => flag != 0).getD true

def versionOf (payload : List UInt8) : Option (BitVec 32) :=
  if payload.length ≥ 5 then some (BitVec.ofNat 32 (ofBigEndian ((payload.drop 1).take 4)))
  else none

@[simp] theorem versionOf_payload (state : Bool) (version : BitVec 32) :
    versionOf (flowControlPayload state version) = some version := by
  have body : ((flowControlPayload state version).drop 1).take 4 = bigEndian 4 version.toNat := by
    rw [flowControlPayload, drop_one, tail_cons]
    exact take_of_length_le (by simp)
  rw [versionOf, if_pos (by simp [flowControlPayload]), body, ofNat_ofBigEndian_bigEndian]

/-- `cmd_acceleration` in `packet_input`, on the socket it is for. -/
def Skt.inputAcceleration (skt : Skt) (payload : List UInt8) : Skt :=
  skt.txAccelerate (accelerationOf payload) (versionOf payload)

theorem flowControlIsFresh_iff {last version : Nat} (forward : version < last + 2 ^ 31)
    (backward : last < version + 2 ^ 31) :
    flowControlIsFresh true (BitVec.ofNat 32 last) (BitVec.ofNat 32 version) ↔ last < version := by
  simp only [flowControlIsFresh, Bool.not_true, Bool.false_eq_true, if_false, decide_eq_true_eq,
    BitVec.toInt_eq_toNat_cond, BitVec.toNat_sub, BitVec.toNat_ofNat]
  split <;> omega

structure FlowLink where
  sender : RxFlow
  emitted : List (List UInt8) := []
  receiver : Skt := Skt.opened
  newest : Option Nat := none

inductive FlowLinkStep
  | post (state : Bool)
  | congest (value maxCongestions : Int)
  | arrive (index : Nat)

namespace FlowLink

def step (link : FlowLink) : FlowLinkStep → FlowLink
  | .post state =>
    let posted := link.sender.postFlowControl state
    { link with
      sender := posted.1
      emitted := link.emitted ++ [posted.2] }
  | .congest value maxCongestions =>
    let posted := link.sender.congest value maxCongestions
    { link with
      sender := posted.1
      emitted := link.emitted ++ posted.2.toList }
  | .arrive index =>
    match link.emitted[index]? with
    | none => link
    | some payload =>
      { link with
        receiver := link.receiver.inputAcceleration payload
        newest := some (max index (link.newest.getD 0)) }

/-- Fewer than `2 ^ 31` versions are outstanding: emitted after the frame that
arrives, or after the newest one processed. -/
def Timely (link : FlowLink) : FlowLinkStep → Prop
  | .arrive index =>
    link.emitted.length ≤ index + 2 ^ 31 ∧
      ∀ newest ∈ link.newest, link.emitted.length ≤ newest + 2 ^ 31
  | _ => True

instance (link : FlowLink) (taken : FlowLinkStep) : Decidable (link.Timely taken) := by
  cases taken <;> (unfold Timely; infer_instance)

structure Converging (link : FlowLink) : Prop where
  version : link.sender.fcTxVersion = BitVec.ofNat 32 link.emitted.length
  stamped : ∀ index, ∀ payload ∈ link.emitted[index]?,
    versionOf payload = some (BitVec.ofNat 32 (index + 1))
  unheard : link.newest = none → link.receiver.fcRxVersioned = false
  heard : ∀ newest ∈ link.newest, link.receiver.fcRxVersioned ∧
    link.receiver.fcRxVersion = BitVec.ofNat 32 (newest + 1) ∧
    link.emitted[newest]?.map accelerationOf = some link.receiver.txAcceleration

section Steps

variable {link : FlowLink}

theorem Converging.emit (holds : link.Converging) {sender : RxFlow} (state : Bool)
    (version : sender.fcTxVersion = link.sender.fcTxVersion + 1) : Converging { link with
        sender := sender
        emitted := link.emitted ++ [flowControlPayload state (link.sender.fcTxVersion + 1)] } := by
  have next : link.sender.fcTxVersion + 1 = BitVec.ofNat 32 (link.emitted.length + 1) := by
    rw [holds.version, BitVec.ofNat_add]
    rfl
  constructor
  · rw [version, next, length_append, length_singleton]
  · intro index payload found
    rw [mem_def, getElem?_append] at found
    split at found
    · exact holds.stamped index payload found
    · obtain ⟨last, shown⟩ := List.getElem?_eq_some_iff.1 found
      rw [length_singleton] at last
      rw [getElem_singleton] at shown
      rw [← shown, versionOf_payload, next]
      congr 2
      omega
  · exact holds.unheard
  · intro newest processed
    obtain ⟨versioned, last, flag⟩ := holds.heard newest processed
    obtain ⟨payload, found, _⟩ := map_eq_some_iff.1 flag
    refine ⟨versioned, last, ?_⟩
    rw [getElem?_append_left (List.getElem?_eq_some_iff.1 found).1]
    exact flag

theorem Converging.arrive (holds : link.Converging) {index : Nat}
    (timely : link.Timely (.arrive index)) : (link.step (.arrive index)).Converging := by
  rcases found : link.emitted[index]? with _ | payload
  · simp only [step, found]
    exact holds
  obtain ⟨bound, _⟩ := List.getElem?_eq_some_iff.1 found
  have version := holds.stamped index payload found
  simp only [step, found, Skt.inputAcceleration, version]
  rcases processed : link.newest with _ | newest
  · have applied : flowControlIsFresh link.receiver.fcRxVersioned link.receiver.fcRxVersion
        (BitVec.ofNat 32 (index + 1)) := by
      rw [holds.unheard processed]
      rfl
    constructor
    · exact holds.version
    · exact holds.stamped
    · simp
    · simp [Skt.txAccelerate, applied, found]
  · obtain ⟨versioned, last, flag⟩ := holds.heard newest processed
    obtain ⟨latest, present, _⟩ := map_eq_some_iff.1 flag
    have within := (List.getElem?_eq_some_iff.1 present).1
    obtain ⟨recent, later⟩ := timely
    have outstanding := later newest processed
    have fresh : flowControlIsFresh link.receiver.fcRxVersioned link.receiver.fcRxVersion
        (BitVec.ofNat 32 (index + 1)) ↔ newest < index := by
      rw [versioned, last, flowControlIsFresh_iff (by omega) (by omega)]
      omega
    constructor
    · exact holds.version
    · exact holds.stamped
    · simp
    · rintro _ ⟨⟩
      by_cases newer : newest < index
      · simp [Skt.txAccelerate, fresh.2 newer, Nat.max_eq_left newer.le, found]
      · have stale := mt fresh.1 newer
        simp only [Skt.txAccelerate, stale, getD_some, Nat.max_eq_right (Nat.le_of_not_lt newer)]
        exact ⟨versioned, last, flag⟩

theorem Converging.step (holds : link.Converging) {taken : FlowLinkStep}
    (timely : link.Timely taken) : (link.step taken).Converging := by
  cases taken with
  | post state => exact holds.emit state rfl
  | congest value maxCongestions =>
    rcases link.sender.congest_cases value maxCongestions with ⟨version, quiet⟩ |
      ⟨state, version, posted⟩
    · simp only [FlowLink.step, quiet, toList_none, append_nil]
      exact ⟨version.trans holds.version, holds.stamped, holds.unheard, holds.heard⟩
    · simp only [FlowLink.step, posted, toList_some]
      exact holds.emit state version
  | arrive index => exact holds.arrive timely

theorem converging_start (backlog : Int) :
    Converging { sender := { rxCongestions := backlog } } := by
  constructor <;> simp [Skt.opened]

end Steps

theorem run_arrive {link : FlowLink} (newest : link.newest = some (link.emitted.length - 1))
    (indices : List Nat) :
    let later := run step link (indices.map .arrive)
    later.emitted = link.emitted ∧ later.newest = link.newest := by
  induction indices generalizing link with
  | nil => exact ⟨rfl, rfl⟩
  | cons index rest ih =>
    have single : (link.step (.arrive index)).emitted = link.emitted ∧
        (link.step (.arrive index)).newest = link.newest := by
      rcases found : link.emitted[index]? with _ | payload
      · simp only [step, found, and_self]
      · obtain ⟨bound, _⟩ := List.getElem?_eq_some_iff.1 found
        simp only [step, found, newest, getD_some]
        exact ⟨trivial, congrArg some (Nat.max_eq_right (by omega))⟩
    obtain ⟨emitted, kept⟩ := ih (by rw [single.1, single.2, newest])
    exact ⟨emitted.trans single.1, kept.trans single.2⟩

end FlowLink

/-- Once the last frame has been processed the flag has its state, whatever arrives
after it. -/
theorem flow_control_converges (backlog : Int) (steps : List FlowLinkStep)
    (guarded : Guarded FlowLink.step FlowLink.Timely
      { sender := { rxCongestions := backlog } } steps) :
    let link := run FlowLink.step { sender := { rxCongestions := backlog } } steps
    ∀ payload, link.emitted.getLast? = some payload →
      link.newest = some (link.emitted.length - 1) →
      ∀ indices : List Nat, Guarded FlowLink.step FlowLink.Timely link (indices.map .arrive) →
        (run FlowLink.step link (indices.map .arrive)).receiver.txAcceleration =
          accelerationOf payload := by
  intro link payload last processed indices arrivals
  have converging : ∀ {first : FlowLink} {taken : List FlowLinkStep}, first.Converging →
      Guarded FlowLink.step FlowLink.Timely first taken →
      (run FlowLink.step first taken).Converging := fun holds guarded =>
    guarded_invariant (fun _ _ timely holds => holds.step timely) guarded holds
  have reached := converging (converging (FlowLink.converging_start backlog) guarded) arrivals
  obtain ⟨emitted, newest⟩ := FlowLink.run_arrive processed indices
  obtain ⟨_, _, flag⟩ := reached.heard _ (newest.trans processed)
  rw [emitted, ← getLast?_eq_getElem?, last] at flag
  exact (some.inj flag).symm

/-- The peer is stopped and resumed; the resumption arrives first, and is kept. -/
theorem flow_control_converges_reordered :
    let steps : List FlowLinkStep := [.congest 10 10, .congest (-5) 10, .arrive 1]
    let link := run FlowLink.step { sender := { rxCongestions := 0 } } steps
    link.emitted = [flowControlPayload false 1, flowControlPayload true 2] ∧
      (run FlowLink.step link ([0, 1, 0].map .arrive)).receiver.txAcceleration = true := by
  intro steps link
  exact ⟨by decide, flow_control_converges 0 steps (by decide) (flowControlPayload true 2)
    (by decide) (by decide) [0, 1, 0] (by decide)⟩

end OpenPpp2.Mux
