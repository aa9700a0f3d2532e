import OpenPpp2.Mux.CompatDelivery
import OpenPpp2.Mux.DataPath
import OpenPpp2.Mux.Incoming

/-!
# A connection from end to end

Two sessions of one tunnel and one connection between them: what the first accepts from the local
socket and what the second hands to the peer's.
-/

namespace OpenPpp2.Mux

open Lib.CircularOrder Lib.Run Lib.StreamOrder List Session

structure Stream where
  sender : Session
  receiver : Session
  /-- the chunks of the connection `post_internal` accepted, oldest first -/
  posted : List Chunk
  /-- the chunks handed to the connection's socket at the peer, oldest first -/
  delivered : List Chunk

inductive StreamOp
  | sends (op : Op)
  | receives (op : Op)
  deriving DecidableEq, Repr

namespace Stream

/-- Two sessions right after establishment: the number the sender assigns first is
the one the receiver expects first. -/
def start (config peer : Config) (mode peerMode : MuxMode) (origin back : SeqNumber) : Stream :=
  { sender := Session.initial config mode origin back
    receiver := Session.initial peer peerMode back origin
    posted := []
    delivered := [] }

def step (cid : ConnectionId) (stream : Stream) : StreamOp → Stream
  | .sends op =>
    { stream with
      sender := stream.sender.step op
      posted := stream.posted ++ (stream.sender.takesIn cid op).toList }
  | .receives op =>
    { stream with
      receiver := stream.receiver.step op
      delivered := stream.delivered ++ stream.receiver.delivers cid op }

/-- What arrives was sent. Under compat a frame arrives within half the circle of
the number expected then. -/
def arrivesAsSent (cid : ConnectionId) (stream : Stream) : StreamOp → Prop
  | .receives (.arrive frame link now) =>
    if stream.receiver.isFlowV2 then
      frame.chunk cid ≠ none → frame ∈ stream.sender.log.accepted
    else
      ArrivesNear (fun index sent => stream.sender.log.numbered[index]? = some sent)
        stream.receiver (.arrive frame link now)
  | _ => True

def opensOnce (cid : ConnectionId) (stream : Stream) : StreamOp → Prop
  | .receives op => stream.receiver.isFlowV2 = false → stream.receiver.opensFirst cid op
  | .sends _ => True

/-- What arrives was sent and the connection is opened once: the run is one of the
connection's, whatever becomes of its chunks. -/
def Genuine (cid : ConnectionId) (stream : Stream) (op : StreamOp) : Prop :=
  stream.arrivesAsSent cid op ∧ stream.opensOnce cid op

/-- Under flow v2 a chunk is posted with the connection's next number, or when
everything posted before it has been delivered; under compat the connection is not
released while a chunk of it waits for its number. -/
def keepsChunks (cid : ConnectionId) (stream : Stream) : StreamOp → Prop
  | .sends (.post frame _ _ _ _) =>
    stream.sender.isFlowV2 → frame.chunk cid ≠ none →
      (stream.sender.nextDsn cid).toNat = stream.posted.length + 1 ∨
        (stream.sender.nextDsn cid).toNat ≤ stream.posted.length ∧
          stream.posted.Sublist stream.delivered
  | .sends (.releaseConnection released) =>
    stream.sender.isFlowV2 = false → released = cid →
      ∀ packet ∈ stream.sender.tx.queueOf cid, packet.waiting cid = none
  | _ => True

def Orderly (cid : ConnectionId) (stream : Stream) (op : StreamOp) : Prop :=
  stream.Genuine cid op ∧ stream.keepsChunks cid op

variable {cid : ConnectionId}

theorem disposed_step {stream : Stream} (gone : stream.sender.disposed) (op : StreamOp) :
    (stream.step cid op).sender.disposed := by
  cases op with
  | sends op => exact Session.disposed_step gone op
  | receives op => exact gone

/-- Every chunk on its way out carries a number of its place, and the peer delivers
by those numbers. -/
structure FlowStream (cid : ConnectionId) (origin : SeqNumber) (stream : Stream) : Prop where
  mode : stream.sender.isFlowV2
  steady : Steady origin (stream.sender.sendSide, .empty)
  control : stream.sender.ControlOnly
  carried : stream.sender.sendSide.Carried cid (Placed stream.posted stream.delivered)
  flow : FlowSession stream.receiver
  receiving : Receiving cid stream.posted stream.delivered stream.receiver.recvSide
  order : InOrder stream.posted stream.delivered

theorem nextDsn_pos (s : Session) (cid : ConnectionId) : 0 < (s.nextDsn cid).toNat := by
  unfold nextDsn
  split
  · decide
  · split_ifs with zero
    · decide
    · exact Nat.pos_of_ne_zero fun none => zero (BitVec.eq_of_toNat_eq none)

theorem placed_of_keepsChunks {stream : Stream} {op : Op} {chunk : Chunk}
    (keeps : stream.keepsChunks cid (.sends op)) (mode : stream.sender.isFlowV2)
    (taken : stream.sender.takesIn cid op = some chunk) :
    Placed (stream.posted ++ [chunk]) stream.delivered chunk (stream.sender.nextDsn cid) := by
  have place : (stream.posted ++ [chunk])[stream.posted.length]? = some chunk := by simp
  have before : (stream.posted ++ [chunk]).take stream.posted.length = stream.posted := by simp
  refine ⟨stream.posted.length, place, nextDsn_pos _ _, ?_⟩
  rw [before]
  cases op with
  | post frame acceleration callback answers now =>
    have carried : frame.chunk cid = some chunk := by
      simp only [takesIn, accepts] at taken
      split_ifs at taken
      · cases taken
      · exact taken
    exact keeps mode (by simp [carried])
  | _ => cases taken

namespace FlowStream

variable {cid : ConnectionId} {origin : SeqNumber} {stream : Stream} {op : Op}

theorem sends (holds : FlowStream cid origin stream) (keeps : stream.keepsChunks cid (.sends op)) :
    (stream.step cid (.sends op)).sender.disposed ∨ FlowStream cid origin
      (stream.step cid (.sends op)) := by
  have longer := holds.carried.imp (·.post (stream.sender.takesIn cid op).toList)
  have fresh : ∀ chunk, stream.sender.takesIn cid op = some chunk →
      Placed (stream.posted ++ (stream.sender.takesIn cid op).toList) stream.delivered chunk
        (stream.sender.nextDsn cid) := by
    intro chunk taken
    rw [taken]
    exact placed_of_keepsChunks keeps holds.mode taken
  have sent := carried_step holds.mode holds.steady.scheduler holds.control longer fresh
  refine sent.imp_right fun kept => ?_
  exact
    { mode := (stream.sender.isFlowV2_step op).trans holds.mode
      steady := steady_step holds.steady op
      control := kept.1
      carried := kept.2
      flow := holds.flow
      receiving := holds.receiving.post _
      order := holds.order.post _ }

theorem receives (holds : FlowStream cid origin stream)
    (genuine : stream.Genuine cid (.receives op)) :
    FlowStream cid origin (stream.step cid (.receives op)) := by
  obtain ⟨sent, _⟩ := genuine
  have placed : ∀ frame link now, op = .arrive frame link now → ∀ chunk,
      frame.chunk cid = some chunk → Placed stream.posted stream.delivered chunk frame.seq := by
    rintro frame link now rfl chunk carried
    rw [arrivesAsSent, if_pos holds.flow.v2] at sent
    exact holds.carried.accepted frame (sent (by simp [carried])) chunk carried
  obtain ⟨order, receiving⟩ := holds.receiving.step holds.flow holds.order placed
  exact
    { mode := holds.mode
      steady := holds.steady
      control := holds.control
      carried := holds.carried.imp (·.deliver _)
      flow := holds.flow.step op
      receiving := receiving
      order := order }

end FlowStream

theorem seq_of_numbered {origin : SeqNumber} {s : Session}
    (steady : Steady origin (s.sendSide, .empty)) {index : Nat} {frame : Frame}
    (found : s.log.numbered[index]? = some frame) : frame.seq = origin + BitVec.ofNat 32 index := by
  have bound := (List.getElem?_eq_some_iff.mp found).1
  have seq : (s.log.numbered.map Frame.seq)[index]? = some frame.seq := by
    rw [getElem?_map, found, Option.map_some]
  have numbers : s.log.numbered.map Frame.seq =
      consecutive origin s.log.numbered.length := steady.numbers
  rw [numbers, getElem?_consecutive origin bound] at seq
  exact (Option.some.inj seq).symm

/-- The connection's line is what was posted, frames are dispatched in the order of
their numbers, and the socket reads them. -/
structure CompatStream (cid : ConnectionId) (origin : SeqNumber) (stream : Stream) : Prop where
  mode : stream.sender.isFlowV2 = false
  peer : stream.receiver.isFlowV2 = false
  steady : Steady origin (stream.sender.sendSide, .empty)
  control : stream.sender.ControlOnly
  line : stream.sender.sendSide.line cid = stream.posted
  ordered : Ordered origin (fun index sent => stream.sender.log.numbered[index]? = some sent)
    stream.receiver.recvSide
  reading : Reading (stream.receiver.hasConnection cid)
    (stream.receiver.log.dispatched.filterMap (Frame.chunk cid)) stream.delivered

namespace CompatStream

variable {cid : ConnectionId} {origin : SeqNumber} {stream : Stream} {op : Op}

theorem sends (holds : CompatStream cid origin stream)
    (keeps : stream.keepsChunks cid (.sends op)) : (stream.step cid (.sends op)).sender.disposed ∨
      CompatStream cid origin (stream.step cid (.sends op)) := by
  have released : op = .releaseConnection cid →
      ∀ packet ∈ stream.sender.tx.queueOf cid, packet.waiting cid = none := by
    rintro rfl
    exact keeps holds.mode rfl
  have sent := line_step holds.mode holds.steady.scheduler holds.control released
  refine sent.imp_right fun kept => ?_
  exact
    { mode := (stream.sender.isFlowV2_step op).trans holds.mode
      peer := holds.peer
      steady := steady_step holds.steady op
      control := kept.1
      line := kept.2.trans (congrArg (· ++ _) holds.line)
      ordered := holds.ordered.mono fun index frame found => by
        obtain ⟨more, longer⟩ := stream.sender.numbered_step op
        have bound := (List.getElem?_eq_some_iff.mp found).1
        change (stream.sender.step op).log.numbered[index]? = some frame
        rw [← longer, getElem?_append_left bound, found]
      reading := holds.reading }

theorem receives (holds : CompatStream cid origin stream)
    (genuine : stream.Genuine cid (.receives op)) :
    CompatStream cid origin (stream.step cid (.receives op)) where
  mode := holds.mode
  peer := (stream.receiver.isFlowV2_step op).trans holds.peer
  steady := holds.steady
  control := holds.control
  line := holds.line
  ordered := by
    refine (stream.receiver.recvStep op).ordered holds.peer ?_ holds.ordered
    rintro frame link now rfl sequenced
    have sent := genuine.1
    rw [arrivesAsSent, if_neg (by simp [holds.peer])] at sent
    refine sent.inPlace ?_ holds.ordered.lined.ack_eq sequenced
    exact fun index sent found => seq_of_numbered holds.steady found
  reading := holds.reading.step holds.peer (genuine.2 holds.peer)

theorem delivered_initial (holds : CompatStream cid origin stream) :
    stream.delivered <+: stream.posted := by
  have dispatched : stream.receiver.log.dispatched <+: stream.sender.log.numbered := by
    refine prefix_iff_getElem?.mpr fun index bound => ?_
    exact holds.ordered.lined.placed index _ (getElem?_eq_getElem bound)
  have handed := dispatched.filterMap (Frame.chunk cid)
  rw [← holds.line]
  exact (holds.reading.1.trans handed).trans (prefix_append _ _)

end CompatStream

theorem exists_numbered_iff (numbered : List Frame) (frame : Frame) (near : Nat → Prop) :
    (∃ index ∈ List.range numbered.length, numbered[index]? = some frame ∧ near index) ↔
      ∃ index, numbered[index]? = some frame ∧ near index := by
  refine exists_congr fun index => ?_
  constructor
  · exact .right
  · intro found
    exact ⟨mem_range.mpr (List.getElem?_eq_some_iff.mp found.1).1, found⟩

instance (numbered : List Frame) (frame : Frame) (near : Nat → Prop) [DecidablePred near] :
    Decidable (∃ index, numbered[index]? = some frame ∧ near index) :=
  decidable_of_iff _ (exists_numbered_iff numbered frame near)

def arriving : Op → Option Frame
  | .arrive frame _ _ => some frame
  | _ => none

theorem forall_arriving_iff (Wire : Nat → Frame → Prop) (s : Session) (op : Op) :
    (∀ frame ∈ arriving op, frame.cmd.isReliabilityControl = false → ∃ index, Wire index frame ∧
      s.log.dispatched.length < index + 2 ^ 31 ∧ index ≤ s.log.dispatched.length + 2 ^ 31) ↔
      ArrivesNear Wire s op := by
  cases op <;> simp [arriving, ArrivesNear]

instance (numbered : List Frame) (s : Session) (op : Op) :
    Decidable (ArrivesNear (fun index sent => numbered[index]? = some sent) s op) :=
  decidable_of_iff _ (forall_arriving_iff _ s op)

section

variable (cid : ConnectionId) (stream : Stream) (op : StreamOp)

instance : Decidable (stream.arrivesAsSent cid op) := by
  unfold arrivesAsSent
  split <;> infer_instance

instance : Decidable (stream.opensOnce cid op) := by
  unfold opensOnce
  split <;> infer_instance

instance : Decidable (stream.Genuine cid op) :=
  inferInstanceAs (Decidable (_ ∧ _))

instance : Decidable (stream.keepsChunks cid op) := by
  unfold keepsChunks
  split <;> infer_instance

instance : Decidable (stream.Orderly cid op) :=
  inferInstanceAs (Decidable (_ ∧ _))

end

variable {config peer : Config}

theorem flowStream_start (v2 : config.isFlowV2)
    (peerV2 : peer.isFlowV2) (mode peerMode : MuxMode) (origin back : SeqNumber)
    (cid : ConnectionId) : FlowStream cid origin (start config peer mode peerMode origin back) where
  mode := v2
  steady := steady_initial config mode origin back
  control _ member := nomatch member
  carried := ⟨fun packet queued => absurd ⟨cid, queued⟩ (TxScheduler.not_queued_empty packet),
    fun _ member => nomatch member⟩
  flow := flowSession_initial peerV2 peerMode back origin
  receiving := ⟨fun _ _ found => by simp [start, initial, recvSide] at found,
    fun _ found => by simp [start, initial, recvSide] at found⟩
  order := InOrder.nil

theorem compatStream_start (compat : config.isFlowV2 = false)
    (peerCompat : peer.isFlowV2 = false) (mode peerMode : MuxMode) (origin back : SeqNumber)
    (cid : ConnectionId) :
    CompatStream cid origin (start config peer mode peerMode origin back) where
  mode := compat
  peer := peerCompat
  steady := steady_initial config mode origin back
  control _ member := nomatch member
  line := rfl
  ordered := ordered_initial peer peerMode back origin _
  reading := ⟨prefix_rfl, fun _ => rfl⟩

variable {ops : List StreamOp}

theorem holds_run {Holds : Stream → Prop} {first : Stream}
    (sends : ∀ {stream op}, Holds stream → stream.keepsChunks cid (.sends op) →
      (stream.step cid (.sends op)).sender.disposed ∨ Holds (stream.step cid (.sends op)))
    (receives : ∀ {stream op}, Holds stream → stream.Genuine cid (.receives op) →
      Holds (stream.step cid (.receives op)))
    (guarded : Guarded (step cid) (Orderly cid) first ops) (holds : Holds first)
    (opened : (run (step cid) first ops).sender.disposed = false) :
    Holds (run (step cid) first ops) := by
  have kept := guarded_invariant (fun stream op allowed
      (holds : stream.sender.disposed ∨ Holds stream) => ?_) guarded (.inr holds)
  · exact kept.resolve_left (Bool.eq_false_iff.1 opened)
  rcases holds with gone | holds
  · exact .inl (disposed_step gone op)
  · cases op with
    | sends op => exact sends holds allowed.2
    | receives op => exact .inr (receives holds allowed.1)

theorem inOrder_run {mode peerMode : MuxMode} {origin back : SeqNumber}
    (agreed : peer.ordering = config.ordering)
    (guarded : Guarded (step cid) (Orderly cid) (start config peer mode peerMode origin back) ops)
    (opened : (run (step cid) (start config peer mode peerMode origin back) ops).sender.disposed =
      false) : InOrder (run (step cid) (start config peer mode peerMode origin back) ops).posted
      (run (step cid) (start config peer mode peerMode origin back) ops).delivered := by
  have same : peer.isFlowV2 = config.isFlowV2 := by rw [Config.isFlowV2, agreed]; rfl
  cases v2 : config.isFlowV2 with
  | true =>
    have holds := holds_run FlowStream.sends FlowStream.receives guarded
      (flowStream_start v2 (same.trans v2) mode peerMode origin back cid) opened
    exact holds.order
  | false =>
    have holds := holds_run CompatStream.sends CompatStream.receives guarded
      (compatStream_start v2 (same.trans v2) mode peerMode origin back cid) opened
    exact .of_initial holds.delivered_initial

/-- Along an orderly run, while the sender is open, a FIN delivered to the peer's
socket was posted after chunks that were all delivered before it. -/
theorem fin_follows_posted (config peer : Config) (mode peerMode : MuxMode)
    (origin back : SeqNumber) (agreed : peer.ordering = config.ordering) (cid : ConnectionId)
    (ops : List StreamOp)
    (guarded : Guarded (step cid) (Orderly cid) (start config peer mode peerMode origin back) ops)
    (opened : (run (step cid) (start config peer mode peerMode origin back) ops).sender.disposed =
      false) (before after : List Chunk)
    (delivered : (run (step cid) (start config peer mode peerMode origin back) ops).delivered =
      before ++ .fin :: after) : ∃ earlier later,
      (run (step cid) (start config peer mode peerMode origin back) ops).posted =
        earlier ++ .fin :: later ∧ earlier.Sublist before :=
  (inOrder_run agreed guarded opened).split delivered

def opens : List StreamOp :=
  [.sends (.register 1), .sends (.carrier 1 .attach), .sends (.carrier 1 (.handshake 1)),
    .receives (.register 1)]

def pushes (number : SeqNumber) : List StreamOp :=
  [.sends (.post (Frame.push 1 0 [6]) true true ⟨true, true⟩ 5), .sends (.sendData true),
    .receives (.arrive (Frame.push 1 number [6]) none 6)]

def closes (number : SeqNumber) : List StreamOp :=
  [.sends (.releaseConnection 1), .sends (.post (Frame.fin 1 0) false false ⟨true, true⟩ 7),
    .sends (.sendData true), .receives (.arrive (Frame.fin 1 number) none 8)]

/-- Under flow v2 a connection is closed before it has pushed anything, under compat one whose push
has arrived. -/
theorem fin_follows_posted_closing :
    (let stream := run (step 1) (start (Config.defaults .flowV2) (Config.defaults .flowV2)
        .flow .flow 0 0) (opens ++ closes 1)
     ∃ earlier later, stream.posted = earlier ++ .fin :: later ∧ earlier.Sublist []) ∧
    (let stream := run (step 1) (start (Config.defaults .compat) (Config.defaults .compat)
        .compat .compat 7 0) (opens ++ pushes 7 ++ closes 8)
     ∃ earlier later, stream.posted = earlier ++ .fin :: later ∧ earlier.Sublist [.push [6]]) :=
  ⟨fin_follows_posted _ _ _ _ _ _ rfl 1 _ (by decide +kernel) (by decide +kernel) [] []
      (by decide +kernel),
    fin_follows_posted _ _ _ _ _ _ rfl 1 _ (by decide +kernel) (by decide +kernel) [.push [6]] []
      (by decide +kernel)⟩

def narrowWindow (ordering : OrderingMode) : Config :=
  { Config.defaults ordering with
    acceleration := true
    rtxCapBytes := 19
    rtxFlowWindowBytes := 19 }

/-- Connection 2 fills the window, a push of connection 1 is acknowledged early and
parked, and connection 1 is closed. -/
def closesParked (pushed closed : SeqNumber) : List StreamOp :=
  [.sends (.register 1), .sends (.register 2), .receives (.register 1), .receives (.register 2),
    .sends (.carrier 1 .attach), .sends (.carrier 1 (.handshake 1)),
    .sends (.post (Frame.push 2 0 [5]) true false ⟨true, true⟩ 5), .sends (.sendData true),
    .sends (.trackSent (Frame.push 2 pushed [5]) 5 1),
    .sends (.post (Frame.push 1 0 [6]) true true ⟨true, true⟩ 6), .sends (.sendData true),
    .sends (.runEarlyAck 0),
    .sends (.releaseConnection 1), .sends (.post (Frame.fin 1 0) false false ⟨true, true⟩ 7),
    .sends (.sendData true),
    .receives (.arrive (Frame.push 2 pushed [5]) none 8),
    .receives (.arrive (Frame.fin 1 closed) none 9)]

/-- The peer's socket reads the FIN and never the push before it, whose completion
was reported true, although every frame the carrier took has arrived. -/
theorem fin_overtakes_acknowledged_push : (let config := narrowWindow .compat
     let stream := run (step 1) (start config config .compat .compat 0 0) (closesParked 0 1)
     Guarded (step 1) (Genuine 1) (start config config .compat .compat 0 0) (closesParked 0 1) ∧
      stream.sender.disposed = false ∧ stream.receiver.disposed = false ∧
      stream.sender.log.accepted = [Frame.push 2 0 [5], Frame.fin 1 1] ∧
      stream.sender.firedTxCompletions = [(0, true)] ∧
      stream.posted = [.push [6], .fin] ∧ stream.delivered = [.fin]) ∧
    (let config := narrowWindow .flowV2
     let stream := run (step 1) (start config config .flow .flow 0 0) (closesParked 1 1)
     Guarded (step 1) (Genuine 1) (start config config .flow .flow 0 0) (closesParked 1 1) ∧
      stream.sender.disposed = false ∧ stream.receiver.disposed = false ∧
      stream.sender.log.accepted = [Frame.push 2 1 [5], Frame.fin 1 1] ∧
      stream.sender.firedTxCompletions = [(0, true)] ∧
      stream.posted = [.push [6], .fin] ∧ stream.delivered = [.fin]) := by
  decide +kernel

end Stream

end OpenPpp2.Mux
