import OpenPpp2.Lib.StreamOrder
import OpenPpp2.Mux.Contexts
import OpenPpp2.Mux.Numbering

/-!
# The data of one connection on its way in

Which chunks reach a connection's socket when a frame arrives.
-/

namespace OpenPpp2.Mux

open Lib.AssocTotal Lib.CircularOrder Lib.StreamOrder List Session ReorderBuffer

variable {frame : Frame} {cid : ConnectionId}

namespace Session

/-- The frames an arrival hands to `packet_input` or `deliver_one`. -/
def handsOver (s : Session) (frame : Frame) (now : Nat) : List Frame :=
  if s.disposed then []
  else if s.isFlowV2 then
    if frame.cmd.isPerFlowData then
      match s.flowVerdict frame with
      | .inOrder fx => (fx.advance frame now).1
      | _ => []
    else [frame]
  else if frame.cmd.isReliabilityControl then []
  else if s.rxAck = frame.seq then frame :: (replay (s.rxAck + 1) s.rxQueue).1
  else []

/-- `packet_input_read` for a run of frames: the chunks that find the connection's
socket. -/
def reads (cid : ConnectionId) (now : Nat) : List Frame → Session → List Chunk
  | [], _ => []
  | frame :: rest, s =>
    (if s.hasConnection cid then (frame.chunk cid).toList else []) ++
      reads cid now rest (s.packetInput frame now)

def delivers (s : Session) (cid : ConnectionId) : Op → List Chunk
  | .arrive frame _ now => reads cid now (s.handsOver frame now) s
  | _ => []

theorem packetInput_data (data : frame.cmd.isPerFlowData) (s : Session)
    (now : Nat) : s.packetInput frame now = s := by
  unfold packetInput
  cases kind : frame.cmd <;> simp_all [Cmd.isPerFlowData]

variable {frames : List Frame} {now : Nat}

theorem reads_data (data : ∀ frame ∈ frames, frame.cmd.isPerFlowData)
    {s : Session} (owned : s.hasConnection cid) :
    reads cid now frames s = frames.filterMap (Frame.chunk cid) := by
  induction frames with
  | nil => rfl
  | cons frame rest ih =>
    have later := ih fun held member => data held (mem_cons_of_mem _ member)
    rw [reads, if_pos owned, packetInput_data (data frame mem_cons_self), later]
    cases carried : frame.chunk cid <;> simp [carried]

theorem reads_none (none : ∀ frame ∈ frames, frame.chunk cid = none)
    (s : Session) : reads cid now frames s = [] := by
  induction frames generalizing s with
  | nil => rfl
  | cons frame rest ih =>
    rw [reads, none frame mem_cons_self, ih fun held member => none held (mem_cons_of_mem _ member)]
    simp

end Session

/-- The chunk was posted in a place its number points to, or to one before it; in
the second case everything posted ahead of it has been delivered. -/
def Placed (posted delivered : List Chunk) (chunk : Chunk) (seq : SeqNumber) : Prop :=
  ∃ index, posted[index]? = some chunk ∧ 0 < seq.toNat ∧
    (seq.toNat = index + 1 ∨ seq.toNat ≤ index ∧ (posted.take index).Sublist delivered)

namespace Placed

variable {posted delivered : List Chunk} {chunk : Chunk} {seq : SeqNumber}

theorem post (placed : Placed posted delivered chunk seq) (more : List Chunk) :
    Placed (posted ++ more) delivered chunk seq := by
  obtain ⟨index, found, pos, number⟩ := placed
  have bound := (List.getElem?_eq_some_iff.mp found).1
  refine ⟨index, (getElem?_append_left bound).trans found, pos, ?_⟩
  rwa [take_append_of_le_length bound.le]

theorem deliver (placed : Placed posted delivered chunk seq) (more : List Chunk) :
    Placed posted (delivered ++ more) chunk seq := by
  obtain ⟨index, found, pos, number⟩ := placed
  refine ⟨index, found, pos, number.imp_right fun earlier => ⟨earlier.1, ?_⟩⟩
  exact earlier.2.trans (sublist_append_left _ _)

end Placed

/-- The context has delivered everything posted before the number it waits for, and
holds chunks in their places. -/
structure Expecting (cid : ConnectionId) (posted delivered : List Chunk) (fx : FlowRx) :
    Prop where
  upto : (posted.take (fx.flowRxNext.toNat - 1)).Sublist delivered
  bound : fx.flowRxNext.toNat ≤ posted.length + 1
  held : ∀ key entry, fx.flowReorder.packets.lookup key = some entry →
    ∃ chunk, entry.value.chunk cid = some chunk ∧ Placed posted delivered chunk entry.value.seq

variable {fx : FlowRx} (more : List Chunk)

namespace Expecting

variable {cid : ConnectionId} {posted delivered : List Chunk} {fx : FlowRx}

theorem fresh (cid : ConnectionId) (posted delivered : List Chunk) :
    Expecting cid posted delivered FlowRx.fresh.prime where
  upto := nil_sublist _
  bound := Nat.le_add_left 1 _
  held key entry found := by simp [FlowRx.prime, FlowRx.fresh, empty] at found

section

variable (expecting : Expecting cid posted delivered fx)
include expecting

theorem post : Expecting cid (posted ++ more) delivered fx where
  upto := by
    have bound := expecting.bound
    rw [take_append_of_le_length (by omega)]
    exact expecting.upto
  bound := by
    rw [length_append]
    exact expecting.bound.trans (by omega)
  held key entry found := by
    obtain ⟨chunk, carried, placed⟩ := expecting.held key entry found
    exact ⟨chunk, carried, placed.post more⟩

theorem deliver : Expecting cid posted (delivered ++ more) fx where
  upto := expecting.upto.trans (sublist_append_left _ _)
  bound := expecting.bound
  held key entry found := by
    obtain ⟨chunk, carried, placed⟩ := expecting.held key entry found
    exact ⟨chunk, carried, placed.deliver more⟩

theorem congr {after : FlowRx} (next : after.flowRxNext = fx.flowRxNext)
    (reorder : after.flowReorder = fx.flowReorder) : Expecting cid posted delivered after := by
  constructor
  · rw [next]
    exact expecting.upto
  · rw [next]
    exact expecting.bound
  · rw [reorder]
    exact expecting.held

theorem pass (sofar : InOrder posted delivered) {chunk : Chunk}
    (placed : Placed posted delivered chunk frame.seq) (due : frame.seq = fx.flowRxNext) :
    InOrder posted (delivered ++ [chunk]) ∧
      Expecting cid posted (delivered ++ [chunk]) (fx.pass frame) := by
  obtain ⟨index, found, pos, number⟩ := placed
  have upto := expecting.upto
  rw [due] at pos number
  -- everything ahead of the chunk's place has been delivered
  have ahead : (posted.take index).Sublist delivered := by
    rcases number with own | earlier
    · rwa [own, Nat.add_sub_cancel] at upto
    · exact earlier.2
  have place := (List.getElem?_eq_some_iff.mp found).1
  have next : (fx.pass frame).flowRxNext.toNat = (fx.flowRxNext.toNat + 1) % 2 ^ 32 :=
    BitVec.toNat_add _ _
  have later := expecting.deliver [chunk]
  refine ⟨sofar.next_at found ahead, ?_, ?_, later.held⟩
  · rw [next]
    by_cases wraps : fx.flowRxNext.toNat + 1 = 2 ^ 32
    · rw [wraps]
      exact nil_sublist _
    · have small : (fx.flowRxNext.toNat + 1) % 2 ^ 32 = fx.flowRxNext.toNat + 1 :=
        Nat.mod_eq_of_lt (by have := fx.flowRxNext.isLt; omega)
      rw [small, Nat.add_sub_cancel]
      rcases number with own | earlier
      · rw [own, take_add_one, found]
        exact ahead.append (Sublist.refl _)
      · have fewer : (posted.take fx.flowRxNext.toNat).Sublist (posted.take index) :=
          (take_prefix_take_left earlier.1).sublist
        exact (fewer.trans ahead).trans (sublist_append_left _ _)
  · rw [next]
    exact (Nat.mod_le _ _).trans (by omega)

theorem take {entry : ReorderEntry Frame} {rest : ReorderBuffer Frame}
    (taken : fx.flowReorder.take fx.flowRxNext = some (entry, rest)) :
    Expecting cid posted delivered { fx with flowReorder := rest } := by
  obtain ⟨_, packets, _⟩ := take_eq_some taken
  refine ⟨expecting.upto, expecting.bound, fun key held found => expecting.held key held ?_⟩
  rw [packets] at found
  exact (lookup_erase_eq_some found).2

end

theorem drain (fuel : Nat) {delivered : List Chunk}
    (expecting : Expecting cid posted delivered fx) (stamped : fx.Stamped)
    (sofar : InOrder posted delivered) :
    InOrder posted (delivered ++ (FlowRx.drain fuel fx).1.filterMap (Frame.chunk cid)) ∧
      Expecting cid posted (delivered ++ (FlowRx.drain fuel fx).1.filterMap (Frame.chunk cid))
        (FlowRx.drain fuel fx).2 := by
  fun_induction FlowRx.drain fuel fx generalizing delivered with
  | case1 | case2 => simpa using ⟨sofar, expecting⟩
  | case3 fx fuel entry rest taken =>
    rename_i ih
    obtain ⟨found, _, _⟩ := take_eq_some taken
    obtain ⟨chunk, carried, placed⟩ := expecting.held _ _ found
    obtain ⟨next, passed⟩ := (expecting.take taken).pass sofar placed (stamped _ _ found).1
    have later := ih passed (stamped.take taken) next
    simpa only [filterMap_cons, carried, append_assoc, singleton_append] using later

theorem advance (expecting : Expecting cid posted delivered fx) (stamped : fx.Stamped)
    (sofar : InOrder posted delivered) {chunk : Chunk}
    (carried : frame.chunk cid = some chunk) (placed : Placed posted delivered chunk frame.seq)
    (due : frame.seq = fx.flowRxNext) (now : Nat) :
    InOrder posted (delivered ++ (fx.advance frame now).1.filterMap (Frame.chunk cid)) ∧
      Expecting cid posted (delivered ++ (fx.advance frame now).1.filterMap (Frame.chunk cid))
        (fx.advance frame now).2 := by
  obtain ⟨next, passed⟩ := expecting.pass sofar placed due
  obtain ⟨order, left⟩ := passed.drain fx.flowReorder.size (stamped.congr rfl) next
  simp only [FlowRx.advance, filterMap_cons, carried]
  rw [append_assoc, singleton_append] at order left
  exact ⟨order, left.congr rfl rfl⟩

end Expecting

def FlowRx.HoldsOwn (cid : ConnectionId) (fx : FlowRx) : Prop :=
  ∀ key entry, fx.flowReorder.packets.lookup key = some entry →
    entry.value.connectionId = cid ∧ entry.value.cmd.isPerFlowData

theorem FlowRx.HoldsOwn.drain (fuel : Nat) (own : fx.HoldsOwn cid) :
    (∀ frame ∈ (FlowRx.drain fuel fx).1, frame.connectionId = cid ∧ frame.cmd.isPerFlowData) ∧
      (FlowRx.drain fuel fx).2.HoldsOwn cid := by
  fun_induction FlowRx.drain fuel fx with
  | case1 | case2 => exact ⟨by simp, own⟩
  | case3 fx fuel entry rest taken =>
    rename_i ih
    obtain ⟨found, packets, _⟩ := take_eq_some taken
    obtain ⟨frames, after⟩ := ih fun key held kept => by
      change rest.packets.lookup key = some held at kept
      rw [packets] at kept
      exact own key held (lookup_erase_eq_some kept).2
    refine ⟨fun frame member => ?_, after⟩
    rcases mem_cons.mp member with rfl | later
    · exact own _ _ found
    · exact frames frame later

theorem FlowRx.HoldsOwn.advance
    (own : fx.HoldsOwn frame.connectionId) (data : frame.cmd.isPerFlowData) (now : Nat) :
    (∀ held ∈ (fx.advance frame now).1,
        held.connectionId = frame.connectionId ∧ held.cmd.isPerFlowData) ∧
      (fx.advance frame now).2.HoldsOwn frame.connectionId := by
  have passed : (fx.pass frame).HoldsOwn frame.connectionId := own
  obtain ⟨frames, left⟩ := passed.drain fx.flowReorder.size
  refine ⟨fun held member => ?_, left⟩
  rcases mem_cons.mp member with rfl | later
  · exact ⟨rfl, data⟩
  · exact frames held later

/-- Every context holds its own frames, and the connection's waits for the posted
chunks in order. -/
structure Receiving (cid : ConnectionId) (posted delivered : List Chunk) (side : RecvSide) :
    Prop where
  own : ∀ other fx, side.flows.lookup other = some fx → fx.HoldsOwn other
  expecting : ∀ fx, side.flows.lookup cid = some fx → Expecting cid posted delivered fx

namespace Receiving

variable {cid : ConnectionId} {posted delivered : List Chunk} {side after : RecvSide}

section

variable (receiving : Receiving cid posted delivered side)
include receiving

theorem post : Receiving cid (posted ++ more) delivered side :=
  ⟨receiving.own, fun fx found => (receiving.expecting fx found).post more⟩

theorem deliver : Receiving cid posted (delivered ++ more) side :=
  ⟨receiving.own, fun fx found => (receiving.expecting fx found).deliver more⟩

theorem lose (kept : ∀ other fx, after.flows.lookup other = some fx →
      side.flows.lookup other = some fx) : Receiving cid posted delivered after :=
  ⟨fun other fx found => receiving.own other fx (kept other fx found),
    fun fx found => receiving.expecting fx (kept cid fx found)⟩

theorem settle (frame : Frame) : Receiving cid posted delivered (side.settle frame) :=
  receiving.lose fun _ _ found => found

theorem failFlow (failed : ConnectionId) : Receiving cid posted delivered (side.failFlow failed) :=
  receiving.lose fun _ _ found => (lookup_erase_eq_some found).2

theorem release (released : ConnectionId) :
    Receiving cid posted delivered (side.release released) :=
  receiving.lose fun _ _ found => (lookup_erase_eq_some found).2

theorem finalize : Receiving cid posted delivered side.finalize :=
  receiving.lose fun _ _ found => by simp [RecvSide.finalize] at found

theorem moves (made : RecvMoves side after) : Receiving cid posted delivered after :=
  made.keeps (fun _ failed _ kept => kept.failFlow failed)
    (fun _ _ kept => kept.lose fun _ _ found => found) (fun _ kept => kept.finalize) receiving

end

variable {other : ConnectionId}

theorem keep (receiving : Receiving cid posted delivered side)
    (own : fx.HoldsOwn other) (expecting : other = cid → Expecting cid posted delivered fx) :
    Receiving cid posted delivered (side.keep other fx) := by
  constructor
  · intro third held found
    rcases lookup_insert_eq_some found with ⟨rfl, rfl⟩ | ⟨_, stored⟩
    · exact own
    · exact receiving.own third held stored
  · intro held found
    rcases lookup_insert_eq_some found with ⟨same, rfl⟩ | ⟨_, stored⟩
    · exact expecting same.symm
    · exact receiving.expecting held stored

theorem found (receiving : Receiving cid posted delivered side) (found : Found side other fx) :
    fx.HoldsOwn other ∧ (other = cid → Expecting cid posted delivered fx) := by
  rcases found.origin with stored | ⟨_, rfl⟩
  · exact ⟨receiving.own other fx stored, fun same => receiving.expecting fx (same ▸ stored)⟩
  · refine ⟨fun key entry held => ?_, fun _ => Expecting.fresh cid posted delivered⟩
    simp [FlowRx.prime, FlowRx.fresh, empty] at held

end Receiving

theorem Frame.exists_chunk (data : frame.cmd.isPerFlowData) (own : frame.connectionId = cid) :
    ∃ chunk, frame.chunk cid = some chunk := by
  unfold chunk
  cases kind : frame.cmd <;> simp_all [Cmd.isPerFlowData]

section Arrivals

variable {cid : ConnectionId} {posted delivered : List Chunk} {s : Session} {frame : Frame}

theorem handsOver_data (v2 : s.isFlowV2) (alive : s.disposed = false)
    (data : frame.cmd.isPerFlowData) (now : Nat) :
    s.handsOver frame now = match s.flowVerdict frame with
      | .inOrder fx => (fx.advance frame now).1
      | _ => [] := by
  simp only [handsOver, alive, v2, data, if_true, Bool.false_eq_true, if_false]

section

variable (receiving : Receiving cid posted delivered s.recvSide)
  (data : frame.cmd.isPerFlowData = true)
  (genuine : ∀ chunk, frame.chunk cid = some chunk → Placed posted delivered chunk frame.seq)
include receiving data genuine

theorem Receiving.late {after : RecvSide} (effect : DataEffect s frame after)
    (late : ∀ fx, s.flowVerdict frame ≠ .inOrder fx) : Receiving cid posted delivered after := by
  have settled := receiving.settle frame
  have kept := fun {fx} (found : Found (s.recvSide.settle frame) frame.connectionId fx) =>
    settled.keep (settled.found found).1 (settled.found found).2
  cases effect with
  | unknown => exact settled
  | kept found moved => exact (kept found).moves moved
  | delivered verdict => exact absurd verdict (late _)
  | @stored fx held middle found moved spared inserted primed next =>
    obtain ⟨_, packets, _⟩ := tryInsert_eq_some inserted
    obtain ⟨own, expecting⟩ := settled.found found
    have entry : ∀ key entry, held.flowReorder.packets.lookup key = some entry →
        entry.value = frame ∨ fx.flowReorder.packets.lookup key = some entry := by
      intro key entry found
      rw [packets] at found
      rcases lookup_insert_eq_some found with ⟨_, rfl⟩ | ⟨_, stored⟩
      · exact .inl rfl
      · exact .inr stored
    refine (((kept found).moves moved).keep ?_ fun same => ?_).lose fun _ _ found => found
    · intro key other found
      rcases entry key other found with new | old
      · rw [new]
        exact ⟨rfl, data⟩
      · exact own key other old
    · refine ⟨next ▸ (expecting same).upto, next ▸ (expecting same).bound, ?_⟩
      intro key other found
      rcases entry key other found with new | old
      · obtain ⟨chunk, carried⟩ := Frame.exists_chunk data same
        rw [new]
        exact ⟨chunk, carried, genuine chunk carried⟩
      · exact (expecting same).held key other old

variable (sound : SoundContexts s.recvSide) (sofar : InOrder posted delivered)
include sound sofar

theorem Receiving.inOrder (verdict : s.flowVerdict frame = .inOrder fx) (now : Nat) :
    InOrder posted (delivered ++ Session.reads cid now (fx.advance frame now).1 s) ∧
      (fx.advance frame now).2.HoldsOwn frame.connectionId ∧
      (frame.connectionId = cid → Expecting cid posted
        (delivered ++ Session.reads cid now (fx.advance frame now).1 s)
        (fx.advance frame now).2) := by
  have found := sound.found (by rw [verdict]; rfl)
  obtain ⟨holds, expecting⟩ := receiving.found found
  obtain ⟨frames, left⟩ := holds.advance data now
  by_cases same : frame.connectionId = cid
  · obtain ⟨chunk, carried⟩ := Frame.exists_chunk data same
    have owned := same ▸ found.hasConnection
    have due := seq_of_inOrder verdict
    rw [reads_data (fun held member => (frames held member).2) owned]
    obtain ⟨order, waits⟩ := (expecting same).advance found.stamped sofar carried
      (genuine chunk carried) due now
    exact ⟨order, left, fun _ => waits⟩
  · have none : ∀ held ∈ (fx.advance frame now).1, held.chunk cid = none := by
      intro held member
      exact Frame.chunk_of_other ((frames held member).1 ▸ same)
    rw [reads_none none, append_nil]
    exact ⟨sofar, left, fun own => absurd own same⟩

theorem Receiving.arrival {after : RecvSide}
    (effect : DataArrival (s.recvSide.settle frame) frame (s.flowVerdict frame) after)
    (v2 : s.isFlowV2) (alive : s.disposed = false) (now : Nat) :
    InOrder posted (delivered ++ Session.reads cid now (s.handsOver frame now) s) ∧
      Receiving cid posted (delivered ++ Session.reads cid now (s.handsOver frame now) s)
        after := by
  rw [handsOver_data v2 alive data]
  have late := fun late => receiving.late data genuine (effect.summary v2 sound) late
  have advanced := fun fx (verdict : s.flowVerdict frame = .inOrder fx) =>
    receiving.inOrder data genuine sound sofar verdict now
  have left : ∀ (fx : FlowRx) later more, (fx.advance frame now).2.HoldsOwn frame.connectionId →
      (frame.connectionId = cid → Expecting cid posted (delivered ++ more)
        (fx.advance frame now).2) →
      Receiving cid posted (delivered ++ more)
        ((s.recvSide.settle frame).keep frame.connectionId (fx.advance frame later).2) :=
    fun fx later more own expecting =>
      ((receiving.settle frame).deliver more).keep own fun same => (expecting same).congr rfl rfl
  generalize s.flowVerdict frame = decided at effect advanced late ⊢
  cases effect with
  | inOrder fx later =>
    obtain ⟨order, own, expecting⟩ := advanced fx rfl
    exact ⟨order, (left fx later _ own expecting).lose fun _ _ found => found⟩
  | released fx later drained =>
    obtain ⟨order, own, expecting⟩ := advanced fx rfl
    exact ⟨order, ((left fx later _ own expecting).release frame.connectionId).lose
      fun _ _ found => found⟩
  | _ =>
    rw [reads, append_nil]
    exact ⟨sofar, late nofun⟩

end

section

variable (receiving : Receiving cid posted delivered s.recvSide) (flow : FlowSession s)
    (sofar : InOrder posted delivered)
include receiving flow sofar

theorem Receiving.arrive
    (genuine : ∀ chunk, frame.chunk cid = some chunk → Placed posted delivered chunk frame.seq)
    (link : Option CarrierKey) (now : Nat) :
    InOrder posted (delivered ++ Session.reads cid now (s.handsOver frame now) s) ∧
      Receiving cid posted (delivered ++ Session.reads cid now (s.handsOver frame now) s)
        (s.arrive frame link now).recvSide := by
  have settled := receiving.settle frame
  cases gone : s.disposed with
  | true =>
    have none : s.handsOver frame now = [] := by simp [handsOver, gone]
    rw [none, reads, append_nil]
    exact ⟨sofar, settled.moves (arrive_disposed gone frame link now)⟩
  | false =>
    cases data : frame.cmd.isPerFlowData with
    | true =>
      exact receiving.arrival data genuine flow.sound sofar
        (arrive_data flow.v2 gone data link now) flow.v2 gone now
    | false =>
      have alone : ∀ held ∈ s.handsOver frame now, held.chunk cid = none := by
        simp [handsOver, gone, flow.v2, data, Frame.chunk_of_control data]
      rw [reads_none alone, append_nil, arrive_control flow.v2 gone data link now]
      refine ⟨sofar, ?_⟩
      split_ifs
      · exact settled.lose fun _ _ found => found
      · exact settled

theorem Receiving.step {op : Op} (genuine : ∀ frame link now, op = .arrive frame link now →
      ∀ chunk, frame.chunk cid = some chunk → Placed posted delivered chunk frame.seq) :
    InOrder posted (delivered ++ s.delivers cid op) ∧
      Receiving cid posted (delivered ++ s.delivers cid op) (s.step op).recvSide := by
  cases op with
  | arrive frame link now =>
    exact receiving.arrive flow sofar (genuine frame link now rfl) link now
  | register opened =>
    simp only [delivers, append_nil, Session.step, recvSide_register]
    refine ⟨sofar, ?_⟩
    split_ifs
    · exact receiving.lose fun _ _ found => found
    · exact receiving
  | noteAck noted seq now =>
    have flows : (s.step (.noteAck noted seq now)).recvSide.flows = s.recvSide.flows := by
      simp only [Session.step, noteArrival, noteAckPending]
      split_ifs <;> rfl
    simp only [delivers, append_nil]
    refine ⟨sofar, receiving.lose fun other fx found => ?_⟩
    rwa [flows] at found
  | releaseConnection released =>
    simp only [delivers, append_nil, Session.step, recvSide_releaseConnection]
    refine ⟨sofar, ?_⟩
    split_ifs
    · exact (receiving.release released).lose fun _ _ found => found
    · exact receiving
  | _ =>
    simp only [delivers, append_nil]
    exact ⟨sofar, receiving.moves (s.recvMoves_step _ rfl)⟩

end

end Arrivals

def Frame.opens (cid : ConnectionId) (frame : Frame) : Bool :=
  frame.cmd = .syn && frame.connectionId = cid

/-- Delivered is an initial part of what was handed over, and all of it while the
socket is there. -/
def Reading (present : Bool) (handed delivered : List Chunk) : Prop :=
  delivered <+: handed ∧ (present → delivered = handed)

variable {cid : ConnectionId}

namespace Session

theorem hasConnection_congr {s after : Session}
    (same : after.recvSide.present cid = s.recvSide.present cid) :
    after.hasConnection cid = s.hasConnection cid :=
  congrArg (fun present => decide (cid ≠ 0) && present) same

theorem opens_of_packetInput {s : Session} {frame : Frame} {now : Nat}
    (absent : s.hasConnection cid = false)
    (entered : (s.packetInput frame now).hasConnection cid) : frame.opens cid := by
  by_contra closed
  have same : (s.packetInput frame now).recvSide.present cid = s.recvSide.present cid := by
    rw [recvSide_packetInput]
    split_ifs with syn
    · have apart : cid ≠ frame.connectionId := by
        intro own
        simp [Frame.opens, syn.1, own] at closed
      exact Function.update_of_ne apart ..
    · rfl
  rw [hasConnection_congr same, absent] at entered
  cases entered

end Session

theorem Reading.frames {now : Nat} {frames : List Frame} {s : Session}
    {handed delivered : List Chunk} (reading : Reading (s.hasConnection cid) handed delivered)
    (first : ∀ frame ∈ frames, frame.opens cid → handed = [])
    (opens : frames.Pairwise fun earlier later =>
      earlier.chunk cid ≠ none → later.opens cid = false) :
    Reading ((frames.foldl (fun state frame => state.packetInput frame now) s).hasConnection cid)
      (handed ++ frames.filterMap (Frame.chunk cid))
      (delivered ++ Session.reads cid now frames s) := by
  induction frames generalizing s handed delivered with
  | nil => simpa [reads] using reading
  | cons frame rest ih =>
    obtain ⟨after, later⟩ := pairwise_cons.mp opens
    have read : Reading ((s.packetInput frame now).hasConnection cid)
        (handed ++ (frame.chunk cid).toList)
        (delivered ++ if s.hasConnection cid then (frame.chunk cid).toList else []) := by
      cases present : s.hasConnection cid with
      | true =>
        have same := reading.2 present
        rw [same]
        exact ⟨prefix_rfl, fun _ => rfl⟩
      | false =>
        refine ⟨?_, fun entered => ?_⟩
        · rw [if_neg (by simp), append_nil]
          exact reading.1.trans (prefix_append _ _)
        · have opened := opens_of_packetInput present entered
          have none : frame.chunk cid = none := by
            simp only [Frame.opens, Bool.and_eq_true, decide_eq_true_eq] at opened
            exact Frame.chunk_of_control (by rw [opened.1]; rfl)
          have empty := first frame mem_cons_self opened
          rw [empty] at reading ⊢
          rw [prefix_nil.mp reading.1, none]
          rfl
    have rest := ih read ?_ later
    · rw [filterMap_cons, reads]
      cases carried : frame.chunk cid <;>
        simpa [carried, append_assoc] using rest
    · intro held member opened
      have empty := first held (mem_cons_of_mem _ member) opened
      cases carried : frame.chunk cid with
      | none => simp [empty]
      | some chunk =>
        have closed := after held member (by simp [carried])
        rw [opened] at closed
        cases closed

theorem RecvSide.dispatched_foldl_enter (entered : List ConnectionId) (side : RecvSide) :
    (entered.foldl RecvSide.enter side).dispatched = side.dispatched := by
  induction entered generalizing side with
  | nil => rfl
  | cons cid rest ih => exact ih _

namespace Session

/-- What decides which connections a run of frames opens. -/
def sockets (s : Session) : (AList fun _ : ConnectionId => Skt) × Bool × Config :=
  (s.skts, s.disposed, s.config)

theorem sockets_packetInputMuxModeSet (payload : List UInt8) (now : Nat) (s : Session) :
    (s.packetInputMuxModeSet payload now).sockets = s.sockets := by
  unfold packetInputMuxModeSet
  split
  · split_ifs <;> rfl
  · rfl

theorem sockets_packetInput {s other : Session} (same : other.sockets = s.sockets) (frame : Frame)
    (now : Nat) : (other.packetInput frame now).sockets = (s.packetInput frame now).sockets := by
  unfold packetInput
  cases frame.cmd with
  | muxModeSet => simp only [sockets_packetInputMuxModeSet, same]
  | synOk => cases frame.payload <;> simp_all [sockets, modifySkt]
  | _ => simp_all [sockets, register, canRegister, modifySkt, apply_ite]

theorem sockets_foldl_packetInput (frames : List Frame) (now : Nat) {s other : Session}
    (same : other.sockets = s.sockets) :
    (frames.foldl (fun state frame => state.packetInput frame now) other).sockets =
      (frames.foldl (fun state frame => state.packetInput frame now) s).sockets := by
  induction frames generalizing s other with
  | nil => exact same
  | cons frame rest ih => exact ih (sockets_packetInput same frame now)

theorem dispatchInOrder_eq (s : Session) (frame : Frame) (now : Nat) : ∃ advanced : Session,
      s.dispatchInOrder frame now = ((frame :: (replay (s.rxAck + 1) s.rxQueue).1).foldl
          (fun state held => state.packetInput held now) advanced).rxMaybeResume ∧
      advanced.sockets = s.sockets ∧
      advanced.log.dispatched = s.log.dispatched ++ frame :: (replay (s.rxAck + 1) s.rxQueue).1 :=
  ⟨_, rfl, rfl, rfl⟩

theorem arrive_dispatches {s : Session} {frame : Frame} (compat : s.isFlowV2 = false)
    (alive : s.disposed = false) (sequenced : frame.cmd.isReliabilityControl = false)
    (due : s.rxAck = frame.seq) (link : Option CarrierKey) (now : Nat) :
    (s.arrive frame link now).log.dispatched = s.log.dispatched ++ s.handsOver frame now ∧
      (s.arrive frame link now).hasConnection cid = ((s.handsOver frame now).foldl
        (fun state held => state.packetInput held now) s).hasConnection cid := by
  have settledCompat : (s.settleArrival frame).isFlowV2 = false := compat
  have settledAlive : (s.settleArrival frame).disposed = false := alive
  have settledDue : (s.settleArrival frame).rxAck = frame.seq := due
  have handed : s.handsOver frame now = frame :: (replay (s.rxAck + 1) s.rxQueue).1 := by
    simp [handsOver, compat, alive, sequenced, due]
  have arrived : s.arrive frame link now =
      ((s.settleArrival frame).dispatchInOrder frame now).linklayerUpdate link now := by
    simp [arrive, packetInputOrdered, settledCompat, packetInputUnorder, settledAlive, sequenced,
      settledDue, closeUnless_true]
  obtain ⟨advanced, dispatch, sockets, dispatched⟩ :=
    (s.settleArrival frame).dispatchInOrder_eq frame now
  have side := recvSide_linklayerUpdate ((s.settleArrival frame).dispatchInOrder frame now) link now
  obtain ⟨entered, effect⟩ := recvSide_foldl_packetInput
    (frame :: (replay (s.rxAck + 1) s.rxQueue).1) advanced now
  rw [arrived, handed]
  constructor
  · refine (congrArg RecvSide.dispatched side).trans ?_
    rw [dispatch, recvSide_rxMaybeResume]
    refine (congrArg RecvSide.dispatched effect).trans ?_
    exact (RecvSide.dispatched_foldl_enter entered _).trans dispatched
  · have same := @sockets_foldl_packetInput (frame :: (replay (s.rxAck + 1) s.rxQueue).1) now s
      advanced sockets
    refine Eq.trans ?_
      (congrArg (fun sockets => decide (cid ≠ 0) && (sockets.1.lookup cid).isSome) same)
    rw [dispatch]
    cases link <;> rfl

end Session

/-- The connection is opened at the receiver before any of its data is handed over. -/
def Session.opensFirst (s : Session) (cid : ConnectionId) : Op → Prop
  | .register opened => opened = cid → ∀ frame ∈ s.log.dispatched, frame.chunk cid = none
  | .arrive frame _ now =>
    (s.log.dispatched ++ s.handsOver frame now).Pairwise fun earlier later =>
      earlier.chunk cid ≠ none → later.opens cid = false
  | _ => True

instance (s : Session) (cid : ConnectionId) (op : Op) : Decidable (s.opensFirst cid op) := by
  unfold Session.opensFirst
  split <;> infer_instance

structure Still (cid : ConnectionId) (before after : RecvSide) : Prop where
  dispatched : after.dispatched = before.dispatched
  present : after.present cid → before.present cid

theorem Still.moves {before after : RecvSide} (made : RecvMoves before after) :
    Still cid before after :=
  made.keeps (fun _ _ _ kept => ⟨kept.dispatched, kept.present⟩)
    (fun _ _ kept => ⟨kept.dispatched, kept.present⟩)
    (fun _ kept => ⟨kept.dispatched, fun present => by cases present⟩) ⟨rfl, id⟩

section Reading

variable {cid : ConnectionId} {s after : Session} {delivered : List Chunk}

theorem Reading.still
    (reading : Reading (s.hasConnection cid) (s.log.dispatched.filterMap (Frame.chunk cid))
      delivered) (still : Still cid s.recvSide after.recvSide) :
    Reading (after.hasConnection cid) (after.log.dispatched.filterMap (Frame.chunk cid))
      delivered := by
  rw [show after.log.dispatched = s.log.dispatched from still.dispatched]
  refine ⟨reading.1, fun owned => reading.2 ?_⟩
  rw [hasConnection, Bool.and_eq_true] at owned ⊢
  exact ⟨owned.1, still.present owned.2⟩

section

variable (compat : s.isFlowV2 = false)
    (reading : Reading (s.hasConnection cid) (s.log.dispatched.filterMap (Frame.chunk cid))
      delivered)
include compat reading

theorem Reading.arrive {frame : Frame} (link : Option CarrierKey) (now : Nat)
    (opens : s.opensFirst cid (.arrive frame link now)) :
    Reading ((s.arrive frame link now).hasConnection cid)
      ((s.arrive frame link now).log.dispatched.filterMap (Frame.chunk cid))
      (delivered ++ Session.reads cid now (s.handsOver frame now) s) := by
  by_cases dispatches : s.disposed = false ∧ frame.cmd.isReliabilityControl = false ∧
      s.rxAck = frame.seq
  · obtain ⟨alive, sequenced, due⟩ := dispatches
    obtain ⟨dispatched, present⟩ := arrive_dispatches compat alive sequenced due link now
    obtain ⟨_, later, first⟩ := pairwise_append.mp opens
    have read := @Reading.frames cid now (s.handsOver frame now) s _ _ reading ?_ later
    · rw [dispatched, filterMap_append, present]
      exact read
    · intro held member opened
      refine filterMap_eq_nil_iff.mpr fun earlier dispatched => ?_
      by_contra carried
      have closed := first earlier dispatched held member carried
      rw [opened] at closed
      cases closed
  · have none : s.handsOver frame now = [] := by
      simp only [handsOver, compat, Bool.false_eq_true, if_false]
      split_ifs with gone control due
      · rfl
      · rfl
      · exact absurd ⟨Bool.eq_false_iff.mpr gone, Bool.eq_false_iff.mpr control, due⟩ dispatches
      · rfl
    rw [none, reads, append_nil]
    refine reading.still ?_
    cases gone : s.disposed with
    | true =>
      have still : Still cid _ _ := Still.moves (arrive_disposed gone frame link now)
      exact ⟨still.dispatched, still.present⟩
    | false =>
      have effect := arrive_compat compat gone frame link now
      generalize (s.arrive frame link now).recvSide = side at effect
      cases effect with
      | settled | buffered sequenced future queue placed => exact ⟨rfl, id⟩
      | closed side moves =>
        have still : Still cid _ _ := Still.moves moves
        exact ⟨still.dispatched, still.present⟩
      | dispatched sequenced due entered => exact absurd ⟨gone, sequenced, due⟩ dispatches

theorem Reading.step {op : Op} (opens : s.opensFirst cid op) :
    Reading ((s.step op).hasConnection cid) ((s.step op).log.dispatched.filterMap (Frame.chunk cid))
      (delivered ++ s.delivers cid op) := by
  cases op with
  | arrive frame link now => exact reading.arrive compat link now opens
  | register opened =>
    simp only [delivers, append_nil]
    by_cases own : opened = cid
    · have none := filterMap_eq_nil_iff.mpr (opens own)
      have same : (s.step (.register opened)).log.dispatched = s.log.dispatched := by
        simp only [Session.step, register]
        split_ifs <;> rfl
      rw [none] at reading
      rw [same, none, prefix_nil.mp reading.1]
      exact ⟨prefix_rfl, fun _ => rfl⟩
    · refine reading.still ?_
      simp only [Session.step, recvSide_register]
      split_ifs
      · refine ⟨rfl, fun present => ?_⟩
        rwa [show (s.recvSide.enter opened).present cid = s.recvSide.present cid from
          Function.update_of_ne (Ne.symm own) ..] at present
      · exact ⟨rfl, id⟩
  | noteAck noted seq now =>
    simp only [delivers, append_nil]
    refine reading.still ?_
    simp only [Session.step, noteArrival, noteAckPending]
    split_ifs <;> exact ⟨rfl, id⟩
  | releaseConnection released =>
    simp only [delivers, append_nil]
    refine reading.still ?_
    simp only [Session.step, recvSide_releaseConnection]
    split_ifs
    · refine ⟨rfl, fun present => ?_⟩
      by_cases own : cid = released
      · simp [RecvSide.leave, own] at present
      · rwa [show (s.recvSide.leave released).present cid = s.recvSide.present cid from
          Function.update_of_ne own ..] at present
    · exact ⟨rfl, id⟩
  | _ =>
    simp only [delivers, append_nil]
    exact reading.still (Still.moves (s.recvMoves_step _ rfl))

end

end Reading

end OpenPpp2.Mux
