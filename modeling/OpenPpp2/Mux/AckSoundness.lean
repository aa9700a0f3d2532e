import OpenPpp2.Mux.Contexts

/-!
# What an acknowledgment vouches for

A data frame's number enters its connection's ACK tracker before `packet_input_flow` decides what to
do with the frame.
-/

namespace OpenPpp2.Mux

open Lib.AssocTotal Lib.CircularOrder Lib.Run List Option ReorderBuffer AList Function AckTracker

namespace RecvSide

def Acknowledges (side : RecvSide) (cid : ConnectionId) (seq : SeqNumber) : Prop :=
  ((side.ackTrackers.lookup cid).getD AckTracker.empty).Covers seq

def Holds (side : RecvSide) (cid : ConnectionId) (seq : SeqNumber) : Prop :=
  ∃ fx, side.flows.lookup cid = some fx ∧ fx.flowReorder.Holds seq

def Justified (side : RecvSide) (cid : ConnectionId) (seq : SeqNumber) : Prop :=
  seq ∈ side.delivered cid ∨ side.Holds cid seq ∨ side.ended cid

structure Closing (side : RecvSide) : Prop where
  requested : side.closeRequested = side.disposed
  endsAll : side.disposed → ∀ cid, side.ended cid

end RecvSide

/-- No tracker covers more, nothing loses its justification, and no frame is
decided on. -/
structure Progress (side after : RecvSide) : Prop where
  acks : ∀ cid seq, after.Acknowledges cid seq → side.Acknowledges cid seq
  justified : ∀ cid seq, side.Justified cid seq → after.Justified cid seq
  noted : after.noted = side.noted
  closing : side.Closing → after.Closing

variable {cid : ConnectionId}

variable {fx : FlowRx}

namespace Progress

variable {side middle after : RecvSide}

theorem refl (side : RecvSide) : Progress side side := ⟨fun _ _ => id, fun _ _ => id, rfl, id⟩

theorem trans (first : Progress side middle) (second : Progress middle after) :
    Progress side after :=
  ⟨fun cid seq acked => first.acks cid seq (second.acks cid seq acked),
    fun cid seq holds => second.justified cid seq (first.justified cid seq holds),
    second.noted.trans first.noted, fun closing => second.closing (first.closing closing)⟩

theorem ends (cid : ConnectionId) (v2 : side.config.isFlowV2) (trackers : after.ackTrackers =
      if side.config.isFlowV2 then side.ackTrackers.erase cid else side.ackTrackers)
    (flows : after.flows = side.flows.erase cid) (delivered : after.delivered = side.delivered)
    (ended : after.ended = Function.update side.ended cid true)
    (noted : after.noted = side.noted) (requested : after.closeRequested = side.closeRequested)
    (disposed : after.disposed = side.disposed) : Progress side after where
  acks other seq acked := by
    rw [RecvSide.Acknowledges, trackers, if_pos v2] at acked
    by_cases same : other = cid
    · rw [same, lookup_erase] at acked
      exact absurd acked (not_covers_empty seq)
    · rwa [lookup_erase_ne same] at acked
  justified other seq holds := by
    by_cases same : other = cid
    · right; right
      rw [ended, same, update_self]
    · unfold RecvSide.Justified RecvSide.Holds
      rw [delivered, flows, ended, update_of_ne same, lookup_erase_ne same]
      exact holds
  noted := noted
  closing closing := by
    refine ⟨by rw [requested, disposed, closing.requested], fun gone other => ?_⟩
    rw [ended]
    by_cases same : other = cid
    · rw [same, update_self]
    · rw [update_of_ne same]
      exact closing.endsAll (disposed ▸ gone) other

section

variable (made : Progress side after) (v2 : after.config.isFlowV2 = true)
include made v2

theorem failFlow (cid : ConnectionId) : Progress side (after.failFlow cid) :=
  made.trans (ends cid v2 rfl rfl rfl rfl rfl rfl rfl)

theorem release (cid : ConnectionId) : Progress side (after.release cid) :=
  made.trans (ends cid v2 rfl rfl rfl rfl rfl rfl rfl)

theorem leave (cid : ConnectionId) : Progress side (after.leave cid) :=
  made.trans (ends cid v2 rfl rfl rfl rfl rfl rfl rfl)

theorem evict (victim : ConnectionId) : Progress side (after.evict victim) := by
  unfold RecvSide.evict
  split_ifs
  · exact made
  · exact made.failFlow v2 victim

end

theorem finalize (side : RecvSide) : Progress side side.finalize where
  acks cid seq acked := by
    exact absurd acked (not_covers_empty seq)
  justified _ _ _ := Or.inr (Or.inr rfl)
  noted := rfl
  closing _ := ⟨rfl, fun _ _ => rfl⟩

theorem moves (made : RecvMoves side after) : Progress side after := by
  induction made with
  | refl => exact refl side
  | tail _ move ih =>
    cases move with
    | fail cid v2 => exact ih.failFlow v2 cid
    | request gone =>
      exact ih.trans ⟨fun _ _ => id, fun _ _ => id, rfl,
        fun closing => ⟨gone.symm, closing.endsAll⟩⟩
    | close => exact ih.trans (finalize _)

theorem exchange (frames : List SeqNumber) (trackers : after.ackTrackers = side.ackTrackers)
    (flows : after.flows = side.flows.insert cid fx)
    (delivered : after.delivered = Function.update side.delivered cid (side.delivered cid ++ frames))
    (ended : after.ended = side.ended) (noted : after.noted = side.noted)
    (requested : after.closeRequested = side.closeRequested)
    (disposed : after.disposed = side.disposed)
    (kept : ∀ seq, side.Holds cid seq → seq ∈ frames ∨ fx.flowReorder.Holds seq) :
    Progress side after where
  acks other seq acked := by
    rwa [RecvSide.Acknowledges, trackers] at acked
  justified other seq holds := by
    unfold RecvSide.Justified RecvSide.Holds
    by_cases same : other = cid
    · subst same
      rw [delivered, update_self, flows, lookup_insert, ended, mem_append]
      rcases holds with old | held | ended
      · exact .inl (Or.inl old)
      · rcases kept seq held with now | still
        · exact .inl (Or.inr now)
        · exact .inr (Or.inl ⟨fx, rfl, still⟩)
      · exact .inr (Or.inr ended)
    · rw [delivered, update_of_ne same, flows, lookup_insert_ne same, ended]
      exact holds
  noted := noted
  closing closing := by
    refine ⟨by rw [requested, disposed, closing.requested], fun gone => ?_⟩
    rw [ended]
    exact closing.endsAll (disposed ▸ gone)

end Progress

variable {seq : SeqNumber}

theorem Found.holds {side : RecvSide}
    (found : Found side cid fx) (held : side.Holds cid seq) : fx.flowReorder.Holds seq := by
  obtain ⟨other, stored, holds⟩ := held
  rcases found.origin with same | ⟨missing, _⟩
  · obtain rfl := some.inj (stored.symm.trans same)
    exact holds
  · simp [missing] at stored

namespace Progress

variable {side : RecvSide}

theorem keep (found : Found side cid fx) : Progress side (side.keep cid fx) :=
  exchange [] rfl rfl (by simp [RecvSide.keep]) rfl rfl rfl rfl
    fun _ held => Or.inr (found.holds held)

theorem deliver {fx after : FlowRx} {frames credited : List Frame}
    (found : Found side cid fx) (replayed : FlowRx.Replayed fx frames credited after) :
    Progress side (side.deliver cid frames credited after) :=
  exchange (frames.map Frame.seq) rfl rfl rfl rfl rfl rfl rfl fun seq held =>
    replayed.kept seq (found.holds held)

end Progress

variable {s : Session}

theorem Session.Storable.holds_of_refused {frame : Frame}
    {victim : ConnectionId} (storable : s.Storable frame fx victim)
    (refusal : fx.flowReorder.tryInsert frame.seq fx.flowRxNext frame frame.length
      s.config.flowHardCap s.config.entryCap = none)
    (nearer : ahead fx.flowRxNext frame.seq ≠ 2 ^ 31)
    (counted : fx.flowReorder.bufferedBytes + frame.length ≤ sizeMax) :
    fx.flowReorder.Holds frame.seq := by
  by_contra fresh
  have refused : ¬ fx.flowReorder.admits frame.seq fx.flowRxNext frame.length
      s.config.flowHardCap s.config.entryCap := by
    intro admitted
    have inserted : (fx.flowReorder.tryInsert frame.seq fx.flowRxNext frame frame.length
        s.config.flowHardCap s.config.entryCap).isSome :=
      tryInsert_isSome_iff.mpr admitted
    simp [refusal] at inserted
  refine refused ?_
  obtain ⟨positive, near⟩ :=
    (before_reference_iff fx.flowRxNext frame.seq).mp storable.future
  have bytes : fx.flowReorder.bufferedBytes + frame.length ≤ s.config.flowHardCap := by
    by_cases admitted : s.flowAdmit fx frame = .reject
    · have nothing := bufferedBytes_of_isEmpty (storable.flowRoom admitted)
      rw [nothing, Nat.zero_add] at counted ⊢
      exact le_hardCap storable.fits counted
    · exact le_hardCap_of_admit storable.fits frame.length_pos counted admitted
  have slots := storable.slots
  unfold ahead at nearer positive near
  simp only [admits, Bool.not_eq_true', Bool.or_eq_false_iff, decide_eq_false_iff_not]
  refine ⟨⟨⟨⟨⟨by omega, by omega⟩, ?_⟩, by omega⟩, by omega⟩, by omega⟩
  exact Bool.eq_false_iff.mpr fresh

open Session

namespace Session

/-- The branches of `packet_input_flow` that neither deliver nor hold a data frame
and keep its flow: no context is found or created; the session is past its hard cap
and no victim frees enough; the number is half the circle ahead, or behind the
expected one without having been delivered. -/
def dropsSilently (s : Session) (frame : Frame) : Bool :=
  !s.log.ended frame.connectionId &&
    match s.tryGetOrCreateFlow frame.connectionId with
    | none => true
    | some found =>
      if frame.seq = found.prime.flowRxNext then false
      else if before found.prime.flowRxNext frame.seq then
        s.stillCrowded frame || ahead found.prime.flowRxNext frame.seq = 2 ^ 31 ||
          sizeMax < found.prime.flowReorder.bufferedBytes + frame.length
      else frame.seq ∉ s.log.delivered frame.connectionId

/-- A silent drop, or a connection entered under an id whose tracker still holds
numbers of an earlier one. -/
def risksFalseAck (s : Session) : Op → Bool
  | .arrive frame _ _ =>
    if frame.cmd.isPerFlowData then s.dropsSilently frame
    else frame.cmd = .syn && s.canRegister frame.connectionId &&
      (s.ackTrackers.lookup frame.connectionId).isSome
  | .register cid => s.canRegister cid && (s.ackTrackers.lookup cid).isSome
  | _ => false

end Session

theorem Session.justified_of_verdict {frame : Frame}
    (kept : s.dropsSilently frame = false) (living : s.log.ended frame.connectionId = false) :
    match s.flowVerdict frame with
    | .unknown | .drop _ _ => False
    | .stale _ => frame.seq ∈ s.log.delivered frame.connectionId
    | .store fx _ => ahead fx.flowRxNext frame.seq ≠ 2 ^ 31 ∧
        fx.flowReorder.bufferedBytes + frame.length ≤ sizeMax
    | .inOrder _ | .invalid _ | .reset _ _ => True := by
  unfold flowVerdict
  simp only [dropsSilently, living, Bool.not_false, Bool.true_and] at kept
  cases gotten : s.tryGetOrCreateFlow frame.connectionId with
  | none => simp [gotten] at kept
  | some found =>
    simp only [gotten] at kept ⊢
    split_ifs at kept ⊢
    · trivial
    · simp only [Bool.or_eq_false_iff, decide_eq_false_iff_not, Nat.not_lt] at kept
      simp only [futureVerdict, kept.1.1, Bool.false_eq_true, if_false]
      split_ifs <;> first | trivial | exact ⟨kept.1.2, kept.2⟩
    · simpa using kept

variable {s : Session} {frame : Frame} {after : RecvSide}

theorem DataEffect.progress (effect : DataEffect s frame after) (flow : FlowSession s) :
    Progress (s.recvSide.settle frame) after := by
  have v2 := flow.v2
  cases effect with
  | unknown => exact .refl _
  | kept found moved => exact (Progress.keep found).trans (Progress.moves moved)
  | delivered verdict found replayed left =>
    rcases left with rfl | ⟨_, rfl⟩
    · exact .deliver found replayed
    · exact (Progress.deliver found replayed).release v2 _
  | @stored fx held middle found moved spared inserted primed next =>
    refine ((Progress.keep found).trans (Progress.moves moved)).trans
      (Progress.exchange [] rfl rfl ?_ rfl rfl rfl rfl ?_)
    · simp [RecvSide.hold, RecvSide.keep]
    · rintro seq ⟨other, stored, holds⟩
      obtain rfl : fx = other := some.inj (spared.symm.trans stored)
      exact .inr ((holds_tryInsert inserted seq).mpr (Or.inr holds))

theorem DataArrival.decided
    (effect : DataArrival (s.recvSide.settle frame) frame (s.flowVerdict frame) after)
    (flow : FlowSession s) (alive : s.disposed = false) (closing : s.recvSide.Closing)
    (kept : s.dropsSilently frame = false) : after.Justified frame.connectionId frame.seq := by
  have progress := (effect.summary flow.v2 flow.sound).progress flow
  have v2 := flow.v2
  cases living : s.log.ended frame.connectionId with
  | true => exact progress.justified _ _ (Or.inr (Or.inr living))
  | false =>
    have meaning := justified_of_verdict kept living
    generalize verdict : s.flowVerdict frame = decided at effect meaning
    cases effect with
    | unknown | drop fx victim => exact meaning.elim
    | stale fx => exact progress.justified _ _ (Or.inl meaning)
    | inOrder fx now =>
      refine .inl ?_
      simp [RecvSide.deliver, FlowRx.advance]
    | released fx now drained =>
      refine Or.inl ?_
      simp [RecvSide.release, RecvSide.deliver, FlowRx.advance]
    | invalid fx after moved closed =>
      rw [closed (closing.requested.trans alive) alive]
      exact .inr (Or.inr rfl)
    | reset fx victim => exact .inr (Or.inr (update_self ..))
    | refused fx victim refusal =>
      have held := (storable_of_verdict verdict).holds_of_refused refusal meaning.1 meaning.2
      have stored : ((s.recvSide.settle frame).keep frame.connectionId fx).Holds
          frame.connectionId frame.seq := ⟨fx, lookup_insert _, held⟩
      have spared := (Progress.refl
        ((s.recvSide.settle frame).keep frame.connectionId fx)).evict v2 victim
      exact spared.justified _ _ (Or.inr (Or.inl stored))
    | stored fx after victim inserted primed next =>
      have held := (holds_tryInsert inserted frame.seq).mpr (Or.inl rfl)
      exact .inr (Or.inl ⟨after, lookup_insert _, held⟩)

theorem Session.ackTrackers_noteAckPending (s : Session) (v2 : s.isFlowV2)
    (cid : ConnectionId) (seq : SeqNumber) (now : Nat) :
    (s.noteAckPending cid seq now).ackTrackers = s.ackTrackers ∨
      (s.noteAckPending cid seq now).ackTrackers =
        s.ackTrackers.insert cid ((s.ackTracker cid).add seq ackMaxRanges) := by
  have key : s.ackKey cid = cid := if_pos v2
  rw [noteAckPending, key]
  split
  · exact .inl rfl
  · exact .inr rfl

/-- Every acknowledged number is justified or belongs to a frame being decided
on. -/
structure AckSound (side : RecvSide) : Prop where
  covered : ∀ cid seq, side.Acknowledges cid seq → (cid, seq) ∈ side.noted ∨ side.Justified cid seq
  closing : side.Closing

namespace AckSound

variable {side after : RecvSide}

theorem progress (sound : AckSound side) (made : Progress side after) : AckSound after where
  covered cid seq acked := by
    rw [made.noted]
    exact (sound.covered cid seq (made.acks cid seq acked)).imp_right (made.justified cid seq)
  closing := made.closing sound.closing

theorem settle (sound : AckSound side) {frame : Frame} (made : Progress (side.settle frame) after)
    (decided : frame.cmd.isPerFlowData → after.Justified frame.connectionId frame.seq) :
    AckSound after where
  covered cid seq acked := by
    rw [made.noted]
    rcases sound.covered cid seq (made.acks cid seq acked) with pending | holds
    · by_cases own : frame.cmd.isPerFlowData ∧ (cid, seq) = (frame.connectionId, frame.seq)
      · obtain ⟨isData, same⟩ := own
        obtain ⟨rfl, rfl⟩ := Prod.mk.inj same
        exact .inr (decided isData)
      · left
        simp only [RecvSide.settle]
        split_ifs with isData
        · exact (mem_erase_of_ne fun same => own ⟨isData, same⟩).mpr pending
        · exact pending
    · exact .inr (made.justified cid seq holds)
  closing := made.closing ⟨sound.closing.requested, sound.closing.endsAll⟩

theorem enter (sound : AckSound side) (alive : side.disposed = false)
    (untracked : side.ackTrackers.lookup cid = none) : AckSound (side.enter cid) where
  covered other seq acked := by
    have apart : other ≠ cid := by
      rintro rfl
      change ((side.ackTrackers.lookup other).getD empty).Covers seq at acked
      rw [untracked] at acked
      exact not_covers_empty seq acked
    have same : (side.enter cid).Justified other seq = side.Justified other seq := by
      simp only [RecvSide.Justified, RecvSide.Holds, RecvSide.enter, update_of_ne apart]
    rw [same]
    exact sound.covered other seq acked
  closing := ⟨sound.closing.requested, fun gone => by
    have disposed : side.disposed := gone
    simp [alive] at disposed⟩

theorem note (flow : FlowSession s) (sound : AckSound s.recvSide)
    (cid : ConnectionId) (seq : SeqNumber) (now : Nat) :
    AckSound (s.recvSide.note cid seq (s.noteAckPending cid seq now).ackTrackers) where
  covered other value acked := by
    have grown : s.recvSide.Acknowledges other value ∨ other = cid ∧ value = seq := by
      rw [RecvSide.Acknowledges, RecvSide.note] at acked
      rcases s.ackTrackers_noteAckPending flow.v2 cid seq now with same | inserted
      · rw [same] at acked
        exact .inl acked
      · rw [inserted] at acked
        by_cases same : other = cid
        · subst same
          rw [lookup_insert, getD_some] at acked
          exact (covers_add acked).imp_right fun new => ⟨rfl, new⟩
        · rw [lookup_insert_ne same] at acked
          exact .inl acked
    rcases grown with before | ⟨rfl, rfl⟩
    · exact (sound.covered other value before).imp_left (mem_cons_of_mem _)
    · exact .inl mem_cons_self
  closing := ⟨sound.closing.requested, sound.closing.endsAll⟩

end AckSound

theorem RecvStep.ackSound {op : Op} {after : RecvSide} (step : RecvStep s op after)
    (flow : FlowSession s) (guard : s.risksFalseAck op = false) (sound : AckSound s.recvSide) :
    AckSound after := by
  have alive : ∀ cid, s.canRegister cid → s.disposed = false := by
    intro cid free
    simp only [canRegister, Bool.and_eq_true, Bool.not_eq_true'] at free
    exact free.1.1
  cases step with
  | moves op made => exact sound.progress (Progress.moves made)
  | settled frame link now quiet made =>
    refine sound.settle (Progress.moves made) fun isData => ?_
    rcases quiet with gone | control
    · exact (Progress.moves made).justified _ _ (Or.inr (Or.inr (sound.closing.endsAll gone _)))
    · simp [isData] at control
  | register cid free =>
    have untracked : s.ackTrackers.lookup cid = none := by
      simpa [risksFalseAck, free] using guard
    exact sound.enter (alive cid free) untracked
  | syn frame link now isSyn free =>
    have settled := sound.settle (Progress.refl (s.recvSide.settle frame))
      (fun isData => by simp [isSyn, Cmd.isPerFlowData] at isData)
    have untracked : s.ackTrackers.lookup frame.connectionId = none := by
      simpa [risksFalseAck, isSyn, Cmd.isPerFlowData, free] using guard
    exact settled.enter (alive _ free) untracked
  | note cid seq now => exact .note flow sound cid seq now
  | leave cid owned => exact sound.progress ((Progress.refl s.recvSide).leave flow.v2 cid)
  | data frame link now _ living isData effect =>
    refine sound.settle ((effect.summary flow.v2 flow.sound).progress flow) fun _ => ?_
    refine effect.decided flow living sound.closing ?_
    simpa [risksFalseAck, isData] using guard
  | compat frame link now compat => simp [flow.v2] at compat

namespace Session

def holdsFrame (s : Session) (cid : ConnectionId) (seq : SeqNumber) : Bool :=
  (s.flows.lookup cid).any fun fx => (fx.flowReorder.packets.lookup seq).isSome

theorem holdsFrame_of_holds (held : s.recvSide.Holds cid seq) : s.holdsFrame cid seq := by
  obtain ⟨fx, stored, holds⟩ := held
  have found : s.flows.lookup cid = some fx := stored
  rw [holdsFrame, found]
  exact holds

theorem covers_of_ackBlocks {ackBlock : AckBlock} {range : AckRange} (sent : ackBlock ∈ s.ackBlocks)
    (listed : range ∈ ackBlock.ranges) (inside : range.Contains seq) : (s.ackTracker ackBlock.connectionId).Covers seq := by
  obtain ⟨entry, chosen, rfl⟩ := mem_map.mp sent
  have stored := mem_of_mem_filter (mem_of_mem_take chosen)
  rw [ackTracker, mem_lookup_iff.mpr stored]
  exact ⟨range, listed, inside⟩

/-- Along a flow v2 run in which no frame of a living flow is dropped silently and
no connection is entered over an old tracker, whatever a tracker covers or an ACK
frame lists was delivered, is held or belongs to a flow that ended, once the frame
has been decided on. -/
theorem ack_sound (config : Config) (mode : MuxMode) (txSeq rxAck : SeqNumber)
    (v2 : config.isFlowV2 = true) (ops : List Op)
    (guarded : Guarded step (fun s op => s.risksFalseAck op = false)
      (initial config mode txSeq rxAck) ops) (cid : ConnectionId) (seq : SeqNumber)
    (acked : ((run step (initial config mode txSeq rxAck) ops).ackTracker cid).Covers seq ∨
      ∃ ackBlock ∈ (run step (initial config mode txSeq rxAck) ops).ackBlocks,
        ackBlock.connectionId = cid ∧ ∃ range ∈ ackBlock.ranges, range.Contains seq)
    (decided : (cid, seq) ∉ (run step (initial config mode txSeq rxAck) ops).log.noted) :
    seq ∈ (run step (initial config mode txSeq rxAck) ops).log.delivered cid ∨
      (run step (initial config mode txSeq rxAck) ops).holdsFrame cid seq = true ∨
        (run step (initial config mode txSeq rxAck) ops).log.ended cid = true := by
  have start : AckSound (initial config mode txSeq rxAck).recvSide :=
    { covered := fun _ seq covered => absurd covered (not_covers_empty seq)
      closing := ⟨rfl, fun gone => by simp [recvSide, initial] at gone⟩ }
  have invariant := guarded_invariant
    (fun (s : Session) op allowed (holds : FlowSession s ∧ AckSound s.recvSide) =>
      And.intro (holds.1.step op) ((s.recvStep op).ackSound holds.1 allowed holds.2))
    guarded ⟨flowSession_initial v2 mode txSeq rxAck, start⟩
  generalize run step (initial config mode txSeq rxAck) ops = s at acked decided invariant ⊢
  have covered : (s.ackTracker cid).Covers seq := by
    rcases acked with covered | ⟨ackBlock, sent, rfl, range, listed, inside⟩
    · exact covered
    · exact covers_of_ackBlocks sent listed inside
  rcases invariant.2.covered cid seq covered with pending | delivered | held | ended
  · exact absurd pending decided
  · exact .inl delivered
  · exact .inr (Or.inl (holdsFrame_of_holds held))
  · exact .inr (Or.inr ended)

/-- A number behind a gap is acknowledged while its frame is held. -/
theorem ack_sound_held : 2 ∈ (run step (initial (Config.defaults .flowV2) .flow 0 0)
        [.register 1, .noteAck 1 2 5, .arrive (Frame.push 1 2 [7]) none 5]).log.delivered 1 ∨
      (run step (initial (Config.defaults .flowV2) .flow 0 0)
        [.register 1, .noteAck 1 2 5, .arrive (Frame.push 1 2 [7]) none 5]).holdsFrame 1 2 = true ∨
        (run step (initial (Config.defaults .flowV2) .flow 0 0)
          [.register 1, .noteAck 1 2 5, .arrive (Frame.push 1 2 [7]) none 5]).log.ended 1 = true :=
  ack_sound _ _ _ _ (by decide) _ (by decide +kernel) 1 2 (Or.inl (by decide +kernel))
    (by decide +kernel)

/-- A session that may buffer sixty bytes holds two frames of twenty-five for
connections 1 and 2. A frame of forty for connection 3 does not fit even after
connection 1 is reset for it: it is dropped, connection 3 lives on, and its tracker
has the number. -/
theorem ack_of_dropped_frame :
    let s := run step
      (initial { Config.defaults .flowV2 with sessionReorderCapBytes := 30 } .flow 0 0)
      [.register 1, .register 2, .register 3,
        .noteAck 1 2 5, .arrive (Frame.push 1 2 (replicate 16 0)) none 5,
        .noteAck 2 2 6, .arrive (Frame.push 2 2 (replicate 16 0)) none 6,
        .noteAck 3 2 7, .arrive (Frame.push 3 2 (replicate 31 0)) none 7]
    (s.ackTracker 3).Covers 2 ∧ s.log.noted = [] ∧ s.disposed = false ∧
      s.hasConnection 3 = true ∧ 2 ∉ s.log.delivered 3 ∧ s.holdsFrame 3 2 = false ∧
        s.log.ended 3 = false := by
  decide +kernel

end Session

end OpenPpp2.Mux
