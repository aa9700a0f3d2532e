import OpenPpp2.Mux.Departure

/-!
# Which parity groups the peer accepts

The encoder folds every sent data frame into the current group, and only the maintenance tick emits
it; the peer refuses a group of more than four times the agreed size.
-/

namespace OpenPpp2.Mux

open Lib.Run Mux.FecCodec Prod

namespace Session

def SparesEncoder (s after : Session) : Prop :=
  after.fecSide = s.fecSide ∨
    ∃ now, after.fecSide = { s.fecSide with fecEncoder := Encoder.reset now }

theorem SparesEncoder.trans {s middle after : Session} (first : SparesEncoder s middle)
    (second : SparesEncoder middle after) : SparesEncoder s after := by
  rcases second with same | ⟨now, reset⟩
  · unfold SparesEncoder
    rw [same]
    exact first
  · right
    refine ⟨now, reset.trans ?_⟩
    rcases first with same | ⟨earlier, cleared⟩
    · rw [same]
    · rw [cleared]

variable (s : Session) (cid : ConnectionId) (fx : FlowRx) (frame : Frame) (link : Option CarrierKey)
    (now : Nat)

theorem sparesEncoder_closeExec : SparesEncoder s (s.closeExec now) := by
  unfold closeExec finalize beginClose
  split_ifs
  · exact .inl rfl
  · exact .inl rfl
  · exact .inr ⟨now, rfl⟩

theorem sparesEncoder_of_effect {cid : ConnectionId} {s after : Session}
    (effect : SparesOrFails cid s after) : SparesEncoder s after := by
  left
  rcases effect with spared | ⟨-, failed⟩
  · exact congrArg snd spared
  · exact congrArg snd failed

theorem TxEffect.sparesEncoder {s after : Session} (effect : TxEffect s after) :
    SparesEncoder s after := by
  cases effect with
  | kept cid effect => exact sparesEncoder_of_effect effect
  | closes cid now effect =>
    exact (sparesEncoder_of_effect effect).trans (sparesEncoder_closeExec _ now)

theorem fecSide_evictVictim (victim : ConnectionId) :
    (s.evictVictim victim).fecSide = s.fecSide := by
  unfold evictVictim
  split_ifs
  · rfl
  · exact s.fecSide_failFlow victim

theorem fecSide_maybeReleaseFlow : (s.maybeReleaseFlow cid fx).fecSide = s.fecSide := by
  by_cases done : (fx.finSeen && fx.flowReorder.isEmpty)
  · rw [maybeReleaseFlow, if_pos done]
    rfl
  · rw [maybeReleaseFlow, if_neg done]

theorem fecSide_register : (s.register cid).fecSide = s.fecSide := by
  unfold register
  split_ifs <;> rfl

theorem fecSide_packetInput : (s.packetInput frame now).fecSide = s.fecSide := by
  unfold packetInput
  cases frame.cmd with
  | syn => exact s.fecSide_register frame.connectionId
  | synOk => cases frame.payload <;> rfl
  | muxModeSet =>
    simp only [packetInputMuxModeSet]
    split
    · split_ifs <;> rfl
    · rfl
  | acceleration | push | fin | keepAlived | ack | fec => rfl

theorem fecSide_linklayerUpdate : (s.linklayerUpdate link now).fecSide = s.fecSide :=
  congrArg snd (s.offRx_linklayerUpdate link now)

theorem fecSide_acceptInOrder : (s.acceptInOrder fx frame now).fecSide = s.fecSide :=
  fecSide_maybeReleaseFlow _ _ _

theorem fecSide_dispatchInOrder : (s.dispatchInOrder frame now).fecSide = s.fecSide := by
  have folded : ∀ (frames : List Frame) (state : Session),
      (frames.foldl (fun state frame => state.packetInput frame now) state).fecSide =
        state.fecSide := by
    intro frames
    induction frames with
    | nil => exact fun _ => rfl
    | cons first rest ih => exact fun state => (ih _).trans (state.fecSide_packetInput first now)
  exact folded (frame :: (replay (s.rxAck + 1) s.rxQueue).1) _

theorem fecSide_packetInputFlowData : (s.packetInputFlowData frame link now).1.fecSide = s.fecSide
    := by
  have buffered : ∀ (state : Session) (fx : FlowRx) (pressed paused : Bool),
      (state.bufferFrame fx frame pressed paused link now).fecSide = state.fecSide :=
    fun state fx pressed paused =>
      congrArg snd (state.offRx_bufferFrame fx frame pressed paused link now)
  cases verdict : s.flowVerdict frame <;>
    simp only [packetInputFlowData, verdict, fecSide_linklayerUpdate, fecSide_acceptInOrder,
      fecSide_failFlow, fecSide_evictVictim, buffered] <;> rfl

theorem sparesEncoder_packetInputUnorder : SparesEncoder s (s.packetInputUnorder frame link now).1
    := by
  unfold packetInputUnorder bufferUnorder
  split_ifs
  · exact .inl rfl
  · exact .inl (s.fecSide_linklayerUpdate link now)
  · exact .inl ((fecSide_linklayerUpdate _ link now).trans (s.fecSide_dispatchInOrder frame now))
  · exact .inl rfl
  · exact (s.sparesEncoder_closeExec now).trans (.inl (fecSide_linklayerUpdate _ link now))
  · exact .inl ((fecSide_linklayerUpdate _ link now).trans
      (congrArg snd (s.offRx_queueUnorder frame link now)))
  · exact .inl (s.fecSide_linklayerUpdate link now)
  · exact .inl rfl

theorem sparesEncoder_arrive : SparesEncoder s (s.arrive frame link now) := by
  have ordered : SparesEncoder s ((s.settleArrival frame).packetInputOrdered frame link now).1 := by
    unfold packetInputOrdered packetInputFlow
    split_ifs
    · exact .inl rfl
    · exact .inl ((s.settleArrival frame).fecSide_packetInputFlowData frame link now)
    · exact .inl ((fecSide_linklayerUpdate _ link now).trans
        ((s.settleArrival frame).fecSide_packetInput frame now))
    · exact (s.settleArrival frame).sparesEncoder_packetInputUnorder frame link now
  unfold arrive closeUnless
  split_ifs
  · exact ordered
  · exact ordered.trans (sparesEncoder_closeExec _ now)

def folds (s : Session) : Op → Option (Frame × Nat)
  | .fecNoteSent frame now =>
    if s.config.fec && frame.length ≤ fecMaxFrame && frame.cmd.isPerFlowData then
      some (frame, now)
    else none
  | _ => none

def foldedEncoder (s : Session) (frame : Frame) (now : Nat) : Encoder :=
  (if s.fecEncoder.count = 0 then Encoder.reset now else s.fecEncoder).add
    { connectionId := frame.connectionId, sequence := frame.seq } frame.bytes

inductive FecStep (s : Session) (op : Op) : Session → Prop
  | spared (after : Session) (spared : SparesEncoder s after) : FecStep s op after
  | folded (after : Session) (frame : Frame) (now : Nat) (folded : s.folds op = some (frame, now))
      (side : after.fecSide = { s.fecSide with fecEncoder := s.foldedEncoder frame now }) :
      FecStep s op after
  | emitted (after : Session) (payload : List UInt8)
      (built : s.fecEncoder.build s.fecEncoder.maxPayloadSize = some payload)
      (side : after.fecSide =
        { s.fecSide with fecEmitted := s.log.fecEmitted ++ [payload] }) : FecStep s op after

theorem fecStep_fecNoteSent : FecStep s (.fecNoteSent frame now) (s.fecNoteSent frame now) := by
  by_cases skipped :
      (!s.config.fec || frame.length > fecMaxFrame || !frame.cmd.isPerFlowData)
  · rw [fecNoteSent, if_pos skipped]
    exact .spared _ (.inl rfl)
  · rw [fecNoteSent, if_neg skipped]
    refine .folded _ frame now ?_ rfl
    simp only [Bool.or_eq_true, decide_eq_true_eq, not_or] at skipped
    obtain ⟨⟨on, small⟩, data⟩ := skipped
    simp only [folds, Bool.and_eq_true, decide_eq_true_eq]
    rw [if_pos ⟨⟨by simpa using on, by omega⟩, by simpa using data⟩]

theorem fecStep_fecEmit (answers : PostAnswers) :
    FecStep s (.fecEmit answers) (s.fecEmit answers).1 := by
  by_cases idle : (s.fecEncoder.count = 0 || !s.config.fec || !s.established)
  · simp only [fecEmit, if_pos idle]
    exact .spared _ (.inl rfl)
  · rcases built : s.fecEncoder.build s.fecEncoder.maxPayloadSize with _ | payload
    · simp only [fecEmit, if_neg idle, built]
      exact .spared _ (.inl rfl)
    · simp only [fecEmit, if_neg idle, built]
      refine .emitted _ payload built ?_
      have effect := postInternal_effect
        { s with
          fecFlushDue := false
          log := { s.log with fecEmitted := s.log.fecEmitted ++ [payload] } }
        { seq := 0, cmd := .fec, connectionId := 0, payload := payload } false false answers
      rcases effect with spared | ⟨-, failed⟩
      · exact congrArg snd spared
      · exact congrArg snd failed

theorem fecStep (op : Op) : FecStep s op (s.step op) := by
  by_cases plain : op.receives = false ∧ op.encodes = false
  · exact .spared _ (s.step_effect op plain.1 plain.2).sparesEncoder
  cases op with
  | fecNoteSent frame now => exact s.fecStep_fecNoteSent frame now
  | fecEmit answers => exact s.fecStep_fecEmit answers
  | fecReset now => exact .spared _ (.inr ⟨now, rfl⟩)
  | register cid => exact .spared _ (.inl (s.fecSide_register cid))
  | arrive frame link now => exact .spared _ (s.sparesEncoder_arrive frame link now)
  | noteAck | releaseConnection =>
    refine .spared _ (.inl ?_)
    simp only [step, noteArrival, noteAckPending, releaseConnection]
    split_ifs <;> rfl
  | _ => simp [Op.receives, Op.encodes] at plain

end Session

namespace FecCodec.Encoder

theorem count_add (encoder : Encoder) (id : FrameId) (frame : List UInt8) :
    (encoder.add id frame).count = encoder.count + 1 := by
  simp [add, count]

theorem le_length_parity_add (encoder : Encoder) (id : FrameId) (frame : List UInt8) :
    frame.length + 2 ≤ (encoder.add id frame).parity.length := by
  simp only [add, Lib.XorBlock.length_xorInto]
  split_ifs
  · simp
  · simp
  · omega

end FecCodec.Encoder

/-- The bound `packet_input_fec` puts on the frames of one group. -/
def Config.fecMaxCount (config : Config) : Nat := max 1 (config.fecGroupK * 4)

/-- The current group is one the peer accepts, and so was every group emitted. -/
structure UsableGroups (side : FecSide) : Prop where
  count : side.fecEncoder.count ≤ side.config.fecMaxCount
  parity : side.fecEncoder.count ≠ 0 → 3 ≤ side.fecEncoder.parity.length
  emitted : ∀ payload ∈ side.fecEmitted, ∃ view,
    parseMuxFecFrame payload (max 1 (side.config.fecGroupK * 4 : Int)) = some view

namespace UsableGroups

variable {side : FecSide}

theorem reset (usable : UsableGroups side) (now : Nat) :
    UsableGroups { side with fecEncoder := Encoder.reset now } where
  count := Nat.zero_le _
  parity some := absurd rfl some
  emitted := usable.emitted

variable {s : Session}

theorem fold (usable : UsableGroups s.fecSide) (frame : Frame) (now : Nat)
    (room : s.fecEncoder.count < s.config.fecMaxCount) :
    UsableGroups { s.fecSide with fecEncoder := s.foldedEncoder frame now } where
  count := by
    rw [Session.foldedEncoder, Encoder.count_add]
    split_ifs with empty
    · exact Nat.le_max_left 1 _
    · exact room
  parity _ := by
    have folded := Encoder.le_length_parity_add
      (if s.fecEncoder.count = 0 then Encoder.reset now else s.fecEncoder)
      { connectionId := frame.connectionId, sequence := frame.seq } frame.bytes
    have long : 9 ≤ frame.bytes.length := by
      rw [Frame.bytes_length, Frame.length, headerSize]
      omega
    change 3 ≤ (s.foldedEncoder frame now).parity.length
    rw [Session.foldedEncoder]
    omega
  emitted := usable.emitted

theorem emit (usable : UsableGroups s.fecSide) {payload : List UInt8}
    (built : s.fecEncoder.build s.fecEncoder.maxPayloadSize = some payload) :
    UsableGroups { s.fecSide with fecEmitted := s.log.fecEmitted ++ [payload] } where
  count := usable.count
  parity := usable.parity
  emitted := by
    intro other member
    rcases List.mem_append.mp member with earlier | last
    · exact usable.emitted other earlier
    · have nonempty : s.fecEncoder.count ≠ 0 := by
        intro empty
        have none := List.length_eq_zero_iff.mp empty
        simp [Encoder.build, none] at built
      have admitted : (s.fecEncoder.count : Int) ≤ max 1 (s.config.fecGroupK * 4 : Int) := by
        have bound : s.fecEncoder.count ≤ max 1 (s.config.fecGroupK * 4) := usable.count
        omega
      rw [List.mem_singleton.mp last]
      exact ⟨_, parse_build built admitted (usable.parity nonempty)⟩

end UsableGroups

namespace Session

/-- The step folds a frame into a group that has as many as the peer accepts. -/
def overfillsGroup (s : Session) (op : Op) : Bool :=
  (s.folds op).isSome && s.fecEncoder.count ≥ s.config.fecMaxCount

theorem usableGroups_step {s : Session} {op : Op} (guard : s.overfillsGroup op = false)
    (usable : UsableGroups s.fecSide) : UsableGroups (s.step op).fecSide := by
  cases s.fecStep op with
  | spared spared =>
    rcases spared with same | ⟨now, cleared⟩
    · rw [same]
      exact usable
    · rw [cleared]
      exact usable.reset now
  | folded frame now folded side =>
    rw [side]
    refine usable.fold frame now ?_
    simpa [overfillsGroup, folded] using guard
  | emitted payload built side =>
    rw [side]
    exact usable.emit built

/-- Along a run in which no frame is folded into a full group, a peer with the
same group size accepts every emitted payload. -/
theorem fec_groups_usable (config : Config) (mode : MuxMode) (txSeq rxAck : SeqNumber)
    (ops : List Op) (guarded : Guarded step (fun s op => s.overfillsGroup op = false)
      (initial config mode txSeq rxAck) ops) :
    ∀ payload ∈ (run step (initial config mode txSeq rxAck) ops).log.fecEmitted,
      ∃ view, parseMuxFecFrame payload (max 1 (config.fecGroupK * 4 : Int)) = some view := by
  have usable := guarded_invariant
    (fun (s : Session) op allowed
        (holds : s.config = config ∧ UsableGroups s.fecSide) =>
      And.intro ((s.config_step op).trans holds.1) (usableGroups_step allowed holds.2))
    guarded ⟨rfl, ⟨Nat.zero_le _, fun some => absurd rfl some, fun _ member => nomatch member⟩⟩
  obtain ⟨same, groups⟩ := usable
  intro payload member
  obtain ⟨view, parsed⟩ := groups.emitted payload member
  refine ⟨view, ?_⟩
  have agreed : (run step (initial config mode txSeq rxAck) ops).fecSide.config = config := same
  rwa [agreed] at parsed

def sendsPush (seq : SeqNumber) : List Op :=
  [.post (Frame.push 1 0 [6]) false false ⟨true, true⟩ 5, .sendData true,
    .trackSent (Frame.push 1 seq [6]) 5 1, .fecNoteSent (Frame.push 1 seq [6]) 5]

/-- Four frames at group size one, a tick, and one more frame: one group is sent. -/
theorem fec_groups_usable_four :
    let reached := run step
      (initial { Config.defaults .flowV2 with fec := true, fecGroupK := 1 } .flow 0 0)
      ([.register 1, .carrier 1 .attach, .carrier 1 (.handshake 1)] ++
        [1, 2, 3, 4].flatMap sendsPush ++ [.fecEmit ⟨true, true⟩, .fecReset 9] ++ sendsPush 5)
    reached.log.fecEmitted.length = 1 ∧ ∀ payload ∈ reached.log.fecEmitted,
      ∃ view, parseMuxFecFrame payload (max 1 ((1 : Nat) * 4 : Int)) = some view :=
  ⟨by decide +kernel,
    fec_groups_usable { Config.defaults .flowV2 with fec := true, fecGroupK := 1 } _ _ _ _
      (by decide +kernel)⟩

/-- Five frames between two ticks at group size one: the peer refuses the group. -/
theorem fec_group_refused_after_burst :
    ((run step (initial { Config.defaults .flowV2 with fec := true, fecGroupK := 1 } .flow 0 0)
        ([.register 1, .carrier 1 .attach, .carrier 1 (.handshake 1)] ++
          [1, 2, 3, 4, 5].flatMap sendsPush ++ [.fecEmit ⟨true, true⟩])).log.fecEmitted.map
      fun payload => parseMuxFecFrame payload (max 1 ((1 : Nat) * 4 : Int))) = [none] := by
  decide +kernel

end Session

end OpenPpp2.Mux
