import OpenPpp2.Mux.Arrival

/-!
# Receive contexts along a run

Every receive context belongs to a registered connection, is primed and holds its frames under their
own numbers.
-/

namespace OpenPpp2.Mux

open Lib.AssocTotal Lib.CircularOrder Option FlowRx

def FlowVerdict.context : FlowVerdict → Option FlowRx
  | .unknown => none
  | .stale fx | .inOrder fx | .invalid fx | .reset fx _ | .drop fx _ | .store fx _ => some fx

variable {cid : ConnectionId} {tracked exists_ : Bool} {count cap : Nat}

theorem admitFlowContext_tracked
    (admitted : admitFlowContext cid tracked exists_ count cap = .allowExisting) : tracked := by
  unfold admitFlowContext at admitted
  split_ifs at admitted with zero here
  exact here

theorem admitFlowContext_owned
    (admitted : admitFlowContext cid tracked exists_ count cap = .allowCreate) :
    tracked = false ∧ exists_ := by
  unfold admitFlowContext at admitted
  split_ifs at admitted with zero here unknown full
  exact ⟨by simpa using here, by simpa using unknown⟩

namespace Session

variable {s : Session} {fx : FlowRx} {frame : Frame} {victim : ConnectionId}

theorem tryGetOrCreateFlow_eq_some {cid : ConnectionId}
    (found : s.tryGetOrCreateFlow cid = some fx) : s.flows.lookup cid = some fx ∨
      s.flows.lookup cid = none ∧ fx = FlowRx.fresh ∧ s.hasConnection cid := by
  simp only [tryGetOrCreateFlow] at found
  split at found
  · rename_i admitted
    obtain ⟨held, context⟩ := isSome_iff_exists.mp (admitFlowContext_tracked admitted)
    exact .inl (by simpa [context] using found)
  · rename_i admitted
    obtain ⟨untracked, owned⟩ := admitFlowContext_owned admitted
    have missing : s.flows.lookup cid = none := by simpa using untracked
    rw [missing] at found
    exact .inr ⟨missing, (some.inj found).symm, owned⟩
  all_goals simp at found

theorem tryGetOrCreateFlow_zero (s : Session) : s.tryGetOrCreateFlow 0 = none := by
  simp [tryGetOrCreateFlow, admitFlowContext]

theorem context_futureVerdict (s : Session) (fx : FlowRx) (frame : Frame) :
    (s.futureVerdict fx frame).context = some fx := by
  simp only [futureVerdict]
  split_ifs <;> rfl

theorem context_flowVerdict (s : Session) (frame : Frame) :
    (s.flowVerdict frame).context = (s.tryGetOrCreateFlow frame.connectionId).map FlowRx.prime := by
  unfold flowVerdict
  cases s.tryGetOrCreateFlow frame.connectionId with
  | none => rfl
  | some found =>
    simp only [map_some]
    split_ifs
    · rfl
    · exact s.context_futureVerdict found.prime frame
    · rfl

def Buffering (s : Session) (cid : ConnectionId) : Prop :=
  cid = 0 ∨ ∃ fx, s.flows.lookup cid = some fx ∧ fx.flowReorder.isEmpty = false

theorem buffering_foldl_olderGap {entries : List (Sigma fun _ : ConnectionId => FlowRx)}
    {best : ConnectionId × Nat} (stored : ∀ entry ∈ entries, s.flows.lookup entry.1 = some entry.2)
    (start : s.Buffering best.1) : s.Buffering (entries.foldl olderGap best).1 := by
  induction entries generalizing best with
  | nil => exact start
  | cons entry rest ih =>
    refine ih (fun later member => stored later (List.mem_cons_of_mem _ member)) ?_
    unfold olderGap
    split_ifs with idle older
    · exact start
    · rw [Bool.or_eq_true, not_or] at idle
      exact .inr ⟨entry.2, stored entry List.mem_cons_self, by simpa using idle.1⟩
    · exact start

theorem buffering_oldestVictim (s : Session) : s.Buffering s.oldestVictim :=
  buffering_foldl_olderGap (fun _ member => AList.mem_lookup_iff.mpr member) (.inl rfl)

structure Storable (s : Session) (frame : Frame) (fx : FlowRx) (victim : ConnectionId) : Prop where
  context : (s.flowVerdict frame).context = some fx
  future : before fx.flowRxNext frame.seq
  fits : frame.length ≤ s.config.flowReorderCapBytes
  flowRoom : s.flowAdmit fx frame = .reject → fx.flowReorder.isEmpty
  sessionRoom : s.sessionAdmit frame = .reject → fx.flowReorder.isEmpty
  slots : fx.flowReorder.size < s.config.entryCap
  victim_eq : victim = s.victimFor frame

theorem storable_of_verdict
    (verdict : s.flowVerdict frame = .store fx victim) : s.Storable frame fx victim := by
  have context : (s.flowVerdict frame).context = some fx := by rw [verdict]; rfl
  have same := context
  rw [context_flowVerdict] at same
  obtain ⟨found, gotten, primed⟩ := map_eq_some_iff.mp same
  rw [flowVerdict, gotten] at verdict
  simp only [primed, futureVerdict] at verdict
  split_ifs at verdict with inOrder future sized large own crowded still full
  refine ⟨context, future, by omega, ?_, ?_, by omega, (FlowVerdict.store.inj verdict).2.symm⟩
  · intro reject
    simpa [reject] using own
  · intro reject
    simpa [reject] using crowded

theorem Storable.victim_ne (storable : s.Storable frame fx victim) (chosen : victim ≠ 0) :
    victim ≠ frame.connectionId := by
  intro own
  have same := storable.context
  rw [context_flowVerdict] at same
  obtain ⟨found, gotten, primed⟩ := map_eq_some_iff.mp same
  rw [storable.victim_eq, victimFor] at chosen own
  split_ifs at chosen own with reject
  · rcases s.buffering_oldestVictim with zero | ⟨held, lookup, busy⟩
    · exact chosen zero
    · rw [own] at lookup
      rcases tryGetOrCreateFlow_eq_some gotten with stored | ⟨missing, _⟩
      · obtain rfl := some.inj (lookup.symm.trans stored)
        have idle := storable.sessionRoom reject
        rw [← primed, prime_flowReorder, busy] at idle
        simp at idle
      · simp [missing] at lookup
  · exact chosen rfl

theorem seq_of_inOrder
    (verdict : s.flowVerdict frame = .inOrder fx) : frame.seq = fx.flowRxNext := by
  have same := s.context_flowVerdict frame
  rw [verdict] at same
  obtain ⟨found, gotten, primed⟩ := map_eq_some_iff.mp same.symm
  rw [flowVerdict, gotten] at verdict
  simp only [primed] at verdict
  by_cases inOrder : frame.seq = fx.flowRxNext
  · exact inOrder
  · rw [if_neg inOrder] at verdict
    split_ifs at verdict
    simp only [futureVerdict] at verdict
    split_ifs at verdict

end Session

def SoundContexts (side : RecvSide) : Prop :=
  ∀ cid fx, side.flows.lookup cid = some fx →
    side.present cid ∧ fx.primed ∧ fx.Stamped

/-- The context `fx` is the connection's, or the one just created for it. -/
structure Found (side : RecvSide) (cid : ConnectionId) (fx : FlowRx) : Prop where
  nonzero : cid ≠ 0
  present : side.present cid
  primed : fx.primed
  stamped : fx.Stamped
  origin : side.flows.lookup cid = some fx ∨ side.flows.lookup cid = none ∧ fx = FlowRx.fresh.prime

variable {side : RecvSide}

theorem Found.settle {fx : FlowRx}
    (found : Found side cid fx) (frame : Frame) : Found (side.settle frame) cid fx :=
  ⟨found.nonzero, found.present, found.primed, found.stamped, found.origin⟩

theorem Found.hasConnection {s : Session} {fx : FlowRx}
    (found : Found s.recvSide cid fx) : s.hasConnection cid := by
  rw [Session.hasConnection, Bool.and_eq_true, decide_eq_true_iff]
  exact ⟨found.nonzero, found.present⟩

namespace SoundContexts

variable {side : RecvSide}

variable {fx : FlowRx}

theorem found {s : Session} {frame : Frame} (sound : SoundContexts s.recvSide)
    (context : (s.flowVerdict frame).context = some fx) :
    Found s.recvSide frame.connectionId fx := by
  rw [Session.context_flowVerdict] at context
  obtain ⟨gotten, some_eq, rfl⟩ := map_eq_some_iff.mp context
  have nonzero : frame.connectionId ≠ 0 := by
    intro zero
    rw [zero, Session.tryGetOrCreateFlow_zero] at some_eq
    simp at some_eq
  rcases Session.tryGetOrCreateFlow_eq_some some_eq with stored | ⟨missing, rfl, owned⟩
  · obtain ⟨present, primed, stamped⟩ := sound _ _ stored
    rw [prime_of_primed primed]
    exact ⟨nonzero, present, primed, stamped, .inl stored⟩
  · rw [Session.hasConnection, Bool.and_eq_true] at owned
    exact ⟨nonzero, owned.2, prime_primed _,
      stamped_fresh.congr (prime_flowReorder _), .inr ⟨missing, rfl⟩⟩

theorem failFlow (sound : SoundContexts side) (cid : ConnectionId) :
    SoundContexts (side.failFlow cid) :=
  fun other fx found => sound other fx (lookup_erase_eq_some found).2

theorem release (sound : SoundContexts side) (cid : ConnectionId) :
    SoundContexts (side.release cid) :=
  fun other fx found => sound other fx (lookup_erase_eq_some found).2

theorem finalize (side : RecvSide) : SoundContexts side.finalize := by
  intro cid fx found
  simp [RecvSide.finalize] at found

theorem moves {after : RecvSide} (sound : SoundContexts side) (made : RecvMoves side after) :
    SoundContexts after :=
  made.keeps (fun _ cid _ kept => kept.failFlow cid) (fun _ _ kept => kept)
    (fun side _ => finalize side) sound

theorem enter (sound : SoundContexts side) (cid : ConnectionId) :
    SoundContexts (side.enter cid) := by
  intro other fx found
  obtain ⟨present, rest⟩ := sound other fx found
  refine ⟨?_, rest⟩
  by_cases same : other = cid
  · subst same
    exact Function.update_self ..
  · exact (Function.update_of_ne same ..).trans present

theorem leave (sound : SoundContexts side) (cid : ConnectionId) :
    SoundContexts (side.leave cid) := by
  intro other fx found
  obtain ⟨apart, stored⟩ := lookup_erase_eq_some found
  obtain ⟨present, rest⟩ := sound other fx stored
  exact ⟨(Function.update_of_ne apart ..).trans present, rest⟩

theorem keep (sound : SoundContexts side) {cid : ConnectionId} (present : side.present cid)
    (primed : fx.primed) (stamped : fx.Stamped) : SoundContexts (side.keep cid fx) := by
  intro other held found
  rcases lookup_insert_eq_some found with ⟨rfl, rfl⟩ | ⟨_, stored⟩
  · exact ⟨present, primed, stamped⟩
  · exact sound other held stored

end SoundContexts

theorem RecvSide.lookup_evict {victim : ConnectionId} (spared : victim ≠ 0 → victim ≠ cid) :
    (side.evict victim).flows.lookup cid = side.flows.lookup cid := by
  unfold evict
  split_ifs with zero
  · rfl
  · exact AList.lookup_erase_ne (spared zero).symm

variable {s : Session} {frame : Frame} {after : RecvSide}

/-- What a data frame does to the receive side, up to the moves that end other flows. -/
inductive DataEffect (s : Session) (frame : Frame) : RecvSide → Prop
  | unknown : DataEffect s frame (s.recvSide.settle frame)
  | kept {fx : FlowRx} {after : RecvSide}
      (found : Found (s.recvSide.settle frame) frame.connectionId fx)
      (moved : RecvMoves ((s.recvSide.settle frame).keep frame.connectionId fx) after) :
      DataEffect s frame after
  | delivered {fx later : FlowRx} {frames credited : List Frame} {after : RecvSide}
      (verdict : s.flowVerdict frame = .inOrder fx)
      (found : Found (s.recvSide.settle frame) frame.connectionId fx)
      (replayed : FlowRx.Replayed fx frames credited later)
      (left : after = (s.recvSide.settle frame).deliver frame.connectionId frames credited later ∨
        later.flowReorder.isEmpty ∧ after = ((s.recvSide.settle frame).deliver
          frame.connectionId frames credited later).release frame.connectionId) :
      DataEffect s frame after
  | stored {fx held : FlowRx} {middle : RecvSide}
      (found : Found (s.recvSide.settle frame) frame.connectionId fx)
      (moved : RecvMoves ((s.recvSide.settle frame).keep frame.connectionId fx) middle)
      (spared : middle.flows.lookup frame.connectionId = some fx)
      (inserted : fx.flowReorder.tryInsert frame.seq fx.flowRxNext frame frame.length
        s.config.flowHardCap s.config.entryCap = some held.flowReorder)
      (primed : held.primed = fx.primed) (next : held.flowRxNext = fx.flowRxNext) :
      DataEffect s frame (middle.hold frame.connectionId held frame.length)

theorem RecvSide.moves_evict (v2 : side.config.isFlowV2)
    (victim : ConnectionId) : RecvMoves side (side.evict victim) := by
  unfold evict
  split_ifs
  · exact .refl
  · exact .single (.fail victim v2)

theorem DataArrival.summary
    (effect : DataArrival (s.recvSide.settle frame) frame (s.flowVerdict frame) after)
    (v2 : s.isFlowV2) (sound : SoundContexts s.recvSide) : DataEffect s frame after := by
  have found : ∀ fx, (s.flowVerdict frame).context = some fx →
      Found (s.recvSide.settle frame) frame.connectionId fx := fun fx context =>
    (sound.found context).settle frame
  have evicts := fun fx =>
    @RecvSide.moves_evict ((s.recvSide.settle frame).keep frame.connectionId fx) v2
  have replayed := fun fx now (verdict : s.flowVerdict frame = .inOrder fx) =>
    replayed_advance now (found fx (verdict ▸ rfl)).stamped (Session.seq_of_inOrder verdict)
  generalize verdict : s.flowVerdict frame = decided at effect found replayed
  cases effect with
  | unknown => exact .unknown
  | stale fx => exact .kept (found fx rfl) .refl
  | inOrder fx now => exact .delivered verdict (found fx rfl) (replayed fx now rfl) (.inl rfl)
  | released fx now drained =>
    exact .delivered verdict (found fx rfl) (replayed fx now rfl) (.inr ⟨drained, rfl⟩)
  | invalid fx after moved closed => exact .kept (found fx rfl) moved
  | reset fx victim =>
    refine .kept (found fx rfl) ((evicts fx victim).tail (.fail _ ?_))
    rw [RecvSide.config_evict]
    exact v2
  | drop fx victim | refused fx victim => exact .kept (found fx rfl) (evicts fx victim)
  | stored fx held victim inserted primed next =>
    refine .stored (found fx rfl) (evicts fx victim) ?_ inserted primed next
    rw [RecvSide.lookup_evict (Session.storable_of_verdict verdict).victim_ne]
    exact AList.lookup_insert _

theorem DataEffect.soundContexts (effect : DataEffect s frame after)
    (sound : SoundContexts s.recvSide) : SoundContexts after := by
  have settled : SoundContexts (s.recvSide.settle frame) := sound
  have kept := fun {fx} (found : Found (s.recvSide.settle frame) frame.connectionId fx) =>
    settled.keep found.present found.primed found.stamped
  cases effect with
  | unknown => exact settled
  | kept found moved => exact (kept found).moves moved
  | delivered verdict found replayed left =>
    have delivered := settled.keep found.present (replayed.primed.trans found.primed)
      replayed.stamped
    rcases left with rfl | ⟨_, rfl⟩
    · exact delivered
    · exact delivered.release _
  | stored found moved spared inserted primed next =>
    have middle := (kept found).moves moved
    exact middle.keep (middle _ _ spared).1 (primed.trans found.primed)
      (found.stamped.tryInsert inserted)

theorem CompatArrival.soundContexts (effect : CompatArrival side frame after)
    (sound : SoundContexts side) : SoundContexts after := by
  cases effect with
  | settled | buffered => exact sound
  | closed after moves => exact sound.moves moves
  | dispatched sequenced inOrder entered =>
    have start : SoundContexts (side.dispatch frame) := sound
    generalize side.dispatch frame = dispatched at start
    induction entered generalizing dispatched with
    | nil => exact start
    | cons cid rest ih => exact ih _ (start.enter cid)

theorem RecvStep.soundContexts {op : Op}
    (step : RecvStep s op after) (sound : SoundContexts s.recvSide) : SoundContexts after := by
  cases step with
  | moves op made => exact sound.moves made
  | settled frame link now quiet made =>
    have settled : SoundContexts (s.recvSide.settle frame) := sound
    exact settled.moves made
  | register cid free => exact sound.enter cid
  | syn frame link now isSyn free =>
    have settled := sound
    exact settled.enter frame.connectionId
  | note cid seq now => exact sound
  | leave cid owned => exact sound.leave cid
  | data frame link now v2 alive isData effect =>
    exact (effect.summary v2 sound).soundContexts sound
  | compat frame link now compat alive effect =>
    have settled := sound
    exact effect.soundContexts settled

structure FlowSession (s : Session) : Prop where
  v2 : s.isFlowV2
  sound : SoundContexts s.recvSide

theorem FlowSession.step (flow : FlowSession s) (op : Op) : FlowSession (s.step op) where
  v2 := (s.isFlowV2_step op).trans flow.v2
  sound := (s.recvStep op).soundContexts flow.sound

theorem soundContexts_initial (config : Config) (mode : MuxMode) (txSeq rxAck : SeqNumber) :
    SoundContexts (Session.initial config mode txSeq rxAck).recvSide := by
  intro cid fx found
  simp [Session.recvSide, Session.initial] at found

theorem flowSession_initial {config : Config} (v2 : config.isFlowV2) (mode : MuxMode)
    (txSeq rxAck : SeqNumber) : FlowSession (Session.initial config mode txSeq rxAck) where
  v2 := v2
  sound := soundContexts_initial config mode txSeq rxAck

open Lib.Run RecvSide Function AList

/-- The number a connection's context waits for; a new one waits for one. -/
def RecvSide.expected (side : RecvSide) (cid : ConnectionId) : SeqNumber :=
  ((side.flows.lookup cid).map FlowRx.flowRxNext).getD 1

variable {fx : FlowRx} {cid : ConnectionId} {delivered : List SeqNumber} {ended : Bool}

variable {side : RecvSide}

theorem RecvSide.expected_of_lookup
    (stored : side.flows.lookup cid = some fx) : side.expected cid = fx.flowRxNext := by
  rw [expected, stored]
  rfl

theorem RecvSide.expected_of_absent
    (missing : side.flows.lookup cid = none) : side.expected cid = 1 := by
  rw [expected, missing]
  rfl

theorem Found.expected (found : Found side cid fx) : side.expected cid = fx.flowRxNext := by
  rcases found.origin with stored | ⟨missing, rfl⟩
  · exact expected_of_lookup stored
  · rw [expected_of_absent missing]
    rfl

/-- The delivered numbers are consecutive from one, and `expected` continues them
unless the flow ended and would start over. -/
def Continues (delivered : List SeqNumber) (ended : Bool) (expected : SeqNumber) : Prop :=
  ∃ count, delivered = consecutive 1 count ∧
    (expected = 1 + BitVec.ofNat 32 count ∨ ended ∧ expected = 1)

theorem continues_nil (ended : Bool) : Continues [] ended 1 := ⟨0, rfl, .inl rfl⟩

variable {expected : SeqNumber}

theorem Continues.restart
    (holds : Continues delivered ended expected) : Continues delivered true 1 := by
  obtain ⟨count, numbers, _⟩ := holds
  exact ⟨count, numbers, .inr ⟨rfl, rfl⟩⟩

theorem Continues.append (holds : Continues delivered ended expected)
    (guard : ended → delivered ≠ [] → expected ≠ 1) (count : Nat) :
    Continues (delivered ++ consecutive expected count) ended
      (expected + BitVec.ofNat 32 count) := by
  obtain ⟨sofar, numbers, next⟩ := holds
  have continued : expected = 1 + BitVec.ofNat 32 sofar := by
    rcases next with continued | ⟨isEnded, atOne⟩
    · exact continued
    · have nothing : delivered = [] := by
        by_contra something
        exact guard isEnded something atOne
      have zero : sofar = 0 := by
        rw [← length_consecutive (1 : SeqNumber) sofar, ← numbers, nothing]
        rfl
      rw [atOne, zero]
      rfl
  refine ⟨sofar + count, ?_, .inl ?_⟩
  · rw [numbers, continued, consecutive_append]
  · rw [continued, BitVec.ofNat_add, BitVec.add_assoc]

def InSequence (side : RecvSide) : Prop :=
  ∀ cid, Continues (side.delivered cid) (side.ended cid) (side.expected cid)

namespace InSequence

variable {side : RecvSide}

variable {after : RecvSide}

section

variable (holds : InSequence side)
include holds

theorem change (cid : ConnectionId)
    (elsewhere : ∀ other, other ≠ cid → after.delivered other = side.delivered other ∧
      after.ended other = side.ended other ∧ after.flows.lookup other = side.flows.lookup other)
    (here : Continues (after.delivered cid) (after.ended cid) (after.expected cid)) :
    InSequence after := by
  intro other
  by_cases same : other = cid
  · exact same ▸ here
  · obtain ⟨delivered, ended, lookup⟩ := elsewhere other same
    rw [delivered, ended, expected, lookup]
    exact holds other

theorem startOver (cid : ConnectionId) (delivered : after.delivered = side.delivered)
    (flows : after.flows = side.flows.erase cid)
    (ended : after.ended = Function.update side.ended cid true) : InSequence after := by
  refine holds.change cid ?_ ?_
  · intro other apart
    rw [delivered, flows, ended]
    exact ⟨rfl, update_of_ne apart .., lookup_erase_ne apart⟩
  · have absent : after.flows.lookup cid = none := by rw [flows, lookup_erase]
    rw [delivered, ended, update_self, expected_of_absent absent]
    exact (holds cid).restart

theorem failFlow (cid : ConnectionId) : InSequence (side.failFlow cid) :=
  holds.startOver cid rfl rfl rfl

theorem finalize : InSequence side.finalize := fun cid => (holds cid).restart

theorem moves (made : RecvMoves side after) : InSequence after :=
  made.keeps (fun _ cid _ kept => kept.failFlow cid) (fun _ _ kept => kept)
    (fun _ kept => kept.finalize) holds

variable {cid : ConnectionId}

theorem enter (absent : side.flows.lookup cid = none) : InSequence (side.enter cid) := by
  refine holds.change cid ?_ ?_
  · intro other apart
    exact ⟨update_of_ne apart .., update_of_ne apart .., rfl⟩
  · have delivered : (side.enter cid).delivered cid = [] := update_self ..
    have missing : (side.enter cid).flows.lookup cid = none := absent
    rw [delivered, expected_of_absent missing]
    exact continues_nil _

theorem keep {fx : FlowRx} (next : Continues (side.delivered cid) (side.ended cid) fx.flowRxNext) :
    InSequence (side.keep cid fx) := by
  refine holds.change cid ?_ ?_
  · intro other apart
    exact ⟨rfl, rfl, lookup_insert_ne apart⟩
  · rw [expected_of_lookup (lookup_insert side.flows)]
    exact next

theorem deliver {fx after : FlowRx} {frames credited : List Frame} (found : Found side cid fx)
    (replayed : FlowRx.Replayed fx frames credited after)
    (guard : side.ended cid → side.delivered cid ≠ [] → fx.flowRxNext ≠ 1) :
    InSequence (side.deliver cid frames credited after) := by
  refine holds.change cid ?_ ?_
  · intro other apart
    exact ⟨update_of_ne apart .., rfl, lookup_insert_ne apart⟩
  · have stored : (side.deliver cid frames credited after).flows.lookup cid = some after :=
      lookup_insert side.flows
    have delivered : (side.deliver cid frames credited after).delivered cid =
        side.delivered cid ++ frames.map Frame.seq := update_self ..
    have sofar := holds cid
    rw [found.expected] at sofar
    rw [expected_of_lookup stored, delivered, replayed.numbers, replayed.next]
    exact sofar.append guard _

end

end InSequence

/-- A frame numbered one reaches a registered connection whose flow ended after
delivering something. -/
def Session.restartsFlow (s : Session) : Op → Bool
  | .arrive frame _ _ =>
    frame.cmd.isPerFlowData && s.hasConnection frame.connectionId &&
      s.log.ended frame.connectionId && s.log.delivered frame.connectionId ≠ [] && frame.seq = 1
  | _ => false

theorem DataEffect.inSequence {s : Session} {frame : Frame} {after : RecvSide}
    (effect : DataEffect s frame after) (holds : InSequence s.recvSide)
    (guard : ∀ fx, s.flowVerdict frame = .inOrder fx →
      s.log.ended frame.connectionId → s.log.delivered frame.connectionId ≠ [] → frame.seq ≠ 1) :
    InSequence after := by
  have settled : InSequence (s.recvSide.settle frame) := holds
  have kept := fun {fx} (found : Found (s.recvSide.settle frame) frame.connectionId fx) =>
    settled.keep (found.expected ▸ settled frame.connectionId)
  cases effect with
  | unknown => exact settled
  | kept found moved => exact (kept found).moves moved
  | delivered verdict found replayed left =>
    have delivered := settled.deliver found replayed
      (Session.seq_of_inOrder verdict ▸ guard _ verdict)
    rcases left with rfl | ⟨_, rfl⟩
    · exact delivered
    · exact delivered.startOver frame.connectionId rfl rfl rfl
  | stored found moved spared inserted primed next =>
    have middle := (kept found).moves moved
    refine middle.keep ?_
    rw [next, ← expected_of_lookup spared]
    exact middle frame.connectionId

theorem RecvStep.inSequence {s : Session} {op : Op} {after : RecvSide}
    (step : RecvStep s op after) (flow : FlowSession s) (guard : s.restartsFlow op = false)
    (holds : InSequence s.recvSide) : InSequence after := by
  -- a connection that can be entered is not present, so it has no context
  have absent : ∀ cid, s.canRegister cid → s.flows.lookup cid = none := by
    intro cid free
    by_contra stored
    obtain ⟨fx, found⟩ := Option.ne_none_iff_exists'.mp stored
    have present := (flow.sound cid fx found).1
    rw [Session.canRegister, Bool.and_eq_true, Bool.and_eq_true] at free
    simp [Option.isSome_iff_ne_none.mp present] at free
  cases step with
  | moves op made => exact holds.moves made
  | settled frame link now quiet made =>
    have settled : InSequence (s.recvSide.settle frame) := holds
    exact settled.moves made
  | register cid free => exact holds.enter (absent cid free)
  | syn frame link now isSyn free =>
    have settled := holds
    exact settled.enter (absent _ free)
  | note cid seq now => exact holds
  | leave cid owned => exact holds.startOver cid rfl rfl rfl
  | compat frame link now compat => simp [flow.v2] at compat
  | data frame link now _ alive isData effect =>
    refine (effect.summary flow.v2 flow.sound).inSequence holds ?_
    intro fx verdict
    have found := flow.sound.found (by rw [verdict]; rfl)
    intro ended delivered one
    simp [Session.restartsFlow, isData, found.hasConnection, ended, delivered, one] at guard

namespace Session

/-- Along a flow v2 run in which no ended flow is started over, the numbers
delivered to a connection since it was registered are 1, 2, 3 and so on, each
once until the 32-bit space is exhausted. -/
theorem flow_delivery_in_sequence (config : Config) (mode : MuxMode) (txSeq rxAck : SeqNumber)
    (v2 : config.isFlowV2 = true) (ops : List Op)
    (guarded : Guarded step (fun s op => s.restartsFlow op = false)
      (initial config mode txSeq rxAck) ops) (cid : ConnectionId) :
    ∃ count, (run step (initial config mode txSeq rxAck) ops).log.delivered cid =
        consecutive 1 count ∧ (count ≤ 2 ^ 32 →
        ((run step (initial config mode txSeq rxAck) ops).log.delivered cid).Nodup) := by
  have invariant := guarded_invariant
    (fun s op allowed (holds : FlowSession s ∧ InSequence s.recvSide) =>
      And.intro (holds.1.step op) ((s.recvStep op).inSequence holds.1 allowed holds.2))
    guarded ⟨flowSession_initial v2 mode txSeq rxAck, fun _ => continues_nil _⟩
  obtain ⟨count, numbers, _⟩ := invariant.2 cid
  refine ⟨count, numbers, fun fits => ?_⟩
  rw [show (run step (initial config mode txSeq rxAck) ops).log.delivered cid =
    consecutive 1 count from numbers]
  exact nodup_consecutive 1 fits

/-- Frames of two connections arrive out of order and twice; nothing arrives for
the first after its FIN. -/
theorem flow_delivery_in_sequence_reordered :
    ∃ count, (run step (initial (Config.defaults .flowV2) .flow 0 0) [.register 1, .register 2,
          .arrive (Frame.push 1 2 [7]) none 5, .arrive (Frame.push 2 1 [9]) none 6,
          .arrive (Frame.push 1 1 [6]) none 7, .arrive (Frame.push 1 2 [7]) none 8,
          .arrive (Frame.fin 1 3) none 9]).log.delivered 1 = consecutive 1 count ∧
      (count ≤ 2 ^ 32 → ((run step (initial (Config.defaults .flowV2) .flow 0 0)
        [.register 1, .register 2,
          .arrive (Frame.push 1 2 [7]) none 5, .arrive (Frame.push 2 1 [9]) none 6,
          .arrive (Frame.push 1 1 [6]) none 7, .arrive (Frame.push 1 2 [7]) none 8,
          .arrive (Frame.fin 1 3) none 9]).log.delivered 1).Nodup) :=
  flow_delivery_in_sequence _ _ _ _ (by decide) _ (by decide +kernel) 1

/-- A duplicate of the first push, arriving after the FIN while the socket is
still registered, is delivered a second time. -/
theorem flow_delivery_restarts_after_fin : (run step (initial (Config.defaults .flowV2) .flow 0 0)
      [.register 1, .arrive (Frame.push 1 1 [6]) none 5, .arrive (Frame.fin 1 2) none 6,
        .arrive (Frame.push 1 1 [6]) none 7]).log.delivered 1 = [1, 2, 1] := by
  decide +kernel

end Session

end OpenPpp2.Mux
