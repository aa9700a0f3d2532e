import Mathlib.Data.List.Infix
import OpenPpp2.Tap.GsoCoalescer

/-!
# Packets leave the coalescer in order

As long as all calls return true, a flush writes what is pending, and a push adds its packet after
it.
-/

namespace OpenPpp2.Tap

open Lib.ByteLayout Lib.Run List

namespace Coalescer

/-- The packets of the frames that were written completely, in the order of the writes. -/
def delivered (coalescer : Coalescer) : List Packet :=
  (coalescer.log.filter fun attempt => attempt.outcome = .complete).flatMap Attempt.packets

def held (coalescer : Coalescer) : List Packet := coalescer.batch.segments.map Segment.packet

def Stranded (coalescer : Coalescer) : Prop :=
  coalescer.enabled = false ∧ coalescer.hasPending

instance (coalescer : Coalescer) : Decidable coalescer.Stranded :=
  inferInstanceAs (Decidable (_ ∧ _))

@[simp] theorem delivered_reset (coalescer : Coalescer) :
    coalescer.reset.delivered = coalescer.delivered := rfl

@[simp] theorem held_reset (coalescer : Coalescer) : coalescer.reset.held = [] := rfl

variable {coalescer : Coalescer}

theorem hasPending_eq_false : coalescer.hasPending = false ↔ coalescer.batch.segments = [] := by
  simp [hasPending, Batch.count]

theorem held_eq_nil : coalescer.held = [] ↔ coalescer.hasPending = false := by
  rw [hasPending_eq_false, held, map_eq_nil_iff]

theorem not_stranded (free : ¬ coalescer.Stranded) : coalescer.enabled ∨ coalescer.held = [] := by
  rw [held_eq_nil]
  simpa [Stranded, or_iff_not_imp_left] using free

end Coalescer

open Coalescer

structure Wrote (before after : Coalescer) (packets : List Packet) : Prop where
  delivered : after.delivered = before.delivered ++ packets
  batch : after.batch = before.batch
  enabled : after.enabled = before.enabled

variable {packets : List Packet} {coalescer : Coalescer} {serial : Nat} {packet : Packet}
    {checksumPartial : Bool} {owner : Option Owner} {info : PacketInfo} {now : BitVec 64}
    {call : Call}

theorem Wrote.held {before after : Coalescer}
    (wrote : Wrote before after packets) : after.held = before.held := by
  rw [Coalescer.held, Coalescer.held, wrote.batch]

theorem delivered_recordWrite (frame : Bytes) (packets : List Packet) (written : Int)
    (coalescer : Coalescer) : (recordWrite frame packets written coalescer).2.delivered =
      coalescer.delivered ++
        if (recordWrite frame packets written coalescer).1 = .complete then packets else [] := by
  simp only [recordWrite, delivered, filter_append, flatMap_append, filter_cons,
    filter_nil, decide_eq_true_eq]
  split <;> simp [*]

/-- A call that returns true leaves the coalescer as `post` says. -/
def Ensures (result : Result) (post : Coalescer → Prop) : Prop := result.1 → post result.2

theorem Ensures.refused {post : Coalescer → Prop} : Ensures (false, coalescer) post := nofun

theorem Ensures.and {result : Result} {first second : Coalescer → Prop}
    (left : Ensures result first) (right : Ensures result second) :
    Ensures result fun after => first after ∧ second after :=
  fun succeeded => ⟨left succeeded, right succeeded⟩

theorem Ensures.andThen {result : Result} {next : Coalescer → Result}
    {middle post : Coalescer → Prop} (first : Ensures result middle)
    (rest : ∀ coalescer, middle coalescer → Ensures (next coalescer) post) :
    Ensures (result.andThen next) post := by
  rw [Result.andThen]
  split
  case isTrue succeeded => exact rest result.2 (first succeeded)
  case isFalse failed => exact fun succeeded => absurd succeeded failed

variable {config : Config}

theorem wrote_writeOrdinaryFrame {header packet : Bytes}
    (size : header.length = standardVirtioHeaderSize) :
    Ensures (writeOrdinaryFrame config serial (header ++ packet) coalescer)
      (Wrote coalescer · [{ serial := serial, bytes := packet }]) := by
  intro succeeded
  simp only [writeOrdinaryFrame, decide_eq_true_eq] at succeeded ⊢
  constructor
  · rw [delivered_recordWrite, if_pos succeeded, drop_left' size]
  · rfl
  · rfl

theorem length_ordinaryHeader (start : Option Nat) :
    (ordinaryHeader start).length = standardVirtioHeaderSize := by
  cases start <;> rfl

theorem wrote_writeOrdinary : Ensures (writeOrdinary config packet checksumPartial coalescer)
      (Wrote coalescer · [packet]) := by
  rw [writeOrdinary]
  split
  · exact .refused
  split
  · split
    · exact .refused
    · exact wrote_writeOrdinaryFrame (length_ordinaryHeader _)
  · exact wrote_writeOrdinaryFrame (length_ordinaryHeader _)

theorem wrote_writeOrdinaryStored {segment : Segment} :
    Ensures (writeOrdinaryStored config segment coalescer) (Wrote coalescer · [segment.packet]) :=
  wrote_writeOrdinaryFrame (length_ordinaryHeader _)

theorem wrote_replay {segments : List Segment} : Ensures (replay config segments coalescer)
      (Wrote coalescer · (segments.map Segment.packet)) := by
  induction segments generalizing coalescer with
  | nil => exact fun _ => ⟨(append_nil _).symm, rfl, rfl⟩
  | cons segment rest ih =>
    refine wrote_writeOrdinaryStored.andThen ?_
    intro middle wrote succeeded
    have wroteRest := ih succeeded
    constructor
    · rw [wroteRest.delivered, wrote.delivered, append_assoc]
      rfl
    · rw [wroteRest.batch, wrote.batch]
    · rw [wroteRest.enabled, wrote.enabled]

theorem delivered_afterSuperframe :
    Ensures (afterSuperframe config (writeSuperframe config coalescer).1
      (writeSuperframe config coalescer).2)
      (·.delivered = coalescer.delivered ++ coalescer.held) := by
  have recorded : (writeSuperframe config coalescer).2.delivered = coalescer.delivered ++
      if (writeSuperframe config coalescer).1 = .complete then coalescer.held else [] :=
    delivered_recordWrite ..
  have kept : (writeSuperframe config coalescer).2.batch = coalescer.batch := rfl
  cases outcome : (writeSuperframe config coalescer).1 with
  | complete =>
    rw [outcome, if_pos rfl] at recorded
    exact fun _ => recorded
  | partialDelivery => exact .refused
  | negativeFailure =>
    rw [outcome, if_neg (by decide), append_nil] at recorded
    rw [afterSuperframe]
    intro succeeded
    rw [(wrote_replay succeeded).delivered, kept]
    exact congrArg (· ++ coalescer.held) recorded

theorem flush_spec : Ensures (flush config coalescer) fun after =>
      after.delivered = coalescer.delivered ++ coalescer.held ∧ after.held = [] := by
  rw [flush]
  intro succeeded
  cases pending : coalescer.batch.segments with
  | nil => simp [held, pending]
  | cons first rest =>
    cases rest with
    | nil =>
      simp only [pending] at succeeded ⊢
      rw [delivered_reset, held_reset, (wrote_writeOrdinaryStored succeeded).delivered]
      simp [held, pending]
    | cons second rest =>
      simp only [pending] at succeeded ⊢
      rw [delivered_reset, held_reset, delivered_afterSuperframe succeeded]
      exact ⟨rfl, rfl⟩

def Coalescer.contents (coalescer : Coalescer) : List Packet :=
  coalescer.delivered ++ coalescer.held

structure Advanced (before after : Coalescer) (packets : List Packet) : Prop where
  contents : after.contents = before.contents ++ packets
  delivered : before.delivered <+: after.delivered

theorem Advanced.refl (coalescer : Coalescer) : Advanced coalescer coalescer [] :=
  ⟨(append_nil _).symm, prefix_rfl⟩

theorem Advanced.trans {first second third : Coalescer} {more : List Packet}
    (early : Advanced first second packets) (late : Advanced second third more) :
    Advanced first third (packets ++ more) := by
  constructor
  · rw [late.contents, early.contents, append_assoc]
  · exact early.delivered.trans late.delivered

theorem Wrote.advanced {before after : Coalescer} (wrote : Wrote before after packets)
    (nothing : before.held = []) : Advanced before after packets := by
  constructor
  · rw [contents, wrote.delivered, wrote.held, contents, nothing, append_nil, append_nil]
  · rw [wrote.delivered]
    exact prefix_append ..

theorem advanced_flush : Ensures (flush config coalescer) (Advanced coalescer · []) := by
  intro succeeded
  have ⟨delivered, held⟩ := flush_spec succeeded
  constructor
  · rw [contents, delivered, held, append_nil, append_nil, contents]
  · rw [delivered]
    exact prefix_append ..

theorem advanced_flushIf {condition : Bool} :
    Ensures (flushIf config condition coalescer) (Advanced coalescer · []) := by
  rw [flushIf]
  split
  · exact advanced_flush
  · exact fun _ => Advanced.refl coalescer

section

variable (parsed : Parsed packet.bytes info)
include parsed

theorem packet_storeSegment : (storeSegment config packet info owner).packet = packet := by
  have whole : packet.bytes.take (info.ihl + info.doff) ++
      slice (info.ihl + info.doff) info.payload packet.bytes ++
        packet.bytes.drop info.total = packet.bytes := by
    rw [slice, ← take_add, ← parsed.total_eq, take_append_drop]
  simp only [Segment.packet, storeSegment, whole]

theorem held_store :
    (store config packet info owner now coalescer).held = coalescer.held ++ [packet] := by
  cases pending : coalescer.hasPending with
  | false =>
    rw [held_eq_nil.mpr pending]
    simp [held, store, pending, start, packet_storeSegment parsed]
  | true => simp [held, store, pending, append, packet_storeSegment parsed]

theorem advanced_store :
    Advanced coalescer (store config packet info owner now coalescer) [packet] := by
  constructor
  · rw [contents, held_store parsed, ← append_assoc]
    rfl
  · exact prefix_rfl

end

theorem advanced_settle {packet : Bytes} :
    Ensures (settle config packet info coalescer) (Advanced coalescer · []) := by
  rw [settle]
  split
  · intro succeeded
    have flushed := advanced_flush succeeded
    exact ⟨flushed.contents, flushed.delivered⟩
  split
  · exact advanced_flush
  split
  · exact advanced_flush
  · exact fun _ => Advanced.refl coalescer

theorem advanced_pushAdmitted (parsed : Parsed packet.bytes info) :
    Ensures (pushAdmitted config packet info owner now coalescer)
      (Advanced coalescer · [packet]) := by
  refine advanced_flushIf.andThen ?_
  intro middle flushed settled
  exact flushed.trans ((advanced_store parsed).trans (advanced_settle settled))

theorem advanced_pushInternal (free : ¬ coalescer.Stranded) :
    Ensures (pushInternal config packet owner checksumPartial now coalescer)
      (Advanced coalescer · [packet]) := by
  rw [pushInternal]
  split
  · exact .refused
  split
  case isTrue disabled =>
    intro succeeded
    apply (wrote_writeOrdinary succeeded).advanced
    exact (not_stranded free).resolve_left (by simp [disabled])
  · refine advanced_flushIf.andThen ?_
    intro middle flushed
    cases admitted : accepts config packet.bytes with
    | error reason =>
      refine (advanced_flush.and flush_spec).andThen ?_
      intro last emptied written
      exact flushed.trans
        (emptied.1.trans ((wrote_writeOrdinary written).advanced emptied.2.2))
    | ok info =>
      intro pushed
      exact flushed.trans (advanced_pushAdmitted (accepts_spec admitted).1 pushed)

theorem wrote_pushInternal_stranded (stranded : coalescer.Stranded) :
    Ensures (pushInternal config packet owner checksumPartial now coalescer)
      (Wrote coalescer · [packet]) := by
  rw [pushInternal]
  split
  · exact .refused
  · rw [if_pos stranded.1]
    exact wrote_writeOrdinary

def Call.pushes : Call → Bool
  | .push _ _ => true
  | .pushOwned _ _ _ => true
  | .flushExpired _ => false
  | .flush => false

def Allowed (history : History) (call : Call) : Prop :=
  call.pushes → ¬ history.coalescer.Stranded

instance (history : History) (call : Call) : Decidable (Allowed history call) :=
  inferInstanceAs (Decidable (_ → _))

theorem advanced_perform (free : call.pushes → ¬ coalescer.Stranded) :
    Ensures (perform config serial coalescer call)
      (Advanced coalescer · (call.packets serial)) := by
  cases call with
  | push bytes now => exact advanced_pushInternal (free rfl)
  | pushOwned bytes owner now =>
    rw [perform]
    split
    · exact .refused
    · exact advanced_pushInternal (free rfl)
  | flushExpired now => exact advanced_flushIf
  | flush => exact advanced_flush

theorem wrote_perform_stranded (pushes : call.pushes) (stranded : coalescer.Stranded) :
    Ensures (perform config serial coalescer call) (Wrote coalescer · (call.packets serial)) := by
  cases call with
  | push bytes now => exact wrote_pushInternal_stranded stranded
  | pushOwned bytes owner now =>
    rw [perform]
    split
    · exact .refused
    · exact wrote_pushInternal_stranded stranded
  | flushExpired now | flush => cases pushes

namespace History

/-- Every packet pushed so far is delivered or still held, in the order of the pushes. -/
def Intact (history : History) : Prop := history.coalescer.contents = history.pushed

def Astray (history : History) : Prop :=
  ∃ (place : Nat) (packet : Packet),
    history.coalescer.delivered[place]? = some packet ∧ packet.serial ≠ place

def Numbered (history : History) : Prop :=
  ∀ (place : Nat) (packet : Packet), history.pushed[place]? = some packet → packet.serial = place

variable {call : Call} {history : History} {calls : List Call}

theorem numbered_step (numbered : history.Numbered) : (step config history call).Numbered := by
  intro place packet found
  change (history.pushed ++ call.packets history.pushed.length)[place]? = some packet at found
  rw [getElem?_append] at found
  split at found
  · exact numbered place packet found
  · have single : ∀ bytes, [Packet.mk history.pushed.length bytes][
        place - history.pushed.length]? = some packet → packet.serial = place := by
      intro bytes found
      obtain ⟨zero, rfl⟩ : place - history.pushed.length = 0 ∧
          Packet.mk history.pushed.length bytes = packet := by
        simpa [getElem?_singleton] using found
      dsimp only
      omega
    cases call with
    | push bytes now | pushOwned bytes owner now => exact single bytes found
    | flushExpired now | flush => simp [Call.packets] at found

theorem numbered_after (calls : List Call) : (after config calls).Numbered :=
  run_invariant (fun _ _ numbered => numbered_step numbered) (by simp [Numbered, fresh]) calls

theorem succeeded_of_run (succeeded : (run (step config) history calls).succeeded) :
    history.succeeded := by
  induction calls generalizing history with
  | nil => exact succeeded
  | cons call rest ih =>
    have stepped := ih succeeded
    simp only [step, Bool.and_eq_true] at stepped
    exact stepped.1

theorem performed_of_step (succeeded : (step config history call).succeeded) :
    (perform config history.pushed.length history.coalescer call).1 := by
  simp only [step, Bool.and_eq_true] at succeeded
  exact succeeded.2

theorem intact_step (intact : history.Intact) (allowed : Allowed history call)
    (succeeded : (step config history call).succeeded) : (step config history call).Intact := by
  rw [Intact, step, (advanced_perform allowed (performed_of_step succeeded)).contents, intact]

theorem astray_step_of_bypass (intact : history.Intact) (bypass : ¬ Allowed history call)
    (succeeded : (step config history call).succeeded) : (step config history call).Astray := by
  simp only [Allowed, Classical.not_imp, not_not] at bypass
  have ⟨pushes, stranded⟩ := bypass
  have wrote := wrote_perform_stranded pushes stranded (performed_of_step succeeded)
  have pending : history.coalescer.held ≠ [] := by
    simp [held_eq_nil, stranded.2]
  have short : history.coalescer.delivered.length < history.pushed.length := by
    have some := length_pos_iff.mpr pending
    rw [← intact, contents, length_append]
    omega
  have single : ∃ packet : Packet, call.packets history.pushed.length = [packet] ∧
      packet.serial = history.pushed.length := by
    cases call with
    | push bytes now | pushOwned bytes owner now => exact ⟨_, rfl, rfl⟩
    | flushExpired now | flush => cases pushes
  obtain ⟨packet, packets, serial⟩ := single
  refine ⟨history.coalescer.delivered.length, packet, ?_, by omega⟩
  rw [step, wrote.delivered, packets]
  simp

theorem Astray.onwards {later : History} (astray : history.Astray)
    (grown : history.coalescer.delivered <+: later.coalescer.delivered) : later.Astray := by
  obtain ⟨place, packet, found, wrong⟩ := astray
  obtain ⟨more, grown⟩ := grown
  refine ⟨place, packet, ?_, wrong⟩
  rw [← grown, getElem?_append_left (List.getElem?_eq_some_iff.mp found).1, found]

theorem astray_step (astray : history.Astray) (succeeded : (step config history call).succeeded) :
    (step config history call).Astray := by
  apply Astray.onwards astray
  by_cases allowed : Allowed history call
  · exact (advanced_perform allowed (performed_of_step succeeded)).delivered
  · simp only [Allowed, Classical.not_imp, not_not] at allowed
    rw [step, (wrote_perform_stranded allowed.1 allowed.2 (performed_of_step succeeded)).delivered]
    exact prefix_append ..

theorem astray_run (astray : history.Astray)
    (succeeded : (run (step config) history calls).succeeded) :
    (run (step config) history calls).Astray := by
  induction calls generalizing history with
  | nil => exact astray
  | cons call rest ih => exact ih (astray_step astray (succeeded_of_run succeeded)) succeeded

theorem intact_or_astray (intact : history.Intact)
    (succeeded : (run (step config) history calls).succeeded) :
    (Guarded (step config) Allowed history calls ∧ (run (step config) history calls).Intact) ∨
      (¬ Guarded (step config) Allowed history calls ∧
        (run (step config) history calls).Astray) := by
  induction calls generalizing history with
  | nil => exact .inl ⟨trivial, intact⟩
  | cons call rest ih =>
    have stepped : (step config history call).succeeded := succeeded_of_run succeeded
    by_cases allowed : Allowed history call
    · rcases ih (intact_step intact allowed stepped) succeeded with ⟨free, kept⟩ | ⟨not, lost⟩
      · exact .inl ⟨⟨allowed, free⟩, kept⟩
      · exact .inr ⟨fun guarded => not guarded.2, lost⟩
    · have gone := astray_run (astray_step_of_bypass intact allowed stepped) succeeded
      exact .inr ⟨fun guarded => allowed guarded.1, gone⟩

/-- What was pushed is what was written, in the same order, and nothing is pending. -/
def InOrder (history : History) : Prop :=
  history.coalescer.delivered = history.pushed ∧ history.coalescer.hasPending = false

instance (history : History) : Decidable history.InOrder := inferInstanceAs (Decidable (_ ∧ _))

theorem not_astray_of_inOrder (numbered : history.Numbered)
    (ordered : history.InOrder) : ¬ history.Astray := by
  rintro ⟨place, packet, found, wrong⟩
  rw [ordered.1] at found
  exact wrong (numbered place packet found)

end History

/-- Neither a push nor the final `DisableAndFlush` finds the coalescer disabled with packets
pending. -/
def NeverStranded (config : Config) (calls : List Call) : Prop :=
  Guarded (History.step config) Allowed History.fresh calls ∧
    ¬ (History.after config calls).coalescer.Stranded

instance (config : Config) (calls : List Call) : Decidable (NeverStranded config calls) :=
  inferInstanceAs (Decidable (_ ∧ _))

theorem disableAndFlush_spec {coalescer : Coalescer} (free : ¬ coalescer.Stranded) :
    Ensures (disableAndFlush config coalescer) fun after =>
      after.delivered = coalescer.contents ∧ after.held = [] := by
  rw [disableAndFlush]
  cases enabled : coalescer.enabled with
  | true => exact @flush_spec coalescer _
  | false =>
    have nothing := (not_stranded free).resolve_left (by simp [enabled])
    rw [contents, nothing, append_nil]
    exact fun _ => ⟨rfl, nothing⟩

theorem disableAndFlush_stranded {coalescer : Coalescer} (stranded : coalescer.Stranded) :
    (disableAndFlush config coalescer).2 = coalescer := by
  cases coalescer
  cases stranded.1
  rfl

namespace History

variable {calls : List Call}

section

variable (succeeded : (ended config calls).succeeded = true)
include succeeded

theorem succeeded_of_ended :
    (after config calls).succeeded ∧ (disableAndFlush config (after config calls).coalescer).1 := by
  simpa only [ended, Bool.and_eq_true] using succeeded

theorem delivered_prefix_ended :
    (after config calls).coalescer.delivered <+: (ended config calls).coalescer.delivered := by
  change _ <+: (disableAndFlush config (after config calls).coalescer).2.delivered
  by_cases stranded : (after config calls).coalescer.Stranded
  · rw [disableAndFlush_stranded stranded]
  · rw [(disableAndFlush_spec stranded (succeeded_of_ended succeeded).2).1]
    exact prefix_append ..

theorem inOrder_of_intact (intact : (after config calls).Intact)
    (free : ¬ (after config calls).coalescer.Stranded) : (ended config calls).InOrder := by
  have ⟨delivered, held⟩ := disableAndFlush_spec free (succeeded_of_ended succeeded).2
  exact ⟨delivered.trans intact, held_eq_nil.mp held⟩

end

/-- When all calls up to the final `DisableAndFlush` return true, the packets written are the
packets pushed, in order, exactly if no push and not the final call found the coalescer
disabled with packets pending. -/
theorem delivered_in_order_iff (config : Config) (calls : List Call)
    (succeeded : (ended config calls).succeeded = true) :
    (ended config calls).InOrder ↔ NeverStranded config calls := by
  have dichotomy := intact_or_astray (show fresh.Intact from rfl) (succeeded_of_ended succeeded).1
  constructor
  · intro ordered
    rcases dichotomy with ⟨guarded, _⟩ | ⟨_, astray⟩
    · refine ⟨guarded, ?_⟩
      intro stranded
      have left : (ended config calls).coalescer = (after config calls).coalescer :=
        disableAndFlush_stranded stranded
      have empty := ordered.2
      rw [left, stranded.2] at empty
      cases empty
    · have numbered : (ended config calls).Numbered := numbered_after calls
      exact absurd (Astray.onwards astray (delivered_prefix_ended succeeded))
        (not_astray_of_inOrder numbered ordered)
  · rintro ⟨guarded, free⟩
    rcases dichotomy with ⟨_, intact⟩ | ⟨unguarded, _⟩
    · exact inOrder_of_intact succeeded intact free
    · exact absurd guarded unguarded

end History

def samplePacket (sequence : UInt8) : Bytes :=
  [0x45, 0, 0, 41, 0, 0, 0x40, 0, 64, 6, 0, 0, 10, 0, 0, 1, 10, 0, 0, 2,
    0, 80, 0, 81, 0, 0, 0, sequence, 0, 0, 0, 0, 0x50, 0x10, 1, 0, 0, 0, 0, 0, 65]

def sampleConfig : Config where
  writer _ frame := if byteAt 1 frame = 0 then frame.length else -1
  vectoredWriter := none
  enablePshBoundary := true
  enableRetainedWritev := true
  holdNs := 100000
  segmentCap := 32
  segmentCap_range := by decide

def sampleCalls : List Call :=
  [.push (samplePacket 0) 0, .push (samplePacket 1) 1, .push (samplePacket 100) 2]

/-- The third push replays the first two packets and begins a batch on the coalescer it has
disabled; `DisableAndFlush` returns true and the third packet is never written. -/
theorem refused_superframe_strands_packet :
    (History.ended sampleConfig sampleCalls).succeeded = true ∧
      ¬ (History.ended sampleConfig sampleCalls).InOrder := by
  decide +kernel

/-- With a `Flush` before the end the stranded packet is written after all. -/
theorem refused_superframe_then_flush :
    (History.ended sampleConfig (sampleCalls ++ [.flush])).succeeded = true ∧
      (History.ended sampleConfig (sampleCalls ++ [.flush])).InOrder := by
  have succeeded : (History.ended sampleConfig (sampleCalls ++ [.flush])).succeeded = true := by
    decide +kernel
  have free : NeverStranded sampleConfig (sampleCalls ++ [.flush]) := by decide +kernel
  exact ⟨succeeded, (History.delivered_in_order_iff _ _ succeeded).mpr free⟩

end OpenPpp2.Tap
