import OpenPpp2.Tap.CoalescerOrder

/-!
# What a superframe is made of

Every packet of a batch agrees with what `Start` remembered of the first one, and continues the
packet before it.
-/

namespace OpenPpp2.Tap

open Lib.ByteLayout Lib.Run List

structure Matches (batch : Batch) (packet : Bytes) : Prop where
  flow : slice 12 8 packet = batch.flow
  ports : slice batch.ihl 4 packet = slice 0 4 batch.tcpFixed
  ack : slice (batch.ihl + 8) 4 packet = slice 4 4 batch.tcpFixed
  window : slice (batch.ihl + 14) 2 packet = slice 8 2 batch.tcpFixed
  urgent : slice (batch.ihl + 18) 2 packet = slice 10 2 batch.tcpFixed
  tos : byteAt 1 packet = batch.tos
  ttl : byteAt 8 packet = batch.ttl
  df : byteAt 6 packet &&& 0x40 = batch.df
  ipOptions : slice 20 (batch.ihl - 20) packet = batch.ipOptions
  tcpOptions : slice (batch.ihl + 20) (batch.doff - 20) packet = batch.tcpOptions

/-- The segment at a place of the batch, made from a packet that was admitted. -/
structure Piece (batch : Batch) (place : Nat) (segment : Segment) (info : PacketInfo) :
    Prop where
  parsed : Parsed segment.packet.bytes info
  flags : byteAt (info.ihl + 13) segment.packet.bytes &&& 0xe7 = 0
  ihl : info.ihl = batch.ihl
  doff : info.doff = batch.doff
  same : Matches batch segment.packet.bytes
  header : segment.header = segment.packet.bytes.take (info.ihl + info.doff)
  payload : segment.payload = slice (info.ihl + info.doff) info.payload segment.packet.bytes
  seq : info.seq =
    word (batch.ihl + 4) 32 batch.superHeader + BitVec.ofNat 32 (place * batch.gsoSize)
  size : info.payload ≤ batch.gsoSize

structure Open (batch : Batch) : Prop where
  first : ∃ segment rest, batch.segments = segment :: rest ∧ segment.header = batch.superHeader
  pieces : ∀ place segment, batch.segments[place]? = some segment →
    ∃ info, Piece batch place segment info ∧ info.payload = batch.gsoSize ∧
      hasPsh segment.packet.bytes info = false
  nextSeq : batch.nextSeq =
    word (batch.ihl + 4) 32 batch.superHeader + BitVec.ofNat 32 (batch.count * batch.gsoSize)
  unpushed : batch.pendingPsh = false
  room : batch.ihl + batch.doff + batch.count * batch.gsoSize ≤ 65535

structure Mergeable (batch : Batch) : Prop where
  several : 2 ≤ batch.count
  first : ∃ segment rest, batch.segments = segment :: rest ∧ segment.header = batch.superHeader
  pieces : ∀ place segment, batch.segments[place]? = some segment →
    ∃ info, Piece batch place segment info ∧
      (place + 1 ≠ batch.count → info.payload = batch.gsoSize) ∧
      hasPsh segment.packet.bytes info = (batch.pendingPsh && decide (place + 1 = batch.count))
  room : batch.ihl + batch.doff + batch.payloadTotal ≤ 65535

variable {config : Config} {batch : Batch} {coalescer : Coalescer} {now : BitVec 64}

variable {segment : Segment} {place : Nat}

theorem Piece.grow {info : PacketInfo}
    (piece : Piece batch place segment info) (segments : List Segment) (nextSeq : BitVec 32)
    (pendingPsh : Bool) :
    Piece { batch with segments := segments, nextSeq := nextSeq, pendingPsh := pendingPsh }
      place segment info :=
  { piece with
    same := { piece.same with } }

theorem Piece.length_payload {info : PacketInfo}
    (piece : Piece batch place segment info) : segment.payload.length = info.payload := by
  have total := piece.parsed.total_eq
  have fits := piece.parsed.total_le
  rw [piece.payload, length_slice (by omega)]

theorem Open.payloadTotal (opened : Open batch) :
    batch.payloadTotal = batch.count * batch.gsoSize := by
  have all : batch.segments.map (fun segment => segment.payload.length) =
      replicate batch.segments.length batch.gsoSize := by
    rw [map_eq_replicate_iff]
    intro segment member
    have ⟨place, found⟩ := mem_iff_getElem?.mp member
    have ⟨info, piece, size, _⟩ := opened.pieces place segment found
    rw [piece.length_payload, size]
  rw [Batch.payloadTotal, all, sum_replicate_nat, Batch.count]

section Store

variable {packet : Packet} {info : PacketInfo} (owner : Option Owner)
  (admitted : accepts config packet.bytes = .ok info)

include admitted

theorem matches_start (now : BitVec 64) :
    Matches (start config packet info owner now) packet.bytes := by
  have ⟨parsed, _, _⟩ := accepts_spec admitted
  have doffMin := parsed.doff_min
  have total := parsed.total_eq
  have fits := parsed.total_le
  have ports := @length_slice info.ihl 4 packet.bytes (by omega)
  have ack := @length_slice (info.ihl + 8) 4 packet.bytes (by omega)
  have window := @length_slice (info.ihl + 14) 2 packet.bytes (by omega)
  have urgent := @length_slice (info.ihl + 18) 2 packet.bytes (by omega)
  have fixed : (start config packet info owner now).tcpFixed =
      [slice info.ihl 4 packet.bytes, slice (info.ihl + 8) 4 packet.bytes,
        slice (info.ihl + 14) 2 packet.bytes, slice (info.ihl + 18) 2 packet.bytes].flatten := by
    simp [start]
  constructor
  case ports =>
    rw [fixed]
    exact (slice_flatten 0 rfl rfl ports).symm
  case ack =>
    rw [fixed]
    exact (slice_flatten 1 rfl (by simp [ports]) ack).symm
  case window =>
    rw [fixed]
    exact (slice_flatten 2 rfl (by simp [ports, ack]) window).symm
  case urgent =>
    rw [fixed]
    exact (slice_flatten 3 rfl (by simp [ports, ack, window]) urgent).symm
  all_goals rfl

theorem piece_start (now : BitVec 64) :
    Piece (start config packet info owner now) 0 (storeSegment config packet info owner) info := by
  have ⟨parsed, flags, _⟩ := accepts_spec admitted
  have doffMin := parsed.doff_min
  constructor
  case seq =>
    simp only [start, Nat.zero_mul]
    rw [word, slice_take (by omega), parsed.seq]
    exact (BitVec.add_zero _).symm
  case same =>
    rw [packet_storeSegment parsed]
    exact matches_start owner admitted now
  case ihl => rfl
  case doff => rfl
  case size => exact Nat.le_refl _
  all_goals rw [packet_storeSegment parsed]
  · exact parsed
  · exact flags
  · rfl
  · rfl

variable {batch : Batch}

theorem piece_append (opened : Open batch) (continued : canAppend batch packet.bytes info) :
    Piece batch batch.count (storeSegment config packet info owner) info := by
  have ⟨parsed, flags, _⟩ := accepts_spec admitted
  simp only [canAppend, decide_eq_true_eq] at continued
  have ⟨flow, ports, next, ack, window, urgent, tos, ttl, df, ihl, doff, ipOptions, tcpOptions,
    size, _⟩ := continued
  -- Without options there is nothing to compare: both packets have the empty string there.
  have ⟨segment, rest, segments, _⟩ := opened.first
  have ⟨head, piece, _⟩ := opened.pieces 0 segment (by rw [segments, getElem?_cons_zero])
  have same : Matches batch packet.bytes := by
    rw [ihl] at ports ack window urgent tcpOptions
    refine ⟨flow, ports, ack, window, urgent, tos, ttl, df, ?_, ?_⟩
    · by_cases some : batch.ihl > 20
      · exact ipOptions some
      · have none : batch.ihl - 20 = 0 := by omega
        rw [← piece.same.ipOptions, none]
        rfl
    · by_cases some : batch.doff > 20
      · exact tcpOptions some
      · have none : batch.doff - 20 = 0 := by omega
        rw [← piece.same.tcpOptions, none]
        rfl
  constructor
  case seq =>
    rw [BitVec.sub_eq_iff_eq_add.mp next, ← opened.nextSeq]
    exact BitVec.zero_add _
  case same =>
    rw [packet_storeSegment parsed]
    exact same
  case ihl => exact ihl
  case doff => exact doff
  case size => exact size
  all_goals rw [packet_storeSegment parsed]
  · exact parsed
  · exact flags
  · rfl
  · rfl

theorem open_start (unpushed : hasPsh packet.bytes info = false) (now : BitVec 64) :
    Open (start config packet info owner now) := by
  have ⟨parsed, _, small⟩ := accepts_spec admitted
  have total := parsed.total_eq
  have fits := parsed.total_le
  constructor
  case first => exact ⟨_, [], rfl, rfl⟩
  case pieces =>
    intro place segment found
    simp only [start, getElem?_singleton] at found
    split_ifs at found
    cases found
    subst_vars
    refine ⟨info, piece_start owner admitted now, rfl, ?_⟩
    rw [packet_storeSegment parsed, unpushed]
  case nextSeq =>
    have seq := (piece_start owner admitted now).seq
    rw [Nat.zero_mul] at seq
    change info.seq + _ = _
    rw [seq]
    simp only [Batch.count, start, length_singleton, Nat.one_mul]
    rw [BitVec.add_assoc, BitVec.zero_add]
  case unpushed => rfl
  case room =>
    simp only [Batch.count, start, length_singleton, Nat.one_mul]
    rw [maxPacketBytes] at small
    omega

omit admitted in
theorem pieces_append {place : Nat}
    (found : (append config batch packet info owner).segments[place]? = some segment) :
    (place < batch.count ∧ batch.segments[place]? = some segment) ∨
      (place = batch.count ∧ segment = storeSegment config packet info owner) := by
  simp only [append, getElem?_append, getElem?_singleton] at found
  rw [Batch.count]
  split_ifs at found
  · exact .inl ⟨‹_›, found⟩
  · cases found
    exact .inr ⟨by omega, rfl⟩

theorem open_append (opened : Open batch) (continued : canAppend batch packet.bytes info)
    (unpushed : hasPsh packet.bytes info = false) (full : ¬ info.payload < batch.gsoSize) :
    Open (append config batch packet info owner) := by
  obtain ⟨parsed, _, _⟩ := accepts_spec admitted
  have piece := piece_append owner admitted opened continued
  have size := piece.size
  have count : (append config batch packet info owner).count = batch.count + 1 := by
    simp [append, Batch.count]
  constructor
  case first =>
    obtain ⟨segment, rest, segments, header⟩ := opened.first
    refine ⟨segment, rest ++ [storeSegment config packet info owner], ?_, header⟩
    rw [append, segments, cons_append]
  case pieces =>
    intro place segment found
    rcases pieces_append owner found with ⟨_, old⟩ | ⟨rfl, rfl⟩
    · obtain ⟨info, piece, size, psh⟩ := opened.pieces place segment old
      exact ⟨info, piece.grow .., size, psh⟩
    · refine ⟨info, piece.grow .., Nat.le_antisymm size (Nat.le_of_not_lt full), ?_⟩
      rw [packet_storeSegment parsed, unpushed]
  case nextSeq =>
    rw [count]
    change info.seq + _ = _
    rw [piece.seq, Nat.le_antisymm size (Nat.le_of_not_lt full), BitVec.add_assoc,
      ← BitVec.ofNat_add, Nat.add_mul, Nat.one_mul]
    rfl
  case unpushed => exact opened.unpushed
  case room =>
    simp only [canAppend, decide_eq_true_eq] at continued
    obtain ⟨_, _, _, _, _, _, _, _, _, _, _, _, _, _, room⟩ := continued
    rw [count, Nat.add_mul, Nat.one_mul]
    change batch.ihl + batch.doff + (batch.count * batch.gsoSize + batch.gsoSize) ≤ 65535
    omega

theorem mergeable_append (opened : Open batch) (continued : canAppend batch packet.bytes info) :
    Mergeable { append config batch packet info owner with
      pendingPsh := hasPsh packet.bytes info } := by
  obtain ⟨parsed, _, _⟩ := accepts_spec admitted
  have piece := piece_append owner admitted opened continued
  have count : Batch.count { append config batch packet info owner with
      pendingPsh := hasPsh packet.bytes info } = batch.count + 1 := by
    simp [append, Batch.count]
  obtain ⟨head, rest, segments, header⟩ := opened.first
  constructor
  case several =>
    rw [count, Batch.count, segments, length_cons]
    omega
  case first =>
    refine ⟨head, rest ++ [storeSegment config packet info owner], ?_, header⟩
    simp only [append, segments, cons_append]
  case pieces =>
    intro place segment found
    rcases pieces_append owner found with ⟨before, old⟩ | ⟨rfl, rfl⟩
    · obtain ⟨info, piece, size, psh⟩ := opened.pieces place segment old
      refine ⟨info, piece.grow .., fun _ => size, ?_⟩
      rw [psh, count, decide_eq_false (by omega), Bool.and_false]
    · refine ⟨info, piece.grow .., ?_, ?_⟩
      · intro earlier
        exact absurd count.symm earlier
      · rw [packet_storeSegment parsed, count, decide_eq_true rfl, Bool.and_true]
  case room =>
    have sizes : Batch.payloadTotal { append config batch packet info owner with
        pendingPsh := hasPsh packet.bytes info } =
          batch.payloadTotal + (storeSegment config packet info owner).payload.length := by
      simp [append, Batch.payloadTotal]
    simp only [canAppend, decide_eq_true_eq] at continued
    obtain ⟨_, _, _, _, _, _, _, _, _, _, _, _, _, _, room⟩ := continued
    rw [sizes, opened.payloadTotal, piece.length_payload]
    exact room

end Store

theorem mergeable_of_open (opened : Open batch) (several : 2 ≤ batch.count) : Mergeable batch := by
  constructor
  case several => exact several
  case first => exact opened.first
  case pieces =>
    intro place segment found
    have ⟨info, piece, size, psh⟩ := opened.pieces place segment found
    refine ⟨info, piece, fun _ => size, ?_⟩
    rw [psh, opened.unpushed, Bool.false_and]
  case room =>
    rw [opened.payloadTotal]
    exact opened.room

def Genuine (attempt : Attempt) : Prop :=
  2 ≤ attempt.packets.length → ∃ batch, Mergeable batch ∧
    attempt.frame = (buildIovecs batch).flatten ∧
    attempt.packets = batch.segments.map Segment.packet

def Logged (coalescer : Coalescer) : Prop := ∀ attempt ∈ coalescer.log, Genuine attempt

theorem logged_recordWrite {frame : Bytes} {packets : List Packet} {written : Int}
    (logged : Logged coalescer) (genuine : ∀ outcome, Genuine ⟨frame, packets, outcome⟩) :
    Logged (recordWrite frame packets written coalescer).2 := by
  intro attempt member
  simp only [recordWrite, mem_append, mem_singleton] at member
  rcases member with old | rfl
  · exact logged attempt old
  · exact genuine _

def Plain (before after : Coalescer) : Prop :=
  after.batch = before.batch ∧ (Logged before → Logged after)

theorem plain_writeOrdinaryFrame (serial : Nat) (frame : Bytes) (coalescer : Coalescer) :
    Plain coalescer (writeOrdinaryFrame config serial frame coalescer).2 := by
  refine ⟨rfl, ?_⟩
  intro logged
  apply logged_recordWrite logged
  intro outcome several
  simp at several

theorem plain_writeOrdinary (packet : Packet) (checksumPartial : Bool) (coalescer : Coalescer) :
    Plain coalescer (writeOrdinary config packet checksumPartial coalescer).2 := by
  rw [writeOrdinary]
  split
  · exact ⟨rfl, id⟩
  split
  · split
    · exact ⟨rfl, id⟩
    · exact plain_writeOrdinaryFrame ..
  · exact plain_writeOrdinaryFrame ..

theorem plain_replay (segments : List Segment) (coalescer : Coalescer) :
    Plain coalescer (replay config segments coalescer).2 := by
  induction segments generalizing coalescer with
  | nil => exact ⟨rfl, id⟩
  | cons segment rest ih =>
    have wrote : Plain coalescer (writeOrdinaryStored config segment coalescer).2 :=
      plain_writeOrdinaryFrame ..
    rw [replay, Result.andThen]
    split
    · have others := ih (writeOrdinaryStored config segment coalescer).2
      exact ⟨others.1.trans wrote.1, fun logged => others.2 (wrote.2 logged)⟩
    · exact wrote

theorem plain_afterSuperframe (outcome : WriteOutcome) (coalescer : Coalescer) :
    Plain coalescer (afterSuperframe config outcome coalescer).2 := by
  cases outcome with
  | complete | partialDelivery => exact ⟨rfl, id⟩
  | negativeFailure => exact plain_replay coalescer.batch.segments { coalescer with enabled := false }

theorem logged_writeSuperframe (logged : Logged coalescer)
    (mergeable : Mergeable coalescer.batch) : Logged (writeSuperframe config coalescer).2 := by
  apply logged_recordWrite logged
  intro outcome several
  exact ⟨coalescer.batch, mergeable, rfl, rfl⟩

theorem logged_flush (logged : Logged coalescer)
    (mergeable : 2 ≤ coalescer.batch.count → Mergeable coalescer.batch) :
    Logged (flush config coalescer).2 ∧ (flush config coalescer).2.batch.segments = [] := by
  rw [flush]
  cases pending : coalescer.batch.segments with
  | nil => exact ⟨logged, pending⟩
  | cons first rest =>
    cases rest with
    | nil => exact ⟨(plain_writeOrdinaryFrame ..).2 logged, rfl⟩
    | cons second rest =>
      have several : 2 ≤ coalescer.batch.count := by simp [Batch.count, pending]
      have wrote : Logged (writeSuperframe config coalescer).2 :=
        logged_writeSuperframe logged (mergeable several)
      exact ⟨(plain_afterSuperframe ..).2 wrote, rfl⟩

structure Sound (coalescer : Coalescer) : Prop where
  logged : Logged coalescer
  batch : coalescer.hasPending → Open coalescer.batch

theorem sound_of_empty (logged : Logged coalescer)
    (empty : coalescer.batch.segments = []) : Sound coalescer := by
  refine ⟨logged, ?_⟩
  intro pending
  rw [Coalescer.hasPending_eq_false.mpr empty] at pending
  cases pending

theorem hasPending_of_several (several : 2 ≤ coalescer.batch.count) : coalescer.hasPending := by
  simp only [Coalescer.hasPending, bne_iff_ne]
  omega

theorem Sound.mergeable (sound : Sound coalescer) (several : 2 ≤ coalescer.batch.count) :
    Mergeable coalescer.batch :=
  mergeable_of_open (sound.batch (hasPending_of_several several)) several

theorem sound_flush_of (logged : Logged coalescer)
    (mergeable : 2 ≤ coalescer.batch.count → Mergeable coalescer.batch) :
    Sound (flush config coalescer).2 :=
  have ⟨flushed, empty⟩ := logged_flush logged mergeable
  sound_of_empty flushed empty

theorem sound_flush (sound : Sound coalescer) : Sound (flush config coalescer).2 :=
  sound_flush_of sound.logged sound.mergeable

theorem sound_flushIf (condition : Bool) (sound : Sound coalescer) :
    Sound (flushIf config condition coalescer).2 := by
  rw [flushIf]
  split
  · exact sound_flush sound
  · exact sound

theorem sound_plain {before after : Coalescer} (plain : Plain before after)
    (sound : Sound before) : Sound after := by
  refine ⟨plain.2 sound.logged, ?_⟩
  rw [Coalescer.hasPending, plain.1]
  exact sound.batch

theorem sound_andThen {result : Result} {next : Coalescer → Result} (before : Sound result.2)
    (after : Sound (next result.2).2) : Sound (result.andThen next).2 := by
  rw [Result.andThen]
  split
  · exact after
  · exact before

variable {owner : Option Owner}

variable {packet : Packet}

theorem sound_settle_start {info : PacketInfo} (admitted : accepts config packet.bytes = .ok info)
    (sound : Sound coalescer) : Sound (settle config packet.bytes info
      { coalescer with batch := start config packet info owner now }).2 := by
  cases psh : hasPsh packet.bytes info with
  | true =>
    rw [settle, if_pos psh]
    apply sound_flush_of
    · exact sound.logged
    · intro several
      simp [Batch.count, start] at several
  | false =>
    have opened : Sound { coalescer with batch := start config packet info owner now } :=
      ⟨sound.logged, fun _ => open_start owner admitted psh now⟩
    rw [settle, if_neg (by simp [psh])]
    split
    · exact sound_flush opened
    split
    · exact sound_flush opened
    · exact opened

theorem sound_settle_append {info : PacketInfo}
    (admitted : accepts config packet.bytes = .ok info) (logged : Logged coalescer)
    (opened : Open coalescer.batch) (continued : canAppend coalescer.batch packet.bytes info) :
    Sound (settle config packet.bytes info
      { coalescer with batch := append config coalescer.batch packet info owner }).2 := by
  have closed := mergeable_append owner admitted opened continued
  cases psh : hasPsh packet.bytes info with
  | true =>
    rw [psh] at closed
    rw [settle, if_pos psh]
    apply sound_flush_of
    · exact logged
    · exact fun _ => closed
  | false =>
    rw [psh, ← opened.unpushed] at closed
    rw [settle, if_neg (by simp [psh])]
    split
    · apply sound_flush_of
      · exact logged
      · exact fun _ => closed
    · rename_i full
      have grown : Sound
          { coalescer with batch := append config coalescer.batch packet info owner } :=
        ⟨logged, fun _ => open_append owner admitted opened continued psh full⟩
      split
      · exact sound_flush grown
      · exact grown

theorem canAppend_flushIf {packet : Bytes} {info : PacketInfo} (sound : Sound coalescer)
    (pending : (flushIf config (coalescer.hasPending && !canAppend coalescer.batch packet info)
      coalescer).2.hasPending) :
    canAppend (flushIf config (coalescer.hasPending && !canAppend coalescer.batch packet info)
      coalescer).2.batch packet info := by
  rw [flushIf] at pending ⊢
  split_ifs at pending with unflushed
  · rw [Coalescer.hasPending_eq_false.mpr (logged_flush sound.logged sound.mergeable).2] at pending
    cases pending
  · rw [if_neg unflushed]
    rw [pending] at unflushed
    simpa using unflushed

theorem sound_pushAdmitted {info : PacketInfo} (admitted : accepts config packet.bytes = .ok info)
    (sound : Sound coalescer) : Sound (pushAdmitted config packet info owner now coalescer).2 := by
  have flushed := @sound_flushIf config coalescer
    (coalescer.hasPending && !canAppend coalescer.batch packet.bytes info) sound
  have continued := @canAppend_flushIf config coalescer packet.bytes info sound
  apply sound_andThen flushed
  generalize flushIf config
    (coalescer.hasPending && !canAppend coalescer.batch packet.bytes info) coalescer = result
    at flushed continued
  cases pending : result.2.hasPending with
  | false =>
    simp only [store, pending]
    exact sound_settle_start admitted flushed
  | true =>
    simp only [store, pending]
    exact sound_settle_append admitted flushed.logged (flushed.batch pending) (continued pending)

theorem sound_pushInternal {checksumPartial : Bool} (sound : Sound coalescer) :
    Sound (pushInternal config packet owner checksumPartial now coalescer).2 := by
  rw [pushInternal]
  split
  · exact sound
  split
  · exact sound_plain (plain_writeOrdinary ..) sound
  have flushed := @sound_flushIf config coalescer (expired config now coalescer) sound
  apply sound_andThen flushed
  cases admitted : accepts config packet.bytes with
  | error reason =>
    have emptied := @sound_flush config _ flushed
    exact sound_andThen emptied (sound_plain (plain_writeOrdinary ..) emptied)
  | ok info => exact sound_pushAdmitted admitted flushed

theorem sound_perform {serial : Nat} (call : Call)
    (sound : Sound coalescer) : Sound (perform config serial coalescer call).2 := by
  cases call with
  | push bytes now => exact sound_pushInternal sound
  | pushOwned bytes owner now =>
    rw [perform]
    split
    · exact sound
    · exact sound_pushInternal sound
  | flushExpired now => exact sound_flushIf _ sound
  | flush => exact sound_flush sound

theorem sound_after (calls : List Call) : Sound (History.after config calls).coalescer := by
  have kept : ∀ (history : History) (call : Call), Sound history.coalescer →
      Sound (History.step config history call).coalescer := by
    intro history call sound
    exact sound_perform call sound
  have initial : Sound History.fresh.coalescer :=
    sound_of_empty (by simp [Logged, History.fresh, Coalescer.fresh]) rfl
  exact run_invariant kept initial calls

theorem logged_ended (calls : List Call) : Logged (History.ended config calls).coalescer := by
  have sound := @sound_after config calls
  change Logged (disableAndFlush config (History.after config calls).coalescer).2
  rw [disableAndFlush]
  split
  · exact (sound_flush sound).logged
  · exact sound.logged

end OpenPpp2.Tap
