import OpenPpp2.Mux.AckTracker
import OpenPpp2.Mux.FecCodec
import OpenPpp2.Lib.AssocTotal

/-!
# The retransmission buffer

`MuxRetransmitBuffer` retains every reliably sent frame until an acknowledgment covers it.
-/

namespace OpenPpp2.Mux

/-- The pair packed by `MuxRetransmitBuffer::Key`. -/
structure RtxKey where
  connectionId : ConnectionId
  sequence : SeqNumber
  deriving DecidableEq, Repr

/-- `MuxRtxEntry`; its list iterator is the key's position in `order`. -/
structure RtxEntry where
  frame : Frame
  firstSentTick : Nat
  lastSentTick : Nat
  attempts : Nat
  fastRtxMark : SeqNumber
  origLinkId : Nat
  lastLinkId : Nat
  deriving DecidableEq, Repr

structure RetransmitBuffer where
  order : List RtxKey
  entries : AList fun _ : RtxKey => RtxEntry
  cidBytes : AList fun _ : ConnectionId => Nat
  bytes : Nat

namespace RetransmitBuffer

def empty : RetransmitBuffer :=
  { order := []
    entries := ∅
    cidBytes := ∅
    bytes := 0 }

/-- `CidBytes` -/
def bytesOf (buffer : RetransmitBuffer) (connectionId : ConnectionId) : Nat :=
  (buffer.cidBytes.lookup connectionId).getD 0

/-- `Track`; `none` when the byte cap would be exceeded. -/
def track (buffer : RetransmitBuffer) (key : RtxKey) (frame : Frame) (now byteCap linkId : Nat) :
    Option RetransmitBuffer :=
  if (buffer.entries.lookup key).isSome then some buffer
  else if byteCap > 0 ∧ buffer.bytes + frame.length > byteCap then none
  else
    some
      { order := buffer.order ++ [key]
        entries := buffer.entries.insert key
          { frame := frame
            firstSentTick := now
            lastSentTick := now
            attempts := 0
            fastRtxMark := 0
            origLinkId := linkId
            lastLinkId := linkId }
        cidBytes := buffer.cidBytes.insert key.connectionId
          (buffer.bytesOf key.connectionId + frame.length)
        bytes := buffer.bytes + frame.length }

def releaseCidBytes (table : AList fun _ : ConnectionId => Nat) (connectionId : ConnectionId)
    (length : Nat) : AList fun _ : ConnectionId => Nat :=
  match table.lookup connectionId with
  | none => table
  | some held =>
    if held ≤ length then table.erase connectionId
    else table.insert connectionId (held - length)

/-- What one call of `Ack` accumulates beside the buffer. -/
structure AckResult where
  buffer : RetransmitBuffer
  rttSample : Nat
  linkId : Nat
  candidates : List RtxKey

/-- One released entry of `Ack`: the RTT sample comes from the first entry that
was never retransmitted. -/
def releaseAcked (now : Nat) (result : AckResult) (key : RtxKey) : AckResult :=
  match result.buffer.entries.lookup key with
  | none => result
  | some entry =>
    let sampled := result.rttSample = 0 ∧ entry.attempts = 0 ∧ now ≥ entry.firstSentTick
    { result with
      rttSample := if sampled then now - entry.firstSentTick else result.rttSample
      linkId := if sampled then entry.origLinkId else result.linkId
      buffer :=
        { order := result.buffer.order.erase key
          entries := result.buffer.entries.erase key
          cidBytes := releaseCidBytes result.buffer.cidBytes key.connectionId entry.frame.length
          bytes := result.buffer.bytes - entry.frame.length } }

def isFastCandidate (connectionId : ConnectionId) (largest : SeqNumber)
    (now fastThreshold fastTimeThreshold : Nat) (key : RtxKey) (entry : RtxEntry) : Bool :=
  key.connectionId = connectionId && key.sequence < largest &&
    (largest - key.sequence).toNat ≥ fastThreshold && entry.fastRtxMark ≠ largest &&
    !(fastTimeThreshold > 0 && now ≥ entry.firstSentTick &&
      now - entry.firstSentTick < fastTimeThreshold)

def ack (buffer : RetransmitBuffer) (connectionId : ConnectionId) (largest : SeqNumber)
    (ranges : List AckRange) (now fastThreshold fastTimeThreshold : Nat) : AckResult :=
  let acked := (buffer.entries.keys).filter fun key =>
    key.connectionId = connectionId && ranges.any fun range => range.Contains key.sequence
  let released := acked.foldl (releaseAcked now)
    { buffer := buffer, rttSample := 0, linkId := 0, candidates := [] }
  let candidates := (released.buffer.entries.entries.filter fun stored =>
    isFastCandidate connectionId largest now fastThreshold fastTimeThreshold stored.1 stored.2).map
      Sigma.fst
  let marked := candidates.foldl
    (fun table key =>
      match table.lookup key with
      | none => table
      | some entry => table.insert key { entry with fastRtxMark := largest })
    released.buffer.entries
  { released with
    buffer := { released.buffer with entries := marked }
    candidates := candidates }

/-- The saturating backoff of `CollectExpired`: the base timeout doubled per
attempt, at most five times, clamped to the maximum. -/
def backoff (basePto ptoMax attempts : Nat) : Nat :=
  min (min (basePto * 2 ^ min attempts 5) (2 ^ 64 - 1)) ptoMax

def collectExpired (buffer : RetransmitBuffer) (now basePto ptoMax maxCount : Nat) : List RtxKey :=
  ((buffer.entries.entries.filter fun stored =>
    stored.2.lastSentTick ≤ now &&
      now - stored.2.lastSentTick ≥ backoff basePto ptoMax stored.2.attempts).map
    Sigma.fst).take maxCount

def markRetransmitted (buffer : RetransmitBuffer) (key : RtxKey) (now linkId : Nat) :
    RetransmitBuffer :=
  match buffer.entries.lookup key with
  | none => buffer
  | some entry =>
    { buffer with
      entries := buffer.entries.insert key
        { entry with
          attempts := entry.attempts + 1
          lastSentTick := now
          lastLinkId := linkId } }

/-- `TakeLinkInflight`: the keys last sent on the link, oldest first, orphaned. -/
def takeLinkInflight (buffer : RetransmitBuffer) (linkId : Nat) : RetransmitBuffer × List RtxKey :=
  if linkId = 0 then (buffer, [])
  else
    buffer.order.foldl
      (fun (state : RetransmitBuffer × List RtxKey) key =>
        match state.1.entries.lookup key with
        | none => state
        | some entry =>
          if entry.lastLinkId = linkId then
            ({ state.1 with
                entries := state.1.entries.insert key
                  { entry with
                    lastLinkId := 0
                    lastSentTick := 0 } },
              state.2 ++ [key])
          else state)
      (buffer, [])

def eraseCid (buffer : RetransmitBuffer) (connectionId : ConnectionId) : RetransmitBuffer :=
  let erased := (buffer.entries.keys.filter fun key => key.connectionId = connectionId).foldl
    (fun (state : RetransmitBuffer) key =>
      match state.entries.lookup key with
      | none => state
      | some entry =>
        { state with
          order := state.order.erase key
          entries := state.entries.erase key
          bytes := state.bytes - entry.frame.length })
    buffer
  { erased with cidBytes := erased.cidBytes.erase connectionId }

end RetransmitBuffer

open Lib.BigEndian Mux.FecCodec

/-- `fec_rx_group`: the parsed view and the frames already present, slot by slot. -/
structure FecGroup where
  view : FrameView
  frames : List (Option (List UInt8))
  missing : Int
  deriving DecidableEq, Repr

structure FecStore where
  groups : List FecGroup
  cache : AList fun _ : RtxKey => List UInt8
  order : List RtxKey
  cacheBytes : Nat

/-- Read a frame back from its wire image; none when it is shorter than a header
or its command byte is not one of the protocol's. -/
def parseFrame (bytes : List UInt8) : Option Frame :=
  if bytes.length < headerSize then none
  else
    let code := ofBigEndian ((bytes.drop 4).take 1)
    let cmd : Option Cmd :=
      [Cmd.syn, Cmd.synOk, Cmd.push, Cmd.fin, Cmd.keepAlived, Cmd.acceleration, Cmd.muxModeSet,
        Cmd.ack, Cmd.fec].find? fun candidate => candidate.code = code
    cmd.map fun cmd =>
      { seq := BitVec.ofNat 32 (ofBigEndian (bytes.take 4))
        cmd := cmd
        connectionId := BitVec.ofNat 32 (ofBigEndian ((bytes.drop 5).take 4))
        payload := bytes.drop headerSize }

namespace FecStore

def empty : FecStore :=
  { groups := []
    cache := ∅
    order := []
    cacheBytes := 0 }

/-- The FEC half of `release_flow_reliability_state`. -/
def dropCid (store : FecStore) (cid : ConnectionId) : FecStore :=
  let doomed := store.order.filter fun key => key.connectionId = cid
  { groups := store.groups.filter fun group =>
      !(group.view.entries.any fun id => id.connectionId = cid)
    cache := doomed.foldl (fun cache key => cache.erase key) store.cache
    order := store.order.filter fun key => key.connectionId ≠ cid
    cacheBytes := store.cacheBytes -
      (doomed.map fun key => ((store.cache.lookup key).map List.length).getD 0).sum }

/-- The eviction loop of `fec_note_received`, oldest key first. -/
def evict (length entryCap : Nat) : List RtxKey → FecStore → FecStore
  | [], store => store
  | victim :: rest, store =>
    if store.cacheBytes + length > fecCacheMaxBytes ∨ store.cache.entries.length ≥ entryCap then
      evict length entryCap rest
        { store with
          order := rest
          cache := store.cache.erase victim
          cacheBytes := store.cacheBytes - ((store.cache.lookup victim).map List.length).getD 0 }
    else store

/-- The caching half of `fec_note_received`. -/
def remember (store : FecStore) (groupK : Nat) (key : RtxKey) (bytes : List UInt8) : FecStore :=
  if (store.cache.lookup key).isSome then store
  else
    let room := evict bytes.length (fecWindowGroups * max 1 groupK) store.order store
    { room with
      cache := room.cache.insert key bytes
      order := room.order ++ [key]
      cacheBytes := room.cacheBytes + bytes.length }

def fillSlot (store : FecStore) (key : RtxKey) (group : FecGroup) : Option FecGroup :=
  let slot := group.view.entries.findIdx fun id =>
    id.connectionId = key.connectionId && id.sequence = key.sequence
  if slot ≥ group.view.entries.length then none
  else
    match group.frames[slot]?, store.cache.lookup key with
    | some none, some bytes =>
      some
        { group with
          frames := group.frames.set slot (some bytes)
          missing := group.missing - 1 }
    | _, _ => some group

/-- The frame a group one short yields, checked against the id it should have. -/
def recovered (group : FecGroup) : Option Frame :=
  let slot := group.frames.findIdx fun frame => frame.isNone
  let bytes := muxFecRecover group.view (fun index => (group.frames[index]?).join) slot
    group.view.parity.length
  match bytes.bind parseFrame, group.view.entries[slot]? with
  | some frame, some want =>
    if frame.cmd.isPerFlowData && frame.connectionId = want.connectionId &&
        frame.seq = want.sequence then some frame
    else none
  | _, _ => none

/-- One iteration of `fec_try_recover_groups` at position `index`: the store
afterwards, the recovered frame if any, and whether the group was erased. -/
def visitGroup (store : FecStore) (key : RtxKey) (index : Nat) : FecStore × Option Frame × Bool :=
  match (store.groups[index]?).bind (store.fillSlot key) with
  | none => (store, none, false)
  | some group =>
    if group.missing ≤ 0 then
      ({ store with groups := store.groups.eraseIdx index }, none, true)
    else if group.missing = 1 then
      ({ store with groups := store.groups.eraseIdx index }, recovered group, true)
    else ({ store with groups := store.groups.set index group }, none, false)

/-- `packet_input_fec` up to its immediate evaluation of the new group. -/
def openGroup (store : FecStore) (groupK : Nat) (payload : List UInt8) : FecStore :=
  match parseMuxFecFrame payload (max 1 (groupK * 4 : Int)) with
  | none => store
  | some view =>
    let kept := store.groups.drop (store.groups.length + 1 - fecWindowGroups)
    let frames := view.entries.map fun id =>
      store.cache.lookup { connectionId := id.connectionId, sequence := id.sequence }
    { store with
      groups := kept ++
        [{ view := view
           frames := frames
           missing := (frames.filter fun frame => frame.isNone).length }] }

end FecStore

open Lib.AssocTotal

structure ReorderEntry (T : Type) where
  value : T
  bytes : Nat

structure ReorderBuffer (T : Type) where
  packets : AList fun _ : SeqNumber => ReorderEntry T
  bufferedBytes : Nat
  accounted : bufferedBytes = total ReorderEntry.bytes packets

namespace ReorderBuffer

variable {T : Type}

def empty : ReorderBuffer T where
  packets := ∅
  bufferedBytes := 0
  accounted := rfl

def isEmpty (buffer : ReorderBuffer T) : Bool := buffer.packets.entries.isEmpty

def size (buffer : ReorderBuffer T) : Nat := buffer.packets.entries.length

def Holds (buffer : ReorderBuffer T) (sequence : SeqNumber) : Prop :=
  (buffer.packets.lookup sequence).isSome

instance (buffer : ReorderBuffer T) (sequence : SeqNumber) : Decidable (buffer.Holds sequence) :=
  inferInstanceAs (Decidable (_ = true))

/-- The admission test of `TryInsert`: the frame lies strictly ahead of the
reference by less than half the circle, is new, and fits both bounds. -/
def admits (buffer : ReorderBuffer T) (sequence reference : SeqNumber)
    (bytes byteCap entryCap : Nat) : Bool :=
  let distance := (sequence - reference).toNat
  !(distance = 0 || distance ≥ 0x80000000 ||
    (buffer.packets.lookup sequence).isSome || buffer.size ≥ entryCap ||
    bytes > byteCap || buffer.bufferedBytes > byteCap - bytes)

def insertEntry (buffer : ReorderBuffer T) (sequence : SeqNumber) (entry : ReorderEntry T)
    (fresh : buffer.packets.lookup sequence = none) : ReorderBuffer T where
  packets := buffer.packets.insert sequence entry
  bufferedBytes := buffer.bufferedBytes + entry.bytes
  accounted := by
    have split := total_eq_weightAt_add_erase ReorderEntry.bytes sequence buffer.packets
    rw [weightAt_of_absent fresh] at split
    rw [total_insert, buffer.accounted]
    omega

def tryInsert (buffer : ReorderBuffer T) (sequence reference : SeqNumber) (value : T)
    (bytes byteCap entryCap : Nat) : Option (ReorderBuffer T) :=
  if buffer.admits sequence reference bytes byteCap entryCap then
    match found : buffer.packets.lookup sequence with
    | none => some (buffer.insertEntry sequence { value := value, bytes := bytes } found)
    | some _ => none
  else none

def take (buffer : ReorderBuffer T) (sequence : SeqNumber) :
    Option (ReorderEntry T × ReorderBuffer T) :=
  match found : buffer.packets.lookup sequence with
  | none => none
  | some entry =>
    some (entry,
      { packets := buffer.packets.erase sequence
        bufferedBytes := buffer.bufferedBytes - entry.bytes
        accounted := by
          have split := total_eq_weightAt_add_erase ReorderEntry.bytes sequence buffer.packets
          rw [weightAt_of_lookup found] at split
          rw [buffer.accounted]
          omega })

variable {entryCap : Nat} {value : T} {reference : SeqNumber} {byteCap : Nat}
    {buffer : ReorderBuffer T} {sequence : SeqNumber} {entry : ReorderEntry T}

variable {after : ReorderBuffer T} {bytes : Nat}

theorem tryInsert_eq_some
    (inserted : buffer.tryInsert sequence reference value bytes byteCap entryCap = some after) :
    buffer.admits sequence reference bytes byteCap entryCap ∧
      after.packets = buffer.packets.insert sequence { value := value, bytes := bytes } ∧
      after.bufferedBytes = buffer.bufferedBytes + bytes := by
  unfold tryInsert at inserted
  split_ifs at inserted with admitted
  split at inserted
  · obtain rfl := Option.some.inj inserted
    exact ⟨admitted, rfl, rfl⟩
  · simp at inserted

theorem tryInsert_isSome_iff :
    (buffer.tryInsert sequence reference value bytes byteCap entryCap).isSome ↔
      buffer.admits sequence reference bytes byteCap entryCap := by
  unfold tryInsert
  split_ifs with admitted
  · refine iff_of_true ?_ admitted
    split
    · rfl
    · rename_i entry found
      simp [admits, found] at admitted
  · simp [admitted]

theorem holds_tryInsert
    (inserted : buffer.tryInsert sequence reference value bytes byteCap entryCap = some after)
    (other : SeqNumber) : after.Holds other ↔ other = sequence ∨ buffer.Holds other := by
  obtain ⟨_, packets_eq, _⟩ := tryInsert_eq_some inserted
  unfold Holds
  rw [packets_eq]
  by_cases same : other = sequence
  · subst same
    simp
  · simp [AList.lookup_insert_ne same, same]

theorem take_eq_some (taken : buffer.take sequence = some (entry, after)) :
    buffer.packets.lookup sequence = some entry ∧ after.packets = buffer.packets.erase sequence ∧
      buffer.bufferedBytes = after.bufferedBytes + entry.bytes := by
  unfold take at taken
  split at taken
  · simp at taken
  · rename_i found value
    obtain ⟨rfl, rfl⟩ := Prod.mk.inj (Option.some.inj taken)
    have split := total_eq_weightAt_add_erase ReorderEntry.bytes sequence buffer.packets
    rw [weightAt_of_lookup value] at split
    have counted := buffer.accounted
    exact ⟨value, rfl, by simp only; omega⟩

theorem holds_take (taken : buffer.take sequence = some (entry, after)) (other : SeqNumber) :
    after.Holds other ↔ other ≠ sequence ∧ buffer.Holds other := by
  obtain ⟨_, packets_eq, _⟩ := take_eq_some taken
  unfold Holds
  rw [packets_eq]
  by_cases same : other = sequence
  · subst same
    simp
  · simp [AList.lookup_erase_ne same, same]

theorem bufferedBytes_of_isEmpty (none : buffer.isEmpty) : buffer.bufferedBytes = 0 := by
  rw [buffer.accounted, total, List.isEmpty_iff.mp none]
  rfl

end ReorderBuffer

end OpenPpp2.Mux
