import Mathlib.Data.List.Basic

/-!
# The handshake of the HTTP proxy

`HttpHeaderReader.cpp` and `VEthernetHttpProxyConnection.cpp`: the client's header block is read,
with whatever comes in the same read, before the tunnel is opened.
-/

namespace OpenPpp2.Client

open List

abbrev Bytes := List UInt8

def ascii (text : String) : Bytes := text.toList.map fun char => UInt8.ofNat char.toNat

/-- `FindIndexOf` of the end of the headers. -/
def headersEnd : Bytes → Option Nat
  | [] => none
  | byte :: rest =>
    if [13, 10, 13, 10].isPrefixOf (byte :: rest) then some 0 else (headersEnd rest).map (· + 1)

/-- What was read when the end of the headers had come, and the reads that are left. -/
def readHttpHeaders (headers : Bytes) : List Bytes → Option (Bytes × List Bytes)
  | [] => none
  | read :: rest =>
    if read.isEmpty then none
    else if (headersEnd (headers ++ read)).isSome then some (headers ++ read, rest)
    else readHttpHeaders (headers ++ read) rest

/-- `request` is the text of `ToString`. -/
structure ProtocolRoot where
  tunnelMode : Bool
  protocol : Bytes
  version : Bytes
  request : Bytes
  deriving DecidableEq

def protocolMethods : List Bytes :=
  ["CONNECT", "DELETE", "GET", "HEAD", "OPTIONS", "PATCH", "POST", "PUT", "TRACE"].map ascii

def toUpper (char : UInt8) : UInt8 := if 97 ≤ char ∧ char ≤ 122 then char - 32 else char

def ProtocolRoot.established (root : ProtocolRoot) : Bytes :=
  root.protocol ++ 47 :: root.version ++ ascii " 200 Connection established\r\n\r\n"

/-- What the client's socket and `SendBufferToPeer` were given. -/
structure Written where
  client : Bytes := []
  peer : List Bytes := []
  deriving DecidableEq

def sendHttpProxyErrorResponse (protocol version : Bytes) (status : String) : Bytes :=
  (if protocol.isEmpty then ascii "HTTP" else protocol) ++
    47 :: (if version.isEmpty then ascii "1.1" else version) ++
    ascii (" " ++ status ++ "\r\nConnection: close\r\nContent-Length: 0\r\n\r\n")

/-- Whether the request went on, and what was written. -/
def processHandshaked (root : ProtocolRoot) (messages : Bytes) : Bool × Written :=
  if root.tunnelMode then (true, { client := root.established ++ messages })
  else if root.request.isEmpty then
    (false, { client :=
      sendHttpProxyErrorResponse root.protocol root.version "500 Internal Server Error" })
  else (true, { peer := [root.request ++ messages] })

/-- The root of an accepted request, what was written, and the reads that are left. Writes and the
bridge do not fail. -/
def handshake (parse : Bytes → Option ProtocolRoot) (reads : List Bytes) :
    Option ProtocolRoot × Written × List Bytes :=
  match readHttpHeaders [] reads with
  | none => (none, {}, [])
  | some (buffer, rest) =>
    let refuse (status : String) : Option ProtocolRoot × Written × List Bytes :=
      (none, { client := sendHttpProxyErrorResponse (ascii "HTTP") (ascii "1.1") status }, rest)
    if 32 ∉ buffer then refuse "400 Bad Request"
    else if !protocolMethods.contains ((buffer.takeWhile (· ≠ 32)).map toUpper) then
      refuse "501 Not Implemented"
    else
      match headersEnd buffer, parse buffer with
      | some index, some root =>
        let (handshaked, written) := processHandshaked root (buffer.drop (index + 4))
        -- A request without a head is answered twice.
        let written := if handshaked || root.tunnelMode then written else
          { written with client := written.client ++
              sendHttpProxyErrorResponse root.protocol root.version "502 Bad Gateway" }
        (some root, written, rest)
      | _, _ => refuse "400 Bad Request"

variable {reads rest : List Bytes} {buffer : Bytes} {index : Nat}

theorem headersEnd_append {text : Bytes} (found : headersEnd text = some index)
    (more : Bytes) : headersEnd (text ++ more) = some index ∧ index + 4 ≤ text.length := by
  induction text generalizing index with
  | nil => cases found
  | cons byte rest ih =>
    simp only [headersEnd, cons_append, isPrefixOf_iff_prefix] at found ⊢
    split_ifs at found with here
    · cases found
      have longer : [13, 10, 13, 10] <+: byte :: (rest ++ more) := here.trans (prefix_append _ more)
      exact ⟨if_pos longer, by simpa using here.length_le⟩
    · obtain ⟨later, held, rfl⟩ := Option.map_eq_some_iff.1 found
      obtain ⟨same, inside⟩ := ih held
      -- a terminator that began here would end before the one found
      have absent : ¬ [13, 10, 13, 10] <+: byte :: (rest ++ more) := fun longer =>
        here (prefix_of_prefix_length_le longer (prefix_append _ more) (by simp; omega))
      rw [if_neg absent, same]
      exact ⟨rfl, by simp only [length_cons]; omega⟩

theorem readHttpHeaders_spec {headers : Bytes}
    (done : readHttpHeaders headers reads = some (buffer, rest))
    (before : headersEnd headers = none) :
    ∃ count, buffer = headers ++ (reads.take (count + 1)).flatten ∧ rest = reads.drop (count + 1) ∧
      headersEnd (headers ++ (reads.take count).flatten) = none := by
  induction reads generalizing headers with
  | nil => cases done
  | cons read reads ih =>
    simp only [readHttpHeaders] at done
    split_ifs at done with empty complete
    · cases done
      exact ⟨0, by simp, rfl, by simpa using before⟩
    · obtain ⟨count, all, left, unfinished⟩ := ih done (by simpa using complete)
      exact ⟨count + 1, by simpa using all, left, by simpa using unfinished⟩

theorem buffer_spec {block payload : Bytes}
    (done : readHttpHeaders [] reads = some (buffer, rest)) (found : headersEnd buffer = some index)
    (whole : headersEnd block = some (block.length - 4))
    (stream : reads.flatten = block ++ payload) :
    index + 4 = block.length ∧ ∃ tail, buffer = block ++ tail ∧ payload = tail ++ rest.flatten ∧
      (tail = [] ↔ ∃ count, (reads.take count).flatten = block) := by
  obtain ⟨count, all, left, unfinished⟩ := readHttpHeaders_spec done rfl
  rw [nil_append] at all unfinished
  have size := (headersEnd_append whole []).2
  have room := (headersEnd_append found []).2
  have split : buffer ++ rest.flatten = block ++ payload := by
    rw [← stream, all, left, ← flatten_append, take_append_drop]
  obtain ⟨tail, joined, behind⟩ :
      ∃ tail, buffer = block ++ tail ∧ payload = tail ++ rest.flatten := by
    rcases append_eq_append_iff.1 split with ⟨more, longer, behind⟩ | within
    · have same := (headersEnd_append found more).1.symm.trans (longer ▸ whole)
      have none : more = [] := by
        simp only [Option.some.injEq] at same
        simp only [longer, length_append] at same size room
        exact eq_nil_of_length_eq_zero (by omega)
      subst none
      exact ⟨[], by simp [longer], by simpa using behind.symm⟩
    · exact within
  have same := (headersEnd_append whole tail).1.symm.trans (joined ▸ found)
  simp only [Option.some.injEq] at same
  refine ⟨by omega, tail, joined, behind, fun none => ⟨count + 1, ?_⟩, ?_⟩
  · rw [← all, joined, none, append_nil]
  · rintro ⟨other, ends⟩
    rcases Nat.lt_or_ge count other with later | earlier
    · obtain ⟨more, longer⟩ := take_prefix_take_left later (l := reads)
      have := congrArg flatten longer
      rw [flatten_append, ends, ← all, joined, append_assoc] at this
      exact (append_eq_nil_iff.1 (append_right_eq_self.1 this)).1
    · obtain ⟨more, longer⟩ := take_prefix_take_left earlier (l := reads)
      rw [← longer, flatten_append, ends, (headersEnd_append whole _).1] at unfinished
      cases unfinished

/-- The bytes that a tunnel's client sends after its header block reach the peer, and the client
gets the response alone, exactly if the block ends with a read. -/
theorem connect_payload_iff (parse : Bytes → Option ProtocolRoot) (block payload : Bytes)
    (whole : headersEnd block = some (block.length - 4)) (reads : List Bytes)
    (stream : reads.flatten = block ++ payload) (root : ProtocolRoot)
    (accepted : (handshake parse reads).1 = some root) (tunnel : root.tunnelMode = true) :
    let (_, written, unread) := handshake parse reads
    (written.peer.flatten ++ unread.flatten = payload ∧ written.client = root.established) ↔
      ∃ count, (reads.take count).flatten = block := by
  unfold handshake at *
  cases done : readHttpHeaders [] reads with
  | none => simp [done] at accepted
  | some result =>
    obtain ⟨buffer, rest⟩ := result
    simp only [done] at accepted ⊢
    split_ifs at accepted ⊢
    cases found : headersEnd buffer <;> cases parsed : parse buffer <;>
      simp only [found, parsed] at accepted ⊢ <;> cases accepted
    obtain ⟨size, tail, joined, behind, boundary⟩ := buffer_spec done found whole stream
    rw [size, joined, drop_left, ← boundary]
    simp [processHandshaked, tunnel, behind]

def sampleRoot : ProtocolRoot := ⟨true, ascii "HTTP", ascii "1.1", []⟩

def sampleBlock : Bytes := ascii "CONNECT a:1 HTTP/1.1\r\n\r\n"

/-- The bytes read with the header block go back to the client. -/
theorem connect_payload_echoed : handshake (fun _ => some sampleRoot) [sampleBlock ++ [1, 2]] =
      (some sampleRoot, { client := sampleRoot.established ++ [1, 2] }, []) := by
  decide +kernel

theorem connect_payload_iff_separate :
    let (_, written, unread) := handshake (fun _ => some sampleRoot) [sampleBlock, [1, 2]]
    written.peer.flatten ++ unread.flatten = [1, 2] ∧ written.client = sampleRoot.established :=
  (connect_payload_iff (fun _ => some sampleRoot) sampleBlock [1, 2] (by decide +kernel)
    [sampleBlock, [1, 2]] (by decide +kernel) sampleRoot (by decide +kernel) rfl).2
    ⟨1, by decide +kernel⟩

end OpenPpp2.Client
