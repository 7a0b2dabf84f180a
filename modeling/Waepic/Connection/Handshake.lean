import Waepic.Connection.Nonces
import Waepic.Library.Framing

/-!
# From the handshake to the read loop

The transport delivers the bytes of the server in chunks.  `perform_xx_handshake`
decodes its one frame with a decoder of its own, and `read_loop` the frames after
it with a new one.  What the first decoder holds when the handshake returns is
lost: the frames that `read_loop` processes are those of the server exactly if
the first frame ended a chunk (`incomingFrames_eq_iff`).

The handshake itself and the framing are wacore's.  `XxHandshake` says how each
of their calls ends, and `FrameDecoder` is any decoder of frames with a
three-byte length.
-/

namespace Waepic.Connection

open Framing

/-! ## Frames with a length -/

/-- A payload whose length fits in three bytes. -/
abbrev Payload := { bytes : Bytes // bytes.length < 2 ^ 24 }

/-- A length in three bytes, the highest first. -/
def lengthPrefix (n : Nat) : Bytes :=
  [UInt8.ofNat (n / 65536), UInt8.ofNat (n / 256), UInt8.ofNat n]

/-- The length that three bytes stand for. -/
def prefixLength (a b c : UInt8) : Nat := a.toNat * 65536 + b.toNat * 256 + c.toNat

theorem prefixLength_lt (a b c : UInt8) : prefixLength a b c < 2 ^ 24 := by
  have ha := a.toNat_lt
  have hb := b.toNat_lt
  have hc := c.toNat_lt
  simp only [prefixLength]
  omega

theorem lengthPrefix_prefixLength (a b c : UInt8) :
    lengthPrefix (prefixLength a b c) = [a, b, c] := by
  have ha := a.toNat_lt
  have hb := b.toNat_lt
  have hc := c.toNat_lt
  have h1 : UInt8.ofNat (prefixLength a b c / 65536) = a := by
    refine UInt8.toNat_inj.mp ?_
    rw [UInt8.toNat_ofNat']
    simp only [prefixLength]
    omega
  have h2 : UInt8.ofNat (prefixLength a b c / 256) = b := by
    refine UInt8.toNat_inj.mp ?_
    rw [UInt8.toNat_ofNat']
    simp only [prefixLength]
    omega
  have h3 : UInt8.ofNat (prefixLength a b c) = c := by
    refine UInt8.toNat_inj.mp ?_
    rw [UInt8.toNat_ofNat']
    simp only [prefixLength]
    omega
  rw [lengthPrefix, h1, h2, h3]

theorem lengthPrefix_inj {m n : Nat} (hm : m < 2 ^ 24) (hn : n < 2 ^ 24)
    (h : lengthPrefix m = lengthPrefix n) : m = n := by
  simp only [lengthPrefix, List.cons.injEq, and_true] at h
  obtain ⟨h1, h2, h3⟩ := h
  have h1 := congrArg UInt8.toNat h1
  have h2 := congrArg UInt8.toNat h2
  have h3 := congrArg UInt8.toNat h3
  simp only [UInt8.toNat_ofNat'] at h1 h2 h3
  omega

/-- A frame is a three-byte length and a payload. -/
def frameCode : Code UInt8 Payload where
  encode p := lengthPrefix p.1.length ++ p.1
  encode_ne_nil p := List.cons_ne_nil _ _
  unique {p q r r'} h := by
    rw [List.append_assoc, List.append_assoc] at h
    obtain ⟨hlen, hrest⟩ := List.append_inj h rfl
    have hlength := lengthPrefix_inj p.2 q.2 hlen
    exact Subtype.ext (List.append_inj hrest hlength).1

/-- wacore's `FrameDecoder`. -/
abbrev FrameDecoder := Decoder frameCode

/-- The first frame of a buffer, and what follows it. -/
def frontFrame : Bytes → Option (Payload × Bytes)
  | a :: b :: c :: rest =>
      if h : prefixLength a b c ≤ rest.length then
        some (⟨rest.take (prefixLength a b c), by
          rw [List.length_take_of_le h]; exact prefixLength_lt a b c⟩,
          rest.drop (prefixLength a b c))
      else none
  | _ => none

theorem frontFrame_some {bs rest : Bytes} {p : Payload} (h : frontFrame bs = some (p, rest)) :
    bs = frameCode.encode p ++ rest := by
  simp only [frontFrame] at h
  split at h
  · next a b c tail =>
      split at h
      · next hle =>
          cases h
          show a :: b :: c :: tail = lengthPrefix _ ++ _ ++ _
          rw [List.length_take_of_le hle, lengthPrefix_prefixLength, List.append_assoc,
            List.take_append_drop]
          rfl
      · cases h
  · cases h

theorem frontFrame_none {bs : Bytes} (h : frontFrame bs = none) : frameCode.Incomplete bs := by
  rintro p rest rfl
  have hlength : prefixLength (UInt8.ofNat (p.1.length / 65536)) (UInt8.ofNat (p.1.length / 256))
      (UInt8.ofNat p.1.length) = p.1.length := by
    refine lengthPrefix_inj (prefixLength_lt _ _ _) p.2 ?_
    rw [lengthPrefix_prefixLength]
    rfl
  simp [frontFrame, frameCode, lengthPrefix, hlength] at h

/-- A decoder that keeps its buffer as it is. -/
def bufferDecoder : FrameDecoder where
  State := Bytes
  new := []
  feed buffer bs := buffer ++ bs
  decodeFrame := frontFrame
  buffered := id
  buffered_new := rfl
  buffered_feed _ _ := rfl
  decodeFrame_some := frontFrame_some
  decodeFrame_none := frontFrame_none

/-! ## The handshake -/

inductive TransportEvent where
  | connected
  | dataReceived (data : Bytes)
  | disconnected
deriving DecidableEq, Repr

/-- How the calls of the handshake end: those of wacore's handshake state, of the
framing and of `Transport::send`. -/
structure XxHandshake where
  /-- `XxHandshakeState::new`. -/
  new : Except String Unit
  buildClientHello : Except String Bytes
  /-- The header that `build_handshake_header` gives. -/
  header : Bytes
  encodeFrame : Bytes → Option Bytes → Except String Bytes
  send : Bytes → Except String Unit
  readServerHelloAndBuildClientFinish : Payload → Except String Bytes
  /-- The write and the read cipher. -/
  finish : Payload → Except String (Wire × Wire)

/-- Receive the first complete frame.  The events end when their channel is
closed. -/
def recvHandshakeFrame (decoder : FrameDecoder) :
    decoder.State → List TransportEvent → Result (Payload × List TransportEvent)
  | state, .dataReceived data :: events =>
      match decoder.decodeFrame (decoder.feed state data) with
      | some (frame, _) => .ok (frame, events)
      | none => recvHandshakeFrame decoder (decoder.feed state data) events
  | state, .connected :: events => recvHandshakeFrame decoder state events
  | _, .disconnected :: _ => .error (.socket "disconnected during handshake")
  | _, [] => .error (.socket "transport event channel closed during handshake")

/-- The ClientHello as it is sent. -/
def clientHelloFrame (x : XxHandshake) : Result Bytes := do
  x.new.mapError fun e => .protocol ("handshake init failed: " ++ e)
  let clientHello ← x.buildClientHello.mapError fun e =>
    .protocol ("build client hello failed: " ++ e)
  (x.encodeFrame clientHello (some x.header)).mapError fun e =>
    .protocol ("frame encode failed: " ++ e)

/-- `perform_xx_handshake` up to the ClientHello. -/
def sendClientHello (x : XxHandshake) : Result Unit := do
  let framed ← clientHelloFrame x
  (x.send framed).mapError fun e => .socket ("send client hello failed: " ++ e)

/-- The ClientFinish as it is sent. -/
def clientFinishFrame (x : XxHandshake) (respFrame : Payload) : Result Bytes := do
  let clientFinish ← (x.readServerHelloAndBuildClientFinish respFrame).mapError fun e =>
    .protocol ("handshake server hello failed: " ++ e)
  (x.encodeFrame clientFinish none).mapError fun e => .protocol ("frame encode failed: " ++ e)

/-- `perform_xx_handshake` from the ServerHello on. -/
def finishHandshake (x : XxHandshake) (respFrame : Payload) : Result (Wire × Wire) := do
  let framed ← clientFinishFrame x respFrame
  (x.send framed).mapError fun e => .socket ("send client finish failed: " ++ e)
  (x.finish respFrame).mapError fun e => .protocol ("handshake finish failed: " ++ e)

/-- Perform the Noise XX handshake.  The decoder is dropped at the end. -/
def performXxHandshake (decoder : FrameDecoder) (x : XxHandshake)
    (events : List TransportEvent) : Result ((Wire × Wire) × List TransportEvent) := do
  sendClientHello x
  let (respFrame, rest) ← recvHandshakeFrame decoder decoder.new events
  let ciphers ← finishHandshake x respFrame
  return (ciphers, rest)

/-- `connect_once` on a transport it has created. -/
def connectOnce (decoder : FrameDecoder) (x : XxHandshake) :
    List TransportEvent → Result ((Wire × Wire) × List TransportEvent)
  | .disconnected :: _ => .error (.socket "transport disconnected during connect")
  | _ :: events => performXxHandshake decoder x events
  | [] => .error (.socket "transport event channel closed during connect")

/-! ## The read loop -/

/-- The frames that `read_loop` passes to `process_incoming_frame`. -/
def readLoopFrames (decoder : FrameDecoder) :
    decoder.State → List TransportEvent → List Payload
  | state, .dataReceived data :: events =>
      let r := decoder.drain (decoder.feed state data)
      r.1 ++ readLoopFrames decoder r.2 events
  | state, .connected :: events => readLoopFrames decoder state events
  | _, .disconnected :: _ => []
  | _, [] => []

/-- The frames processed on a connection: `connect_once`, then `read_loop` with a
new decoder. -/
def incomingFrames (decoder : FrameDecoder) (x : XxHandshake) (events : List TransportEvent) :
    Result (List Payload) := do
  let (_, rest) ← connectOnce decoder x events
  return readLoopFrames decoder decoder.new rest

/-- The events of a transport that delivers these chunks. -/
def deliver (chunks : List Bytes) : List TransportEvent :=
  .connected :: chunks.map .dataReceived

/-- The handshake succeeds with this frame as the ServerHello. -/
structure XxHandshake.Succeeds (x : XxHandshake) (first : Payload) : Prop where
  hello : sendClientHello x = .ok ()
  finish : ∃ ciphers, finishHandshake x first = .ok ciphers

theorem readLoopFrames_chunks (decoder : FrameDecoder) (state : decoder.State)
    (chunks : List Bytes) :
    readLoopFrames decoder state (chunks.map .dataReceived) =
      (decoder.decodeChunks state chunks).1 := by
  induction chunks generalizing state with
  | nil => rfl
  | cons chunk chunks ih => exact congrArg _ (ih _)

/-- The handshake takes the chunks up to the first that completes a frame. -/
theorem recvHandshakeFrame_chunks {decoder : FrameDecoder} {state : decoder.State}
    {chunks : List Bytes} {first : Payload} {stream : Bytes}
    (hempty : frameCode.Incomplete (decoder.buffered state))
    (hstream : decoder.buffered state ++ chunks.flatten = frameCode.encode first ++ stream) :
    ∃ taken last rest lost, chunks = taken ++ last :: rest ∧
      recvHandshakeFrame decoder state (chunks.map .dataReceived) =
        .ok (first, rest.map .dataReceived) ∧
      frameCode.Incomplete (decoder.buffered state ++ taken.flatten) ∧
      decoder.buffered state ++ taken.flatten ++ last = frameCode.encode first ++ lost ∧
      stream = lost ++ rest.flatten := by
  induction chunks generalizing state with
  | nil => exact absurd (by simpa using hstream) (hempty first stream)
  | cons chunk chunks ih =>
      cases hdecode : decoder.decodeFrame (decoder.feed state chunk) with
      | some r =>
          obtain ⟨frame, state'⟩ := r
          have hbuffer := decoder.decodeFrame_some hdecode
          rw [decoder.buffered_feed] at hbuffer
          rw [List.flatten_cons, ← List.append_assoc, hbuffer, List.append_assoc] at hstream
          obtain ⟨rfl, hrest⟩ := Code.cancel hstream
          refine ⟨[], chunk, chunks, decoder.buffered state', rfl, ?_, ?_, ?_, hrest.symm⟩
          · simp [recvHandshakeFrame, hdecode]
          · simpa using hempty
          · simpa using hbuffer
      | none =>
          have hnone := decoder.decodeFrame_none hdecode
          rw [List.flatten_cons, ← List.append_assoc, ← decoder.buffered_feed] at hstream
          obtain ⟨taken, last, rest, lost, rfl, hrecv, hbefore, hlast, hrest⟩ := ih hnone hstream
          rw [decoder.buffered_feed] at hbefore hlast
          refine ⟨chunk :: taken, last, rest, lost, rfl, ?_, ?_, ?_, hrest⟩
          · rw [← hrecv]
            simp [recvHandshakeFrame, hdecode]
          · simpa using hbefore
          · simpa using hlast

/-- The frames processed are those of the stream without what the handshake had
in its buffer when it returned. -/
theorem incomingFrames_lost (decoder : FrameDecoder) {x : XxHandshake} {first : Payload}
    {stream : Bytes} {chunks : List Bytes} (hx : x.Succeeds first)
    (hstream : chunks.flatten = frameCode.encode first ++ stream) :
    ∃ taken last rest lost, chunks = taken ++ last :: rest ∧
      incomingFrames decoder x (deliver chunks) =
        .ok (decoder.decodeChunks decoder.new rest).1 ∧
      frameCode.Incomplete taken.flatten ∧
      taken.flatten ++ last = frameCode.encode first ++ lost ∧ stream = lost ++ rest.flatten := by
  have hnew : frameCode.Incomplete (decoder.buffered decoder.new) := by
    rw [decoder.buffered_new]
    exact Code.incomplete_nil
  obtain ⟨taken, last, rest, lost, hchunks, hrecv, hbefore, hlast, hrest⟩ :=
    recvHandshakeFrame_chunks hnew (by rw [decoder.buffered_new]; exact hstream)
  rw [decoder.buffered_new, List.nil_append] at hbefore hlast
  obtain ⟨ciphers, hfinish⟩ := hx.finish
  refine ⟨taken, last, rest, lost, hchunks, ?_, hbefore, hlast, hrest⟩
  rw [← readLoopFrames_chunks]
  simp only [incomingFrames, deliver, connectOnce, performXxHandshake, hx.hello, hrecv, hfinish,
    bind, Except.bind, pure, Except.pure]

/-- The first frame ends a chunk. -/
def EndsChunk (first : Payload) (chunks : List Bytes) : Prop :=
  ∃ before after, chunks = before ++ after ∧ before.flatten = frameCode.encode first

/-- Nothing is lost exactly if the first frame ends a chunk. -/
theorem endsChunk_iff {first : Payload} {taken rest : List Bytes} {last lost : Bytes}
    (hbefore : frameCode.Incomplete taken.flatten)
    (hlast : taken.flatten ++ last = frameCode.encode first ++ lost) :
    EndsChunk first (taken ++ last :: rest) ↔ lost = [] := by
  constructor
  · rintro ⟨before, after, heq, hfirst⟩
    rcases List.append_eq_append_iff.mp heq with ⟨c, rfl, hc⟩ | ⟨c, rfl, hc⟩
    · cases c with
      | nil =>
          rw [List.append_nil] at hfirst
          exact absurd (hfirst.trans (List.append_nil _).symm) (hbefore first [])
      | cons chunk c =>
          obtain ⟨rfl, -⟩ := List.cons_eq_cons.mp hc
          rw [List.flatten_append, List.flatten_cons, ← List.append_assoc, hlast,
            List.append_assoc] at hfirst
          exact (List.append_eq_nil_iff.mp (List.append_right_eq_self.mp hfirst)).1
    · exact absurd (by rw [List.flatten_append, hfirst]) (hbefore first c.flatten)
  · rintro rfl
    refine ⟨taken ++ [last], rest, by simp, ?_⟩
    rw [List.flatten_append, List.flatten_singleton, hlast, List.append_nil]

/-- A part of the stream without its beginning gives other frames. -/
theorem decodeChunks_eq_iff {decoder : FrameDecoder} {fs : List Payload} {lost : Bytes}
    {chunks : List Bytes} (h : frameCode.encodeAll fs = lost ++ chunks.flatten) :
    (decoder.decodeChunks decoder.new chunks).1 = fs ↔ lost = [] := by
  constructor
  · intro hfs
    have hnew : frameCode.Incomplete (decoder.buffered decoder.new) := by
      rw [decoder.buffered_new]
      exact Code.incomplete_nil
    have hparses := (Decoder.decodeChunks_parses decoder.new chunks hnew).eq
    rw [decoder.buffered_new, List.nil_append, hfs, h] at hparses
    have hlength := congrArg List.length hparses
    simp only [List.length_append] at hlength
    exact List.length_eq_zero_iff.mp (by omega)
  · rintro rfl
    exact Decoder.decodeChunks_new h.symm

/-- For a stream of frames, cut into chunks in any way, the frames processed after
the handshake are those after the first one exactly if the first one ends a
chunk. -/
theorem incomingFrames_eq_iff (decoder : FrameDecoder) {x : XxHandshake} {first : Payload}
    {fs : List Payload} {chunks : List Bytes} (hx : x.Succeeds first)
    (hstream : chunks.flatten = frameCode.encode first ++ frameCode.encodeAll fs) :
    incomingFrames decoder x (deliver chunks) = .ok fs ↔ EndsChunk first chunks := by
  obtain ⟨taken, last, rest, lost, rfl, hframes, hbefore, hlast, hrest⟩ :=
    incomingFrames_lost decoder hx hstream
  rw [hframes, endsChunk_iff hbefore hlast, ← decodeChunks_eq_iff hrest]
  exact ⟨Except.ok.inj, congrArg _⟩

/-- A handshake whose calls succeed. -/
def plainHandshake : XxHandshake where
  new := .ok ()
  buildClientHello := .ok []
  header := []
  encodeFrame bytes header := .ok (header.getD [] ++ lengthPrefix bytes.length ++ bytes)
  send _ := .ok ()
  readServerHelloAndBuildClientFinish _ := .ok []
  finish _ := .ok (shiftWire, shiftWire)

theorem plainHandshake_succeeds (first : Payload) : plainHandshake.Succeeds first :=
  ⟨rfl, _, rfl⟩

/-- A payload of one byte. -/
def bytePayload (b : UInt8) : Payload := ⟨[b], show 1 < 2 ^ 24 by decide⟩

theorem incomingFrames_eq_iff_two_chunks :
    incomingFrames bufferDecoder plainHandshake
      (deliver [frameCode.encode (bytePayload 1), frameCode.encode (bytePayload 2)]) =
        .ok [bytePayload 2] := by
  refine (incomingFrames_eq_iff bufferDecoder (plainHandshake_succeeds (bytePayload 1)) rfl).mpr ?_
  exact ⟨[_], [_], rfl, rfl⟩

/-- A frame in the chunk of the ServerHello is lost. -/
theorem incomingFrames_lose_frame :
    ¬ ∀ (decoder : FrameDecoder) (x : XxHandshake) (first : Payload) (fs : List Payload)
      (chunks : List Bytes), x.Succeeds first →
        chunks.flatten = frameCode.encode first ++ frameCode.encodeAll fs →
          incomingFrames decoder x (deliver chunks) = .ok fs := by
  intro h
  have hlost : incomingFrames bufferDecoder plainHandshake
      (deliver [frameCode.encode (bytePayload 1) ++ frameCode.encode (bytePayload 2)]) =
        .ok [] := rfl
  rw [h bufferDecoder plainHandshake (bytePayload 1) [bytePayload 2] _
    (plainHandshake_succeeds _) rfl] at hlost
  cases hlost

end Waepic.Connection
