import Waepic.Connection.ByteStream
import Waepic.Connection.WsTransport

/-!
# From one socket to the other

The two halves of the connection put together.  One end sends with `encrypt_and_send` over
its WebSocket transport: calls wait for the lock and for the sink, are refused, or dropped
before they write.  The network cuts the bytes that were written into messages in any way
and stops anywhere.  The other end has the same keys, and reads with its read pump, its
handshake, the frame decoder of `read_loop` and `decrypt_frame`.

It decrypts the plaintexts whose sends succeeded, in order and each once, as far as their
bytes have come; behind them there may be the one of a send in progress, and nothing else
(`sent_received`).

The frames on the wire are the frames that a server would send for these plaintexts
(`encrypts_of_counters`), and such frames are read as they were sent (`receivedFrames`).
-/

namespace Waepic.Connection

open Transition Framing

/-- `encode_frame` puts the length of its payload before it. -/
def Wire.Frames (wire : Wire) : Prop :=
  ∀ buffer framed, wire.encodeFrame buffer = .ok framed →
    ∃ frame : Payload, frame.1 = buffer ∧ framed = frameCode.encode frame

variable {wire : Wire} {handshake : List Bytes} {u : TunnelState}

/-- Frames that count along are those that a server sends for their plaintexts. -/
theorem encrypts_of_counters (hframes : wire.Frames) {frames : List Handed} {counter : UInt32}
    (hcounter : ∀ i frame, frames[i]? = some frame →
      frame.counter.toNat = counter.toNat + i ∧ frame.counter ≠ u32Max)
    (henc : ∀ frame ∈ frames,
      encryptAndFrame wire frame.counter frame.plaintext = .ok frame.framed) :
    ∃ fs, Encrypts wire counter (frames.map (·.plaintext)) fs ∧
      (frames.map (·.framed)).flatten = frameCode.encodeAll fs := by
  induction frames generalizing counter with
  | nil => exact ⟨[], .nil, rfl⟩
  | cons frame frames ih =>
      obtain ⟨htoNat, hmax⟩ := hcounter 0 frame rfl
      obtain rfl : frame.counter = counter := UInt32.toNat_inj.mp htoNat
      obtain ⟨buffer, hbuffer, hframed⟩ :=
        encryptAndFrame_ok_iff.mp (henc frame List.mem_cons_self)
      obtain ⟨payload, rfl, hencode⟩ := hframes _ _ hframed
      have hnext : ∀ i frame', frames[i]? = some frame' →
          frame'.counter.toNat = (frame.counter + 1).toNat + i ∧ frame'.counter ≠ u32Max := by
        intro i frame' hi
        obtain ⟨htoNat', hmax'⟩ := hcounter (i + 1) frame' hi
        refine ⟨?_, hmax'⟩
        rw [toNat_succ_of_ne_u32Max hmax]
        omega
      obtain ⟨fs, hrest, hbytes⟩ := ih hnext fun frame' hmem =>
        henc frame' (List.mem_cons_of_mem _ hmem)
      refine ⟨payload :: fs, .cons hmax hbuffer hrest, ?_⟩
      rw [List.map_cons, List.flatten_cons, hbytes, hencode, Code.encodeAll_cons]

/-- The bytes on the wire are those of a server that sends these plaintexts. -/
theorem TunnelInv.encrypts (hu : TunnelInv wire handshake u) (hframes : wire.Frames) :
    ∃ (frames : List Handed) (fs : List Payload), u.socket.Written frames ∧
      u.ws.frames = handshake ++ frames.map (·.framed) ∧
      Encrypts wire 0 (frames.map (·.plaintext)) fs ∧
      u.ws.frames.flatten = handshake.flatten ++ frameCode.encodeAll fs := by
  obtain ⟨frames, hwire, hwritten, hplace⟩ := hu.exists_frames
  have hcounter : ∀ i frame, frames[i]? = some frame →
      frame.counter.toNat = (0 : UInt32).toNat + i ∧ frame.counter ≠ u32Max := by
    intro i frame hi
    obtain ⟨htoNat, hmax⟩ := hplace i frame hi
    exact ⟨htoNat.trans (Nat.zero_add i).symm, hmax⟩
  obtain ⟨fs, henc, hbytes⟩ := encrypts_of_counters hframes hcounter fun frame hmem =>
    hu.socket.encrypted frame (hwritten.subset hmem)
  refine ⟨frames, fs, hwritten, hwire, henc, ?_⟩
  rw [hwire, List.flatten_append, hbytes]

/-- In every run of the sender in which the WebSocket does not fail and no call is dropped
while it writes, and every run of the read pump on bytes that it wrote: the plaintexts written
are those whose sends succeeded, and perhaps behind them the one of a send in progress, and
once the ServerHello was received the receiver decrypts a first part of them, in order, and all
of them once all bytes were received. -/
theorem sent_received (hwire : wire.Lawful) (hframes : wire.Frames) (decoder : FrameDecoder)
    {writer : Wire} {x : XxHandshake} {first : Payload} (hhello : sendClientHello x = .ok ())
    (hfinish : finishHandshake x first = .ok (writer, wire))
    (hu : ((tunnel wire [frameCode.encode first]).restrict Intact).Reachable u)
    {ws : Nat → WsItem}
    (hstream : ∀ k, GoesOn ws k → (payloads ws k).flatten <+: u.ws.frames.flatten)
    (hends : ∀ k, GoesOn ws k → frameCode.encode first <+: (payloads ws k).flatten →
      EndsChunk first (payloads ws k))
    {s : PumpState} (h : (readPump ws).Reachable s) {events : List TransportEvent}
    (hevents : events <+: s.put) :
    ∃ frames : List Handed, u.socket.Written frames ∧
      u.ws.frames = frameCode.encode first :: frames.map (·.framed) ∧
      (frameCode.encode first <+: receivedBytes events →
        ∃ gs, incomingFrames decoder x events = .ok gs) ∧
      ∀ gs, incomingFrames decoder x events = .ok gs →
        ReadHalf.decryptFrames wire ⟨0⟩ gs = ((frames.map (·.plaintext)).take gs.length).map .ok ∧
        (receivedBytes events = u.ws.frames.flatten →
          ReadHalf.decryptFrames wire ⟨0⟩ gs = (frames.map (·.plaintext)).map .ok) := by
  have hx : x.Succeeds first := ⟨hhello, _, hfinish⟩
  obtain ⟨frames, fs, hwritten, hwrote, henc, hbytes⟩ :=
    (tunnelInv_of_reachable hu).encrypts hframes
  rw [List.flatten_singleton] at hbytes
  rw [hbytes] at hstream ⊢
  refine ⟨frames, hwritten, hwrote, incomingFrames_of_first hx h hevents, fun gs hgs => ?_⟩
  obtain ⟨hfirst, hall⟩ := receivedFrames hx hstream hends h hevents hgs
  have hplain := henc.decryptFrames hwire hfirst
  refine ⟨hplain, fun hreceived => ?_⟩
  rw [hplain, hall hreceived, henc.length_eq, List.take_length]

theorem shiftWire_frames : shiftWire.Frames := by
  intro buffer framed h
  simp only [shiftWire] at h
  split at h
  · next hlt =>
      cases h
      exact ⟨⟨buffer, hlt⟩, rfl, rfl⟩
  · cases h

/-- Two plaintexts are sent, and a call between them is dropped before it writes. -/
theorem cutItems_sent :
    ∃ u, ((tunnel shiftWire [frameCode.encode (bytePayload 1)]).restrict Intact).Reachable u ∧
      (u.socket.handed.reverse.map fun h => (h.plaintext, h.outcome)) =
        [([5], .ok), ([7], .cancelled), ([8], .ok)] ∧
      u.ws.frames = [[0, 0, 1, 1], [0, 0, 1, 5], [0, 0, 1, 9]] := by
  have hmax : (1 : UInt32) ≠ u32Max := by decide
  have h0 : ((tunnel shiftWire [frameCode.encode (bytePayload 1)]).restrict Intact).Run []
      ⟨.new, .new [frameCode.encode (bytePayload 1)]⟩ := .start rfl
  have h1 := h0.tail (show TunnelStep _ _ (.socket (.call 0 [5])) _ ∧ True from
    ⟨.socket rfl (.call rfl), trivial⟩)
  have h2 := h1.tail (show TunnelStep _ _ (.socket (.lock 0)) _ ∧ True from
    ⟨.socket rfl (.lock rfl rfl), trivial⟩)
  have h3 := h2.tail (show TunnelStep _ _ (.handOver 0) _ ∧ True from
    ⟨.handOver (.handOver rfl (by decide) rfl) rfl (.send rfl), trivial⟩)
  have h4 := h3.tail (show TunnelStep _ _ (.write 0) _ ∧ True from
    ⟨.write (.write rfl rfl rfl), trivial⟩)
  have h5 := h4.tail (show TunnelStep _ _ (.sent 0) _ ∧ True from
    ⟨.sent (.sent rfl) (.sent rfl), trivial⟩)
  have h6 := h5.tail (show TunnelStep _ _ (.socket (.call 1 [7])) _ ∧ True from
    ⟨.socket rfl (.call rfl), trivial⟩)
  have h7 := h6.tail (show TunnelStep _ _ (.socket (.lock 1)) _ ∧ True from
    ⟨.socket rfl (.lock rfl rfl), trivial⟩)
  have h8 := h7.tail (show TunnelStep _ _ (.handOver 1) _ ∧ True from
    ⟨.handOver (.handOver rfl hmax rfl) rfl (.send rfl), trivial⟩)
  have h9 := h8.tail (show TunnelStep _ _ (.drop 1) _ ∧ Intact _ _ from
    ⟨.drop (.drop rfl) (.cancelSending rfl), fun h => WsStage.noConfusion (Option.some.inj h)⟩)
  have h10 := h9.tail (show TunnelStep _ _ (.socket (.call 2 [8])) _ ∧ True from
    ⟨.socket rfl (.call rfl), trivial⟩)
  have h11 := h10.tail (show TunnelStep _ _ (.socket (.lock 2)) _ ∧ True from
    ⟨.socket rfl (.lock rfl rfl), trivial⟩)
  have h12 := h11.tail (show TunnelStep _ _ (.handOver 2) _ ∧ True from
    ⟨.handOver (.handOver rfl hmax rfl) rfl (.send rfl), trivial⟩)
  have h13 := h12.tail (show TunnelStep _ _ (.write 2) _ ∧ True from
    ⟨.write (.write rfl rfl rfl), trivial⟩)
  have h14 := h13.tail (show TunnelStep _ _ (.sent 2) _ ∧ True from
    ⟨.sent (.sent rfl) (.sent rfl), trivial⟩)
  exact ⟨_, ⟨_, h14⟩, rfl, rfl⟩

/-- They are read from bytes that were cut. -/
theorem sent_received_cut :
    ∃ u s, ((tunnel shiftWire [frameCode.encode (bytePayload 1)]).restrict Intact).Reachable u ∧
      (u.socket.handed.reverse.map fun h => (h.plaintext, h.outcome)) =
        [([5], .ok), ([7], .cancelled), ([8], .ok)] ∧
      (readPump cutItems).Reachable s ∧
      incomingFrames bufferDecoder plainHandshake s.put = .ok cutFrames ∧
      ∃ frames : List Handed, u.socket.Written frames ∧
        ReadHalf.decryptFrames shiftWire ⟨0⟩ cutFrames = (frames.map (·.plaintext)).map .ok := by
  obtain ⟨s, hreachable, hput⟩ := cutItems_put
  obtain ⟨u, hu, hhanded, hwrote⟩ := cutItems_sent
  have hbytes : u.ws.frames.flatten =
      frameCode.encode (bytePayload 1) ++ frameCode.encodeAll cutFrames := by
    rw [hwrote]
    rfl
  have hframes : incomingFrames bufferDecoder plainHandshake s.put = .ok cutFrames := by
    rw [hput]
    exact cutItems_frames
  have hhello : sendClientHello plainHandshake = .ok () := rfl
  have hfinish : finishHandshake plainHandshake (bytePayload 1) = .ok (shiftWire, shiftWire) := rfl
  obtain ⟨frames, hwritten, -, -, hall⟩ := sent_received shiftWire_lawful shiftWire_frames
    bufferDecoder hhello hfinish hu (hbytes ▸ cutItems_stream) cutItems_ends hreachable
    List.prefix_rfl
  refine ⟨u, s, hu, hhanded, hreachable, hframes, frames, hwritten, (hall _ hframes).2 ?_⟩
  rw [hput, hbytes]
  rfl

end Waepic.Connection
