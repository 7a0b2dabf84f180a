import Waepic.Connection.ReadPump
import Waepic.Connection.SecureChannel
import Mathlib.Tactic.IntervalCases

/-!
# From the WebSocket to the plaintexts

What the server sends passes through the read pump, the event channel, the handshake, the
frame decoder of `read_loop` and `decrypt_frame`.  The WebSocket may cut its bytes into
messages in any way, as long as the ServerHello ends one; it may end at any item; and the
pump may be shut down, or its receiver dropped, at any moment.

Once the ServerHello has come frames are processed (`incomingFrames_of_first`).  They are the
first ones that the server sent (`incomingFrames_prefix`), and the read counter counts them, so
what is decrypted is a first part of the plaintexts, in order (`plaintexts_received`).
-/

namespace Waepic.Connection

open Transition Framing

/-! ## The server -/

/-- The frames that a server sends for these plaintexts, from this counter on. -/
inductive Encrypts (wire : Wire) : UInt32 → List Bytes → List Payload → Prop where
  | nil {counter : UInt32} : Encrypts wire counter [] []
  | cons {counter : UInt32} {plaintext : Bytes} {frame : Payload} {ps : List Bytes}
      {fs : List Payload} :
      counter ≠ u32Max → wire.encryptInPlaceWithCounter counter plaintext = .ok frame.1 →
      Encrypts wire (counter + 1) ps fs → Encrypts wire counter (plaintext :: ps) (frame :: fs)

/-- `decrypt_frame` on one frame after the other. -/
def ReadHalf.decryptFrames (wire : Wire) : ReadHalf → List Payload → List (Result Bytes)
  | _, [] => []
  | r, frame :: fs =>
      let (result, r) := r.decryptFrame wire frame.1
      result :: r.decryptFrames wire fs

/-- The first frames give the first plaintexts. -/
theorem Encrypts.decryptFrames {wire : Wire} (hwire : wire.Lawful) {counter : UInt32}
    {ps : List Bytes} {fs gs : List Payload} (h : Encrypts wire counter ps fs) (hgs : gs <+: fs) :
    ReadHalf.decryptFrames wire ⟨counter⟩ gs = (ps.take gs.length).map .ok := by
  induction h generalizing gs with
  | nil =>
      rw [List.prefix_nil.mp hgs]
      rfl
  | @cons counter plaintext frame ps fs hmax henc _ ih =>
      cases gs with
      | nil => rfl
      | cons g gs =>
          obtain ⟨rfl, hrest⟩ := List.cons_prefix_cons.mp hgs
          have hplain : ReadHalf.decryptFrame wire ⟨counter⟩ g.1 =
              (.ok plaintext, ⟨counter + 1⟩) := by
            rw [ReadHalf.decryptFrame, if_neg hmax, decryptFrame,
              hwire.decrypt_encrypt _ _ _ henc]
          rw [ReadHalf.decryptFrames, hplain]
          exact congrArg (.ok plaintext :: ·) (ih hrest)

/-! ## Events of a stream -/

/-- What ends the events: nothing, or a `Disconnected`. -/
def EndsEvents (tail : List TransportEvent) : Prop := tail = [] ∨ tail = [.disconnected]

variable {decoder : FrameDecoder} {state : decoder.State} {chunks : List Bytes}
  {tail : List TransportEvent}

theorem readLoopFrames_append (htail : EndsEvents tail) :
    readLoopFrames decoder state (chunks.map .dataReceived ++ tail) =
      (decoder.decodeChunks state chunks).1 := by
  induction chunks generalizing state with
  | nil => rcases htail with rfl | rfl <;> rfl
  | cons chunk chunks ih => exact congrArg _ ih

/-- Without a complete frame the handshake fails. -/
theorem recvHandshakeFrame_incomplete (htail : EndsEvents tail)
    (h : ∀ f more, decoder.buffered state ++ chunks.flatten ≠ frameCode.encode f ++ more) :
    ∃ e, recvHandshakeFrame decoder state (chunks.map .dataReceived ++ tail) = .error e := by
  induction chunks generalizing state with
  | nil => rcases htail with rfl | rfl <;> exact ⟨_, rfl⟩
  | cons chunk chunks ih =>
      rw [List.flatten_cons, ← List.append_assoc, ← decoder.buffered_feed] at h
      cases hdecode : decoder.decodeFrame (decoder.feed state chunk) with
      | some r =>
          have hbuffered := decoder.decodeFrame_some hdecode
          exact absurd (by rw [hbuffered, List.append_assoc]) (h r.1 _)
      | none =>
          obtain ⟨e, he⟩ := ih h
          refine ⟨e, ?_⟩
          rw [← he]
          simp [recvHandshakeFrame, hdecode]

/-- The events behind those that the handshake needs are left. -/
theorem recvHandshakeFrame_append {events more rest : List TransportEvent} {frame : Payload}
    (h : recvHandshakeFrame decoder state events = .ok (frame, rest)) :
    recvHandshakeFrame decoder state (events ++ more) = .ok (frame, rest ++ more) := by
  induction events generalizing state with
  | nil => cases h
  | cons e events ih =>
      cases e with
      | connected => exact ih h
      | disconnected => cases h
      | dataReceived data =>
          simp only [recvHandshakeFrame, List.cons_append] at h ⊢
          cases hdecode : decoder.decodeFrame (decoder.feed state data) with
          | none =>
              rw [hdecode] at h
              exact ih h
          | some r =>
              rw [hdecode] at h
              cases h
              rfl

/-- If the ServerHello ends a message of a stream, it ends one of those received. -/
theorem EndsChunk.mono {first : Payload} {items : List Bytes} (h : EndsChunk first items)
    (hchunks : chunks <+: items) (hfirst : frameCode.encode first <+: chunks.flatten) :
    EndsChunk first chunks := by
  obtain ⟨before, after, hitems, hbefore⟩ := h
  rcases List.prefix_or_prefix_of_prefix ⟨after, hitems.symm⟩ hchunks with hle | hle
  · obtain ⟨rest, rfl⟩ := hle
    exact ⟨before, rest, rfl, hbefore⟩
  · -- nothing was received behind it
    refine ⟨chunks, [], (List.append_nil _).symm, ?_⟩
    have hflatten : chunks.flatten <+: frameCode.encode first := by
      obtain ⟨rest, rfl⟩ := hle
      rw [← hbefore, List.flatten_append]
      exact List.prefix_append ..
    exact hflatten.eq_of_length_le hfirst.length_le

/-- Once the ServerHello has come `connect_once` succeeds.  What is lost is what stands behind
it in its chunk. -/
theorem connectOnce_of_first (decoder : FrameDecoder) {x : XxHandshake} {first : Payload}
    {stream : Bytes} (hx : x.Succeeds first) (tail : List TransportEvent)
    (hchunk : chunks.flatten = frameCode.encode first ++ stream) :
    ∃ ciphers taken last received lost, finishHandshake x first = .ok ciphers ∧
      chunks = taken ++ last :: received ∧
      connectOnce decoder x (deliver chunks ++ tail) =
        .ok (ciphers, received.map .dataReceived ++ tail) ∧
      frameCode.Incomplete taken.flatten ∧ taken.flatten ++ last = frameCode.encode first ++ lost ∧
      stream = lost ++ received.flatten := by
  have hnew : frameCode.Incomplete (decoder.buffered decoder.new) := by
    rw [decoder.buffered_new]
    exact Code.incomplete_nil
  obtain ⟨taken, last, received, lost, hsplit, hrecv, hbefore, hlast, hrest⟩ :=
    recvHandshakeFrame_chunks hnew (by rw [decoder.buffered_new]; exact hchunk)
  rw [decoder.buffered_new, List.nil_append] at hbefore hlast
  obtain ⟨ciphers, hfinish⟩ := hx.finish
  refine ⟨ciphers, taken, last, received, lost, hfinish, hsplit, ?_, hbefore, hlast, hrest⟩
  have hrecv' : recvHandshakeFrame decoder decoder.new (chunks.map .dataReceived ++ tail) =
      .ok (first, received.map .dataReceived ++ tail) := recvHandshakeFrame_append hrecv
  simp only [deliver, List.cons_append, connectOnce, performXxHandshake, hx.hello, hrecv', hfinish,
    bind, Except.bind, pure, Except.pure]

/-- `connect_once` leaves the chunks behind the ServerHello. -/
theorem connectOnce_leaves {x : XxHandshake} {first : Payload} {fs : List Payload}
    {items : List Bytes} (hx : x.Succeeds first)
    (hstream : items.flatten <+: frameCode.encode first ++ frameCode.encodeAll fs)
    (hends : frameCode.encode first <+: items.flatten → EndsChunk first items)
    (hchunks : chunks <+: items) (htail : EndsEvents tail) {ciphers : Wire × Wire}
    {rest : List TransportEvent}
    (h : connectOnce decoder x (deliver chunks ++ tail) = .ok (ciphers, rest)) :
    finishHandshake x first = .ok ciphers ∧ ∃ received : List Bytes,
      rest = received.map .dataReceived ++ tail ∧ received.flatten <+: frameCode.encodeAll fs ∧
      chunks.flatten = frameCode.encode first ++ received.flatten := by
  have hflatten : chunks.flatten <+: items.flatten := by
    obtain ⟨rest, rfl⟩ := hchunks
    rw [List.flatten_append]
    exact List.prefix_append ..
  by_cases hfirst : frameCode.encode first <+: chunks.flatten
  · obtain ⟨stream, hchunk⟩ := hfirst
    have hendsChunk := (hends (List.IsPrefix.trans ⟨stream, hchunk⟩ hflatten)).mono hchunks
      ⟨stream, hchunk⟩
    obtain ⟨ciphers', taken, last, received, lost, hfinish, rfl, hconnect, hbefore, hlast, hrest⟩ :=
      connectOnce_of_first decoder hx tail hchunk.symm
    obtain rfl := (endsChunk_iff hbefore hlast).mp hendsChunk
    obtain rfl : stream = received.flatten := hrest
    rw [hconnect] at h
    cases h
    have hsplit := hflatten.trans hstream
    rw [← hchunk] at hsplit
    exact ⟨hfinish, received, rfl, (List.prefix_append_right_inj _).mp hsplit, hchunk.symm⟩
  · have hincomplete : ∀ f more,
        decoder.buffered decoder.new ++ chunks.flatten ≠ frameCode.encode f ++ more := by
      intro f more heq
      rw [decoder.buffered_new, List.nil_append] at heq
      obtain ⟨rest, hrest⟩ := hflatten.trans hstream
      rw [heq, List.append_assoc] at hrest
      obtain ⟨rfl, -⟩ := Code.cancel hrest
      exact hfirst ⟨more, heq.symm⟩
    obtain ⟨e, he⟩ := recvHandshakeFrame_incomplete htail hincomplete
    simp only [deliver, List.cons_append, connectOnce, performXxHandshake, hx.hello, he, bind,
      Except.bind] at h
    cases h

/-- The frames processed are the first ones behind the ServerHello, and all of them once
everything was received. -/
theorem incomingFrames_prefix {x : XxHandshake} {first : Payload} {fs gs : List Payload}
    {items : List Bytes} (hx : x.Succeeds first)
    (hstream : items.flatten <+: frameCode.encode first ++ frameCode.encodeAll fs)
    (hends : frameCode.encode first <+: items.flatten → EndsChunk first items)
    (hchunks : chunks <+: items) (htail : EndsEvents tail)
    (h : incomingFrames decoder x (deliver chunks ++ tail) = .ok gs) :
    gs <+: fs ∧
      (chunks.flatten = frameCode.encode first ++ frameCode.encodeAll fs → gs = fs) := by
  cases hconnect : connectOnce decoder x (deliver chunks ++ tail) with
  | error e =>
      simp only [incomingFrames, hconnect, bind, Except.bind] at h
      cases h
  | ok connected =>
      obtain ⟨ciphers, rest⟩ := connected
      obtain ⟨-, received, rfl, hreceived, hchunk⟩ :=
        connectOnce_leaves hx hstream hends hchunks htail hconnect
      simp only [incomingFrames, hconnect, bind, Except.bind, pure, Except.pure] at h
      obtain rfl := Except.ok.inj h
      rw [readLoopFrames_append htail]
      refine ⟨Decoder.decodeChunks_prefix hreceived, fun hall => ?_⟩
      rw [hchunk] at hall
      exact Decoder.decodeChunks_new (List.append_cancel_left hall)

/-! ## Through the pump -/

theorem Encrypts.length_eq {wire : Wire} {counter : UInt32} {ps : List Bytes} {fs : List Payload}
    (h : Encrypts wire counter ps fs) : fs.length = ps.length := by
  induction h with
  | nil => rfl
  | cons _ _ _ ih => rw [List.length_cons, List.length_cons, ih]

/-- The bytes of some events. -/
def receivedBytes (events : List TransportEvent) : Bytes :=
  (events.filterMap fun | .dataReceived data => some data | _ => none).flatten

theorem receivedBytes_dataReceived (data : Bytes) (events : List TransportEvent) :
    receivedBytes (.dataReceived data :: events) = data ++ receivedBytes events := rfl

theorem receivedBytes_deliver (htail : EndsEvents tail) :
    receivedBytes (deliver chunks ++ tail) = chunks.flatten := by
  have hdata : (chunks.map TransportEvent.dataReceived).filterMap
      (fun | .dataReceived data => some data | _ => none) = chunks := by
    rw [List.filterMap_map]
    exact List.filterMap_some
  have htail' : tail.filterMap (fun | .dataReceived data => some data | _ => none) =
      ([] : List Bytes) := by
    rcases htail with rfl | rfl <;> rfl
  rw [receivedBytes, List.filterMap_append, htail', List.append_nil]
  exact congrArg List.flatten hdata

/-- What was put is a part of the stream, and perhaps its end. -/
theorem PumpInv.stream {ws : Nat → WsItem} {s : PumpState} (hinv : PumpInv ws s) :
    ∃ k sent, GoesOn ws k ∧ sent <+: payloads ws k ∧
      (s.put = dataEvents sent ∨ s.put = dataEvents sent ++ [.disconnected]) := by
  cases hinv with
  | selecting _ hgoes hput => exact ⟨_, _, hgoes, List.prefix_rfl, .inl hput⟩
  | sending k _ _ hgoes _ _ hput =>
      exact ⟨k, _, fun j hj => hgoes j (Nat.lt_succ_of_lt hj), List.prefix_rfl, .inl hput⟩
  | finishing k sent _ hleft hput | unheard k sent _ _ hleft hput =>
      exact ⟨k, sent, hleft.goesOn, hleft.first, .inl hput⟩
  | heard k sent _ hleft hput => exact ⟨k, sent, hleft.goesOn, hleft.first, .inr hput⟩

/-- A first part of the events of a pump. -/
theorem prefix_of_put {ws : Nat → WsItem} {s : PumpState} (hinv : PumpInv ws s)
    {events : List TransportEvent} (hevents : events <+: s.put) :
    events = [] ∨ ∃ k chunks tail, GoesOn ws k ∧ chunks <+: payloads ws k ∧ EndsEvents tail ∧
      events = deliver chunks ++ tail := by
  obtain ⟨k, sent, hgoes, hsent, hput⟩ := hinv.stream
  have hdata {es : List TransportEvent} (hes : es <+: sent.map .dataReceived) :
      ∃ chunks tail, chunks <+: payloads ws k ∧ EndsEvents tail ∧
        es = chunks.map .dataReceived ++ tail := by
    obtain ⟨chunks, hchunks, rfl⟩ := List.prefix_map_iff.mp hes
    exact ⟨chunks, [], hchunks.trans hsent, .inl rfl, (List.append_nil _).symm⟩
  cases events with
  | nil => exact .inl rfl
  | cons e es =>
      right
      have hes : e = .connected ∧ ∃ chunks tail, chunks <+: payloads ws k ∧ EndsEvents tail ∧
          es = chunks.map .dataReceived ++ tail := by
        rcases hput with hput | hput
        · rw [hput] at hevents
          obtain ⟨rfl, hes⟩ := List.cons_prefix_cons.mp hevents
          exact ⟨rfl, hdata hes⟩
        · rw [hput] at hevents
          obtain ⟨rfl, hes⟩ := List.cons_prefix_cons.mp hevents
          rcases List.prefix_concat_iff.mp hes with rfl | hes
          · exact ⟨rfl, sent, [.disconnected], hsent, .inr rfl, rfl⟩
          · exact ⟨rfl, hdata hes⟩
      obtain ⟨rfl, chunks, tail, hchunks, htail, rfl⟩ := hes
      exact ⟨k, chunks, tail, hgoes, hchunks, htail, rfl⟩

/-- The frames processed of a first part of the events of a pump. -/
theorem receivedFrames {decoder : FrameDecoder} {x : XxHandshake} {first : Payload}
    {fs gs : List Payload} (hx : x.Succeeds first) {ws : Nat → WsItem}
    (hstream : ∀ k, GoesOn ws k →
      (payloads ws k).flatten <+: frameCode.encode first ++ frameCode.encodeAll fs)
    (hends : ∀ k, GoesOn ws k → frameCode.encode first <+: (payloads ws k).flatten →
      EndsChunk first (payloads ws k))
    {s : PumpState} (h : (readPump ws).Reachable s) {events : List TransportEvent}
    (hevents : events <+: s.put) (hgs : incomingFrames decoder x events = .ok gs) :
    gs <+: fs ∧ (receivedBytes events = frameCode.encode first ++ frameCode.encodeAll fs →
      gs = fs) := by
  obtain ⟨as, hrun⟩ := h
  rcases prefix_of_put (pumpInv_of_run hrun) hevents with
    rfl | ⟨k, chunks, tail, hgoes, hchunks, htail, rfl⟩
  · cases hgs
  · rw [receivedBytes_deliver htail]
    exact incomingFrames_prefix hx (hstream k hgoes) (hends k hgoes) hchunks htail hgs

/-- The frames are processed once the ServerHello was received. -/
theorem incomingFrames_of_first {decoder : FrameDecoder} {x : XxHandshake} {first : Payload}
    (hx : x.Succeeds first) {ws : Nat → WsItem} {s : PumpState} (h : (readPump ws).Reachable s)
    {events : List TransportEvent} (hevents : events <+: s.put)
    (hfirst : frameCode.encode first <+: receivedBytes events) :
    ∃ gs, incomingFrames decoder x events = .ok gs := by
  obtain ⟨as, hrun⟩ := h
  rcases prefix_of_put (pumpInv_of_run hrun) hevents with
    rfl | ⟨k, chunks, tail, -, -, htail, rfl⟩
  · exact absurd (List.prefix_nil.mp hfirst) (frameCode.encode_ne_nil first)
  · rw [receivedBytes_deliver htail] at hfirst
    obtain ⟨stream, hchunk⟩ := hfirst
    obtain ⟨ciphers, taken, last, received, lost, -, -, hconnect, -⟩ :=
      connectOnce_of_first decoder hx tail hchunk.symm
    exact ⟨_, by rw [incomingFrames, hconnect]; rfl⟩

/-- In every run of the read pump, whatever part of its events has been processed: frames are
processed once the ServerHello was received, and what was decrypted then is a first part of the
plaintexts that the server sent, in order, and all of them once all bytes were received. -/
theorem plaintexts_received {wire writer : Wire} (hwire : wire.Lawful) (decoder : FrameDecoder)
    {x : XxHandshake} {first : Payload} {ps : List Bytes} {fs : List Payload}
    (hhello : sendClientHello x = .ok ()) (hfinish : finishHandshake x first = .ok (writer, wire))
    (henc : Encrypts wire 0 ps fs) {ws : Nat → WsItem}
    (hstream : ∀ k, GoesOn ws k →
      (payloads ws k).flatten <+: frameCode.encode first ++ frameCode.encodeAll fs)
    (hends : ∀ k, GoesOn ws k → frameCode.encode first <+: (payloads ws k).flatten →
      EndsChunk first (payloads ws k))
    {s : PumpState} (h : (readPump ws).Reachable s) {events : List TransportEvent}
    (hevents : events <+: s.put) :
    (frameCode.encode first <+: receivedBytes events →
      ∃ gs, incomingFrames decoder x events = .ok gs) ∧
    ∀ gs, incomingFrames decoder x events = .ok gs →
      ReadHalf.decryptFrames wire ⟨0⟩ gs = (ps.take gs.length).map .ok ∧
      (receivedBytes events = frameCode.encode first ++ frameCode.encodeAll fs →
        ReadHalf.decryptFrames wire ⟨0⟩ gs = ps.map .ok) := by
  have hx : x.Succeeds first := ⟨hhello, _, hfinish⟩
  refine ⟨incomingFrames_of_first hx h hevents, fun gs hgs => ?_⟩
  obtain ⟨hfirst, hall⟩ := receivedFrames hx hstream hends h hevents hgs
  have hplain := henc.decryptFrames hwire hfirst
  refine ⟨hplain, fun hbytes => ?_⟩
  rw [hplain, hall hbytes, henc.length_eq, List.take_length]

/-- A ServerHello, and two frames in three messages. -/
def cutItems : Nat → WsItem
  | 0 => .binary (frameCode.encode (bytePayload 1))
  | 1 => .binary [0, 0]
  | 2 => .binary [1, 5, 0]
  | 3 => .binary [0, 1, 9]
  | _ => .close

/-- What the frames are the ciphertexts of. -/
def cutFrames : List Payload := [bytePayload 5, bytePayload 9]

/-- The events of the pump. -/
def cutEvents : List TransportEvent :=
  [.connected, .dataReceived [0, 0, 1, 1], .dataReceived [0, 0], .dataReceived [1, 5, 0],
    .dataReceived [0, 1, 9]]

theorem le_of_goesOn_cutItems {k : Nat} (h : GoesOn cutItems k) : k ≤ 4 := by
  by_contra hlt
  have hstops := h 4 (by omega)
  cases hstops

theorem cutItems_stream : ∀ k, GoesOn cutItems k → (payloads cutItems k).flatten <+:
    frameCode.encode (bytePayload 1) ++ frameCode.encodeAll cutFrames := by
  intro k hgoes
  have hk := le_of_goesOn_cutItems hgoes
  interval_cases k <;> decide

theorem cutItems_ends : ∀ k, GoesOn cutItems k →
    frameCode.encode (bytePayload 1) <+: (payloads cutItems k).flatten →
      EndsChunk (bytePayload 1) (payloads cutItems k) := by
  intro k hgoes hfirst
  have hk := le_of_goesOn_cutItems hgoes
  interval_cases k
  · exact absurd hfirst (by decide)
  · exact ⟨[_], [], rfl, rfl⟩
  · exact ⟨[_], [_], rfl, rfl⟩
  · exact ⟨[_], [_, _], rfl, rfl⟩
  · exact ⟨[_], [_, _, _], rfl, rfl⟩

theorem cutItems_put : ∃ s, (readPump cutItems).Reachable s ∧ s.put = cutEvents := by
  have h0 : (readPump cutItems).Run [] .fromWebsocket := .start rfl
  have h1 := h0.tail (.binary rfl (show _ = WsItem.binary [0, 0, 1, 1] from rfl))
  have h2 := h1.tail (.sent rfl rfl rfl)
  have h3 := h2.tail (.binary rfl (show _ = WsItem.binary [0, 0] from rfl))
  have h4 := h3.tail (.sent rfl rfl rfl)
  have h5 := h4.tail (.binary rfl (show _ = WsItem.binary [1, 5, 0] from rfl))
  have h6 := h5.tail (.sent rfl rfl rfl)
  have h7 := h6.tail (.binary rfl (show _ = WsItem.binary [0, 1, 9] from rfl))
  have h8 := h7.tail (.sent rfl rfl rfl)
  exact ⟨_, ⟨_, h8⟩, rfl⟩

theorem cutItems_encrypts : Encrypts shiftWire 0 [[5], [8]] cutFrames :=
  .cons (by decide) rfl (.cons (by decide) rfl .nil)

theorem cutItems_frames :
    incomingFrames bufferDecoder plainHandshake cutEvents = .ok cutFrames := by
  show Except.ok (readLoopFrames bufferDecoder bufferDecoder.new
    ([[0, 0], [1, 5, 0], [0, 1, 9]].map .dataReceived ++ [])) = _
  have hflatten : [[0, 0], [1, 5, 0], [0, 1, 9]].flatten = frameCode.encodeAll cutFrames := rfl
  rw [readLoopFrames_append (.inl rfl), Decoder.decodeChunks_new hflatten]

theorem plaintexts_received_cut :
    ∃ s, (readPump cutItems).Reachable s ∧ s.put = cutEvents ∧
      incomingFrames bufferDecoder plainHandshake s.put = .ok cutFrames ∧
      ReadHalf.decryptFrames shiftWire ⟨0⟩ cutFrames = [.ok [5], .ok [8]] := by
  obtain ⟨s, hreachable, hput⟩ := cutItems_put
  have hframes : incomingFrames bufferDecoder plainHandshake s.put = .ok cutFrames := by
    rw [hput]
    exact cutItems_frames
  refine ⟨s, hreachable, hput, hframes, ?_⟩
  have hhello : sendClientHello plainHandshake = .ok () := rfl
  have hfinish : finishHandshake plainHandshake (bytePayload 1) = .ok (shiftWire, shiftWire) := rfl
  exact ((plaintexts_received shiftWire_lawful bufferDecoder hhello hfinish cutItems_encrypts
    cutItems_stream cutItems_ends hreachable List.prefix_rfl).2 _ hframes).1

end Waepic.Connection
