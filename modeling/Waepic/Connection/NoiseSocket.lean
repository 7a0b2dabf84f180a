import Waepic.Connection.Error
import Waepic.Library.Transition
import Mathlib.Logic.Function.Basic

/-!
# The Noise socket

`NoiseSocket::encrypt_and_send` takes the `write_counter` mutex, encrypts under
the counter it reads, hands the framed ciphertext to `Transport::send` and
advances the counter only once that send has succeeded.  The guard is held
across the send, so at most one call is between reading the counter and leaving.

A call may leave in five ways: the counter is exhausted, encryption or framing
fails, the send succeeds, the send fails, or the future is dropped.  A future
can be dropped at its two awaits, the lock and the send; `send_keepalive` drops
it at the second after ten seconds.

The cipher and the framing are wacore's.  They are parameters, with what the
socket relies on in `Wire.Lawful`: decryption under a counter inverts
encryption under it, and framing puts a three-byte length before its argument.

`SocketState.handed` is the history of the transport, newest first.  It is read
by no step; a step only adds the frame it hands over and records how the send of
the newest frame ended.
-/

namespace Waepic.Connection

open Transition

/-! ## The cipher and the framing -/

/-- The cipher of one direction and the framing, as wacore provides them. -/
structure Wire where
  /-- `NoiseCipher::encrypt_in_place_with_counter`. -/
  encryptInPlaceWithCounter : UInt32 → Bytes → Except String Bytes
  /-- `NoiseCipher::decrypt_in_place_with_counter`. -/
  decryptInPlaceWithCounter : UInt32 → Bytes → Except String Bytes
  /-- `framing::encode_frame_into` with no header. -/
  encodeFrame : Bytes → Except String Bytes

/-- What the socket relies on. -/
structure Wire.Lawful (wire : Wire) : Prop where
  /-- Decryption inverts encryption under the same counter. -/
  decrypt_encrypt : ∀ counter plaintext ciphertext,
    wire.encryptInPlaceWithCounter counter plaintext = .ok ciphertext →
      wire.decryptInPlaceWithCounter counter ciphertext = .ok plaintext
  /-- A frame is a three-byte length followed by its payload. -/
  drop_encodeFrame : ∀ buffer framed, wire.encodeFrame buffer = .ok framed →
    framed.drop 3 = buffer

/-- Encrypts and frames a plaintext payload for sending. -/
def encryptAndFrame (wire : Wire) (counter : UInt32) (plaintext : Bytes) : Result Bytes :=
  match wire.encryptInPlaceWithCounter counter plaintext with
  | .error e => .error (.encrypt ("encrypt failed: " ++ e))
  | .ok buffer =>
      match wire.encodeFrame buffer with
      | .error e => .error (.protocol ("frame encode failed: " ++ e))
      | .ok framed => .ok framed

/-- Decrypts a received frame. -/
def decryptFrame (wire : Wire) (counter : UInt32) (ciphertext : Bytes) : Result Bytes :=
  match wire.decryptInPlaceWithCounter counter ciphertext with
  | .error e => .error (.decrypt ("decrypt failed: " ++ e))
  | .ok plaintext => .ok plaintext

theorem encryptAndFrame_ok_iff {wire : Wire} {counter : UInt32} {plaintext framed : Bytes} :
    encryptAndFrame wire counter plaintext = .ok framed ↔
      ∃ buffer, wire.encryptInPlaceWithCounter counter plaintext = .ok buffer ∧
        wire.encodeFrame buffer = .ok framed := by
  unfold encryptAndFrame
  cases wire.encryptInPlaceWithCounter counter plaintext with
  | error e => simp
  | ok buffer =>
      cases hf : wire.encodeFrame buffer with
      | error e => simp [hf]
      | ok framed' => simp [hf]

/-- Stripping the length and decrypting under the same counter gives the
plaintext back. -/
theorem Wire.Lawful.decryptFrame_encryptAndFrame {wire : Wire} (hwire : wire.Lawful)
    {counter : UInt32} {plaintext framed : Bytes}
    (h : encryptAndFrame wire counter plaintext = .ok framed) :
    decryptFrame wire counter (framed.drop 3) = .ok plaintext := by
  obtain ⟨buffer, henc, hframe⟩ := encryptAndFrame_ok_iff.mp h
  rw [hwire.drop_encodeFrame _ _ hframe, decryptFrame, hwire.decrypt_encrypt _ _ _ henc]

/-- Under one counter, one frame is the frame of one plaintext. -/
theorem Wire.Lawful.encryptAndFrame_inj {wire : Wire} (hwire : wire.Lawful)
    {counter : UInt32} {p q framed : Bytes} (hp : encryptAndFrame wire counter p = .ok framed)
    (hq : encryptAndFrame wire counter q = .ok framed) : p = q := by
  have h := (hwire.decryptFrame_encryptAndFrame hp).symm.trans
    (hwire.decryptFrame_encryptAndFrame hq)
  exact Except.ok.inj h

/-! ## Calls and their history -/

/-- A call of `encrypt_and_send`. -/
abbrev SenderId := Nat

/-- How far a call of `encrypt_and_send` is. -/
inductive SendStage where
  /-- At `write_counter.lock().await`. -/
  | waiting (plaintext : Bytes)
  /-- The guard is held and the counter is read next. -/
  | locked (plaintext : Bytes)
  /-- The guard is held and the call is at `transport.send(framed).await`. -/
  | sending
deriving DecidableEq, Repr

/-- The call holds the guard of the write counter. -/
def SendStage.HoldsGuard : SendStage → Prop
  | .waiting _ => False
  | .locked _ => True
  | .sending => True

/-- How the send of a frame ended. -/
inductive SendOutcome where
  | pending
  | ok
  | failed
  | cancelled
deriving DecidableEq, Repr

/-- A frame handed to `Transport::send`. -/
structure Handed where
  /-- The counter it was encrypted under. -/
  counter : UInt32
  /-- The plaintext of the call. -/
  plaintext : Bytes
  /-- What the transport got. -/
  framed : Bytes
  /-- How the send ended. -/
  outcome : SendOutcome
deriving DecidableEq, Repr

/-- Record how the send of the newest frame ended. -/
def recordOutcome (outcome : SendOutcome) : List Handed → List Handed
  | [] => []
  | frame :: older => { frame with outcome := outcome } :: older

/-- The state of one socket. -/
structure SocketState where
  /-- The value behind the `write_counter` mutex. -/
  writeCounter : UInt32
  /-- The call that holds the mutex. -/
  guard : Option SenderId
  /-- The calls in progress. -/
  calls : SenderId → Option SendStage
  /-- The frames handed to the transport, newest first. -/
  handed : List Handed
  /-- What the calls returned. -/
  returned : SenderId → Option (Result Unit)

/-- The socket `NoiseSocket::new` gives. -/
def SocketState.new : SocketState where
  writeCounter := 0
  guard := none
  calls := fun _ => none
  handed := []
  returned := fun _ => none

/-- A call leaves: its guard, if it holds it, is dropped. -/
def SocketState.leave (s : SocketState) (c : SenderId) : SocketState :=
  { s with guard := none, calls := Function.update s.calls c none }

/-- A call leaves with a result. -/
def SocketState.returnWith (s : SocketState) (c : SenderId) (r : Result Unit) : SocketState :=
  { s.leave c with returned := Function.update s.returned c (some r) }

/-- `u32::MAX`. -/
def u32Max : UInt32 := 4294967295

/-! ## Steps -/

/-- What can happen to a socket. -/
inductive SocketAction where
  | call (c : SenderId) (plaintext : Bytes)
  | lock (c : SenderId)
  | exhausted (c : SenderId)
  | rejected (c : SenderId) (e : ConnectionError)
  | handOver (c : SenderId)
  | sent (c : SenderId)
  | sendFailed (c : SenderId) (e : String)
  | cancelWaiting (c : SenderId)
  | cancelSending (c : SenderId)
deriving DecidableEq, Repr

/-- The steps of `encrypt_and_send`, one for each stretch between two awaits. -/
inductive SocketStep (wire : Wire) : SocketState → SocketAction → SocketState → Prop where
  /-- A call starts and queues for the mutex. -/
  | call {s : SocketState} {c : SenderId} {plaintext : Bytes} :
      s.calls c = none →
      SocketStep wire s (.call c plaintext)
        { s with calls := Function.update s.calls c (some (.waiting plaintext)) }
  /-- `write_counter.lock().await` returns. -/
  | lock {s : SocketState} {c : SenderId} {plaintext : Bytes} :
      s.calls c = some (.waiting plaintext) → s.guard = none →
      SocketStep wire s (.lock c)
        { s with guard := some c
                 calls := Function.update s.calls c (some (.locked plaintext)) }
  /-- The counter is at its maximum: the call is refused. -/
  | exhausted {s : SocketState} {c : SenderId} {plaintext : Bytes} :
      s.calls c = some (.locked plaintext) → s.writeCounter = u32Max →
      SocketStep wire s (.exhausted c)
        (s.returnWith c (.error (.encrypt "write counter exhausted")))
  /-- Encryption or framing fails: nothing reaches the transport. -/
  | rejected {s : SocketState} {c : SenderId} {plaintext : Bytes} {e : ConnectionError} :
      s.calls c = some (.locked plaintext) → s.writeCounter ≠ u32Max →
      encryptAndFrame wire s.writeCounter plaintext = .error e →
      SocketStep wire s (.rejected c e) (s.returnWith c (.error e))
  /-- The frame is handed to `Transport::send`. -/
  | handOver {s : SocketState} {c : SenderId} {plaintext framed : Bytes} :
      s.calls c = some (.locked plaintext) → s.writeCounter ≠ u32Max →
      encryptAndFrame wire s.writeCounter plaintext = .ok framed →
      SocketStep wire s (.handOver c)
        { s with calls := Function.update s.calls c (some .sending)
                 handed := ⟨s.writeCounter, plaintext, framed, .pending⟩ :: s.handed }
  /-- The send succeeds: the counter is advanced. -/
  | sent {s : SocketState} {c : SenderId} :
      s.calls c = some .sending →
      SocketStep wire s (.sent c)
        { s.returnWith c (.ok ()) with
            writeCounter := s.writeCounter + 1
            handed := recordOutcome .ok s.handed }
  /-- The send returns an error: `?` leaves before the counter is advanced. -/
  | sendFailed {s : SocketState} {c : SenderId} {e : String} :
      s.calls c = some .sending →
      SocketStep wire s (.sendFailed c e)
        { s.returnWith c (.error (.socket ("transport send failed: " ++ e))) with
            handed := recordOutcome .failed s.handed }
  /-- The future is dropped while it waits for the mutex. -/
  | cancelWaiting {s : SocketState} {c : SenderId} {plaintext : Bytes} :
      s.calls c = some (.waiting plaintext) →
      SocketStep wire s (.cancelWaiting c)
        { s with calls := Function.update s.calls c none }
  /-- The future is dropped while the send is pending. -/
  | cancelSending {s : SocketState} {c : SenderId} :
      s.calls c = some .sending →
      SocketStep wire s (.cancelSending c)
        { s.leave c with handed := recordOutcome .cancelled s.handed }

/-- The runs of one socket. -/
def noiseSocket (wire : Wire) : System SocketState SocketAction where
  init s := s = .new
  step := SocketStep wire

end Waepic.Connection
