import Waepic.Connection.SecureChannel
import Mathlib.Data.List.Infix

/-!
# The WebSocket transport

`WsTransport` keeps the sending half of the WebSocket behind an async mutex.  `send`
takes the mutex and writes a message; `disconnect` signals the read pump, takes the half
out and writes a close frame.  Both hold the guard while they write.

So the messages written are the data of the sends in the order in which they got the
mutex, and once a `disconnect` got it a close, after which nothing is written
(`close_is_last`).

`NoiseSocket::encrypt_and_send` awaits `send` with the write counter locked.  A frame
whose send is refused, or dropped while it waits for the mutex, is not written, and the
counter stays: so unless the WebSocket itself fails, or a call is dropped while it writes,
the frames on the wire carry the counters 0, 1, 2, … (`frames_on_wire`), each counter on
one frame, also after sends that were refused or given up.
-/

namespace Waepic.Connection

open Transition

/-! ## The transport -/

/-- `tungstenite::Message`, as far as it is written. -/
inductive WsMessage where
  | binary (data : Bytes)
  | close
deriving DecidableEq, Repr

/-- A call of `send` or of `disconnect`. -/
inductive WsCall where
  | send (c : SenderId)
  | disconnect (c : SenderId)
deriving DecidableEq, Repr

/-- How far a call is. -/
inductive WsStage where
  /-- `send`, at `sink.lock().await`. -/
  | waiting (data : Bytes)
  /-- `send`, at `sink.send(..).await`. -/
  | writing
  /-- `disconnect`, at `sink.lock().await`. -/
  | leaving
  /-- `disconnect`, at its `sink.send(..).await`. -/
  | closing
deriving DecidableEq, Repr

/-- The call holds the guard of the sink. -/
def WsStage.holdsGuard : WsStage → Bool
  | .writing | .closing => true
  | .waiting _ | .leaving => false

structure WsState where
  /-- The sink is behind the mutex. -/
  hasSink : Bool
  guard : Option WsCall
  calls : WsCall → Option WsStage
  /-- What was handed to the sink, oldest first. -/
  written : List WsMessage
  /-- A signal is in the channel to the read pump. -/
  shutdown : Bool

/-- `WsTransport::new`, after these sends of the handshake. -/
def WsState.new (sent : List Bytes) : WsState where
  hasSink := true
  guard := none
  calls _ := none
  written := sent.map .binary
  shutdown := false

/-- A call leaves: its guard, if it holds it, is dropped. -/
def WsState.leave (s : WsState) (c : WsCall) : WsState :=
  { s with guard := if s.guard = some c then none else s.guard
           calls := Function.update s.calls c none }

/-- A call gets the mutex, and writes. -/
def WsState.write (s : WsState) (c : WsCall) (stage : WsStage) (m : WsMessage) : WsState :=
  { s with guard := some c
           calls := Function.update s.calls c (some stage)
           written := s.written ++ [m] }

inductive WsAction where
  | send (c : SenderId) (data : Bytes)
  /-- `send` gets the mutex, and there is a sink. -/
  | write (c : SenderId)
  /-- It gets the mutex, and there is none. -/
  | refuse (c : SenderId)
  | sent (c : SenderId)
  | failed (c : SenderId) (e : String)
  | disconnect (c : SenderId)
  /-- `disconnect` gets the mutex, and there is a sink. -/
  | close (c : SenderId)
  /-- It returns. -/
  | left (c : SenderId)
  /-- A call is dropped. -/
  | drop (c : WsCall)
deriving DecidableEq, Repr

inductive WsStep : WsState → WsAction → WsState → Prop where
  | send {s : WsState} {c : SenderId} {data : Bytes} :
      s.calls (.send c) = none →
      WsStep s (.send c data)
        { s with calls := Function.update s.calls (.send c) (some (.waiting data)) }
  | write {s : WsState} {c : SenderId} {data : Bytes} :
      s.calls (.send c) = some (.waiting data) → s.guard = none → s.hasSink = true →
      WsStep s (.write c) (s.write (.send c) .writing (.binary data))
  /-- `socket is closed`. -/
  | refuse {s : WsState} {c : SenderId} {data : Bytes} :
      s.calls (.send c) = some (.waiting data) → s.guard = none → s.hasSink = false →
      WsStep s (.refuse c) (s.leave (.send c))
  | sent {s : WsState} {c : SenderId} :
      s.calls (.send c) = some .writing → WsStep s (.sent c) (s.leave (.send c))
  | failed {s : WsState} {c : SenderId} {e : String} :
      s.calls (.send c) = some .writing → WsStep s (.failed c e) (s.leave (.send c))
  /-- `shutdown_tx.try_send` comes before the mutex. -/
  | disconnect {s : WsState} {c : SenderId} :
      s.calls (.disconnect c) = none →
      WsStep s (.disconnect c)
        { s with calls := Function.update s.calls (.disconnect c) (some .leaving)
                 shutdown := true }
  | close {s : WsState} {c : SenderId} :
      s.calls (.disconnect c) = some .leaving → s.guard = none → s.hasSink = true →
      WsStep s (.close c) { s.write (.disconnect c) .closing .close with hasSink := false }
  | leftEmpty {s : WsState} {c : SenderId} :
      s.calls (.disconnect c) = some .leaving → s.guard = none → s.hasSink = false →
      WsStep s (.left c) (s.leave (.disconnect c))
  | left {s : WsState} {c : SenderId} :
      s.calls (.disconnect c) = some .closing → WsStep s (.left c) (s.leave (.disconnect c))
  | drop {s : WsState} {c : WsCall} {stage : WsStage} :
      s.calls c = some stage → WsStep s (.drop c) (s.leave c)

/-- The runs of a transport after these sends of the handshake. -/
def wsTransport (sent : List Bytes) : System WsState WsAction where
  init s := s = .new sent
  step := WsStep

/-! ## The messages written -/

/-- The guard is with the call that writes, and the sink is there exactly as long as no
close was written. -/
structure WsInv (s : WsState) : Prop where
  owner : ∀ c stage, s.calls c = some stage → stage.holdsGuard = true → s.guard = some c
  written : ∃ sent : List Bytes,
    s.written = sent.map .binary ++ if s.hasSink then [] else [.close]
  writing : ∀ c, s.calls (.send c) = some .writing → s.hasSink = true

variable {s t : WsState} {a : WsAction}

theorem WsInv.new (sent : List Bytes) : WsInv (.new sent) where
  owner c stage h := by cases h
  written := ⟨sent, by simp [WsState.new]⟩
  writing c h := by cases h

/-- While the mutex is free no call writes. -/
theorem WsInv.free (hs : WsInv s) (hfree : s.guard = none) {c : WsCall} {stage : WsStage}
    (h : s.calls c = some stage) : stage.holdsGuard = false := by
  cases hguard : stage.holdsGuard with
  | false => rfl
  | true =>
      have howner := hs.owner c stage h hguard
      rw [hfree] at howner
      cases howner

theorem WsInv.leave (hs : WsInv s) (c : WsCall) : WsInv (s.leave c) where
  owner d stage hd hguard := by
    rcases eq_or_ne d c with rfl | hne
    · simp [WsState.leave] at hd
    · simp only [WsState.leave, Function.update_of_ne hne] at hd ⊢
      have howner := hs.owner d stage hd hguard
      rw [howner, if_neg (by simpa using hne)]
  written := hs.written
  writing d hd := by
    rcases eq_or_ne (WsCall.send d) c with rfl | hne
    · simp [WsState.leave] at hd
    · simp only [WsState.leave, Function.update_of_ne hne] at hd
      exact hs.writing d hd

/-- A call starts to wait for the mutex. -/
theorem WsInv.enter (hs : WsInv s) {c : WsCall} {stage : WsStage} {shutdown : Bool}
    (hstage : stage.holdsGuard = false) (hc : s.calls c = none) :
    WsInv { s with calls := Function.update s.calls c (some stage), shutdown := shutdown } where
  owner d stage' hd hguard := by
    rcases eq_or_ne d c with rfl | hne
    · simp only [Function.update_self, Option.some.injEq] at hd
      rw [← hd, hstage] at hguard
      cases hguard
    · simp only [Function.update_of_ne hne] at hd
      exact hs.owner d stage' hd hguard
  written := hs.written
  writing d hd := by
    rcases eq_or_ne (WsCall.send d) c with rfl | hne
    · simp only [Function.update_self, Option.some.injEq] at hd
      rw [hd] at hstage
      cases hstage
    · simp only [Function.update_of_ne hne] at hd
      exact hs.writing d hd

theorem WsInv.step (hs : WsInv s) (h : WsStep s a t) : WsInv t := by
  cases h with
  | send hc => exact hs.enter rfl hc
  | disconnect hc => exact hs.enter rfl hc
  | refuse hc _ _ => exact hs.leave _
  | sent hc => exact hs.leave _
  | failed hc => exact hs.leave _
  | leftEmpty hc _ _ => exact hs.leave _
  | left hc => exact hs.leave _
  | drop hc => exact hs.leave _
  | @write c data hc hfree hsink =>
      refine ⟨?_, ?_, fun d _ => hsink⟩
      · intro d stage hd hguard
        rcases eq_or_ne d (.send c) with rfl | hne
        · rfl
        · simp only [WsState.write, Function.update_of_ne hne] at hd
          rw [hs.free hfree hd] at hguard
          cases hguard
      · obtain ⟨sent, hwritten⟩ := hs.written
        rw [hsink, if_pos rfl, List.append_nil] at hwritten
        exact ⟨sent ++ [data], by simp [WsState.write, hwritten, hsink]⟩
  | @close c hc hfree hsink =>
      refine ⟨?_, ?_, ?_⟩
      · intro d stage hd hguard
        rcases eq_or_ne d (.disconnect c) with rfl | hne
        · rfl
        · simp only [WsState.write, Function.update_of_ne hne] at hd
          rw [hs.free hfree hd] at hguard
          cases hguard
      · obtain ⟨sent, hwritten⟩ := hs.written
        rw [hsink, if_pos rfl, List.append_nil] at hwritten
        exact ⟨sent, by simp [WsState.write, hwritten]⟩
      · intro d hd
        have hne : WsCall.send d ≠ .disconnect c := by simp
        simp only [WsState.write, Function.update_of_ne hne] at hd
        have hguard := hs.free hfree hd
        cases hguard

/-- Without a sink nothing is written. -/
theorem WsStep.of_no_sink (h : WsStep s a t) (hsink : s.hasSink = false) :
    t.hasSink = false ∧ t.written = s.written := by
  cases h with
  | write _ _ hwrite | close _ _ hwrite =>
      rw [hsink] at hwrite
      cases hwrite
  | _ => exact ⟨hsink, rfl⟩

theorem wsInv_of_run {sent : List Bytes} {as : List WsAction} (h : (wsTransport sent).Run as s) :
    WsInv s :=
  h.invariant (fun s hs => by rw [show s = .new sent from hs]; exact WsInv.new sent)
    fun _ _ _ hinv hstep => hinv.step hstep

/-- In every run the transport has written data, and at most one close, which is the last
that it ever writes. -/
theorem close_is_last {sent : List Bytes} {as : List WsAction} {s : WsState}
    (hrun : (wsTransport sent).Run as s) :
    (∃ written : List Bytes,
      s.written = written.map .binary ++ if s.hasSink then [] else [.close]) ∧
    (.close ∈ s.written → ∀ bs t, (wsTransport sent).Steps s bs t → t.written = s.written) := by
  have hinv := wsInv_of_run hrun
  refine ⟨hinv.written, fun hclose bs t hsteps => ?_⟩
  have hsink : s.hasSink = false := by
    obtain ⟨written, hwritten⟩ := hinv.written
    cases hsink : s.hasSink with
    | false => rfl
    | true => simp [hwritten, hsink] at hclose
  have hkept : t.hasSink = false ∧ t.written = s.written := by
    refine hsteps.preserves (I := fun u => u.hasSink = false ∧ u.written = s.written) ?_
      ⟨hsink, rfl⟩
    rintro u a v ⟨hu, hwritten⟩ (hstep : WsStep u a v)
    obtain ⟨hv, hsame⟩ := hstep.of_no_sink hu
    exact ⟨hv, hsame.trans hwritten⟩
  exact hkept.2

/-- A send waits while the transport is closed. -/
theorem close_is_last_waiting :
    ∃ as s, (wsTransport [[1]]).Run as s ∧ s.written = [.binary [1], .close] ∧
      ∀ bs t, (wsTransport [[1]]).Steps s bs t → t.written = s.written := by
  have h0 : (wsTransport [[1]]).Run [] (.new [[1]]) := .start rfl
  have h1 := h0.tail (show WsStep _ (.disconnect 0) _ from .disconnect rfl)
  have h2 := h1.tail (show WsStep _ (.send 1 [2]) _ from .send rfl)
  have h3 := h2.tail (show WsStep _ (.close 0) _ from .close rfl rfl rfl)
  exact ⟨_, _, h3, rfl, (close_is_last h3).2 (by simp [WsState.write, WsState.new])⟩

/-! ## A socket on a transport -/

structure TunnelState where
  socket : SocketState
  ws : WsState

inductive TunnelAction where
  /-- A step of the socket that does not touch the transport. -/
  | socket (a : SocketAction)
  | handOver (c : SenderId)
  | write (c : SenderId)
  | refuse (c : SenderId)
  | sent (c : SenderId)
  | failed (c : SenderId) (e : String)
  | drop (c : SenderId)
  /-- A step of a `disconnect`. -/
  | disconnect (a : WsAction)
deriving DecidableEq, Repr

/-- The action does not touch the transport. -/
def SocketAction.isLocal : SocketAction → Bool
  | .call _ _ | .lock _ | .exhausted _ | .rejected _ _ | .cancelWaiting _ => true
  | .handOver _ | .sent _ | .sendFailed _ _ | .cancelSending _ => false

/-- The action is one of a `disconnect`. -/
def WsAction.disconnects : WsAction → Bool
  | .disconnect _ | .close _ | .left _ | .drop (.disconnect _) => true
  | _ => false

/-- The steps of a socket and its transport: a send of the socket is a `send` of the
transport, and what that returns is what the socket gets. -/
inductive TunnelStep (wire : Wire) : TunnelState → TunnelAction → TunnelState → Prop where
  | socket {s : TunnelState} {a : SocketAction} {t : SocketState} :
      a.isLocal = true → SocketStep wire s.socket a t →
      TunnelStep wire s (.socket a) { s with socket := t }
  | handOver {s : TunnelState} {c : SenderId} {t : SocketState} {frame : Handed} {ws : WsState} :
      SocketStep wire s.socket (.handOver c) t → t.handed.head? = some frame →
      WsStep s.ws (.send c frame.framed) ws →
      TunnelStep wire s (.handOver c) ⟨t, ws⟩
  | write {s : TunnelState} {c : SenderId} {ws : WsState} :
      WsStep s.ws (.write c) ws → TunnelStep wire s (.write c) { s with ws := ws }
  | refuse {s : TunnelState} {c : SenderId} {t : SocketState} {ws : WsState} :
      WsStep s.ws (.refuse c) ws →
      SocketStep wire s.socket (.sendFailed c "socket is closed") t →
      TunnelStep wire s (.refuse c) ⟨t, ws⟩
  | sent {s : TunnelState} {c : SenderId} {t : SocketState} {ws : WsState} :
      WsStep s.ws (.sent c) ws → SocketStep wire s.socket (.sent c) t →
      TunnelStep wire s (.sent c) ⟨t, ws⟩
  | failed {s : TunnelState} {c : SenderId} {e : String} {t : SocketState} {ws : WsState} :
      WsStep s.ws (.failed c e) ws →
      SocketStep wire s.socket (.sendFailed c ("WebSocket send error: " ++ e)) t →
      TunnelStep wire s (.failed c e) ⟨t, ws⟩
  | drop {s : TunnelState} {c : SenderId} {t : SocketState} {ws : WsState} :
      WsStep s.ws (.drop (.send c)) ws → SocketStep wire s.socket (.cancelSending c) t →
      TunnelStep wire s (.drop c) ⟨t, ws⟩
  | disconnect {s : TunnelState} {a : WsAction} {ws : WsState} :
      a.disconnects = true → WsStep s.ws a ws →
      TunnelStep wire s (.disconnect a) { s with ws := ws }

/-- The runs of a socket on the transport of its handshake. -/
def tunnel (wire : Wire) (handshake : List Bytes) : System TunnelState TunnelAction where
  init s := s = ⟨.new, .new handshake⟩
  step := TunnelStep wire

/-- The WebSocket does not fail, and no call is dropped while it writes. -/
def Intact (s : TunnelState) : TunnelAction → Prop
  | .failed _ _ => False
  | .drop c => s.ws.calls (.send c) ≠ some .writing
  | _ => True

/-! ## The frames on the wire -/

def WsMessage.binary? : WsMessage → Option Bytes
  | .binary data => some data
  | .close => none

/-- The data messages, oldest first. -/
def WsState.frames (s : WsState) : List Bytes := s.written.filterMap WsMessage.binary?

/-- The frames whose sends succeeded, newest first. -/
def succeeded (handed : List Handed) : List Handed := handed.filter fun h => h.outcome = .ok

/-- These are the frames whose sends succeeded, oldest first, and perhaps behind them the one
of a send in progress. -/
def SocketState.Written (s : SocketState) (frames : List Handed) : Prop :=
  frames = (succeeded s.handed).reverse ∨
    ∃ c frame, s.calls c = some .sending ∧ s.handed.head? = some frame ∧
      frame.outcome = .pending ∧ frames = (succeeded s.handed).reverse ++ [frame]

/-- The data messages of a handshake and these frames, newest first. -/
def framesOf (handshake : List Bytes) (handed : List Handed) : List Bytes :=
  handshake ++ handed.reverse.map (·.framed)

/-- Where the send of the newest frame is, and what is on the wire. -/
inductive OnWire (handshake : List Bytes) (s : TunnelState) : Prop where
  | idle :
      (∀ c, s.socket.calls c ≠ some .sending) → (∀ c, s.ws.calls (.send c) = none) →
      s.ws.frames = framesOf handshake (succeeded s.socket.handed) → OnWire handshake s
  | waiting (c : SenderId) (frame : Handed) (older : List Handed) :
      s.socket.calls c = some .sending → s.socket.handed = frame :: older →
      frame.outcome = .pending → s.ws.calls (.send c) = some (.waiting frame.framed) →
      (∀ d ≠ c, s.ws.calls (.send d) = none) →
      s.ws.frames = framesOf handshake (succeeded older) → OnWire handshake s
  | writing (c : SenderId) (frame : Handed) (older : List Handed) :
      s.socket.calls c = some .sending → s.socket.handed = frame :: older →
      frame.outcome = .pending → s.ws.calls (.send c) = some .writing →
      (∀ d ≠ c, s.ws.calls (.send d) = none) →
      s.ws.frames = framesOf handshake (frame :: succeeded older) → OnWire handshake s

structure TunnelInv (wire : Wire) (handshake : List Bytes) (s : TunnelState) : Prop where
  socket : SocketInv wire s.socket
  onWire : OnWire handshake s

section

variable {wire : Wire} {handshake : List Bytes} {u v : TunnelState} {p q : SocketState}

theorem update_sending {calls : SenderId → Option SendStage} {c : SenderId}
    {stage : Option SendStage} (hold : calls c ≠ some .sending) (hnew : stage ≠ some .sending)
    (d : SenderId) :
    Function.update calls c stage d = some .sending ↔ calls d = some .sending := by
  rcases eq_or_ne d c with rfl | hne
  · rw [Function.update_self]
    exact iff_of_false hnew hold
  · rw [Function.update_of_ne hne]

/-- A step that does not touch the transport hands nothing over. -/
theorem SocketStep.of_local {a : SocketAction} (h : SocketStep wire p a q)
    (ha : a.isLocal = true) :
    q.handed = p.handed ∧ ∀ c, q.calls c = some .sending ↔ p.calls c = some .sending := by
  cases h with
  | call hc | lock hc _ | exhausted hc _ | rejected hc _ _ | cancelWaiting hc =>
      exact ⟨rfl, update_sending (by rw [hc]; simp) (by simp)⟩
  | handOver _ _ _ | sent _ | sendFailed _ | cancelSending _ => cases ha

@[simp] theorem update_disconnect {calls : WsCall → Option WsStage} {c d : SenderId}
    {stage : Option WsStage} :
    Function.update calls (.disconnect d) stage (.send c) = calls (.send c) :=
  Function.update_of_ne (by simp) ..

/-- The steps of a `disconnect` touch no send. -/
theorem WsStep.of_disconnects (h : WsStep s a t) (ha : a.disconnects = true) :
    t.frames = s.frames ∧ ∀ c, t.calls (.send c) = s.calls (.send c) := by
  cases h with
  | disconnect hc => exact ⟨rfl, fun c => by simp⟩
  | close hc _ _ =>
      refine ⟨?_, fun c => by simp [WsState.write]⟩
      simp [WsState.frames, WsState.write, WsMessage.binary?]
  | leftEmpty hc _ _ | left hc => exact ⟨rfl, fun c => by simp [WsState.leave]⟩
  | @drop c stage hc =>
      cases c with
      | send c => cases ha
      | disconnect c => exact ⟨rfl, fun c => by simp [WsState.leave]⟩
  | send _ | write _ _ _ | refuse _ _ _ | sent _ | failed _ => cases ha

/-- Once the call at its send has left, none is at its send. -/
theorem SocketInv.no_sending (hp : SocketInv wire p) {c : SenderId}
    (hc : p.calls c = some .sending) (d : SenderId) :
    Function.update p.calls c none d ≠ some .sending := fun hd =>
  hp.no_holder hc trivial d .sending hd trivial

theorem succeeded_cons_of_ok {frame : Handed} {older : List Handed} (h : frame.outcome = .ok) :
    succeeded (frame :: older) = frame :: succeeded older := by
  simp [succeeded, h]

theorem succeeded_cons_of_ne {frame : Handed} {older : List Handed} (h : frame.outcome ≠ .ok) :
    succeeded (frame :: older) = succeeded older := by
  simp [succeeded, h]

theorem framesOf_cons (frame : Handed) (older : List Handed) :
    framesOf handshake (frame :: older) = framesOf handshake older ++ [frame.framed] := by
  simp [framesOf]

/-- A call of the transport that is a send is the one of the newest frame. -/
theorem OnWire.of_call (h : OnWire handshake u) {c : SenderId} {stage : WsStage}
    (hc : u.ws.calls (.send c) = some stage) :
    ∃ frame older, u.socket.calls c = some .sending ∧ u.socket.handed = frame :: older ∧
      frame.outcome = .pending ∧ (∀ d ≠ c, u.ws.calls (.send d) = none) ∧
      ((stage = .waiting frame.framed ∧ u.ws.frames = framesOf handshake (succeeded older)) ∨
        (stage = .writing ∧ u.ws.frames = framesOf handshake (frame :: succeeded older))) := by
  cases h with
  | idle hnone hcalls _ =>
      rw [hcalls c] at hc
      cases hc
  | waiting c' frame older hsending hhanded hpending hstage hothers hframes =>
      obtain rfl : c = c' := by
        by_contra hne
        rw [hothers c hne] at hc
        cases hc
      rw [hstage] at hc
      cases hc
      exact ⟨frame, older, hsending, hhanded, hpending, hothers, .inl ⟨rfl, hframes⟩⟩
  | writing c' frame older hsending hhanded hpending hstage hothers hframes =>
      obtain rfl : c = c' := by
        by_contra hne
        rw [hothers c hne] at hc
        cases hc
      rw [hstage] at hc
      cases hc
      exact ⟨frame, older, hsending, hhanded, hpending, hothers, .inr ⟨rfl, hframes⟩⟩

/-- The send of the newest frame ends. -/
theorem OnWire.of_left (hp : SocketInv wire u.socket) {c : SenderId}
    (hc : u.socket.calls c = some .sending) (hothers : ∀ d ≠ c, u.ws.calls (.send d) = none)
    (hcalls : q.calls = Function.update u.socket.calls c none)
    (hframes : u.ws.frames = framesOf handshake (succeeded q.handed)) :
    OnWire handshake ⟨q, u.ws.leave (.send c)⟩ := by
  refine .idle ?_ ?_ hframes
  · intro d
    rw [hcalls]
    exact hp.no_sending hc d
  · intro d
    rcases eq_or_ne d c with rfl | hne
    · simp [WsState.leave]
    · have hsend : WsCall.send d ≠ .send c := by simpa using hne
      simp only [WsState.leave, Function.update_of_ne hsend]
      exact hothers d hne

/-- A send that fails, or is dropped, before it writes leaves nothing on the wire. -/
theorem OnWire.of_unsent (hu : TunnelInv wire handshake u) {c : SenderId} {stage : WsStage}
    {outcome : SendOutcome} (houtcome : outcome ≠ .ok) (hc : u.ws.calls (.send c) = some stage)
    (hstage : stage ≠ .writing) (hcalls : q.calls = Function.update u.socket.calls c none)
    (hhanded : q.handed = recordOutcome outcome u.socket.handed) :
    OnWire handshake ⟨q, u.ws.leave (.send c)⟩ := by
  obtain ⟨frame, older, hsending, hnewest, hpending, hothers, ⟨-, hframes⟩ | ⟨hwriting, -⟩⟩ :=
    hu.onWire.of_call hc
  · refine .of_left hu.socket hsending hothers hcalls ?_
    rw [hframes, hhanded, hnewest]
    have hfailed : ({ frame with outcome := outcome } : Handed).outcome ≠ .ok := houtcome
    exact congrArg _ (succeeded_cons_of_ne hfailed).symm
  · exact absurd hwriting hstage

theorem TunnelInv.step {a : TunnelAction} (hu : TunnelInv wire handshake u)
    (h : TunnelStep wire u a v) (hintact : Intact u a) : TunnelInv wire handshake v := by
  cases h with
  | socket hlocal hstep =>
      refine ⟨hu.socket.step hstep, ?_⟩
      obtain ⟨hhanded, hcalls⟩ := hstep.of_local hlocal
      cases hu.onWire with
      | idle hnone hws hframes =>
          exact .idle (fun c hc => hnone c ((hcalls c).mp hc)) hws (by rw [hframes, hhanded])
      | waiting c frame older hsending hnewest hpending hstage hothers hframes =>
          exact .waiting c frame older ((hcalls c).mpr hsending) (hhanded.trans hnewest) hpending
            hstage hothers hframes
      | writing c frame older hsending hnewest hpending hstage hothers hframes =>
          exact .writing c frame older ((hcalls c).mpr hsending) (hhanded.trans hnewest) hpending
            hstage hothers hframes
  | @handOver c t frame ws hstep hhead hsend =>
      refine ⟨hu.socket.step hstep, ?_⟩
      cases hstep with
      | handOver hlocked hmax henc =>
          cases hhead
          cases hsend with
          | send hfree =>
              cases hu.onWire with
              | idle hnone hws hframes =>
                  refine .waiting c _ _ (Function.update_self ..) rfl rfl
                    (Function.update_self ..) ?_ hframes
                  intro d hne
                  have hsend : WsCall.send d ≠ .send c := by simpa using hne
                  simp only [Function.update_of_ne hsend]
                  exact hws d
              | waiting c' frame older hsending _ _ _ _ _
              | writing c' frame older hsending _ _ _ _ _ =>
                  -- one call is past the lock
                  obtain rfl := hu.socket.holder_unique hlocked trivial hsending trivial
                  rw [hlocked] at hsending
                  cases hsending
  | @write c ws hstep =>
      refine ⟨hu.socket, ?_⟩
      cases hstep with
      | write hc hfree hsink =>
          obtain ⟨frame, older, hsending, hnewest, hpending, hothers, ⟨hdata, hframes⟩ | ⟨hne, -⟩⟩ :=
            hu.onWire.of_call hc
          · cases hdata
            refine .writing c frame older hsending hnewest hpending (Function.update_self ..) ?_ ?_
            · intro d hne
              have hsend : WsCall.send d ≠ .send c := by simpa using hne
              simp only [WsState.write, Function.update_of_ne hsend]
              exact hothers d hne
            · rw [framesOf_cons, ← hframes]
              exact List.filterMap_append
          · cases hne
  | @refuse c t ws hws hstep =>
      refine ⟨hu.socket.step hstep, ?_⟩
      cases hws with
      | refuse hc _ _ =>
          cases hstep with
          | sendFailed hsending => exact .of_unsent hu (by simp) hc (by simp) rfl rfl
  | @sent c t ws hws hstep =>
      refine ⟨hu.socket.step hstep, ?_⟩
      cases hws with
      | sent hc =>
          cases hstep with
          | sent hsending =>
              obtain ⟨frame, older, -, hnewest, hpending, hothers, ⟨hne, -⟩ | ⟨-, hframes⟩⟩ :=
                hu.onWire.of_call hc
              · cases hne
              · refine .of_left hu.socket hsending hothers rfl ?_
                rw [hframes, framesOf_cons]
                show _ = framesOf handshake (succeeded (recordOutcome .ok u.socket.handed))
                rw [hnewest, recordOutcome, succeeded_cons_of_ok rfl, framesOf_cons]
  | failed _ _ => exact hintact.elim
  | @drop c t ws hws hstep =>
      refine ⟨hu.socket.step hstep, ?_⟩
      cases hws with
      | @drop _ stage hc =>
          cases hstep with
          | cancelSending hsending =>
              refine .of_unsent hu (by simp) hc (fun hwriting => hintact ?_) rfl rfl
              rw [hc, hwriting]
  | disconnect hdisconnects hstep =>
      refine ⟨hu.socket, ?_⟩
      obtain ⟨hsame, hcalls⟩ := hstep.of_disconnects hdisconnects
      cases hu.onWire with
      | idle hnone hws hframes =>
          exact .idle hnone (fun c => (hcalls c).trans (hws c)) (hsame.trans hframes)
      | waiting c frame older hsending hnewest hpending hstage hothers hframes =>
          exact .waiting c frame older hsending hnewest hpending ((hcalls _).trans hstage)
            (fun d hd => (hcalls d).trans (hothers d hd)) (hsame.trans hframes)
      | writing c frame older hsending hnewest hpending hstage hothers hframes =>
          exact .writing c frame older hsending hnewest hpending ((hcalls _).trans hstage)
            (fun d hd => (hcalls d).trans (hothers d hd)) (hsame.trans hframes)

theorem TunnelInv.new : TunnelInv wire handshake ⟨.new, .new handshake⟩ := by
  refine ⟨SocketInv.new wire, .idle (fun c h => by cases h) (fun c => rfl) ?_⟩
  have hbinary : (handshake.map WsMessage.binary).filterMap WsMessage.binary? = handshake := by
    rw [List.filterMap_map]
    exact List.filterMap_some
  exact hbinary.trans (List.append_nil _).symm

theorem tunnelInv_of_reachable (h : ((tunnel wire handshake).restrict Intact).Reachable u) :
    TunnelInv wire handshake u := by
  obtain ⟨as, hrun⟩ := h
  refine hrun.invariant ?_ fun _ _ _ hu hstep => hu.step hstep.1 hstep.2
  intro v hv
  rw [show v = _ from hv]
  exact .new

/-! ## The counters on the wire -/

/-- The frames that were not sent did not advance the counter. -/
theorem Counted.succeeded {counter : UInt32} {handed : List Handed} (h : Counted counter handed) :
    Counted counter (succeeded handed) := by
  induction handed generalizing counter with
  | nil => exact h
  | cons newest older ih =>
      obtain ⟨hmax, hcounter, hold⟩ := h
      by_cases hok : newest.outcome = .ok
      · rw [succeeded_cons_of_ok hok]
        exact ⟨hmax, hcounter, ih hold⟩
      · rw [succeeded_cons_of_ne hok, hcounter, if_neg hok]
        exact ih hold

theorem outcome_of_succeeded {handed : List Handed} : ∀ h ∈ succeeded handed, h.outcome = .ok := by
  intro h hmem
  simpa using (List.mem_filter.mp hmem).2

/-- What was written is in the history. -/
theorem SocketState.Written.subset {frames : List Handed} (h : p.Written frames) :
    frames ⊆ p.handed := by
  have hsucceeded : (succeeded p.handed).reverse ⊆ p.handed := fun frame hmem =>
    List.mem_of_mem_filter (List.mem_reverse.mp hmem)
  rcases h with rfl | ⟨c, frame, -, hnewest, -, rfl⟩
  · exact hsucceeded
  · refine List.append_subset.mpr ⟨hsucceeded, fun h hmem => ?_⟩
    rw [List.mem_singleton.mp hmem]
    exact List.mem_of_mem_head? hnewest

/-- The frames on the wire, each with its place as its counter. -/
theorem TunnelInv.exists_frames (hu : TunnelInv wire handshake u) :
    ∃ frames, u.ws.frames = handshake ++ frames.map (·.framed) ∧ u.socket.Written frames ∧
      ∀ i (frame : Handed), frames[i]? = some frame →
        frame.counter.toNat = i ∧ frame.counter ≠ u32Max := by
  have hcounted := hu.socket.counted
  cases hu.onWire with
  | idle hnone hws hframes =>
      exact ⟨_, hframes, .inl rfl, fun i frame => hcounted.succeeded.counter_getElem?
        fun h hmem => outcome_of_succeeded h (List.mem_of_mem_tail hmem)⟩
  | waiting c frame older hsending hnewest hpending hstage hothers hframes =>
      have hne : frame.outcome ≠ .ok := by
        rw [hpending]
        simp
      rw [hnewest] at hcounted
      refine ⟨_, hframes, .inl ?_, fun i frame => hcounted.2.2.succeeded.counter_getElem?
        fun h hmem => outcome_of_succeeded h (List.mem_of_mem_tail hmem)⟩
      rw [hnewest, succeeded_cons_of_ne hne]
  | writing c frame older hsending hnewest hpending hstage hothers hframes =>
      have hne : frame.outcome ≠ .ok := by
        rw [hpending]
        simp
      rw [hnewest] at hcounted
      have hfirst : Counted frame.counter (succeeded older) := hcounted.2.2.succeeded
      have hall : Counted _ (frame :: succeeded older) := ⟨hcounted.1, hcounted.2.1, hfirst⟩
      refine ⟨_, hframes, .inr ⟨c, frame, hsending, ?_, hpending, ?_⟩, fun i frame =>
        hall.counter_getElem? outcome_of_succeeded⟩
      · rw [hnewest]
        rfl
      · rw [hnewest, succeeded_cons_of_ne hne, List.reverse_cons]

end

/-- Unless the WebSocket fails or a call is dropped while it writes: after the handshake
there are on the wire, in order, the frames of the sends that succeeded, and perhaps behind
them the one of a send in progress; the frame at place `i` has counter `i`, so that who counts
along decrypts the plaintexts, whatever sends were refused or given up between. -/
theorem frames_on_wire {wire : Wire} (hwire : wire.Lawful) (handshake : List Bytes)
    {s : TunnelState} (h : ((tunnel wire handshake).restrict Intact).Reachable s) :
    ∃ frames : List Handed, s.ws.frames = handshake ++ frames.map (·.framed) ∧
      s.socket.Written frames ∧
      ∀ i (frame : Handed), frames[i]? = some frame → frame.counter.toNat = i ∧
        decryptFrame wire frame.counter (frame.framed.drop 3) = .ok frame.plaintext := by
  have hs := tunnelInv_of_reachable h
  obtain ⟨frames, hframes, hwritten, hcounter⟩ := hs.exists_frames
  refine ⟨frames, hframes, hwritten, fun i frame hi => ⟨(hcounter i frame hi).1, ?_⟩⟩
  have hmem : frame ∈ s.socket.handed := hwritten.subset (List.mem_of_getElem? hi)
  exact hwire.decryptFrame_encryptAndFrame (hs.socket.encrypted frame hmem)

/-- A send that was dropped before it wrote, and two more, the last of which is writing. -/
theorem frames_on_wire_after_drop :
    ∃ s, ((tunnel shiftWire [[1]]).restrict Intact).Reachable s ∧
      s.ws.frames = [[1], [0, 0, 1, 9], [0, 0, 1, 6]] ∧
      ∃ frames : List Handed, s.ws.frames = [[1]] ++ frames.map (·.framed) ∧
        s.socket.Written frames ∧
        ∀ i (frame : Handed), frames[i]? = some frame → frame.counter.toNat = i ∧
          decryptFrame shiftWire frame.counter (frame.framed.drop 3) = .ok frame.plaintext := by
  have hmax : (0 : UInt32) ≠ u32Max := by decide
  have h0 : ((tunnel shiftWire [[1]]).restrict Intact).Run [] ⟨.new, .new [[1]]⟩ := .start rfl
  have h1 := h0.tail (show TunnelStep _ _ (.socket (.call 0 [7])) _ ∧ True from
    ⟨.socket rfl (.call rfl), trivial⟩)
  have h2 := h1.tail (show TunnelStep _ _ (.socket (.lock 0)) _ ∧ True from
    ⟨.socket rfl (.lock rfl rfl), trivial⟩)
  have h3 := h2.tail (show TunnelStep _ _ (.handOver 0) _ ∧ True from
    ⟨.handOver (.handOver rfl hmax rfl) rfl (.send rfl), trivial⟩)
  have h4 := h3.tail (show TunnelStep _ _ (.drop 0) _ ∧ Intact _ _ from
    ⟨.drop (.drop rfl) (.cancelSending rfl), fun h => WsStage.noConfusion (Option.some.inj h)⟩)
  have h5 := h4.tail (show TunnelStep _ _ (.socket (.call 1 [9])) _ ∧ True from
    ⟨.socket rfl (.call rfl), trivial⟩)
  have h6 := h5.tail (show TunnelStep _ _ (.socket (.lock 1)) _ ∧ True from
    ⟨.socket rfl (.lock rfl rfl), trivial⟩)
  have h7 := h6.tail (show TunnelStep _ _ (.handOver 1) _ ∧ True from
    ⟨.handOver (.handOver rfl hmax rfl) rfl (.send rfl), trivial⟩)
  have h8 := h7.tail (show TunnelStep _ _ (.write 1) _ ∧ True from
    ⟨.write (.write rfl rfl rfl), trivial⟩)
  have h9 := h8.tail (show TunnelStep _ _ (.sent 1) _ ∧ True from
    ⟨.sent (.sent rfl) (.sent rfl), trivial⟩)
  have h10 := h9.tail (show TunnelStep _ _ (.socket (.call 2 [5])) _ ∧ True from
    ⟨.socket rfl (.call rfl), trivial⟩)
  have h11 := h10.tail (show TunnelStep _ _ (.socket (.lock 2)) _ ∧ True from
    ⟨.socket rfl (.lock rfl rfl), trivial⟩)
  have h12 := h11.tail (show TunnelStep _ _ (.handOver 2) _ ∧ True from
    ⟨.handOver (.handOver rfl (show (1 : UInt32) ≠ u32Max by decide) rfl) rfl (.send rfl),
      trivial⟩)
  have h13 := h12.tail (show TunnelStep _ _ (.write 2) _ ∧ True from
    ⟨.write (.write rfl rfl rfl), trivial⟩)
  exact ⟨_, ⟨_, h13⟩, rfl, frames_on_wire shiftWire_lawful [[1]] ⟨_, h13⟩⟩

end Waepic.Connection
