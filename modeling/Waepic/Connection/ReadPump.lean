import Waepic.Connection.Handshake
import Waepic.Library.Transition

/-!
# The event stream of a transport

`from_websocket` puts `Connected` on a channel of 64 slots and starts
`read_pump`, which reads the WebSocket and puts its binary payloads on the
channel.  The pump has two selects against the shutdown channel: where it awaits
the next item, and where it awaits room for a payload.  Every way out of the loop
leads to the one `Disconnected`, for which it awaits room again.

The shutdown channel is ready from the moment `disconnect` is called or the
transport is dropped (`shutdown`).  An item may still be read after that moment,
because the select looks at the shutdown first and at the stream next.  The
stream is any sequence of items, and `payloads ws k` are the binary payloads
among its first `k` items.

What was put on the channel is known in every phase (`PumpInv`), and the step
lemma has one case for each way a phase is left.
-/

namespace Waepic.Connection

open Transition

/-- What `stream.next()` gives. -/
inductive WsItem where
  | binary (payload : Bytes)
  /-- A text, a ping or a pong. -/
  | other
  | close
  | error (message : String)
  /-- The stream has ended. -/
  | none
deriving DecidableEq, Repr

namespace WsItem

/-- The pump leaves the loop. -/
def stops : WsItem → Bool
  | close | error _ | none => true
  | _ => false

def payload? : WsItem → Option Bytes
  | binary payload => some payload
  | _ => Option.none

end WsItem

def EVENT_CHANNEL_CAPACITY : Nat := 64

/-- Where `read_pump` is. -/
inductive PumpPhase where
  /-- At the select for the next item. -/
  | selecting
  /-- At the select for sending a payload. -/
  | sending (payload : Bytes)
  /-- Behind the loop, sending `Disconnected`. -/
  | finishing
  | ended
deriving DecidableEq, Repr

structure PumpState where
  phase : PumpPhase
  /-- How many items were read. -/
  next : Nat
  /-- The shutdown was signalled, or the transport was dropped. -/
  shutdown : Bool
  /-- The event receiver is alive. -/
  receiverAlive : Bool
  /-- The events in the channel, oldest first. -/
  queue : List TransportEvent
  /-- All events that were put on the channel, oldest first. -/
  put : List TransportEvent

namespace PumpState

def hasRoom (s : PumpState) : Bool := s.queue.length < EVENT_CHANNEL_CAPACITY

/-- The event is put on the channel. -/
def putEvent (s : PumpState) (e : TransportEvent) : PumpState :=
  { s with queue := s.queue ++ [e], put := s.put ++ [e] }

/-- `try_send`. -/
def trySend (s : PumpState) (e : TransportEvent) : PumpState :=
  if s.receiverAlive && s.hasRoom then s.putEvent e else s

/-- `from_websocket`, with the pump at the start of its loop. -/
def fromWebsocket : PumpState :=
  trySend
    { phase := .selecting, next := 0, shutdown := false, receiverAlive := true
      queue := [], put := [] }
    .connected

end PumpState

inductive PumpAction where
  | seeShutdown
  | read
  | sent
  | sendFailed
  | finished
  | disconnect
  | dropTransport
  | dropReceiver
  | take
deriving DecidableEq, Repr

/-- The steps of the pump, of the holder of the transport and of the consumer. -/
inductive PumpStep (ws : Nat → WsItem) : PumpState → PumpAction → PumpState → Prop where
  | shutdownBeforeItem {s : PumpState} :
      s.phase = .selecting → s.shutdown = true →
      PumpStep ws s .seeShutdown { s with phase := .finishing }
  | binary {s : PumpState} {payload : Bytes} :
      s.phase = .selecting → ws s.next = .binary payload →
      PumpStep ws s .read { s with phase := .sending payload, next := s.next + 1 }
  | other {s : PumpState} :
      s.phase = .selecting → ws s.next = .other →
      PumpStep ws s .read { s with next := s.next + 1 }
  /-- A close frame, an error or the end of the stream. -/
  | stop {s : PumpState} :
      s.phase = .selecting → (ws s.next).stops = true →
      PumpStep ws s .read { s with phase := .finishing, next := s.next + 1 }
  /-- The payload is dropped with the send. -/
  | shutdownBeforeSend {s : PumpState} {payload : Bytes} :
      s.phase = .sending payload → s.shutdown = true →
      PumpStep ws s .seeShutdown { s with phase := .finishing }
  | sent {s : PumpState} {payload : Bytes} :
      s.phase = .sending payload → s.receiverAlive = true → s.hasRoom = true →
      PumpStep ws s .sent ({ s with phase := .selecting }.putEvent (.dataReceived payload))
  | receiverDropped {s : PumpState} {payload : Bytes} :
      s.phase = .sending payload → s.receiverAlive = false →
      PumpStep ws s .sendFailed { s with phase := .finishing }
  | finished {s : PumpState} :
      s.phase = .finishing → s.receiverAlive = true → s.hasRoom = true →
      PumpStep ws s .finished ({ s with phase := .ended }.putEvent .disconnected)
  | finishedUnheard {s : PumpState} :
      s.phase = .finishing → s.receiverAlive = false →
      PumpStep ws s .finished { s with phase := .ended }
  /-- `WsTransport::disconnect`. -/
  | disconnect {s : PumpState} : PumpStep ws s .disconnect { s with shutdown := true }
  | dropTransport {s : PumpState} : PumpStep ws s .dropTransport { s with shutdown := true }
  | dropReceiver {s : PumpState} : PumpStep ws s .dropReceiver { s with receiverAlive := false }
  | take {s : PumpState} {e : TransportEvent} {rest : List TransportEvent} :
      s.receiverAlive = true → s.queue = e :: rest →
      PumpStep ws s .take { s with queue := rest }

/-- The runs of a transport over a stream. -/
def readPump (ws : Nat → WsItem) : System PumpState PumpAction where
  init s := s = .fromWebsocket
  step := PumpStep ws

/-! ## What the pump has put on the channel -/

/-- The binary payloads among the first `k` items. -/
def payloads (ws : Nat → WsItem) (k : Nat) : List Bytes :=
  (List.range k).filterMap fun j => (ws j).payload?

/-- None of the first `k` items is a close, an error or the end. -/
def GoesOn (ws : Nat → WsItem) (k : Nat) : Prop := ∀ j < k, (ws j).stops = false

/-- `Connected`, and then these payloads. -/
def dataEvents (sent : List Bytes) : List TransportEvent :=
  .connected :: sent.map .dataReceived

variable {ws : Nat → WsItem}

theorem payloads_succ (ws : Nat → WsItem) (k : Nat) :
    payloads ws (k + 1) = payloads ws k ++ (ws k).payload?.toList := by
  rw [payloads, List.range_succ, List.filterMap_append, payloads]
  cases h : (ws k).payload? <;> simp [h]

theorem payloads_of_binary {k : Nat} {payload : Bytes} (h : ws k = .binary payload) :
    payloads ws (k + 1) = payloads ws k ++ [payload] := by
  rw [payloads_succ, h]
  rfl

theorem payloads_of_other {k : Nat} (h : ws k = .other) : payloads ws (k + 1) = payloads ws k := by
  rw [payloads_succ, h]
  exact List.append_nil _

theorem dataEvents_append (sent : List Bytes) (payload : Bytes) :
    dataEvents (sent ++ [payload]) = dataEvents sent ++ [.dataReceived payload] := by
  simp [dataEvents]

theorem GoesOn.succ {k : Nat} (h : GoesOn ws k) (hk : (ws k).stops = false) :
    GoesOn ws (k + 1) := by
  intro j hj
  rcases Nat.lt_succ_iff_lt_or_eq.mp hj with hlt | rfl
  · exact h j hlt
  · exact hk

/-- What was sent when the pump left the loop: a first part of the payloads, and
all of them if it left for the item `k`. -/
structure Left (ws : Nat → WsItem) (s : PumpState) (k : Nat) (sent : List Bytes) : Prop where
  goesOn : GoesOn ws k
  first : sent <+: payloads ws k
  all : s.receiverAlive = true → s.shutdown = false → (ws k).stops = true ∧ sent = payloads ws k

/-- What was put on the channel, by phase. -/
inductive PumpInv (ws : Nat → WsItem) (s : PumpState) : Prop where
  | selecting :
      s.phase = .selecting → GoesOn ws s.next → s.put = dataEvents (payloads ws s.next) →
      PumpInv ws s
  | sending (k : Nat) (payload : Bytes) :
      s.phase = .sending payload → GoesOn ws (k + 1) → s.next = k + 1 →
      ws k = .binary payload → s.put = dataEvents (payloads ws k) → PumpInv ws s
  | finishing (k : Nat) (sent : List Bytes) :
      s.phase = .finishing → Left ws s k sent → s.put = dataEvents sent → PumpInv ws s
  | heard (k : Nat) (sent : List Bytes) :
      s.phase = .ended → Left ws s k sent → s.put = dataEvents sent ++ [.disconnected] →
      PumpInv ws s
  | unheard (k : Nat) (sent : List Bytes) :
      s.phase = .ended → s.receiverAlive = false → Left ws s k sent → s.put = dataEvents sent →
      PumpInv ws s

theorem pumpInv_fromWebsocket : PumpInv ws .fromWebsocket :=
  .selecting rfl (fun _ h => absurd h (Nat.not_lt_zero _)) rfl

/-- The steps of the others only add reasons to leave the loop early. -/
theorem Left.of_le {s t : PumpState} {k : Nat} {sent : List Bytes} (h : Left ws s k sent)
    (halive : t.receiverAlive = true → s.receiverAlive = true)
    (hshutdown : t.shutdown = false → s.shutdown = false) : Left ws t k sent where
  goesOn := h.goesOn
  first := h.first
  all ha hs := h.all (halive ha) (hshutdown hs)

theorem PumpInv.of_le {s t : PumpState} (hinv : PumpInv ws s) (hphase : t.phase = s.phase)
    (hnext : t.next = s.next) (hput : t.put = s.put)
    (halive : t.receiverAlive = true → s.receiverAlive = true)
    (hshutdown : t.shutdown = false → s.shutdown = false) : PumpInv ws t := by
  cases hinv with
  | selecting hp hgoes hs =>
      exact .selecting (hphase.trans hp) (hnext ▸ hgoes) (by rw [hput, hs, hnext])
  | sending k payload hp hgoes hn hk hs =>
      exact .sending k payload (hphase.trans hp) hgoes (hnext.trans hn) hk (hput.trans hs)
  | finishing k sent hp hleft hs =>
      exact .finishing k sent (hphase.trans hp) (hleft.of_le halive hshutdown) (hput.trans hs)
  | heard k sent hp hleft hs =>
      exact .heard k sent (hphase.trans hp) (hleft.of_le halive hshutdown) (hput.trans hs)
  | unheard k sent hp hgone hleft hs =>
      refine .unheard k sent (hphase.trans hp) ?_ (hleft.of_le halive hshutdown) (hput.trans hs)
      refine (Bool.not_eq_true _).mp fun ht => ?_
      rw [halive ht] at hgone
      cases hgone

/-- At the first select, the payloads of all items so far have been put. -/
theorem PumpInv.of_selecting {s : PumpState} (hinv : PumpInv ws s) (hphase : s.phase = .selecting) :
    GoesOn ws s.next ∧ s.put = dataEvents (payloads ws s.next) := by
  cases hinv with
  | selecting _ hgoes hput => exact ⟨hgoes, hput⟩
  | sending k payload hp | finishing k sent hp | heard k sent hp | unheard k sent hp =>
      rw [hphase] at hp
      cases hp

theorem PumpInv.of_sending {s : PumpState} {payload : Bytes} (hinv : PumpInv ws s)
    (hphase : s.phase = .sending payload) :
    ∃ k, GoesOn ws (k + 1) ∧ s.next = k + 1 ∧ ws k = .binary payload ∧
      s.put = dataEvents (payloads ws k) := by
  cases hinv with
  | sending k payload' hp hgoes hn hk hput =>
      rw [hphase] at hp
      cases hp
      exact ⟨k, hgoes, hn, hk, hput⟩
  | selecting hp | finishing k sent hp | heard k sent hp | unheard k sent hp =>
      rw [hphase] at hp
      cases hp

theorem PumpInv.of_finishing {s : PumpState} (hinv : PumpInv ws s) (hphase : s.phase = .finishing) :
    ∃ k sent, Left ws s k sent ∧ s.put = dataEvents sent := by
  cases hinv with
  | finishing k sent _ hleft hput => exact ⟨k, sent, hleft, hput⟩
  | selecting hp | sending k payload hp | heard k sent hp | unheard k sent hp =>
      rw [hphase] at hp
      cases hp

theorem PumpInv.step {s t : PumpState} {a : PumpAction} (hinv : PumpInv ws s)
    (h : PumpStep ws s a t) : PumpInv ws t := by
  cases h with
  | shutdownBeforeItem hphase hshutdown =>
      obtain ⟨hgoes, hput⟩ := hinv.of_selecting hphase
      refine .finishing s.next _ rfl ⟨hgoes, List.prefix_rfl, fun _ hs => ?_⟩ hput
      rw [hshutdown] at hs
      cases hs
  | binary hphase hitem =>
      obtain ⟨hgoes, hput⟩ := hinv.of_selecting hphase
      exact .sending s.next _ rfl (hgoes.succ (by rw [hitem]; rfl)) rfl hitem hput
  | other hphase hitem =>
      obtain ⟨hgoes, hput⟩ := hinv.of_selecting hphase
      refine .selecting hphase (hgoes.succ (by rw [hitem]; rfl)) ?_
      rw [payloads_of_other hitem]
      exact hput
  | stop hphase hitem =>
      obtain ⟨hgoes, hput⟩ := hinv.of_selecting hphase
      exact .finishing s.next _ rfl ⟨hgoes, List.prefix_rfl, fun _ _ => ⟨hitem, rfl⟩⟩ hput
  | shutdownBeforeSend hphase hshutdown =>
      -- The payload of item `k` is lost, so what was sent is a first part.
      obtain ⟨k, hgoes, -, hk, hput⟩ := hinv.of_sending hphase
      refine .finishing (k + 1) _ rfl ⟨hgoes, ?_, fun _ hs => ?_⟩ hput
      · rw [payloads_of_binary hk]
        exact List.prefix_append ..
      · rw [hshutdown] at hs
        cases hs
  | sent hphase _ _ =>
      obtain ⟨k, hgoes, hnext, hk, hput⟩ := hinv.of_sending hphase
      refine .selecting rfl (hnext ▸ hgoes) ?_
      show s.put ++ _ = dataEvents (payloads ws s.next)
      rw [hnext, payloads_of_binary hk, dataEvents_append, hput]
  | receiverDropped hphase hgone =>
      obtain ⟨k, hgoes, -, hk, hput⟩ := hinv.of_sending hphase
      refine .finishing (k + 1) _ rfl ⟨hgoes, ?_, fun halive _ => ?_⟩ hput
      · rw [payloads_of_binary hk]
        exact List.prefix_append ..
      · rw [hgone] at halive
        cases halive
  | finished hphase _ _ =>
      obtain ⟨k, sent, hleft, hput⟩ := hinv.of_finishing hphase
      refine .heard k sent rfl (hleft.of_le id id) ?_
      show s.put ++ _ = _
      rw [hput]
  | finishedUnheard hphase hgone =>
      obtain ⟨k, sent, hleft, hput⟩ := hinv.of_finishing hphase
      exact .unheard k sent rfl hgone (hleft.of_le id id) hput
  | disconnect | dropTransport => exact hinv.of_le rfl rfl rfl id nofun
  | dropReceiver => exact hinv.of_le rfl rfl rfl nofun id
  | take _ _ => exact hinv.of_le rfl rfl rfl id id

theorem pumpInv_of_run {as : List PumpAction} {s : PumpState} (h : (readPump ws).Run as s) :
    PumpInv ws s := by
  refine h.invariant ?_ fun _ _ _ hinv (hstep : PumpStep ws _ _ _) => hinv.step hstep
  rintro s rfl
  exact pumpInv_fromWebsocket

/-- After the pump has ended nothing is put. -/
theorem PumpStep.of_ended {s t : PumpState} {a : PumpAction} (h : PumpStep ws s a t)
    (hended : s.phase = .ended) : t.phase = .ended ∧ t.put = s.put := by
  cases h with
  | disconnect | dropTransport | dropReceiver => exact ⟨hended, rfl⟩
  | take _ _ => exact ⟨hended, rfl⟩
  | shutdownBeforeItem hp | binary hp | other hp | stop hp | shutdownBeforeSend hp | sent hp
  | receiverDropped hp | finished hp | finishedUnheard hp =>
      rw [hended] at hp
      cases hp

/-! ## The event stream -/

/-- The events are `Connected`, payloads from before the first close, error or
end, in their order, and at most one `Disconnected`.  Once the pump has ended,
nothing follows; if its receiver is alive then, it was told, and without a
shutdown it was sent all these payloads. -/
structure Faithful (ws : Nat → WsItem) (s : PumpState) : Prop where
  stream : ∃ k sent, GoesOn ws k ∧ sent <+: payloads ws k ∧
    (s.put = dataEvents sent ∨ s.put = dataEvents sent ++ [.disconnected])
  ended : s.phase = .ended → s.receiverAlive = true →
    ∃ k sent, GoesOn ws k ∧ sent <+: payloads ws k ∧ s.put = dataEvents sent ++ [.disconnected] ∧
      (s.shutdown = false → (ws k).stops = true ∧ sent = payloads ws k)
  closed : s.phase = .ended → ∀ bs t, (readPump ws).Steps s bs t → t.put = s.put

/-- The event stream is faithful in every run, over every stream of items. -/
theorem readPump_faithful {ws : Nat → WsItem} {as : List PumpAction} {s : PumpState}
    (hrun : (readPump ws).Run as s) : Faithful ws s := by
  have hinv := pumpInv_of_run hrun
  refine ⟨?_, ?_, ?_⟩
  · cases hinv with
    | selecting _ hgoes hput => exact ⟨_, _, hgoes, List.prefix_rfl, .inl hput⟩
    | sending k _ _ hgoes _ _ hput =>
        exact ⟨k, _, fun j hj => hgoes j (Nat.lt_succ_of_lt hj), List.prefix_rfl, .inl hput⟩
    | finishing k sent _ hleft hput => exact ⟨k, sent, hleft.goesOn, hleft.first, .inl hput⟩
    | heard k sent _ hleft hput => exact ⟨k, sent, hleft.goesOn, hleft.first, .inr hput⟩
    | unheard k sent _ _ hleft hput => exact ⟨k, sent, hleft.goesOn, hleft.first, .inl hput⟩
  · intro hended halive
    cases hinv with
    | heard k sent _ hleft hput =>
        exact ⟨k, sent, hleft.goesOn, hleft.first, hput, hleft.all halive⟩
    | unheard _ _ _ hgone =>
        rw [halive] at hgone
        cases hgone
    | selecting hp | sending _ _ hp | finishing _ _ hp =>
        rw [hended] at hp
        cases hp
  · intro hended bs t hsteps
    have hkept : t.phase = .ended ∧ t.put = s.put := by
      refine hsteps.preserves (I := fun u => u.phase = .ended ∧ u.put = s.put) ?_ ⟨hended, rfl⟩
      rintro u a v ⟨hu, hput⟩ (hstep : PumpStep ws u a v)
      obtain ⟨hv, hsame⟩ := hstep.of_ended hu
      exact ⟨hv, hsame.trans hput⟩
    exact hkept.2

/-- A payload, a ping and a close. -/
theorem readPump_faithful_close :
    ∃ ws as s, (readPump ws).Run as s ∧ s.phase = .ended ∧
      s.put = [.connected, .dataReceived [7], .disconnected] ∧ Faithful ws s := by
  have h0 : (readPump fun j => if j = 0 then .binary [7] else if j = 1 then .other else .close).Run
      [] .fromWebsocket := .start rfl
  have h1 := h0.tail (.binary rfl (show _ = WsItem.binary [7] from rfl))
  have h2 := h1.tail (.sent rfl rfl rfl)
  have h3 := h2.tail (.other rfl rfl)
  have h4 := h3.tail (.stop rfl rfl)
  have h5 := h4.tail (.finished rfl rfl rfl)
  exact ⟨_, _, _, h5, rfl, rfl, readPump_faithful h5⟩

end Waepic.Connection
