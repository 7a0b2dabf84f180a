import Waepic.Connection.Isolation

/-!
# The result of `run`

`run` may return at three places: at the top of its loop, after an attempt that failed,
and after `read_loop` and its cleanup.  With `Allowed` it is settled which results these
can be.

The first place is never the last: `logged_out` is read wherever the loop goes back to its
top, so it is not set there.  After a logout `run` returns the error with which `read_loop`
ended, and `Ok` means that a disconnect was asked for (`run_returns`).

`read_loop` itself can end with an error in five ways, three of them before its loop, when
a mutex is empty.  `connect_once` has filled all three, so only the two errors of the
transport remain; and the flag is set from the end of `connect_once` to the end of
`read_loop`, and at no other time (`connected_while_reading`).

All this is of runs whose future is not dropped: if it is, the flag stays as it is.
-/

namespace Waepic.Connection

open Transition Binary Framing

/-! ## What the phases share -/

/-- The mutexes and the flags of a runner. -/
structure Shared where
  transport : Option Nat
  noiseSocket : Option Nat
  transportEvents : Option Nat
  isConnected : Bool
  loggedOut : Bool

def LifecycleState.shared {State : Type} (s : LifecycleState State) : Shared where
  transport := s.transport
  noiseSocket := s.noiseSocket
  transportEvents := s.transportEvents
  isConnected := s.isConnected
  loggedOut := s.loggedOut

/-- No connection is shared. -/
structure Shared.Released (sh : Shared) : Prop where
  transport : sh.transport = none
  noiseSocket : sh.noiseSocket = none
  transportEvents : sh.transportEvents = none
  isConnected : sh.isConnected = false

/-- No connection is shared, and the runner may still connect. -/
structure Shared.Vacant (sh : Shared) : Prop extends sh.Released where
  loggedOut : sh.loggedOut = false

/-- The errors with which the loop of `read_loop` ends. -/
def LostTransport (e : ConnectionError) : Prop :=
  e = .socket "disconnected" ∨ e = .socket "transport event channel closed"

/-- The results of `read_loop` once it is in its loop. -/
def LoopResult : Result Unit → Prop
  | .ok _ => True
  | .error e => LostTransport e

/-- What `cleanup_connection` has cleared before this. -/
def CleanupStage.Cleared (sh : Shared) : CleanupStage → Prop
  | .waiters | .transport => True
  | .noiseSocket => sh.transport = none
  | .transportEvents => sh.transport = none ∧ sh.noiseSocket = none

def LifecyclePhase.Shares {State : Type} (sh : Shared) : LifecyclePhase State → Prop
  | .top | .connectFailed | .delaying => sh.Vacant
  | .connecting (.storing _ _ _ _) => sh.isConnected = false ∧ sh.loggedOut = false
  | .connecting _ => sh.Vacant
  | .starting _ | .looping _ _ => sh.isConnected = true
  | .leaving r => sh.isConnected = true ∧ LoopResult r
  | .cleaning r stage => sh.isConnected = false ∧ LoopResult r ∧ stage.Cleared sh
  | .ending r => sh.Released ∧ LoopResult r
  | .stopped => sh.Released

/-- `connect_once` has returned `Ok`, and `run` has not yet seen `read_loop` return. -/
def LifecyclePhase.inConnection {State : Type} : LifecyclePhase State → Bool
  | .starting _ | .looping _ _ | .leaving _ => true
  | _ => false

/-- `run` is neither in a connection nor at the end of `connect_once` or in a cleanup. -/
def LifecyclePhase.betweenConnections {State : Type} : LifecyclePhase State → Bool
  | .connecting (.storing _ _ _ _) | .cleaning _ _ => false
  | phase => !phase.inConnection

section Shares

variable {State : Type} {sh : Shared} {phase : LifecyclePhase State}

theorem LifecyclePhase.Shares.isConnected (h : phase.Shares sh) :
    sh.isConnected = phase.inConnection := by
  cases phase with
  | connecting stage =>
      cases stage with
      | storing _ _ _ _ => exact h.1
      | _ => exact Shared.Released.isConnected h.toReleased
  | top | connectFailed | delaying => exact Shared.Released.isConnected h.toReleased
  | starting stage | looping l stage => exact h
  | leaving r | cleaning r stage => exact h.1
  | ending r => exact h.1.isConnected
  | stopped => exact Shared.Released.isConnected h

theorem LifecyclePhase.Shares.released (h : phase.Shares sh)
    (hbetween : phase.betweenConnections = true) : sh.Released := by
  cases phase with
  | connecting stage =>
      cases stage with
      | storing _ _ _ _ => cases hbetween
      | _ => exact h.toReleased
  | top | connectFailed | delaying => exact h.toReleased
  | ending r => exact h.1
  | stopped => exact h
  | starting _ | looping _ _ | leaving _ | cleaning _ _ => cases hbetween

end Shares

/-! ## What `run` returns -/

inductive RunOutcome where
  /-- `Ok`, at the top of the loop. -/
  | loggedOut
  /-- The error of `connect_once`. -/
  | connectFailed
  /-- The result of `read_loop`. -/
  | readLoop (r : Result Unit)

def LifecycleState.mayReconnect {State : Type} (config : ConnectionConfig)
    (s : LifecycleState State) : Bool :=
  config.autoReconnect && !s.loggedOut

/-- What `run` returns with the next step, if it returns. -/
def LifecycleState.returns {State : Type} (config : ConnectionConfig)
    (s : LifecycleState State) : LifecycleAction → Option RunOutcome
  | .run =>
      match s.phase with
      | .top => if s.loggedOut then some .loggedOut else none
      | .connectFailed => if s.mayReconnect config then none else some .connectFailed
      | .ending (.ok r) => some (.readLoop (.ok r))
      | .ending (.error e) =>
          if s.mayReconnect config then none else some (.readLoop (.error e))
      | _ => none
  | _ => none

/-- The runs of `run` until it returns or for ever, with what it returns. -/
def outcomes [WacoreBinary] (config : ConnectionConfig) (codec : NodeCodec)
    (decoder : FrameDecoder) (handshake : Nat → XxHandshake) :
    System (LifecycleState decoder.State × Option RunOutcome) LifecycleAction :=
  ((lifecycle config codec decoder handshake).record none
    fun o s a => (s.returns config a).or o).restrict fun _ a => a ≠ .abort

/-- What `run` may return. -/
inductive RunOutcome.Allowed (config : ConnectionConfig) (sh : Shared) : RunOutcome → Prop where
  | disconnected : Allowed config sh (.readLoop (.ok ()))
  | connectFailed :
      config.autoReconnect = false → sh.loggedOut = false → Allowed config sh .connectFailed
  | transportLost {e : ConnectionError} :
      LostTransport e → config.autoReconnect = false ∨ sh.loggedOut = true →
      Allowed config sh (.readLoop (.error e))

section Steps

variable {config : ConnectionConfig} {decoder : FrameDecoder} {handshake : Nat → XxHandshake}
  {s t : LifecycleState decoder.State}

theorem LifecycleState.retryOrStop_of_mayReconnect (h : s.mayReconnect config = true) :
    s.retryOrStop config = s.setPhase .delaying := by
  obtain ⟨hauto, hin⟩ := Bool.and_eq_true_iff.mp h
  rw [Bool.not_eq_true'] at hin
  simp [retryOrStop, hauto, hin]

theorem LifecycleState.not_mayReconnect (h : s.mayReconnect config = false) :
    s.retryOrStop config = s.setPhase .stopped ∧
      (config.autoReconnect = false ∨ s.shared.loggedOut = true) := by
  rcases Bool.and_eq_false_iff.mp h with hauto | hin
  · exact ⟨by simp [retryOrStop, hauto], .inl hauto⟩
  · rw [Bool.not_eq_false'] at hin
    exact ⟨by simp [retryOrStop, hin], .inr hin⟩

/-- A step that is not one of the three at which `run` may return. -/
def LifecyclePhase.goesOn {State : Type} : LifecyclePhase State → Bool
  | .top | .connectFailed | .ending _ | .stopped => false
  | _ => true

theorem LifecycleState.returns_of_goesOn (h : s.phase.goesOn = true) (a : LifecycleAction) :
    s.returns config a = none := by
  cases a with
  | run =>
      simp only [returns]
      cases hphase : s.phase <;> rw [hphase] at h <;> first | rfl | cases h
  | _ => rfl

/-- `connect_once` shares its connection at its end, and nothing if it fails. -/
theorem LifecyclePhase.Shares.connectOnce (hs : s.phase.Shares s.shared)
    (h : ConnectOnceStep decoder (handshake s.attempt) s t) :
    s.phase.goesOn = true ∧ t.phase ≠ .stopped ∧ t.phase.Shares t.shared := by
  cases h with
  | handshakeConnected hphase _ =>
      rw [hphase] at hs ⊢
      refine ⟨rfl, ?_, ?_⟩
      · show s.phase ≠ .stopped
        rw [hphase]
        simp
      · show s.phase.Shares s.shared
        rw [hphase]
        exact hs
  | finished hphase _ _ =>
      rw [hphase] at hs ⊢
      exact ⟨rfl, by simp [LifecycleState.setPhase], hs.isConnected, hs.loggedOut⟩
  | storeIsConnected hphase =>
      rw [hphase] at hs ⊢
      exact ⟨rfl, by simp, rfl⟩
  | createFailed hphase | created hphase | firstEvent hphase _ _ | firstDisconnected hphase _
  | firstClosed hphase _ _ | helloFailed hphase _ | helloRefused hphase _ _
  | helloSent hphase _ _ | handshakeChunk hphase _ _ | handshakeFrame hphase _ _
  | handshakeDisconnected hphase _ | handshakeTimeout hphase _ | finishFailed hphase _
  | finishRefused hphase _ _ | storeTransport hphase | storeNoiseSocket hphase
  | storeTransportEvents hphase =>
      rw [hphase] at hs ⊢
      exact ⟨rfl, by simp [LifecycleState.setPhase], hs⟩

/-- `read_loop` finds all that it needs, and leaves the flag set. -/
theorem LifecyclePhase.Shares.readLoop [WacoreBinary] {codec : NodeCodec}
    (hs : s.phase.Shares s.shared) (hinv : LifecycleInv handshake s)
    (h : ReadLoopStep codec decoder s t) :
    s.phase.goesOn = true ∧ t.phase ≠ .stopped ∧ t.phase.Shares t.shared := by
  cases h with
  | loadTransport hphase =>
      obtain ⟨hconnected, -⟩ := hinv.phase_eq hphase
      rw [hphase] at hs ⊢
      rw [(hinv.flag hconnected).1]
      exact ⟨rfl, by simp [LifecycleState.setPhase], hs⟩
  | loadNoiseSocket hphase =>
      obtain ⟨hconnected, -⟩ := hinv.phase_eq hphase
      rw [hphase] at hs ⊢
      rw [(hinv.flag hconnected).2.1]
      exact ⟨rfl, by simp [LifecycleState.setPhase], hs⟩
  | takeTransportEvents hphase =>
      obtain ⟨-, hevents, -⟩ := hinv.phase_eq hphase
      rw [hphase] at hs ⊢
      rw [hevents]
      exact ⟨rfl, by simp, hs⟩
  | reconnected hphase _ =>
      rw [hphase] at hs ⊢
      refine ⟨rfl, ?_, ?_⟩
      · show s.phase ≠ .stopped
        rw [hphase]
        simp
      · show s.phase.Shares s.shared
        rw [hphase]
        exact hs
  | disconnected hphase _ =>
      rw [hphase] at hs ⊢
      exact ⟨rfl, by simp [LifecycleState.setPhase], hs, .inl rfl⟩
  | closed hphase _ _ =>
      rw [hphase] at hs ⊢
      exact ⟨rfl, by simp [LifecycleState.setPhase], hs, .inr rfl⟩
  | disconnect hphase =>
      rw [hphase] at hs ⊢
      exact ⟨rfl, by simp [LifecycleState.setPhase], hs, trivial⟩
  | encrypt hphase _ _ _ | handOver hphase _ _ _ =>
      rw [hphase] at hs ⊢
      refine ⟨rfl, ?_, ?_⟩
      · show s.phase ≠ .stopped
        rw [hphase]
        simp
      · show s.phase.Shares s.shared
        rw [hphase]
        exact hs
  | data hphase _ | command hphase | keepalive hphase | drained hphase _
  | frameRefused hphase _ _ _ | frame hphase _ _ _ _ | routed hphase | marshalFailed hphase _
  | call hphase _ _ _ | returned hphase _ _ =>
      rw [hphase] at hs ⊢
      exact ⟨rfl, by simp [LifecycleState.setPhase], hs⟩

/-- The cleanup leaves nothing behind. -/
theorem LifecyclePhase.Shares.cleanup (hs : s.phase.Shares s.shared) (h : CleanupStep s t) :
    s.phase.goesOn = true ∧ t.phase ≠ .stopped ∧ t.phase.Shares t.shared := by
  cases h with
  | left hphase =>
      rw [hphase] at hs ⊢
      exact ⟨rfl, by simp, rfl, hs.2, trivial⟩
  | drainWaiters hphase =>
      rw [hphase] at hs ⊢
      exact ⟨rfl, by simp [LifecycleState.setPhase], hs.1, hs.2.1, trivial⟩
  | clearTransport hphase =>
      rw [hphase] at hs ⊢
      exact ⟨rfl, by simp, hs.1, hs.2.1, rfl⟩
  | clearNoiseSocket hphase =>
      rw [hphase] at hs ⊢
      exact ⟨rfl, by simp, hs.1, hs.2.1, hs.2.2, rfl⟩
  | clearTransportEvents hphase =>
      rw [hphase] at hs ⊢
      exact ⟨rfl, by simp, ⟨hs.2.2.1, hs.2.2.2, rfl, hs.1⟩, hs.2.1⟩

/-! ## Every run -/

/-- While `run` goes on it has returned nothing, and when it has stopped it has returned
something that it may. -/
structure OutcomeInv (config : ConnectionConfig)
    (p : LifecycleState decoder.State × Option RunOutcome) : Prop where
  shares : p.1.phase.Shares p.1.shared
  running : p.1.phase ≠ .stopped → p.2 = none
  returned : p.1.phase = .stopped → ∃ o, p.2 = some o ∧ o.Allowed config p.1.shared

variable {o : Option RunOutcome} {a : LifecycleAction}

theorem OutcomeInv.goOn (hs : OutcomeInv config (s, o))
    (h : s.phase.goesOn = true ∧ t.phase ≠ .stopped ∧ t.phase.Shares t.shared) :
    OutcomeInv config (t, (s.returns config a).or o) := by
  obtain ⟨hgoes, hrunning, hshares⟩ := h
  have hnone : o = none := hs.running (by intro hstopped; rw [hstopped] at hgoes; cases hgoes)
  rw [LifecycleState.returns_of_goesOn hgoes, hnone]
  exact ⟨hshares, fun _ => rfl, fun hstopped => absurd hstopped hrunning⟩

/-- The state that `run` leaves when it returns `r`. -/
theorem OutcomeInv.return {r : RunOutcome} (hreturns : s.returns config a = some r)
    (hreleased : s.shared.Released) (hallowed : r.Allowed config s.shared) :
    OutcomeInv config (s.setPhase .stopped, (s.returns config a).or o) := by
  rw [hreturns]
  exact ⟨hreleased, fun hrunning => absurd rfl hrunning, fun _ => ⟨r, rfl, hallowed⟩⟩

/-- After a failure `run` returns it or goes on. -/
theorem OutcomeInv.retryOrStop {r : RunOutcome} (hs : OutcomeInv config (s, o))
    (hrunning : s.phase ≠ .stopped) (hreleased : s.shared.Released)
    (hreturns : s.returns config a = if s.mayReconnect config then none else some r)
    (hallowed : config.autoReconnect = false ∨ s.shared.loggedOut = true →
      r.Allowed config s.shared) :
    OutcomeInv config (s.retryOrStop config, (s.returns config a).or o) := by
  cases hmay : s.mayReconnect config with
  | true =>
      rw [hmay, if_pos rfl] at hreturns
      have hnone : o = none := hs.running hrunning
      rw [LifecycleState.retryOrStop_of_mayReconnect hmay, hreturns, hnone]
      have hin := (Bool.and_eq_true_iff.mp hmay).2
      rw [Bool.not_eq_true'] at hin
      exact ⟨⟨hreleased, hin⟩, fun _ => rfl, fun hstopped => by cases hstopped⟩
  | false =>
      rw [hmay, if_neg Bool.false_ne_true] at hreturns
      obtain ⟨hstop, hwhy⟩ := LifecycleState.not_mayReconnect hmay
      rw [hstop]
      exact .return hreturns hreleased (hallowed hwhy)

theorem OutcomeInv.step [WacoreBinary] {codec : NodeCodec} (hs : OutcomeInv config (s, o))
    (hinv : LifecycleInv handshake s)
    (h : LifecycleStep config codec decoder handshake s a t) (ha : a ≠ .abort) :
    OutcomeInv config (t, (s.returns config a).or o) := by
  have hshares : s.phase.Shares s.shared := hs.shares
  cases h with
  | arrive _ _ | close _ => exact ⟨hs.shares, hs.running, hs.returned⟩
  | loggedOut hphase hout =>
      rw [hphase] at hshares
      cases hout.symm.trans hshares.loggedOut
  | connect hphase hin =>
      have hnone : o = none := hs.running (by rw [hphase]; simp)
      have hreturns : s.returns config .run = none := by
        simp [LifecycleState.returns, hphase, hin]
      rw [hphase] at hshares
      rw [hreturns, hnone]
      exact ⟨hshares, fun _ => rfl, fun hstopped => by cases hstopped⟩
  | connectOnce h => exact hs.goOn (hshares.connectOnce h)
  | connectFailed hphase =>
      have hreturns : s.returns config .run =
          if s.mayReconnect config then none else some .connectFailed := by
        simp [LifecycleState.returns, hphase]
      have hrunning : s.phase ≠ .stopped := by rw [hphase]; simp
      rw [hphase] at hshares
      refine hs.retryOrStop hrunning hshares.toReleased hreturns fun hwhy => ?_
      rcases hwhy with hauto | hout
      · exact .connectFailed hauto hshares.loggedOut
      · cases hout.symm.trans hshares.loggedOut
  | readLoop h => exact hs.goOn (hshares.readLoop hinv h)
  | cleanup h => exact hs.goOn (hshares.cleanup h)
  | endedOk hphase =>
      have hreturns : s.returns config .run = some (.readLoop (.ok ())) := by
        simp [LifecycleState.returns, hphase]
      rw [hphase] at hshares
      exact .return hreturns hshares.1 .disconnected
  | @endedError e hphase =>
      have hreturns : s.returns config .run =
          if s.mayReconnect config then none else some (.readLoop (.error e)) := by
        simp [LifecycleState.returns, hphase]
      have hrunning : s.phase ≠ .stopped := by rw [hphase]; simp
      rw [hphase] at hshares
      exact hs.retryOrStop hrunning hshares.1 hreturns fun hwhy => .transportLost hshares.2 hwhy
  | delayElapsed hphase =>
      refine hs.goOn ⟨by rw [hphase]; rfl, by simp [LifecycleState.setPhase], ?_⟩
      rw [hphase] at hshares
      exact hshares
  | abort => exact absurd rfl ha

end Steps

variable [WacoreBinary] {config : ConnectionConfig} {codec : NodeCodec} {decoder : FrameDecoder}
  {handshake : Nat → XxHandshake} {p : LifecycleState decoder.State × Option RunOutcome}
  {as : List LifecycleAction}

theorem outcomeInv_of_run (h : (outcomes config codec decoder handshake).Run as p) :
    OutcomeInv config p := by
  refine (h.invariant (I := fun p => LifecycleInv handshake p.1 ∧ OutcomeInv config p)
    ?_ ?_).2
  · rintro ⟨s, o⟩ ⟨hs, ho⟩
    cases (show s = .new from hs)
    cases (show o = none from ho)
    exact ⟨⟨.new handshake, rfl⟩, ⟨⟨rfl, rfl, rfl, rfl⟩, rfl⟩, fun _ => rfl,
      fun hstopped => by cases hstopped⟩
  · rintro ⟨s, o⟩ a ⟨t, o'⟩ ⟨hinv, hs⟩ ⟨⟨hstep, ho⟩, ha⟩
    cases (show o' = (s.returns config a).or o from ho)
    exact ⟨hinv.step hstep, hs.step hinv hstep ha⟩

/-- When `run` has returned, no connection is left in the mutexes and the flag is cleared.
It returned `Ok` because `read_loop` was asked to end, never for a logout; the error of
`connect_once` only without `auto_reconnect`; and else one of the two errors of a lost
transport, without `auto_reconnect` or after a logout. -/
theorem run_returns (h : (outcomes config codec decoder handshake).Run as p)
    (hstopped : p.1.phase = .stopped) :
    p.1.shared.Released ∧ ∃ o, p.2 = some o ∧ o.Allowed config p.1.shared := by
  have hs := outcomeInv_of_run h
  have hshares := hs.shares
  rw [hstopped] at hshares
  exact ⟨hshares, hs.returned hstopped⟩

/-- A step of `run` is one of `outcomes`. -/
theorem outcomes_step {s t : LifecycleState decoder.State} {o : Option RunOutcome}
    {a : LifecycleAction} (h : LifecycleStep config codec decoder handshake s a t)
    (ha : a ≠ .abort) :
    (outcomes config codec decoder handshake).step (s, o) a (t, (s.returns config a).or o) :=
  ⟨⟨h, rfl⟩, ha⟩

omit [WacoreBinary] in
/-- The first attempt succeeds. -/
theorem outcomes_reading :
    letI := plainWacore
    ∃ as s, (outcomes ⟨false⟩ oneByteCodec bufferDecoder fun _ => plainHandshake).Run as (s, none) ∧
      s.phase = .looping ⟨1, 1, 1, []⟩ .select ∧ s.attempt = 1 ∧ (s.links 1).pending = [] := by
  let _ := plainWacore
  let S := outcomes ⟨false⟩ oneByteCodec bufferDecoder fun _ => plainHandshake
  obtain ⟨d, hframe, -⟩ := Decoder.decodeFrame_of_buffered (D := bufferDecoder)
    (show bufferDecoder.buffered (bufferDecoder.feed [] (frameCode.encode (bytePayload 1))) =
      frameCode.encode (bytePayload 1) ++ [] from (List.append_nil _).symm)
  have h0 : S.Run [] (.new, none) := .start ⟨rfl, rfl⟩
  have h1 := h0.tail (outcomes_step (.connect rfl rfl) (by simp))
  have h2 := h1.tail (outcomes_step (.connectOnce (.created rfl)) (by simp))
  have h3 := h2.tail (outcomes_step (.arrive (k := 1) (e := .connected) (Nat.le_refl _) rfl)
    (by simp))
  have h4 := h3.tail (outcomes_step (.connectOnce (.firstEvent rfl rfl (by simp))) (by simp))
  have h5 := h4.tail (outcomes_step (.connectOnce (.helloSent rfl rfl rfl)) (by simp))
  have h6 := h5.tail (outcomes_step (.arrive (k := 1)
    (e := .dataReceived (frameCode.encode (bytePayload 1))) (Nat.le_refl _) rfl) (by simp))
  have h7 := h6.tail (outcomes_step (.connectOnce (.handshakeFrame rfl rfl hframe)) (by simp))
  have h8 := h7.tail (outcomes_step (.connectOnce (.finished rfl rfl rfl)) (by simp))
  have h9 := h8.tail (outcomes_step (.connectOnce (.storeTransport rfl)) (by simp))
  have h10 := h9.tail (outcomes_step (.connectOnce (.storeNoiseSocket rfl)) (by simp))
  have h11 := h10.tail (outcomes_step (.connectOnce (.storeTransportEvents rfl)) (by simp))
  have h12 := h11.tail (outcomes_step (.connectOnce (.storeIsConnected rfl)) (by simp))
  have h13 := h12.tail (outcomes_step (.readLoop (.loadTransport rfl)) (by simp))
  have h14 := h13.tail (outcomes_step (.readLoop (.loadNoiseSocket rfl)) (by simp))
  have h15 := h14.tail (outcomes_step (.readLoop (.takeTransportEvents rfl)) (by simp))
  exact ⟨_, _, h15, rfl, rfl, rfl⟩

omit [WacoreBinary] in
/-- The transport is lost, and `run` may not reconnect. -/
theorem run_returns_lost :
    letI := plainWacore
    ∃ as p, (outcomes ⟨false⟩ oneByteCodec bufferDecoder fun _ => plainHandshake).Run as p ∧
      p.1.phase = .stopped ∧
      p.2 = some (.readLoop (.error (.socket "transport event channel closed"))) ∧
      p.1.shared.Released ∧ ∃ o, p.2 = some o ∧ o.Allowed ⟨false⟩ p.1.shared := by
  let _ := plainWacore
  obtain ⟨as, s, h0, hphase, hattempt, hpending⟩ := outcomes_reading
  have hclosed : ((s.modifyLink 1 fun link => { link with closed := true }).links 1).closed =
      true := by
    rw [LifecycleState.modifyLink_links, if_pos rfl]
  have hempty : ((s.modifyLink 1 fun link => { link with closed := true }).links 1).pending =
      [] := by
    rw [LifecycleState.modifyLink_links, if_pos rfl]
    exact hpending
  have h1 := h0.tail (outcomes_step (.close (k := 1) (Nat.le_of_eq hattempt.symm)) (by simp))
  have h2 := h1.tail (outcomes_step (.readLoop (.closed hphase hempty hclosed)) (by simp))
  have h3 := h2.tail (outcomes_step (.cleanup (.left rfl)) (by simp))
  have h4 := h3.tail (outcomes_step (.cleanup (.drainWaiters rfl)) (by simp))
  have h5 := h4.tail (outcomes_step (.cleanup (.clearTransport rfl)) (by simp))
  have h6 := h5.tail (outcomes_step (.cleanup (.clearNoiseSocket rfl)) (by simp))
  have h7 := h6.tail (outcomes_step (.cleanup (.clearTransportEvents rfl)) (by simp))
  have h8 := h7.tail (outcomes_step (.endedError rfl) (by simp))
  exact ⟨_, _, h8, rfl, rfl, run_returns h8 rfl⟩

/-- The flag is set exactly in a connection, and outside nothing is left in the mutexes;
`read_loop` never ends because a mutex was empty. -/
theorem connected_while_reading (h : (outcomes config codec decoder handshake).Run as p) :
    p.1.isConnected = p.1.phase.inConnection ∧
      (p.1.phase.betweenConnections = true → p.1.shared.Released) ∧
      ∀ e, p.1.phase = .leaving (.error e) → LostTransport e := by
  have hshares := (outcomeInv_of_run h).shares
  refine ⟨hshares.isConnected, hshares.released, ?_⟩
  intro e hphase
  rw [hphase] at hshares
  exact hshares.2

omit [WacoreBinary] in
theorem connected_while_reading_first :
    letI := plainWacore
    ∃ as s, (outcomes ⟨false⟩ oneByteCodec bufferDecoder fun _ => plainHandshake).Run as (s, none) ∧
      s.phase = .looping ⟨1, 1, 1, []⟩ .select ∧ s.isConnected = true := by
  let _ := plainWacore
  obtain ⟨as, s, hrun, hphase, -⟩ := outcomes_reading
  have hconnected : s.isConnected = s.phase.inConnection := (connected_while_reading hrun).1
  exact ⟨as, s, hrun, hphase, by rw [hconnected, hphase]; rfl⟩

end Waepic.Connection
