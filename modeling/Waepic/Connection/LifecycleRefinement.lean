import Waepic.Connection.Outcome
import Waepic.Library.Simulation

/-!
# The runner in two models

`ConnectionRunner::run` is modelled twice: with the calls on its handles, the waiters and the
command queue, but a connection as one step (`connection`), and with the mutexes, the
handshake, the transports and the sockets, but a command out of nowhere (`lifecycle`).

The second refines the first: for every state that it reaches, the runner with its calls
reaches one that is in the corresponding phase, with the same `is_connected` and the same
`logged_out` (`lifecycle_refines`).  A stretch of the handshake, a chunk that is decoded and a
mutex that is cleared are no steps of the first model; a command is one that some call has
queued just before.
-/

namespace Waepic.Connection

open Transition Binary

/-! ## Where the runner is -/

/-- The phases of a send, while its call of `encrypt_and_send` is here. -/
def commandShows : Option SendStage → Phase → Prop
  | none, phase => phase = .reading
  | some .sending, phase => ∃ c, phase = .transmitting c
  | some _, phase => ∃ c, phase = .sendingNode c

/-- The phases before the call of `encrypt_and_send`. -/
def SendKind.shows : SendKind → Phase → Prop
  | .command, phase => ∃ c, phase = .sendingNode c
  | .keepalive, phase => phase = .pinging
  | .ack n, phase => phase = .acking n

/-- The phases in the call `c`, with the calls of the socket. -/
def SendKind.showsIn (calls : SenderId → Option SendStage) (c : SenderId) : SendKind → Phase → Prop
  | .command, phase => commandShows (calls c) phase
  | .keepalive, phase => phase = .pinging
  | .ack n, phase => phase = .acking n

def LoopStage.shows (socket : Option NoiseSocket) : LoopStage → Phase → Prop
  | .select, phase | .draining, phase => phase = .reading
  | .marshalling _ kind, phase => kind.shows phase
  | .sending c kind, phase => ∃ j, socket = some j ∧ kind.showsIn j.write.calls c phase
  | .routing n, phase => phase = .routing n

/-- The phases of the runner with calls that correspond to this one. -/
def LifecyclePhase.shows {State : Type} (sockets : Nat → Option NoiseSocket) :
    LifecyclePhase State → Phase → Prop
  | .top, phase => phase = .idle
  | .connecting _, phase | .connectFailed, phase => phase = .connecting
  | .starting _, phase => phase = .reading
  | .looping l stage, phase => stage.shows (sockets l.noiseSocket) phase
  | .leaving r, phase => phase = .leaving r
  | .cleaning r _, phase | .ending r, phase => phase = .closing r
  | .delaying, phase => phase = .delaying
  | .stopped, phase => phase = .stopped

def LifecycleState.Shows {State : Type} (s : LifecycleState State) (phase : Phase) : Prop :=
  s.phase.shows s.sockets phase

/-- The two runners are at the same place, and no call but those of past commands was made. -/
structure Corresponds {State : Type} (s : LifecycleState State) (t : ConnState) : Prop where
  phase : s.Shows t.runner.phase
  isConnected : t.runner.isConnected = s.isConnected
  loggedOut : t.runner.loggedOut = s.loggedOut
  commands : t.commands = []
  handlesAlive : t.handlesAlive = true
  fresh : ∃ c, ∀ d, c ≤ d → t.calls d = none

section

variable [WacoreBinary] {config : ConnectionConfig} {State : Type}
  {s s' : LifecycleState State} {t t' : ConnState}

/-- The runner with calls gets to where the other one is. -/
def Catches (config : ConnectionConfig) (t : ConnState) (s : LifecycleState State) : Prop :=
  ∃ bs t', (connection config).Steps t bs t' ∧ Corresponds s t'

/-- Nothing is seen of the step. -/
theorem Corresponds.stutter (h : Corresponds s t) (hphase : s'.Shows t.runner.phase)
    (hconnected : s'.isConnected = s.isConnected) (hlogout : s'.loggedOut = s.loggedOut) :
    Catches config t s' :=
  ⟨[], t, .refl, hphase, h.isConnected.trans hconnected.symm, h.loggedOut.trans hlogout.symm,
    h.commands, h.handlesAlive, h.fresh⟩

/-- The step is one of the runner with calls. -/
theorem Corresponds.one (h : Corresponds s t) {a : ConnAction} (hstep : ConnStep config t a t')
    (hphase : s'.Shows t'.runner.phase) (hconnected : t'.runner.isConnected = s'.isConnected)
    (hlogout : t'.runner.loggedOut = s'.loggedOut) (hcommands : t'.commands = t.commands)
    (hhandles : t'.handlesAlive = t.handlesAlive)
    (hcalls : ∀ c, t.calls c = none → t'.calls c = none) : Catches config t s' := by
  obtain ⟨c, hfresh⟩ := h.fresh
  exact ⟨[a], t', .single hstep, hphase, hconnected, hlogout, hcommands.trans h.commands,
    hhandles.trans h.handlesAlive, c, fun d hd => hcalls d (hfresh d hd)⟩

/-- The step is a move of the runner. -/
theorem Corresponds.move (h : Corresponds s t) {m : RunnerMove} {r : Runner}
    (hmove : RunnerStep config t.runner m r) (hphase : s'.Shows r.phase)
    (hconnected : r.isConnected = s'.isConnected) (hlogout : r.loggedOut = s'.loggedOut) :
    Catches config t s' :=
  h.one (.move hmove) hphase hconnected hlogout rfl rfl fun _ => id

omit [WacoreBinary] in
theorem ConnState.modifyCall_none {c d : CallId} (f : Call → Call) (h : t.calls d = none) :
    (t.modifyCall c f).calls d = none := by
  rcases eq_or_ne d c with rfl | hne
  · rw [ConnState.modifyCall_calls_self, h]
    rfl
  · rw [ConnState.modifyCall_calls_of_ne _ _ hne, h]

/-- A call queues a command, and the runner takes it. -/
theorem Corresponds.command (h : Corresponds s t) (n : Node) (hreading : t.runner.phase = .reading)
    (hphase : ∀ c, s'.Shows (.sendingNode c)) (hconnected : s'.isConnected = s.isConnected)
    (hlogout : s'.loggedOut = s.loggedOut) : Catches config t s' := by
  obtain ⟨c, hfresh⟩ := h.fresh
  have h0 : (connection config).Steps t [] t := .refl
  have h1 := h0.tail (show ConnStep config _ (.sendNode c n) _ from
    .sendNode (hfresh c le_rfl) h.handlesAlive)
  have h2 := h1.tail (show ConnStep config _ (.enqueue c) _ from
    .enqueue (ConnState.setCall_calls_self ..) (Or.inr ⟨rfl, rfl⟩)
      (by rw [ConnState.setCall_runner, hreading]; nofun))
  have hqueue : t.commands ++ [Command.sendNode c] = [.sendNode c] := by rw [h.commands]; rfl
  have h3 := h2.tail (show ConnStep config _ (.takeNode c) _ from .takeNode hreading hqueue)
  refine ⟨_, _, h3, hphase c, h.isConnected.trans hconnected.symm, h.loggedOut.trans hlogout.symm,
    rfl, h.handlesAlive, c + 1, fun d hd => ?_⟩
  have hne : d ≠ c := (Nat.lt_of_succ_le hd).ne'
  simp [hne, hfresh d (Nat.le_of_succ_le hd)]

/-- `disconnect` is called, and the runner takes the command. -/
theorem Corresponds.disconnect (h : Corresponds s t) (hreading : t.runner.phase = .reading)
    (hphase : s'.Shows (.leaving (.ok ()))) (hconnected : s'.isConnected = s.isConnected)
    (hlogout : s'.loggedOut = s.loggedOut) : Catches config t s' := by
  have h0 : (connection config).Steps t [] t := .refl
  have h1 := h0.tail (show ConnStep config _ .disconnect _ from
    .disconnect h.handlesAlive (by rw [hreading]; nofun))
  have hqueue : t.commands ++ [Command.disconnect] = [.disconnect] := by rw [h.commands]; rfl
  have h2 := h1.tail (show ConnStep config _ .takeDisconnect _ from
    .takeDisconnect hreading hqueue)
  exact ⟨_, _, h2, hphase, h.isConnected.trans hconnected.symm, h.loggedOut.trans hlogout.symm,
    rfl, h.handlesAlive, h.fresh⟩

/-- The runner answers a command. -/
theorem Corresponds.answer (h : Corresponds s t) {c : CallId} {a : ConnAction} {r : Result Unit}
    {accepted : List (CallId × Nat)}
    (hstep : ConnStep config t a
      { (t.answerSend c r).setPhase .reading with accepted := accepted })
    (hphase : s'.Shows .reading) (hconnected : s'.isConnected = s.isConnected)
    (hlogout : s'.loggedOut = s.loggedOut) : Catches config t s' :=
  h.one hstep hphase (h.isConnected.trans hconnected.symm) (h.loggedOut.trans hlogout.symm) rfl rfl
    fun _ => ConnState.modifyCall_none _

/-- A frame is routed. -/
theorem Corresponds.frame (h : Corresponds s t) (n : Node) (hreading : t.runner.phase = .reading)
    (hphase : s'.Shows (if (routeNode n).ack.isSome then .acking n else .routing n))
    (hconnected : s'.isConnected = s.isConnected)
    (hlogout : s'.loggedOut = (s.loggedOut || (routeNode n).logout)) : Catches config t s' := by
  cases hwaiter : (routeNode n).waiter with
  | none =>
      refine h.one (.frameOther hreading hwaiter) hphase (h.isConnected.trans hconnected.symm) ?_
        rfl rfl fun _ => id
      rw [hlogout, ← h.loggedOut]
  | some id =>
      have hiq := routeNode_waiter_iff.mp hwaiter
      have hroute : (routeNode n).ack = none ∧ (routeNode n).logout = false := by
        simp [routeNode, IsSetIq, hiq]
      rw [hroute.1] at hphase
      rw [hroute.2, Bool.or_false] at hlogout
      refine h.one (.frameIq hreading hwaiter) hphase ?_ ?_ (by simp) (by simp [ConnState.setPhase])
        fun c hc => ?_
      · simp [ConnState.setPhase, h.isConnected, hconnected]
      · simp [ConnState.setPhase, h.loggedOut, hlogout]
      · rw [ConnState.setPhase_calls, ConnState.resolveWaiter_calls, hc]
        split <;> rfl

/-- `cleanup_connection` begins. -/
theorem Corresponds.cleanup (h : Corresponds s t) {r : Result Unit}
    (hleaving : t.runner.phase = .leaving r) (hphase : s'.Shows (.closing r))
    (hconnected : s'.isConnected = false) (hlogout : s'.loggedOut = s.loggedOut) :
    Catches config t s' := by
  refine h.one (.cleanup hleaving) hphase hconnected.symm (h.loggedOut.trans hlogout.symm) rfl rfl
    fun c hc => ?_
  show (if t.Waits c then _ else t.calls c) = none
  rw [hc]
  split <;> rfl

/-- The future of `run` is dropped. -/
theorem Corresponds.abort (h : Corresponds s t) : Catches config t (s.setPhase .stopped) := by
  cases hserves : t.runner.phase.serves with
  | none =>
      exact h.one (.abort hserves) rfl h.isConnected h.loggedOut rfl rfl fun _ => id
  | some c =>
      exact h.one (.abortSending hserves) rfl h.isConnected h.loggedOut rfl rfl
        fun _ => ConnState.modifyCall_none _

/-! ## What is seen of a step -/

/-- `connect_once` is seen when it has stored the last of its values. -/
theorem ConnectOnceStep.catches {decoder : FrameDecoder} {x : XxHandshake}
    {s s' : LifecycleState decoder.State} (h : Corresponds s t)
    (hstep : ConnectOnceStep decoder x s s') : Catches config t s' := by
  have hphase := h.phase
  unfold LifecycleState.Shows at hphase
  cases hstep with
  | storeIsConnected hstage =>
      rw [hstage] at hphase
      exact h.move (.connected hphase) rfl rfl h.loggedOut
  | handshakeConnected _ _ => exact h.stutter h.phase rfl rfl
  | _ hstage =>
      rw [hstage] at hphase
      exact h.stutter hphase rfl rfl

/-- A step of `encrypt_and_send` in the call `c` of a command. -/
inductive CommandSends (w w' : SocketState) (c : SenderId) : Prop where
  | locks {plaintext : Bytes} {plaintext' : Bytes} :
      w.calls c = some (.waiting plaintext) → w'.calls c = some (.locked plaintext') →
      CommandSends w w' c
  | refused {plaintext : Bytes} (e : ConnectionError) :
      w.calls c = some (.locked plaintext) → w'.calls c = none → CommandSends w w' c
  | returns (r : Result Unit) :
      w.calls c = some .sending → w'.calls c = none → CommandSends w w' c

omit [WacoreBinary] in
theorem SocketStep.command {wire : Wire} {w w' : SocketState} {c : SenderId} {a : SocketAction}
    (h : SocketStep wire w a w') (hallows : SendKind.command.Allows c a) : CommandSends w w' c := by
  cases h with
  | call _ | handOver _ _ _ => exact hallows.elim
  | cancelWaiting _ | cancelSending _ => cases hallows.2
  | lock hwaiting _ =>
      cases hallows
      exact .locks hwaiting (Function.update_self ..)
  | exhausted hlocked _ =>
      cases hallows
      exact .refused (.encrypt "write counter exhausted") hlocked (Function.update_self ..)
  | @rejected _ _ e hlocked _ _ =>
      cases hallows
      exact .refused e hlocked (Function.update_self ..)
  | sent hsending =>
      cases hallows
      exact .returns (.ok ()) hsending (Function.update_self ..)
  | @sendFailed _ e hsending =>
      cases hallows
      exact .returns (.error (.socket ("transport send failed: " ++ e))) hsending
        (Function.update_self ..)

/-- The kind of a send tells where the runner goes on. -/
theorem Corresponds.sent {decoder : FrameDecoder} {s s' : LifecycleState decoder.State}
    (h : Corresponds s t) {kind : SendKind} (hphase : kind.shows t.runner.phase)
    {l : ReadLocals decoder.State} (hafter : s'.phase = .looping l kind.after)
    (hconnected : s'.isConnected = s.isConnected) (hlogout : s'.loggedOut = s.loggedOut) :
    Catches config t s' := by
  have hshows : ∀ {phase}, kind.after.shows (s'.sockets l.noiseSocket) phase → s'.Shows phase := by
    intro phase hp
    unfold LifecycleState.Shows
    rw [hafter]
    exact hp
  cases kind with
  | command =>
      obtain ⟨c, hc⟩ := hphase
      exact h.answer (.sendRefused (e := .notConnected) hc) (hshows rfl) hconnected hlogout
  | keepalive =>
      exact h.move (.pinged hphase) (hshows rfl) (h.isConnected.trans hconnected.symm)
        (h.loggedOut.trans hlogout.symm)
  | ack n =>
      exact h.move (.acked hphase) (hshows rfl) (h.isConnected.trans hconnected.symm)
        (h.loggedOut.trans hlogout.symm)

omit [WacoreBinary] in
/-- The phase in a call of `encrypt_and_send`. -/
theorem Corresponds.sending {decoder : FrameDecoder} {s : LifecycleState decoder.State}
    (h : Corresponds s t) {l : ReadLocals decoder.State} {c : SenderId} {kind : SendKind}
    {socket : NoiseSocket} (hstage : s.phase = .looping l (.sending c kind))
    (hsocket : s.sockets l.noiseSocket = some socket) :
    kind.showsIn socket.write.calls c t.runner.phase := by
  have hphase := h.phase
  unfold LifecycleState.Shows at hphase
  rw [hstage] at hphase
  obtain ⟨_, hsame, hshows⟩ := hphase
  cases hsame.symm.trans hsocket
  exact hshows

omit [WacoreBinary] in
theorem LifecycleState.shows_sending {decoder : FrameDecoder} {s : LifecycleState decoder.State}
    {l : ReadLocals decoder.State} {c : SenderId} {kind : SendKind} {socket : NoiseSocket}
    {phase : Phase} (hstage : s.phase = .looping l (.sending c kind))
    (hshows : kind.showsIn socket.write.calls c phase) :
    (s.setSocket l.noiseSocket socket).Shows phase := by
  show LifecyclePhase.shows _ s.phase phase
  rw [hstage]
  exact ⟨socket, Function.update_self .., hshows⟩

/-- The runner answers a command as its call of `encrypt_and_send` ends. -/
theorem Corresponds.encrypt {decoder : FrameDecoder} {s : LifecycleState decoder.State}
    (h : Corresponds s t) {l : ReadLocals decoder.State} {c : SenderId} {kind : SendKind}
    {socket : NoiseSocket} {a : SocketAction} {write : SocketState}
    (hstage : s.phase = .looping l (.sending c kind))
    (hsocket : s.sockets l.noiseSocket = some socket) (hallows : kind.Allows c a)
    (hstep : SocketStep socket.writeCipher socket.write a write) :
    Catches config t (s.setSocket l.noiseSocket { socket with write := write }) := by
  have hshows := h.sending hstage hsocket
  cases kind with
  | keepalive => exact h.stutter (LifecycleState.shows_sending hstage hshows) rfl rfl
  | ack n => exact h.stutter (LifecycleState.shows_sending hstage hshows) rfl rfl
  | command =>
      change commandShows (socket.write.calls c) _ at hshows
      have hmoved : ∀ {phase}, commandShows (write.calls c) phase →
          (s.setSocket l.noiseSocket { socket with write := write }).Shows phase :=
        fun hp => LifecycleState.shows_sending hstage hp
      cases hstep.command hallows with
      | locks hwaiting hlocked =>
          rw [hwaiting] at hshows
          rw [hlocked] at hmoved
          exact h.stutter (hmoved hshows) rfl rfl
      | refused e hlocked hnone =>
          rw [hlocked] at hshows
          rw [hnone] at hmoved
          obtain ⟨d, hd⟩ := hshows
          exact h.answer (.sendRefused (e := e) hd) (hmoved rfl) rfl rfl
      | returns r hsending hnone =>
          rw [hsending] at hshows
          rw [hnone] at hmoved
          obtain ⟨d, hd⟩ := hshows
          cases r with
          | ok _ => exact h.answer (.transportAccepts hd) (hmoved rfl) rfl rfl
          | error e => exact h.answer (.transportFails (e := e) hd) (hmoved rfl) rfl rfl

/-- `read_loop` is seen as one loop over frames and commands. -/
theorem ReadLoopStep.catches {codec : NodeCodec} {decoder : FrameDecoder}
    {s s' : LifecycleState decoder.State} (h : Corresponds s t)
    (hstep : ReadLoopStep codec decoder s s') : Catches config t s' := by
  have hphase := h.phase
  unfold LifecycleState.Shows at hphase
  cases hstep with
  | loadTransport hstage =>
      rw [hstage] at hphase
      cases htransport : s.transport with
      | some i => exact h.stutter hphase rfl rfl
      | none =>
          exact h.move (.transportClosed hphase) rfl h.isConnected h.loggedOut
  | loadNoiseSocket hstage =>
      rw [hstage] at hphase
      cases hsocket : s.noiseSocket with
      | some j => exact h.stutter hphase rfl rfl
      | none => exact h.move (.transportClosed hphase) rfl h.isConnected h.loggedOut
  | takeTransportEvents hstage =>
      rw [hstage] at hphase
      cases hevents : s.transportEvents with
      | some e => exact h.stutter hphase rfl rfl
      | none => exact h.move (.transportClosed hphase) rfl h.isConnected h.loggedOut
  | data hstage _ =>
      rw [hstage] at hphase
      exact h.stutter hphase rfl rfl
  | reconnected hstage _ => exact h.stutter h.phase rfl rfl
  | disconnected hstage _ | closed hstage _ _ =>
      rw [hstage] at hphase
      exact h.move (.transportClosed hphase) rfl h.isConnected h.loggedOut
  | disconnect hstage =>
      rw [hstage] at hphase
      exact h.disconnect hphase rfl rfl rfl
  | @command _ n hstage =>
      rw [hstage] at hphase
      exact h.command n hphase (fun c => ⟨c, rfl⟩) rfl rfl
  | keepalive hstage =>
      rw [hstage] at hphase
      exact h.move (.ping hphase) rfl h.isConnected h.loggedOut
  | drained hstage _ | frameRefused hstage _ _ _ =>
      rw [hstage] at hphase
      exact h.stutter hphase rfl rfl
  | @frame _ _ _ _ _ n hstage _ _ _ _ =>
      rw [hstage] at hphase
      refine h.frame n hphase ?_ rfl rfl
      unfold LifecycleState.Shows
      dsimp only
      cases (routeNode n).ack with
      | none => rfl
      | some reply => rfl
  | routed hstage =>
      rw [hstage] at hphase
      exact h.move (.routed hphase) rfl h.isConnected h.loggedOut
  | marshalFailed hstage _ =>
      rw [hstage] at hphase
      exact h.sent hphase rfl rfl rfl
  | @call l n kind payload socket c write hstage _ hsocket hcall =>
      rw [hstage] at hphase
      refine h.stutter ⟨_, Function.update_self .., ?_⟩ rfl rfl
      cases hcall with
      | call _ =>
          cases kind with
          | command =>
              show commandShows (Function.update socket.write.calls c _ c) _
              rw [Function.update_self]
              exact hphase
          | keepalive => exact hphase
          | ack n => exact hphase
  | encrypt hstage hsocket hallows hstep => exact h.encrypt hstage hsocket hallows hstep
  | @handOver l kind socket c write frame older hstage hsocket hstep _ =>
      have hshows := h.sending hstage hsocket
      cases kind with
      | command =>
          cases hstep with
          | handOver hlocked _ _ =>
              change commandShows (socket.write.calls c) _ at hshows
              rw [hlocked] at hshows
              obtain ⟨d, hd⟩ := hshows
              refine h.one (.handOver hd) ?_ h.isConnected h.loggedOut rfl rfl fun _ => id
              refine LifecycleState.shows_sending hstage ?_
              show commandShows (Function.update socket.write.calls c _ c) _
              rw [Function.update_self]
              exact ⟨d, rfl⟩
      | keepalive => exact h.stutter (LifecycleState.shows_sending hstage hshows) rfl rfl
      | ack n => exact h.stutter (LifecycleState.shows_sending hstage hshows) rfl rfl
  | @returned l kind socket c hstage hsocket hnone =>
      have hshows := h.sending hstage hsocket
      cases kind with
      | command =>
          change commandShows (socket.write.calls c) _ at hshows
          rw [hnone] at hshows
          exact h.stutter hshows rfl rfl
      | keepalive => exact h.sent (show SendKind.keepalive.shows _ from hshows) rfl rfl rfl
      | ack n => exact h.sent (show (SendKind.ack n).shows _ from hshows) rfl rfl rfl

theorem CleanupStep.catches (h : Corresponds s t) (hstep : CleanupStep s s') :
    Catches config t s' := by
  have hphase := h.phase
  unfold LifecycleState.Shows at hphase
  cases hstep with
  | left hstage =>
      rw [hstage] at hphase
      exact h.cleanup hphase rfl rfl rfl
  | _ hstage =>
      rw [hstage] at hphase
      exact h.stutter hphase rfl rfl

/-- After a failure both reconnect, or neither. -/
theorem Corresponds.retryOrStop (h : Corresponds s t) {m : RunnerMove}
    (hmove : RunnerStep config t.runner m (t.runner.retryOrStop config)) :
    Catches config t (s.retryOrStop config) := by
  have hkept : (t.runner.retryOrStop config).isConnected = t.runner.isConnected ∧
      (t.runner.retryOrStop config).loggedOut = t.runner.loggedOut := by
    unfold Runner.retryOrStop
    split <;> exact ⟨rfl, rfl⟩
  refine h.move hmove ?_ (hkept.1.trans h.isConnected) (hkept.2.trans h.loggedOut)
  unfold LifecycleState.retryOrStop Runner.retryOrStop
  rw [h.loggedOut]
  split <;> rfl

/-- Every step of `run` with its mutexes and transports is some steps of the runner with
calls. -/
theorem LifecycleStep.catches {codec : NodeCodec} {decoder : FrameDecoder}
    {handshake : Nat → XxHandshake} {s s' : LifecycleState decoder.State} {a : LifecycleAction}
    (h : Corresponds s t) (hstep : LifecycleStep config codec decoder handshake s a s') :
    Catches config t s' := by
  have hphase := h.phase
  unfold LifecycleState.Shows at hphase
  cases hstep with
  | arrive _ _ | close _ => exact h.stutter h.phase rfl rfl
  | loggedOut hstage hout =>
      rw [hstage] at hphase
      exact h.move (.loggedOut hphase (h.loggedOut.trans hout)) rfl h.isConnected h.loggedOut
  | connect hstage hin =>
      rw [hstage] at hphase
      exact h.move (.connect hphase (h.loggedOut.trans hin)) rfl h.isConnected h.loggedOut
  | connectOnce hstep => exact hstep.catches h
  | connectFailed hstage =>
      rw [hstage] at hphase
      exact h.retryOrStop (.connectFailed hphase)
  | readLoop hstep => exact hstep.catches h
  | cleanup hstep => exact hstep.catches h
  | endedOk hstage =>
      rw [hstage] at hphase
      exact h.move (.endedOk hphase) rfl h.isConnected h.loggedOut
  | endedError hstage =>
      rw [hstage] at hphase
      exact h.retryOrStop (.endedError hphase)
  | delayElapsed hstage =>
      rw [hstage] at hphase
      exact h.move (.delayElapsed hphase) rfl h.isConnected h.loggedOut
  | abort => exact h.abort

theorem lifecycle_refines_connection (config : ConnectionConfig) (codec : NodeCodec)
    (decoder : FrameDecoder) (handshake : Nat → XxHandshake) :
    (lifecycle config codec decoder handshake).Refines (connection config) Corresponds where
  init s hs := by
    obtain rfl : s = .new := hs
    exact ⟨.new, rfl, rfl, rfl, rfl, rfl, rfl, 0, fun _ _ => rfl⟩
  step _ _ _ _ h hstep := LifecycleStep.catches h hstep

/-- Whatever state `run` reaches with its mutexes, handshakes and transports, the runner with
its calls reaches one that corresponds to it. -/
theorem lifecycle_refines {codec : NodeCodec} {decoder : FrameDecoder}
    {handshake : Nat → XxHandshake} {s : LifecycleState decoder.State}
    (h : (lifecycle config codec decoder handshake).Reachable s) :
    ∃ t, (connection config).Reachable t ∧ Corresponds s t :=
  (lifecycle_refines_connection config codec decoder handshake).reachable h
end

/-- In the first connection. -/
theorem lifecycle_refines_reading :
    letI := plainWacore
    ∃ t, (connection ⟨false⟩).Reachable t ∧ t.runner.phase = .reading ∧
      t.runner.isConnected = true := by
  let _ := plainWacore
  obtain ⟨as, s, hrun, hphase, -⟩ := outcomes_reading
  have hreachable : (lifecycle ⟨false⟩ oneByteCodec bufferDecoder
    fun _ => plainHandshake).Reachable s := ⟨as, hrun.of_restrict.of_record⟩
  obtain ⟨t, ht, hcorresponds⟩ := lifecycle_refines hreachable
  have hshows := hcorresponds.phase
  unfold LifecycleState.Shows at hshows
  rw [hphase] at hshows
  refine ⟨t, ht, hshows, hcorresponds.isConnected.trans ?_⟩
  have hconnected : s.isConnected = s.phase.inConnection :=
    (outcomeInv_of_run hrun).shares.isConnected
  rw [hconnected, hphase]
  rfl

end Waepic.Connection
