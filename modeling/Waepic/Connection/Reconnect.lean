import Waepic.Connection.SendNode

/-!
# Connection attempts

`run` enters `connect_once` at the top of its loop and comes back there after a
delay, when an attempt failed or `read_loop` ended with an error and the runner
may reconnect.  Three laws of the attempts are settled here.

*After `<failure>`.*  The node sets `logged_out`, which nothing resets and which
is read wherever the loop could go on; so no attempt follows, and `run` returns
when the current `read_loop` ends (`no_attempt_after_failure`).

*After `disconnect`.*  The command is read in `read_loop` alone.  A request that
arrives while the runner is bound for another attempt, or is followed by a
failure before it is read, does not prevent the attempt (`disconnect_final`).

*The limit.*  `max_reconnect_attempts` is read nowhere, so the attempts are
bounded only if they do not go on failing (`attempts_bounded`).

What the last two count is no part of the state: `Requests` and `Attempts` are
history variables.
-/

namespace Waepic.Connection

open Transition Binary

/-! ## The phases of `run` -/

/-- In `read_loop`. -/
def Phase.inReadLoop : Phase → Bool
  | .reading | .sendingNode _ | .transmitting _ | .pinging | .acking _ | .routing _ => true
  | _ => false

/-- At the top of the loop, in `connect_once` or in a delay. -/
def Phase.seeksConnection : Phase → Bool
  | .idle | .connecting | .delaying => true
  | _ => false

theorem Phase.not_seeks_of_inReadLoop {phase : Phase} (h : phase.inReadLoop = true) :
    phase.seeksConnection = false := by
  cases phase <;> first | rfl | cases h

/-- After an error `run` goes on. -/
def Runner.mayRetry (config : ConnectionConfig) (r : Runner) : Bool :=
  config.autoReconnect && !r.loggedOut

/-- The runner is bound for an attempt that it has not begun. -/
def Runner.willAttempt (config : ConnectionConfig) (r : Runner) : Bool :=
  match r.phase with
  | .idle | .delaying => !r.loggedOut
  | .leaving (.error _) | .closing (.error _) => r.mayRetry config
  | _ => false

theorem Runner.retryOrStop_of_mayRetry {config : ConnectionConfig} {r : Runner}
    (h : r.mayRetry config = true) : r.retryOrStop config = r.retry := by
  obtain ⟨hauto, hin⟩ := Bool.and_eq_true_iff.mp h
  rw [Bool.not_eq_true'] at hin
  simp [retryOrStop, hauto, hin]

theorem Runner.retryOrStop_of_not_mayRetry {config : ConnectionConfig} {r : Runner}
    (h : r.mayRetry config = false) : r.retryOrStop config = { r with phase := .stopped } := by
  rcases Bool.and_eq_false_iff.mp h with hauto | hin
  · simp [retryOrStop, hauto]
  · rw [Bool.not_eq_false'] at hin
    simp [retryOrStop, hin]

/-- The action may move the runner from one of its awaits outside `read_loop` or
end `read_loop`. -/
def ConnAction.steers : ConnAction → Bool
  | .move .ping | .move .pinged | .move .acked | .move .routed => false
  | .move _ | .takeDisconnect | .commandsClosed | .cleanup | .abort => true
  | _ => false

/-- The action enters `connect_once`. -/
def startsAttempt (s : ConnState) : ConnAction → Bool
  | .move .top => !s.runner.loggedOut
  | _ => false

theorem startsAttempt_of_not_steers (s : ConnState) {a : ConnAction} (h : a.steers = false) :
    startsAttempt s a = false := by
  cases a with
  | move m =>
      cases m with
      | top => cases h
      | _ => rfl
  | _ => rfl

/-- What a step does to the runner. -/
inductive Flow (config : ConnectionConfig) (r : Runner) : ConnAction → Runner → Prop where
  | kept {a : ConnAction} : a.steers = false → Flow config r a r
  | loop {a : ConnAction} {r' : Runner} :
      a.steers = false → r.phase.inReadLoop = true → r'.phase.inReadLoop = true →
      r'.connection = r.connection → (r.loggedOut = true → r'.loggedOut = true) →
      Flow config r a r'
  | loggedOut :
      r.phase = .idle → r.loggedOut = true →
      Flow config r (.move .top) { r with phase := .stopped }
  | attempt :
      r.phase = .idle → r.loggedOut = false →
      Flow config r (.move .top) { r with phase := .connecting }
  | connected :
      r.phase = .connecting →
      Flow config r (.move .connected)
        { r with phase := .reading, connection := r.connection + 1
                 isConnected := true, reconnectAttempt := 0 }
  | connectFailed :
      r.phase = .connecting → Flow config r (.move .connectFailed) (r.retryOrStop config)
  | delayElapsed :
      r.phase = .delaying → Flow config r (.move .delayElapsed) { r with phase := .idle }
  | transportClosed {e : ConnectionError} :
      r.phase = .reading →
      Flow config r (.move .transportClosed) { r with phase := .leaving (.error e) }
  | quit {a : ConnAction} :
      a = .takeDisconnect ∨ a = .commandsClosed → r.phase = .reading →
      Flow config r a { r with phase := .leaving (.ok ()) }
  | cleanup {res : Result Unit} :
      r.phase = .leaving res →
      Flow config r .cleanup { r with phase := .closing res, isConnected := false }
  | endedOk :
      r.phase = .closing (.ok ()) → Flow config r (.move .ended) { r with phase := .stopped }
  | endedError {e : ConnectionError} :
      r.phase = .closing (.error e) → Flow config r (.move .ended) (r.retryOrStop config)
  | abort : Flow config r .abort { r with phase := .stopped }

variable {config : ConnectionConfig}

@[simp] theorem Runner.retryOrStop_loggedOut (r : Runner) :
    (r.retryOrStop config).loggedOut = r.loggedOut := by
  simp only [retryOrStop]
  split <;> rfl

@[simp] theorem Runner.retryOrStop_connection (r : Runner) :
    (r.retryOrStop config).connection = r.connection := by
  simp only [retryOrStop]
  split <;> rfl

/-- A runner that is logged out retries nothing. -/
theorem Runner.retryOrStop_of_loggedOut {r : Runner} (h : r.loggedOut = true) :
    r.retryOrStop config = { r with phase := .stopped } :=
  retryOrStop_of_not_mayRetry (by simp [mayRetry, h])

/-- `logged_out` is never reset. -/
theorem Flow.loggedOut_mono {r r' : Runner} {a : ConnAction} (h : Flow config r a r')
    (hout : r.loggedOut = true) : r'.loggedOut = true := by
  cases h with
  | loop _ _ _ _ hmono => exact hmono hout
  | connectFailed _ => rwa [Runner.retryOrStop_loggedOut]
  | endedError _ => rwa [Runner.retryOrStop_loggedOut]
  | _ => exact hout

/-- A runner that is logged out seeks no connection. -/
def Runner.Settled (r : Runner) : Prop := r.loggedOut = true → r.phase.seeksConnection = false

theorem Flow.settled {r r' : Runner} {a : ConnAction} (h : Flow config r a r')
    (hr : r.Settled) : r'.Settled := by
  intro hout
  cases h with
  | kept _ => exact hr hout
  | loop _ _ hloop _ _ => exact Phase.not_seeks_of_inReadLoop hloop
  | attempt _ hin => exact absurd hout (by rw [hin]; exact Bool.false_ne_true)
  | connectFailed hphase =>
      rw [Runner.retryOrStop_loggedOut] at hout
      have hseeks := hr hout
      rw [hphase] at hseeks
      cases hseeks
  | delayElapsed hphase =>
      have hseeks := hr hout
      rw [hphase] at hseeks
      cases hseeks
  | endedError _ =>
      rw [Runner.retryOrStop_loggedOut] at hout
      rw [Runner.retryOrStop_of_loggedOut hout]
      rfl
  | _ => rfl

/-- A runner bound for no attempt stays so, unless the attempt in progress fails
or the transport closes while it may retry. -/
theorem Flow.unbound {r r' : Runner} {a : ConnAction} (h : Flow config r a r')
    (hr : r.willAttempt config = false)
    (ha : a = .move .connectFailed ∨ a = .move .transportClosed → r.mayRetry config = false) :
    r'.willAttempt config = false := by
  cases h with
  | kept _ => exact hr
  | loop _ _ hloop _ _ =>
      simp only [Runner.willAttempt]
      revert hloop
      cases r'.phase <;> first | exact fun _ => rfl | exact nofun
  | attempt _ _ => rfl
  | connected _ => rfl
  | connectFailed _ => rw [Runner.retryOrStop_of_not_mayRetry (ha (Or.inl rfl))]; rfl
  | delayElapsed hphase => simpa [Runner.willAttempt, hphase] using hr
  | transportClosed _ => exact ha (Or.inr rfl)
  | quit _ _ => rfl
  | @cleanup res hphase =>
      cases res with
      | ok _ => rfl
      | error e =>
          have hretry : r.mayRetry config = false := by
            simpa [Runner.willAttempt, hphase] using hr
          exact hretry
  | endedError hphase =>
      have hretry : r.mayRetry config = false := by simpa [Runner.willAttempt, hphase] using hr
      rw [Runner.retryOrStop_of_not_mayRetry hretry]
      rfl
  | _ => rfl

theorem Runner.not_isFinal_of_inReadLoop {r : Runner} (h : r.phase.inReadLoop = true) :
    r.isFinal config = false := by
  simp only [isFinal]
  revert h
  cases r.phase <;> simp [Phase.inReadLoop]

/-- A runner that is about to stop does. -/
theorem Flow.isFinal {r r' : Runner} {a : ConnAction} (h : Flow config r a r')
    (hfinal : r.isFinal config = true) : r'.isFinal config = true := by
  cases h with
  | kept _ => exact hfinal
  | loop _ hloop _ _ _ =>
      rw [Runner.not_isFinal_of_inReadLoop hloop] at hfinal
      cases hfinal
  | attempt hphase hin => simp [Runner.isFinal, hphase, hin] at hfinal
  | connected hphase => simp [Runner.isFinal, hphase] at hfinal
  | connectFailed hphase => simp [Runner.isFinal, hphase] at hfinal
  | delayElapsed hphase => simpa [Runner.isFinal, hphase] using hfinal
  | transportClosed hphase => simp [Runner.isFinal, hphase] at hfinal
  | @cleanup res hphase =>
      cases res with
      | ok _ => rfl
      | error e => simpa [Runner.isFinal, hphase] using hfinal
  | endedError hphase =>
      rw [Runner.retryOrStop_isFinal, ← hfinal, Runner.isFinal, hphase]
  | _ => rfl

/-- The runner enters `connect_once` only when it is bound for an attempt. -/
theorem Flow.willAttempt_of_startsAttempt {s : ConnState} {r' : Runner} {a : ConnAction}
    (h : Flow config s.runner a r') (hstart : startsAttempt s a = true) :
    s.runner.willAttempt config = true := by
  cases h with
  | kept ha => rw [startsAttempt_of_not_steers s ha] at hstart; cases hstart
  | loop ha _ _ _ _ => rw [startsAttempt_of_not_steers s ha] at hstart; cases hstart
  | loggedOut _ hout => simp [startsAttempt, hout] at hstart
  | attempt hidle hin => simp [Runner.willAttempt, hidle, hin]
  | quit ha _ => rcases ha with rfl | rfl <;> cases hstart
  | _ => cases hstart

/-- Once logged out in `read_loop`, the runner stays in this `read_loop` or is on
its way out. -/
structure Leaves (k : Nat) (r : Runner) : Prop where
  loggedOut : r.loggedOut = true
  seeks : r.phase.seeksConnection = false
  connection : r.connection = k

theorem Leaves.flow {k : Nat} {r r' : Runner} {a : ConnAction} (hleaves : Leaves k r)
    (h : Flow config r a r') : Leaves k r' := by
  have hout := h.loggedOut_mono hleaves.loggedOut
  refine ⟨hout, h.settled (fun _ => hleaves.seeks) hout, ?_⟩
  rw [← hleaves.connection]
  cases h with
  | loop _ _ _ hconn _ => exact hconn
  | connected hphase => exact absurd hleaves.seeks (by rw [hphase]; exact nofun)
  | connectFailed _ => exact Runner.retryOrStop_connection _
  | endedError _ => exact Runner.retryOrStop_connection _
  | _ => rfl

variable [WacoreBinary]

theorem ConnStep.flow {s t : ConnState} {a : ConnAction} (h : ConnStep config s a t) :
    Flow config s.runner a t.runner := by
  cases h with
  | move hmove =>
      cases hmove with
      | loggedOut hidle hout => exact .loggedOut hidle hout
      | connect hidle hin => exact .attempt hidle hin
      | connected hphase => exact .connected hphase
      | connectFailed hphase => exact .connectFailed hphase
      | delayElapsed hphase => exact .delayElapsed hphase
      | ping hphase | pinged hphase | acked hphase | routed hphase =>
          exact .loop rfl (by rw [hphase]; rfl) rfl rfl id
      | transportClosed hphase => exact .transportClosed hphase
      | endedOk hphase => exact .endedOk hphase
      | endedError hphase => exact .endedError hphase
  | frameOther hphase _ =>
      refine .loop rfl (by rw [hphase]; rfl) ?_ rfl (fun h => by simp [h])
      dsimp only
      split <;> rfl
  | frameIq hphase _ =>
      refine .loop rfl (by rw [hphase]; rfl) rfl ?_ ?_
      · simp [ConnState.setPhase]
      · simp [ConnState.setPhase]
  | takeNode hphase _ => exact .loop rfl (by rw [hphase]; rfl) rfl rfl id
  | sendRefused hphase => exact .loop rfl (by rw [hphase]; rfl) rfl rfl id
  | handOver hphase => exact .loop rfl (by rw [hphase]; rfl) rfl rfl id
  | transportAccepts hphase => exact .loop rfl (by rw [hphase]; rfl) rfl rfl id
  | transportFails hphase => exact .loop rfl (by rw [hphase]; rfl) rfl rfl id
  | takeDisconnect hphase _ => exact .quit (Or.inl rfl) hphase
  | commandsClosed hphase _ _ => exact .quit (Or.inr rfl) hphase
  | cleanup hphase => exact .cleanup hphase
  | abort _ => exact .abort
  | abortSending _ => exact .abort
  | register _ _ _ =>
      rw [ConnState.setCall_runner, ConnState.insertWaiter_runner]
      exact .kept rfl
  | _ => exact .kept rfl

/-! ## After `<failure>` -/

theorem settled_of_run {as : List ConnAction} {s : ConnState}
    (h : (connection config).Run as s) : s.runner.Settled := by
  refine h.invariant ?_ (fun s a t hs (hstep : ConnStep config s a t) => hstep.flow.settled hs)
  rintro s rfl
  exact nofun

/-- A frame is processed in `read_loop`, which sets `logged_out` for a `<failure>`. -/
theorem ConnStep.frame_runner {s t : ConnState} {n : Node}
    (h : ConnStep config s (.frame n) t) :
    s.runner.phase = .reading ∧ t.runner.phase.inReadLoop = true ∧
      t.runner.connection = s.runner.connection ∧
      t.runner.loggedOut = (s.runner.loggedOut || decide (n.tag = "failure")) := by
  cases h with
  | frameOther hphase _ =>
      refine ⟨hphase, ?_, rfl, ?_⟩
      · dsimp only
        split <;> rfl
      · simp only [routeNode]
        split <;> rfl
  | @frameIq _ id hphase hwaiter =>
      refine ⟨hphase, rfl, by simp [ConnState.setPhase], ?_⟩
      have htag : n.tag = "iq" := (routeNode_waiter_iff.mp hwaiter).1
      simp [ConnState.setPhase, htag]

/-- Such a runner enters no `connect_once`, and returns when its `read_loop` has
ended. -/
theorem Leaves.step {k : Nat} {s t : ConnState} {a : ConnAction} (hleaves : Leaves k s.runner)
    (h : ConnStep config s a t) :
    startsAttempt s a = false ∧ (a = .move .ended → t.runner.phase = .stopped) := by
  have hflow := h.flow
  generalize t.runner = r' at hflow
  constructor
  · cases hflow with
    | kept ha => exact startsAttempt_of_not_steers s ha
    | loop ha _ _ _ _ => exact startsAttempt_of_not_steers s ha
    | loggedOut _ hout => simp [startsAttempt, hout]
    | attempt _ hin => exact absurd hleaves.loggedOut (by rw [hin]; exact nofun)
    | quit ha _ => rcases ha with rfl | rfl <;> rfl
    | _ => rfl
  · rintro rfl
    cases hflow with
    | kept ha => cases ha
    | loop ha _ _ _ _ => cases ha
    | quit ha _ => rcases ha with ha | ha <;> cases ha
    | endedOk _ => rfl
    | endedError _ => rw [Runner.retryOrStop_of_loggedOut hleaves.loggedOut]

/-- After a `<failure>` no step enters `connect_once`: every later state is of the
same `read_loop`, of its cleanup, or of a runner that has returned, and `run`
returns when the cleanup is over. -/
theorem no_attempt_after_failure {s t : ConnState} {n : Node} (hn : n.tag = "failure")
    (hstep : (connection config).step s (.frame n) t) :
    ∀ bs u, (connection config).Steps t bs u →
      u.runner.phase.seeksConnection = false ∧ u.runner.connection = s.runner.connection ∧
      ∀ a v, (connection config).step u a v →
        startsAttempt u a = false ∧ (a = .move .ended → v.runner.phase = .stopped) := by
  intro bs u hsteps
  obtain ⟨-, hloop, hconn, hout⟩ := ConnStep.frame_runner hstep
  have hstart : Leaves s.runner.connection t.runner := by
    refine ⟨by rw [hout, hn, decide_eq_true rfl, Bool.or_true], ?_, hconn⟩
    exact Phase.not_seeks_of_inReadLoop hloop
  have hleaves : Leaves s.runner.connection u.runner :=
    hsteps.preserves (I := fun u => Leaves s.runner.connection u.runner)
      (fun u a v h (hstep : ConnStep config u a v) => h.flow hstep.flow) hstart
  exact ⟨hleaves.seeks, hleaves.connection, fun a v hstep => hleaves.step hstep⟩

/-- A `<failure>` with a code. -/
def failureNode (code : String) : Node := .mk "failure" [("code", .string code)] none

/-- The runner connects. -/
theorem connected_run (config : ConnectionConfig) :
    ∃ s, (connection config).Run [.move .top, .move .connected] s ∧
      s.runner.phase = .reading ∧ s.runner.loggedOut = false := by
  have h0 : (connection config).Run [] .new := .start rfl
  have h1 := h0.tail (show ConnStep config _ (.move .top) _ from .move (.connect rfl rfl))
  have h2 := h1.tail (show ConnStep config _ (.move .connected) _ from .move (.connected rfl))
  exact ⟨_, h2, rfl, rfl⟩

omit [WacoreBinary] in
theorem no_attempt_after_failure_connected :
    letI := plainWacore
    ∃ s t, (connection ⟨true⟩).step s (.frame (failureNode "503")) t ∧
      ∀ bs u, (connection ⟨true⟩).Steps t bs u → u.runner.phase.seeksConnection = false := by
  let _ := plainWacore
  obtain ⟨s, -, hreading, -⟩ := connected_run ⟨true⟩
  have hstep : (connection ⟨true⟩).step s (.frame (failureNode "503")) _ :=
    .frameOther hreading rfl
  exact ⟨s, _, hstep, fun bs u hsteps => (no_attempt_after_failure rfl hstep bs u hsteps).1⟩

/-! ## After `disconnect` -/

/-- `disconnect` was called, or the last handle was dropped. -/
def ConnAction.isRequest : ConnAction → Bool
  | .disconnect | .dropHandles => true
  | _ => false

/-- What the history of a run says about requests to disconnect. -/
structure Requests where
  requested : Bool
  /-- How often `connect_once` was entered after the first request. -/
  lateAttempts : Nat
deriving DecidableEq, Repr

def Requests.next (r : Requests) (s : ConnState) (a : ConnAction) : Requests where
  requested := r.requested || a.isRequest
  lateAttempts := if r.requested && startsAttempt s a then r.lateAttempts + 1 else r.lateAttempts

/-- The runs of a connection, with the requests to disconnect. -/
def requests (config : ConnectionConfig) : System (ConnState × Requests) ConnAction :=
  (connection config).record ⟨false, 0⟩ Requests.next

/-- The request comes when the runner is not bound for another attempt, and after
a request neither the attempt in progress fails nor the transport closes while
the runner may retry. -/
def ComesInTime (config : ConnectionConfig) (p : ConnState × Requests) : ConnAction → Prop
  | .disconnect | .dropHandles => p.1.runner.willAttempt config = false
  | .move .connectFailed | .move .transportClosed =>
      p.2.requested = true → p.1.runner.mayRetry config = false
  | _ => True

/-- After a request the runner is bound for no attempt. -/
structure RequestInv (config : ConnectionConfig) (r : Runner) (q : Requests) : Prop where
  lateAttempts : q.lateAttempts = 0
  bound : q.requested = true → r.willAttempt config = false

theorem ConnStep.request_runner {s t : ConnState} {a : ConnAction} (h : ConnStep config s a t)
    (ha : a.isRequest = true) : t.runner = s.runner := by
  cases h with
  | disconnect _ _ => rfl
  | dropHandles _ => rfl
  | _ => cases ha

theorem RequestInv.step {p q : ConnState × Requests} {a : ConnAction}
    (hinv : RequestInv config p.1.runner p.2) (h : (requests config).step p a q)
    (hguard : ComesInTime config p a) : RequestInv config q.1.runner q.2 := by
  obtain ⟨hstep, hnext⟩ := h
  have hflow := ConnStep.flow hstep
  rw [hnext]
  constructor
  · refine (if_neg fun hlate => ?_).trans hinv.lateAttempts
    obtain ⟨hrequested, hstart⟩ := Bool.and_eq_true_iff.mp hlate
    have hbound := hflow.willAttempt_of_startsAttempt hstart
    rw [hinv.bound hrequested] at hbound
    cases hbound
  · intro hrequested
    rcases Bool.or_eq_true_iff.mp hrequested with hbefore | hnow
    · refine hflow.unbound (hinv.bound hbefore) ?_
      rintro (rfl | rfl)
      · exact hguard hbefore
      · exact hguard hbefore
    · rw [ConnStep.request_runner hstep hnow]
      cases a with
      | disconnect => exact hguard
      | dropHandles => exact hguard
      | _ => cases hnow

theorem requestInv_of_run {as : List ConnAction} {p : ConnState × Requests}
    (h : ((requests config).restrict (ComesInTime config)).Run as p) :
    RequestInv config p.1.runner p.2 := by
  refine h.invariant (I := fun p => RequestInv config p.1.runner p.2) ?_ ?_
  · rintro ⟨s, q⟩ ⟨rfl, rfl⟩
    exact ⟨rfl, nofun⟩
  · rintro p a q hinv ⟨hstep, hguard⟩
    exact hinv.step hstep hguard

/-- A runner that is bound for an attempt gets to the top of its loop. -/
theorem canReach_top {s : ConnState} (h : s.runner.willAttempt config = true) :
    (connection config).CanReach
      (fun u => u.runner.phase = .idle ∧ u.runner.loggedOut = false) s := by
  have hdelay : ∀ {u : ConnState}, u.runner.phase = .delaying → u.runner.loggedOut = false →
      (connection config).CanReach
        (fun u => u.runner.phase = .idle ∧ u.runner.loggedOut = false) u :=
    fun hphase hin => .of_step (a := .move .delayElapsed) (.move (.delayElapsed hphase))
      (.here ⟨rfl, hin⟩)
  have hclosing : ∀ {u : ConnState} {e : ConnectionError}, u.runner.phase = .closing (.error e) →
      u.runner.mayRetry config = true →
      (connection config).CanReach
        (fun u => u.runner.phase = .idle ∧ u.runner.loggedOut = false) u := by
    intro u e hphase hretry
    refine .of_step (a := .move .ended) (.move (.endedError hphase)) (hdelay ?_ ?_)
    · rw [Runner.retryOrStop_of_mayRetry hretry]; rfl
    · rw [Runner.retryOrStop_loggedOut]
      simpa using (Bool.and_eq_true_iff.mp hretry).2
  cases hphase : s.runner.phase with
  | idle => exact .here ⟨hphase, by simpa [Runner.willAttempt, hphase] using h⟩
  | delaying => exact hdelay hphase (by simpa [Runner.willAttempt, hphase] using h)
  | leaving r =>
      cases r with
      | ok _ => simp [Runner.willAttempt, hphase] at h
      | error e =>
          have hretry : s.runner.mayRetry config = true := by
            simpa [Runner.willAttempt, hphase] using h
          exact .of_step (a := .cleanup) (.cleanup hphase) (hclosing rfl hretry)
  | closing r =>
      cases r with
      | ok _ => simp [Runner.willAttempt, hphase] at h
      | error e => exact hclosing hphase (by simpa [Runner.willAttempt, hphase] using h)
  | _ => simp [Runner.willAttempt, hphase] at h

/-- After a request, a runner that is bound for an attempt may begin it. -/
theorem canReach_lateAttempt {p : ConnState × Requests}
    (hrequested : p.2.requested = true) (hbound : p.1.runner.willAttempt config = true) :
    (requests config).CanReach (fun u => 0 < u.2.lateAttempts) p := by
  obtain ⟨bs, u, hsteps, hidle, hin⟩ := canReach_top hbound
  obtain ⟨m, hrecord⟩ := hsteps.record ⟨false, 0⟩ Requests.next p.2
  have hm : m.requested = true := by
    refine hrecord.preserves (I := fun q => q.2.requested = true) ?_ hrequested
    rintro q a q' hq ⟨-, hnext⟩
    rw [hnext]
    exact Bool.or_eq_true_iff.mpr (Or.inl hq)
  have htop : (requests config).step (u, m) (.move .top) (_, m.next u (.move .top)) :=
    ⟨.move (.connect hidle hin), rfl⟩
  refine ⟨_, _, hrecord.append (.single htop), ?_⟩
  simp [Requests.next, startsAttempt, hm, hin]

/-- A request that comes too late, or a failure after one, leaves the runner bound
for an attempt. -/
theorem ConnStep.late_of_not_comesInTime {p : ConnState × Requests} {a : ConnAction}
    {t : ConnState} (h : ConnStep config p.1 a t) (hguard : ¬ ComesInTime config p a) :
    (p.2.requested || a.isRequest) = true ∧ t.runner.willAttempt config = true := by
  cases a with
  | disconnect =>
      rw [ConnStep.request_runner h rfl]
      exact ⟨Bool.or_true _, Bool.eq_true_of_not_eq_false hguard⟩
  | dropHandles =>
      rw [ConnStep.request_runner h rfl]
      exact ⟨Bool.or_true _, Bool.eq_true_of_not_eq_false hguard⟩
  | move m =>
      cases m with
      | connectFailed =>
          obtain ⟨hrequested, hretry⟩ := Classical.not_imp.mp hguard
          have hretry := Bool.eq_true_of_not_eq_false hretry
          refine ⟨by rw [hrequested]; rfl, ?_⟩
          cases h with
          | move hmove =>
              cases hmove with
              | connectFailed _ =>
                  rw [Runner.retryOrStop_of_mayRetry hretry]
                  exact (Bool.and_eq_true_iff.mp hretry).2
      | transportClosed =>
          obtain ⟨hrequested, hretry⟩ := Classical.not_imp.mp hguard
          refine ⟨by rw [hrequested]; rfl, ?_⟩
          cases h with
          | move hmove =>
              cases hmove with
              | transportClosed _ => exact Bool.eq_true_of_not_eq_false hretry
      | _ => exact absurd trivial hguard
  | _ => exact absurd trivial hguard

/-- In a run in which every request to disconnect comes in time, no attempt to
connect is begun after it; a next step that breaks this leads to one. -/
theorem disconnect_final {as : List ConnAction} {p : ConnState × Requests}
    (hrun : ((requests config).restrict (ComesInTime config)).Run as p) :
    p.2.lateAttempts = 0 ∧
    ∀ a q, (requests config).step p a q → ¬ ComesInTime config p a →
      (requests config).CanReach (fun u => 0 < u.2.lateAttempts) q := by
  refine ⟨(requestInv_of_run hrun).lateAttempts, ?_⟩
  rintro a ⟨t, q⟩ ⟨hconn, hnext⟩ hguard
  obtain ⟨hrequested, hbound⟩ := ConnStep.late_of_not_comesInTime hconn hguard
  refine canReach_lateAttempt ?_ hbound
  rw [hnext]
  exact hrequested

omit [WacoreBinary] in
theorem disconnect_final_reading :
    letI := plainWacore
    ∃ as p, ((requests ⟨true⟩).restrict (ComesInTime ⟨true⟩)).Run as p ∧
      p.1.runner.phase = .stopped ∧ p.2.requested = true ∧ p.2.lateAttempts = 0 := by
  let _ := plainWacore
  have hstep : ∀ {p : ConnState × Requests} {a : ConnAction} {t : ConnState},
      ConnStep ⟨true⟩ p.1 a t → ComesInTime ⟨true⟩ p a →
      ((requests ⟨true⟩).restrict (ComesInTime ⟨true⟩)).step p a (t, p.2.next p.1 a) :=
    fun h hguard => ⟨⟨h, rfl⟩, hguard⟩
  have h0 : ((requests ⟨true⟩).restrict (ComesInTime ⟨true⟩)).Run [] (.new, ⟨false, 0⟩) :=
    .start ⟨rfl, rfl⟩
  have h1 := h0.tail (hstep (.move (.connect rfl rfl)) trivial)
  have h2 := h1.tail (hstep (.move (.connected rfl)) trivial)
  have h3 := h2.tail (hstep (.disconnect rfl nofun) rfl)
  have h4 := h3.tail (hstep (.takeDisconnect rfl rfl) trivial)
  have h5 := h4.tail (hstep (.cleanup rfl) trivial)
  have h6 := h5.tail (hstep (.move (.endedOk rfl)) trivial)
  exact ⟨_, _, h6, rfl, rfl, (disconnect_final h6).1⟩

omit [WacoreBinary] in
/-- A request during a reconnect delay does not prevent the next attempt. -/
theorem disconnect_not_final :
    letI := plainWacore
    ¬ ∀ as p, (requests ⟨true⟩).Run as p → p.2.lateAttempts = 0 := by
  let _ := plainWacore
  intro hfinal
  have hstep : ∀ {p : ConnState × Requests} {a : ConnAction} {t : ConnState},
      ConnStep ⟨true⟩ p.1 a t → (requests ⟨true⟩).step p a (t, p.2.next p.1 a) :=
    fun h => ⟨h, rfl⟩
  have h0 : (requests ⟨true⟩).Run [] (.new, ⟨false, 0⟩) := .start ⟨rfl, rfl⟩
  have h1 := h0.tail (hstep (.move (.connect rfl rfl)))
  have h2 := h1.tail (hstep (.move (.connectFailed rfl)))
  have h3 := h2.tail (hstep (.disconnect rfl nofun))
  have h4 := h3.tail (hstep (.move (.delayElapsed rfl)))
  have h5 := h4.tail (hstep (.move (.connect rfl rfl)))
  exact absurd (hfinal _ _ h5) (by decide)

/-! ## The limit of the attempts -/

/-- `ConnectionConfig` with its limit, which nothing reads. -/
structure LimitedConfig extends ConnectionConfig where
  /-- Maximum number of reconnect attempts (0 = unlimited). -/
  maxReconnectAttempts : UInt32
deriving DecidableEq, Repr

/-- What the history of a run says about its attempts. -/
structure Attempts where
  /-- `connect_once` was entered. -/
  begun : Bool
  /-- How many attempts were made to connect again since the last connection. -/
  reconnects : Nat
  /-- The last attempt failed. -/
  failed : Bool
deriving DecidableEq, Repr

def Attempts.next (m : Attempts) (s : ConnState) (a : ConnAction) : Attempts :=
  if startsAttempt s a then
    { begun := true, reconnects := if m.begun then m.reconnects + 1 else 0, failed := false }
  else
    match a with
    | .move .connected => { m with reconnects := 0, failed := false }
    | .move .connectFailed => { m with failed := true }
    | _ => m

/-- The runs of a connection, with its attempts. -/
def attempts (config : LimitedConfig) : System (ConnState × Attempts) ConnAction :=
  (connection config.toConnectionConfig).record ⟨false, 0, false⟩ Attempts.next

/-- There are at most `max_reconnect_attempts` attempts in a row, and after the
last of them failed `run` has returned. -/
def Bounded (config : LimitedConfig) (p : ConnState × Attempts) : Prop :=
  p.2.reconnects ≤ config.maxReconnectAttempts.toNat ∧
    (p.2.failed = true → p.2.reconnects = config.maxReconnectAttempts.toNat →
      p.1.runner.phase = .stopped)

/-- An attempt fails only below the limit. -/
def FailsBelowLimit (config : LimitedConfig) (p : ConnState × Attempts) : ConnAction → Prop
  | .move .connectFailed => p.2.reconnects < config.maxReconnectAttempts.toNat
  | _ => True

omit [WacoreBinary] in
theorem Attempts.next_of_not_steers (m : Attempts) (s : ConnState) {a : ConnAction}
    (h : a.steers = false) : m.next s a = m := by
  simp only [next]
  rw [if_neg (by rw [startsAttempt_of_not_steers s h]; exact Bool.false_ne_true)]
  cases a with
  | move r => cases r <;> first | rfl | cases h
  | _ => rfl

/-- Below the limit while the runner is not trying the last attempt. -/
structure AttemptInv (n : Nat) (r : Runner) (m : Attempts) : Prop where
  le : m.reconnects ≤ n
  lt : r.phase ≠ .connecting → r.phase ≠ .stopped → m.reconnects < n
  failed : m.failed = true → m.reconnects < n

omit [WacoreBinary] in
theorem AttemptInv.lt_of_phase {n : Nat} {r : Runner} {m : Attempts} {phase : Phase}
    (hinv : AttemptInv n r m) (hphase : r.phase = phase) (hconnecting : phase ≠ .connecting)
    (hstopped : phase ≠ .stopped) : m.reconnects < n :=
  hinv.lt (hphase ▸ hconnecting) (hphase ▸ hstopped)

theorem AttemptInv.step {n : Nat} (hn : 0 < n) {s t : ConnState} {m : Attempts} {a : ConnAction}
    (hinv : AttemptInv n s.runner m) (h : ConnStep config s a t)
    (hguard : a = .move .connectFailed → m.reconnects < n) :
    AttemptInv n t.runner (m.next s a) := by
  have hflow := h.flow
  generalize t.runner = r' at hflow
  cases hflow with
  | kept ha =>
      rw [m.next_of_not_steers s ha]
      exact hinv
  | loop ha hloop _ _ _ =>
      rw [m.next_of_not_steers s ha]
      refine ⟨hinv.le, fun _ _ => hinv.lt ?_ ?_, hinv.failed⟩
      · intro hphase; rw [hphase] at hloop; cases hloop
      · intro hphase; rw [hphase] at hloop; cases hloop
  | loggedOut hphase hout =>
      rw [show m.next s (.move .top) = m by simp [Attempts.next, startsAttempt, hout]]
      exact ⟨hinv.le, fun _ h => absurd rfl h, hinv.failed⟩
  | attempt hphase hin =>
      have hlt := hinv.lt_of_phase hphase nofun nofun
      rw [show m.next s (.move .top) = ⟨true, if m.begun then m.reconnects + 1 else 0, false⟩ by
        simp [Attempts.next, startsAttempt, hin]]
      refine ⟨?_, fun h => absurd rfl h, nofun⟩
      show (if m.begun then m.reconnects + 1 else 0) ≤ n
      split
      · exact hlt
      · exact Nat.zero_le n
  | connected _ => exact ⟨Nat.zero_le n, fun _ _ => hn, nofun⟩
  | connectFailed _ => exact ⟨hinv.le, fun _ _ => hguard rfl, fun _ => hguard rfl⟩
  | delayElapsed hphase | transportClosed hphase | cleanup hphase | endedError hphase =>
      exact ⟨hinv.le, fun _ _ => hinv.lt_of_phase hphase nofun nofun, hinv.failed⟩
  | quit ha hphase =>
      rw [show m.next s a = m by rcases ha with rfl | rfl <;> rfl]
      exact ⟨hinv.le, fun _ _ => hinv.lt_of_phase hphase nofun nofun, hinv.failed⟩
  | endedOk _ => exact ⟨hinv.le, fun _ h => absurd rfl h, hinv.failed⟩
  | abort => exact ⟨hinv.le, fun _ h => absurd rfl h, hinv.failed⟩

theorem attemptInv_of_run {config : LimitedConfig} (hn : 0 < config.maxReconnectAttempts.toNat)
    {as : List ConnAction} {p : ConnState × Attempts}
    (h : ((attempts config).restrict (FailsBelowLimit config)).Run as p) :
    AttemptInv config.maxReconnectAttempts.toNat p.1.runner p.2 := by
  refine h.invariant
    (I := fun p => AttemptInv config.maxReconnectAttempts.toNat p.1.runner p.2) ?_ ?_
  · rintro ⟨s, m⟩ ⟨rfl, rfl⟩
    exact ⟨Nat.zero_le _, fun _ _ => hn, nofun⟩
  · rintro p a q hinv ⟨⟨hstep, hnext⟩, hguard⟩
    rw [hnext]
    exact hinv.step hn hstep (by rintro rfl; exact hguard)

omit [WacoreBinary] in
theorem AttemptInv.bounded {config : LimitedConfig} {p : ConnState × Attempts}
    (h : AttemptInv config.maxReconnectAttempts.toNat p.1.runner p.2) : Bounded config p :=
  ⟨h.le, fun hfailed heq => absurd (h.failed hfailed) (by rw [heq]; exact lt_irrefl _)⟩

/-- With `auto_reconnect`, an attempt that fails at the limit is followed by another. -/
theorem not_bounded_of_connectFailed {config : LimitedConfig} {as : List ConnAction}
    {p q : ConnState × Attempts} (hauto : config.autoReconnect = true)
    (hrun : (attempts config).Run as p) (hbounded : Bounded config p)
    (hstep : (attempts config).step p (.move .connectFailed) q)
    (hlimit : config.maxReconnectAttempts.toNat ≤ p.2.reconnects) : ¬ Bounded config q := by
  obtain ⟨t, m⟩ := q
  obtain ⟨hconn, rfl⟩ := hstep
  intro hq
  have heq : p.2.reconnects = config.maxReconnectAttempts.toNat := le_antisymm hbounded.1 hlimit
  have hstopped := hq.2 rfl heq
  cases hconn with
  | move hmove =>
      cases hmove with
      | connectFailed hphase =>
          have hin : p.1.runner.loggedOut = false := by
            refine Bool.eq_false_of_not_eq_true fun hout => ?_
            have hseeks := settled_of_run hrun.of_record hout
            rw [hphase] at hseeks
            cases hseeks
          rw [Runner.retryOrStop_of_mayRetry (by simp [Runner.mayRetry, hauto, hin])] at hstopped
          cases hstopped

/-- In a run in which no attempt fails at the limit, the attempts are bounded; a
next step keeps this exactly when it is no such failure. -/
theorem attempts_bounded {config : LimitedConfig} (hauto : config.autoReconnect = true)
    (hn : 0 < config.maxReconnectAttempts) {as : List ConnAction} {p : ConnState × Attempts}
    (hrun : ((attempts config).restrict (FailsBelowLimit config)).Run as p) :
    Bounded config p ∧
    ∀ a q, (attempts config).step p a q → (Bounded config q ↔ FailsBelowLimit config p a) := by
  have hlimit : 0 < config.maxReconnectAttempts.toNat := UInt32.lt_iff_toNat_lt.mp hn
  have hbounded := (attemptInv_of_run hlimit hrun).bounded
  refine ⟨hbounded, fun a q hstep => ⟨fun hq => ?_, fun hguard => ?_⟩⟩
  · by_contra hguard
    cases a with
    | move m =>
        cases m with
        | connectFailed =>
            exact not_bounded_of_connectFailed hauto hrun.of_restrict hbounded hstep
              (Nat.le_of_not_lt hguard) hq
        | _ => exact hguard trivial
    | _ => exact hguard trivial
  · exact (attemptInv_of_run hlimit (hrun.tail ⟨hstep, hguard⟩)).bounded

omit [WacoreBinary] in
/-- With a limit of one, one failure and a reconnect. -/
theorem attempts_bounded_reconnect :
    letI := plainWacore
    ∃ as p, ((attempts ⟨⟨true⟩, 1⟩).restrict (FailsBelowLimit ⟨⟨true⟩, 1⟩)).Run as p ∧
      p.2.reconnects = 1 ∧ Bounded ⟨⟨true⟩, 1⟩ p := by
  let _ := plainWacore
  have hstep : ∀ {p : ConnState × Attempts} {a : ConnAction} {t : ConnState},
      ConnStep ⟨true⟩ p.1 a t → FailsBelowLimit ⟨⟨true⟩, 1⟩ p a →
      ((attempts ⟨⟨true⟩, 1⟩).restrict (FailsBelowLimit ⟨⟨true⟩, 1⟩)).step p a
        (t, p.2.next p.1 a) :=
    fun h hguard => ⟨⟨h, rfl⟩, hguard⟩
  have h0 : ((attempts ⟨⟨true⟩, 1⟩).restrict (FailsBelowLimit ⟨⟨true⟩, 1⟩)).Run []
      (.new, ⟨false, 0, false⟩) := .start ⟨rfl, rfl⟩
  have h1 := h0.tail (hstep (.move (.connect rfl rfl)) trivial)
  have h2 := h1.tail (hstep (.move (.connectFailed rfl)) Nat.zero_lt_one)
  have h3 := h2.tail (hstep (.move (.delayElapsed rfl)) trivial)
  have h4 := h3.tail (hstep (.move (.connect rfl rfl)) trivial)
  exact ⟨_, _, h4, rfl, (attempts_bounded rfl (by decide) h4).1⟩

omit [WacoreBinary] in
/-- With a limit of one, a second reconnect attempt follows the first. -/
theorem attempts_not_bounded :
    letI := plainWacore
    ¬ ∀ as p, (attempts ⟨⟨true⟩, 1⟩).Run as p → Bounded ⟨⟨true⟩, 1⟩ p := by
  let _ := plainWacore
  intro hbounded
  have hstep : ∀ {p : ConnState × Attempts} {a : ConnAction} {t : ConnState},
      ConnStep ⟨true⟩ p.1 a t → (attempts ⟨⟨true⟩, 1⟩).step p a (t, p.2.next p.1 a) :=
    fun h => ⟨h, rfl⟩
  have h0 : (attempts ⟨⟨true⟩, 1⟩).Run [] (.new, ⟨false, 0, false⟩) := .start ⟨rfl, rfl⟩
  have h1 := h0.tail (hstep (.move (.connect rfl rfl)))
  have h2 := h1.tail (hstep (.move (.connectFailed rfl)))
  have h3 := h2.tail (hstep (.move (.delayElapsed rfl)))
  have h4 := h3.tail (hstep (.move (.connect rfl rfl)))
  have h5 := h4.tail (hstep (.move (.connectFailed rfl)))
  have h6 := h5.tail (hstep (.move (.delayElapsed rfl)))
  have h7 := h6.tail (hstep (.move (.connect rfl rfl)))
  exact absurd (hbounded _ _ h7).1 (by decide)

end Waepic.Connection
