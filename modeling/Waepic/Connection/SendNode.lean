import Waepic.Connection.Waiters

/-!
# What `send_node` returns

The life of one send, seen from its call: `SendView` is what a state says about
one command, from the queue through the runner to its answer, and `SendStep` how
that changes.  Every step of the connection leaves the view of a call as it is
or is a `SendStep` of it (`ConnStep.sendView`).

The runner answers a command once, after the transport has taken or refused its
node, so `Ok` means one accepted node.  An error means that the node is not
transmitted any more, except for the timeout: it returns while the command is
still queued, and the runner sends it later, on the next connection if need be.
Only a command that the runner will not reach (`ConnState.unserved`) is safe to
time out.
-/

namespace Waepic.Connection

open Transition Binary

/-- What the runner does with the command of a call. -/
inductive Serving where
  | idle
  | taken
  | transmitting
deriving DecidableEq, Repr

def Phase.serving (phase : Phase) (c : CallId) : Serving :=
  match phase with
  | .sendingNode d => if d = c then .taken else .idle
  | .transmitting d => if d = c then .transmitting else .idle
  | _ => .idle

@[simp] theorem Phase.serving_stopped (c : CallId) : Phase.stopped.serving c = .idle := rfl

/-- The runner takes no command any more: it has stopped or is about to. -/
def Runner.isFinal (config : ConnectionConfig) (r : Runner) : Bool :=
  match r.phase with
  | .stopped | .leaving (.ok _) | .closing (.ok _) => true
  | .leaving (.error _) | .closing (.error _) => !config.autoReconnect || r.loggedOut
  | .idle | .delaying => r.loggedOut
  | _ => false

/-- A `Disconnect` comes before the command of `c`. -/
def disconnectBefore (c : CallId) : List Command → Bool
  | [] => false
  | .disconnect :: _ => true
  | .sendNode d :: rest => if d = c then false else disconnectBefore c rest

/-- The runner will not take a command of `c`. -/
def ConnState.unserved (config : ConnectionConfig) (s : ConnState) (c : CallId) : Bool :=
  s.runner.isFinal config || disconnectBefore c s.commands

/-- A state, as the command of one call sees it. -/
structure SendView where
  stage : Option CallStage
  slot : Slot (Result Unit)
  sent : Option (Result Unit)
  queued : Nat
  serving : Serving
  handed : Nat
  accepted : Nat
  unserved : Bool

def ConnState.sendView (config : ConnectionConfig) (s : ConnState) (c : CallId) : SendView where
  stage := (s.calls c).map Call.stage
  slot := ((s.calls c).map Call.sendResult).getD .empty
  sent := (s.calls c).bind Call.sent
  queued := s.commands.count (.sendNode c)
  serving := s.runner.phase.serving c
  handed := s.handed.count c
  accepted := (s.accepted.map Prod.fst).count c
  unserved := s.unserved config c

/-- `send_node` has not queued its command. -/
def Unqueued (stage : Option CallStage) : Prop :=
  stage = some .created ∨ stage = some .registered

/-- `send_node` has queued its command, or ended without. -/
def Past (stage : Option CallStage) : Prop := stage ≠ none ∧ ¬ Unqueued stage

/-- The life of one send.  With `late`, the timeout may come at any time. -/
inductive SendStep (late : Prop) (v : SendView) : SendView → Prop where
  | start : v.stage = none → SendStep late v { v with stage := some .created }
  | register : v.stage = some .created → SendStep late v { v with stage := some .registered }
  | enqueue :
      Unqueued v.stage →
      SendStep late v { v with stage := some .sending, queued := v.queued + 1 }
  | closed {e : ConnectionError} {stage : CallStage} :
      Unqueued v.stage → ¬ stage.InFlight →
      SendStep late v { v with stage := some stage, sent := some (.error e) }
  | answered {r : Result Unit} {stage : CallStage} :
      v.stage = some .sending → v.slot = .filled r → Past (some stage) → stage ≠ .sending →
      SendStep late v { v with stage := some stage, sent := some r }
  | abandoned {e : ConnectionError} {stage : CallStage} :
      v.stage = some .sending → v.slot = .closed → ¬ stage.InFlight →
      SendStep late v { v with stage := some stage, sent := some (.error e) }
  | timeout {e : ConnectionError} {stage : CallStage} :
      v.stage = some .sending → v.slot = .empty → v.unserved = true ∧ v.serving = .idle ∨ late →
      ¬ stage.InFlight →
      SendStep late v { v with stage := some stage, sent := some (.error e) }
  | finish {stage : CallStage} :
      v.stage ≠ none → ¬ stage.InFlight → SendStep late v { v with stage := some stage }
  | take {q : Nat} {b : Bool} :
      v.queued = q + 1 → v.serving = .idle → v.unserved = false →
      SendStep late v { v with queued := q, serving := .taken, unserved := b }
  | refused {e : ConnectionError} :
      v.serving = .taken →
      SendStep late v { v with serving := .idle, slot := v.slot.fill (.error e) }
  | handOver :
      v.serving = .taken →
      SendStep late v { v with serving := .transmitting, handed := v.handed + 1 }
  | accepts :
      v.serving = .transmitting →
      SendStep late v
        { v with serving := .idle, slot := v.slot.fill (.ok ()), accepted := v.accepted + 1 }
  | fails {e : ConnectionError} :
      v.serving = .transmitting →
      SendStep late v { v with serving := .idle, slot := v.slot.fill (.error e) }
  | stop : SendStep late v { v with unserved := true }
  | abort :
      v.serving ≠ .idle →
      SendStep late v { v with serving := .idle, slot := v.slot.close, unserved := true }
  | discard {q : Nat} :
      v.queued = q + 1 → SendStep late v { v with queued := 0, slot := v.slot.close }

/-! ## Where a command is -/

/-- The places a command goes through. -/
inductive SendPlace : SendView → Prop where
  | unsent {stage : Option CallStage} {sent : Option (Result Unit)} {unserved : Bool} :
      (sent ≠ none → Past stage) → stage ≠ some .sending →
      SendPlace ⟨stage, .empty, sent, 0, .idle, 0, 0, unserved⟩
  | queued {stage : Option CallStage} {sent : Option (Result Unit)} {unserved : Bool} :
      Past stage → SendPlace ⟨stage, .empty, sent, 1, .idle, 0, 0, unserved⟩
  | taken {stage : Option CallStage} {sent : Option (Result Unit)} {unserved : Bool} :
      Past stage → SendPlace ⟨stage, .empty, sent, 0, .taken, 0, 0, unserved⟩
  | transmitting {stage : Option CallStage} {sent : Option (Result Unit)} {unserved : Bool} :
      Past stage → SendPlace ⟨stage, .empty, sent, 0, .transmitting, 1, 0, unserved⟩
  | accepted {stage : Option CallStage} {sent : Option (Result Unit)} {unserved : Bool} :
      Past stage → SendPlace ⟨stage, .filled (.ok ()), sent, 0, .idle, 1, 1, unserved⟩
  | failed {stage : Option CallStage} {sent : Option (Result Unit)} {unserved : Bool}
      {e : ConnectionError} {handed : Nat} :
      Past stage → SendPlace ⟨stage, .filled (.error e), sent, 0, .idle, handed, 0, unserved⟩
  | lost {stage : Option CallStage} {sent : Option (Result Unit)} {unserved : Bool}
      {handed : Nat} :
      Past stage → SendPlace ⟨stage, .closed, sent, 0, .idle, handed, 0, unserved⟩

theorem past_of_not_inFlight {stage : CallStage} (h : ¬ stage.InFlight) :
    Past (some stage) ∧ stage ≠ .sending := by
  refine ⟨⟨nofun, ?_⟩, ?_⟩
  · rintro (he | he) <;> cases he <;> exact h trivial
  · rintro rfl
    exact h trivial

theorem not_past_of_unqueued {stage : Option CallStage} (h : Unqueued stage) : ¬ Past stage :=
  fun hp => hp.2 h

/-- A call that moves on leaves its command where it is. -/
theorem SendPlace.moved {v : SendView} (h : SendPlace v) {stage : CallStage}
    (hpast : Past (some stage)) (hne : stage ≠ .sending) (sent : Option (Result Unit)) :
    SendPlace { v with stage := some stage, sent := sent } := by
  cases h with
  | unsent _ _ => exact .unsent (fun _ => hpast) (by simpa using hne)
  | queued _ => exact .queued hpast
  | taken _ => exact .taken hpast
  | transmitting _ => exact .transmitting hpast
  | accepted _ => exact .accepted hpast
  | failed _ => exact .failed hpast
  | lost _ => exact .lost hpast

/-- Every step of a send keeps its command in a place. -/
theorem SendPlace.step {late : Prop} {v w : SendView} (hplace : SendPlace v)
    (h : SendStep late v w) : SendPlace w := by
  cases h with
  | start hstage =>
      cases hplace with
      | unsent hsent _ => exact .unsent (fun hs => absurd hstage (hsent hs).1) nofun
      | _ hpast => exact absurd hstage hpast.1
  | register hstage =>
      have hnot := not_past_of_unqueued (Or.inl hstage)
      cases hplace with
      | unsent hsent _ => exact .unsent (fun hs => absurd (hsent hs) hnot) nofun
      | _ hpast => exact absurd hpast hnot
  | enqueue hstage =>
      have hnot := not_past_of_unqueued hstage
      cases hplace with
      | unsent _ _ => exact .queued ⟨nofun, by rintro (he | he) <;> cases he⟩
      | _ hpast => exact absurd hpast hnot
  | closed _ hended =>
      exact hplace.moved (past_of_not_inFlight hended).1 (past_of_not_inFlight hended).2 _
  | answered _ _ hpast hne => exact hplace.moved hpast hne _
  | abandoned _ _ hended =>
      exact hplace.moved (past_of_not_inFlight hended).1 (past_of_not_inFlight hended).2 _
  | timeout _ _ _ hended =>
      exact hplace.moved (past_of_not_inFlight hended).1 (past_of_not_inFlight hended).2 _
  | finish _ hended =>
      exact hplace.moved (past_of_not_inFlight hended).1 (past_of_not_inFlight hended).2 v.sent
  | take hqueued _ _ =>
      cases hplace with
      | queued hpast =>
          cases hqueued
          exact .taken hpast
      | _ => cases hqueued
  | refused hserving =>
      cases hplace with
      | taken hpast => exact .failed hpast
      | _ => cases hserving
  | handOver hserving =>
      cases hplace with
      | taken hpast => exact .transmitting hpast
      | _ => cases hserving
  | accepts hserving =>
      cases hplace with
      | transmitting hpast => exact .accepted hpast
      | _ => cases hserving
  | fails hserving =>
      cases hplace with
      | transmitting hpast => exact .failed hpast
      | _ => cases hserving
  | stop =>
      cases hplace with
      | unsent hsent hne => exact .unsent hsent hne
      | queued hpast => exact .queued hpast
      | taken hpast => exact .taken hpast
      | transmitting hpast => exact .transmitting hpast
      | accepted hpast => exact .accepted hpast
      | failed hpast => exact .failed hpast
      | lost hpast => exact .lost hpast
  | abort hserving =>
      cases hplace with
      | taken hpast => exact .lost hpast
      | transmitting hpast => exact .lost hpast
      | _ => exact absurd rfl hserving
  | discard hqueued =>
      cases hplace with
      | queued hpast => exact .lost hpast
      | _ => cases hqueued

/-! ## Results of a send -/

/-- The node of the call is not transmitted any more. -/
structure Silent (v : SendView) : Prop where
  queued : v.queued = 0 ∨ v.unserved = true
  serving : v.serving = .idle
  past : Past v.stage

/-- Nothing is handed over or accepted after silence. -/
theorem Silent.step {late : Prop} {v w : SendView} (hsilent : Silent v) (h : SendStep late v w) :
    Silent w ∧ w.handed = v.handed ∧ w.accepted = v.accepted := by
  obtain ⟨hqueued, hserving, hpast⟩ := hsilent
  cases h with
  | start hstage => exact absurd hstage hpast.1
  | register hstage => exact absurd hpast (not_past_of_unqueued (Or.inl hstage))
  | enqueue hstage => exact absurd hpast (not_past_of_unqueued hstage)
  | closed hstage _ => exact absurd hpast (not_past_of_unqueued hstage)
  | answered _ _ hnext _ => exact ⟨⟨hqueued, hserving, hnext⟩, rfl, rfl⟩
  | abandoned _ _ hended =>
      exact ⟨⟨hqueued, hserving, (past_of_not_inFlight hended).1⟩, rfl, rfl⟩
  | timeout _ _ _ hended =>
      exact ⟨⟨hqueued, hserving, (past_of_not_inFlight hended).1⟩, rfl, rfl⟩
  | finish _ hended => exact ⟨⟨hqueued, hserving, (past_of_not_inFlight hended).1⟩, rfl, rfl⟩
  | take hq _ hserved => simp [hq, hserved] at hqueued
  | refused htaken => simp [htaken] at hserving
  | handOver htaken => simp [htaken] at hserving
  | accepts htransmitting => simp [htransmitting] at hserving
  | fails htransmitting => simp [htransmitting] at hserving
  | stop => exact ⟨⟨Or.inr rfl, hserving, hpast⟩, rfl, rfl⟩
  | abort hbusy => exact absurd hserving hbusy
  | discard _ => exact ⟨⟨Or.inl rfl, hserving, hpast⟩, rfl, rfl⟩

/-- What `send_node` has returned is true. -/
structure SendTruthful (v : SendView) : Prop where
  place : SendPlace v
  /-- `Ok` was the runner's answer. -/
  ok : v.sent = some (.ok ()) → v.slot = .filled (.ok ())
  /-- After an error the node is not transmitted any more. -/
  error : ∀ e, v.sent = some (.error e) → Silent v

/-- The runner's answer does not change. -/
theorem SendStep.slot_kept {late : Prop} {v w : SendView} (h : SendStep late v w)
    (hslot : v.slot ≠ .empty) : w.slot = v.slot := by
  cases h with
  | refused _ => exact Slot.fill_of_ne_empty hslot _
  | accepts _ => exact Slot.fill_of_ne_empty hslot _
  | fails _ => exact Slot.fill_of_ne_empty hslot _
  | abort _ => exact Slot.close_of_ne_empty hslot
  | discard _ => exact Slot.close_of_ne_empty hslot
  | _ => rfl

/-- If no timeout comes while the command may be served, every step of a send
keeps what it returned true. -/
theorem SendTruthful.step {v w : SendView} (htrue : SendTruthful v) (h : SendStep False v w) :
    SendTruthful w := by
  have hplace := htrue.place.step h
  have hold : w.sent = v.sent → SendTruthful w := by
    intro hsent
    refine ⟨hplace, fun hok => ?_, fun e he => ?_⟩
    · have hslot := htrue.ok (hsent ▸ hok)
      rw [h.slot_kept (by rw [hslot]; nofun), hslot]
    · exact ((htrue.error e (hsent ▸ he)).step h).1
  cases h with
  | @closed e stage hstage hended =>
      refine ⟨hplace, nofun, fun _ _ => ?_⟩
      have hnot := not_past_of_unqueued hstage
      have hpast := (past_of_not_inFlight hended).1
      cases htrue.place with
      | unsent _ _ => exact ⟨Or.inl rfl, rfl, hpast⟩
      | _ hp => exact absurd hp hnot
  | @answered r stage hstage hslot hpast hne =>
      refine ⟨hplace, fun hok => ?_, fun e he => ?_⟩
      · cases hok
        exact hslot
      · cases he
        cases htrue.place with
        | failed _ => exact ⟨Or.inl rfl, rfl, hpast⟩
        | _ => cases hslot
  | abandoned _ hslot hended =>
      refine ⟨hplace, nofun, fun _ _ => ?_⟩
      cases htrue.place with
      | lost _ => exact ⟨Or.inl rfl, rfl, (past_of_not_inFlight hended).1⟩
      | _ => cases hslot
  | timeout _ _ hlate hended =>
      obtain ⟨hunserved, hserving⟩ := hlate.resolve_right id
      exact ⟨hplace, nofun, fun _ _ =>
        ⟨Or.inr hunserved, hserving, (past_of_not_inFlight hended).1⟩⟩
  | _ => exact hold rfl

/-! ## The connection, seen from a call -/

theorem SendStep.of_eq {late : Prop} {v w w' : SendView} (h : SendStep late v w') (heq : w = w') :
    SendStep late v w := heq ▸ h

theorem Call.sendReturned_stage (call : Call) (r : Result Unit) :
    Past (some (call.sendReturned r).stage) ∧ (call.sendReturned r).stage ≠ .sending := by
  rcases hiq : call.iq with _ | _ <;> rcases r with _ | _ <;>
    simp [Call.sendReturned, hiq, Past, Unqueued]

theorem Call.sendReturned_ended (call : Call) (e : ConnectionError) :
    ¬ (call.sendReturned (.error e)).stage.InFlight := by
  cases hiq : call.iq <;> simp [Call.sendReturned, hiq, CallStage.InFlight]

theorem Runner.retryOrStop_phase (r : Runner) (config : ConnectionConfig) :
    (r.retryOrStop config).phase = .stopped ∨ (r.retryOrStop config).phase = .delaying := by
  unfold Runner.retryOrStop
  split
  · exact Or.inl rfl
  · exact Or.inr rfl

theorem Runner.retryOrStop_isFinal (r : Runner) (config : ConnectionConfig) :
    (r.retryOrStop config).isFinal config = (!config.autoReconnect || r.loggedOut) := by
  unfold Runner.retryOrStop
  split
  · next hstop => rw [hstop]; rfl
  · next hretry =>
      rw [Bool.eq_false_of_not_eq_true hretry]
      exact (Bool.or_eq_false_iff.mp (Bool.eq_false_of_not_eq_true hretry)).2

/-- A move of the runner serves no command, and a final runner stays final. -/
theorem RunnerStep.serving {config : ConnectionConfig} {r r' : Runner} {m : RunnerMove}
    (h : RunnerStep config r m r') (d : CallId) :
    r.phase.serving d = .idle ∧ r'.phase.serving d = .idle ∧
      (r.isFinal config = true → r'.isFinal config = true) := by
  have hretry : (r.retryOrStop config).phase.serving d = .idle := by
    rcases r.retryOrStop_phase config with h | h <;> rw [h] <;> rfl
  cases h with
  | connectFailed h => exact ⟨by rw [h]; rfl, hretry, by simp [Runner.isFinal, h]⟩
  | endedError h =>
      refine ⟨by rw [h]; rfl, hretry, fun hfinal => ?_⟩
      rw [r.retryOrStop_isFinal config, ← hfinal, Runner.isFinal, h]
  | loggedOut h _ => exact ⟨by rw [h]; rfl, rfl, fun _ => rfl⟩
  | connect h hin => exact ⟨by rw [h]; rfl, rfl, by simp [Runner.isFinal, h, hin]⟩
  | delayElapsed h => exact ⟨by rw [h]; rfl, rfl, by simp [Runner.isFinal, h]⟩
  | endedOk h => exact ⟨by rw [h]; rfl, rfl, fun _ => rfl⟩
  | _ h => exact ⟨by rw [h]; rfl, rfl, by simp [Runner.isFinal, h]⟩

theorem disconnectBefore_append {c : CallId} {commands : List Command}
    (h : disconnectBefore c commands = true) (more : List Command) :
    disconnectBefore c (commands ++ more) = true := by
  induction commands with
  | nil => cases h
  | cons command rest ih =>
      cases command with
      | disconnect => rfl
      | sendNode d =>
          rw [disconnectBefore] at h
          rw [List.cons_append, disconnectBefore]
          split at h
          · cases h
          · next hdc => rw [if_neg hdc, ih h]

@[simp] theorem disconnectBefore_concat_sendNode (c d : CallId) (commands : List Command) :
    disconnectBefore c (commands ++ [.sendNode d]) = disconnectBefore c commands := by
  induction commands with
  | nil => simp [disconnectBefore]
  | cons command rest ih =>
      cases command with
      | disconnect => rfl
      | sendNode e => rw [List.cons_append, disconnectBefore, disconnectBefore, ih]

namespace ConnState

variable {config : ConnectionConfig} (s : ConnState)

@[simp] theorem unserved_setCall (c d : CallId) (call : Call) :
    (s.setCall c call).unserved config d = s.unserved config d := rfl

@[simp] theorem sendView_setCall_of_ne {c d : CallId} (h : d ≠ c) (call : Call) :
    (s.setCall c call).sendView config d = s.sendView config d := by
  simp [sendView, h]

/-- A step that moves the call `c` only. -/
theorem sendView_setCall {late : Prop} {c : CallId} {call : Call}
    (h : SendStep late (s.sendView config c)
      { s.sendView config c with
          stage := some call.stage, slot := call.sendResult, sent := call.sent })
    (d : CallId) :
    (s.setCall c call).sendView config d = s.sendView config d ∨
      SendStep late (s.sendView config d) ((s.setCall c call).sendView config d) := by
  rcases eq_or_ne d c with rfl | hdc
  · exact Or.inr (h.of_eq (by simp [sendView]))
  · exact Or.inl (s.sendView_setCall_of_ne hdc call)

theorem unqueued_of_call {c : CallId} {call : Call} (hcall : s.calls c = some call)
    (hstage : call.stage = .registered ∨ call.stage = .created ∧ call.iq = none) :
    Unqueued (s.sendView config c).stage := by
  simp only [sendView, hcall, Option.map_some, Unqueued, Option.some.injEq]
  exact hstage.symm.imp And.left id

/-- A step in which `send_node` returns. -/
theorem sendView_sendReturned {late : Prop} {c : CallId} {call : Call} {r : Result Unit}
    (hcall : s.calls c = some call)
    (h : SendStep late (s.sendView config c)
      { s.sendView config c with stage := some (call.sendReturned r).stage, sent := some r })
    (d : CallId) :
    (s.setCall c (call.sendReturned r)).sendView config d = s.sendView config d ∨
      SendStep late (s.sendView config d)
        ((s.setCall c (call.sendReturned r)).sendView config d) :=
  s.sendView_setCall (h.of_eq (by simp [sendView, hcall, Call.sendReturned])) d

/-- A step in which the call ends after its `send_node`. -/
theorem sendView_ended (late : Prop) {c : CallId} {call : Call} (hcall : s.calls c = some call)
    {stage : CallStage} (hended : ¬ stage.InFlight) (d : CallId) :
    (s.setCall c { call with stage := stage }).sendView config d = s.sendView config d ∨
      SendStep late (s.sendView config d)
        ((s.setCall c { call with stage := stage }).sendView config d) :=
  s.sendView_setCall
    (.of_eq (.finish (by simp [sendView, hcall]) hended) (by simp [sendView, hcall])) d

/-- A step after which the runner may serve less. -/
theorem sendView_unserved (late : Prop) {t : ConnState} {d : CallId}
    (hview : t.sendView config d =
      { s.sendView config d with unserved := t.unserved config d })
    (hkept : s.unserved config d = true → t.unserved config d = true) :
    t.sendView config d = s.sendView config d ∨
      SendStep late (s.sendView config d) (t.sendView config d) := by
  cases ht : t.unserved config d with
  | true => exact Or.inr (.of_eq .stop (by rw [hview, ht]))
  | false =>
      left
      rw [ht] at hkept hview
      rw [hview, ← Bool.eq_false_of_not_eq_true fun hs => Bool.false_ne_true (hkept hs)]
      rfl

/-- The runner answers the command of another call. -/
theorem sendView_answerSend_of_ne {c d : CallId} (h : d ≠ c)
    (hphase : s.runner.phase = .sendingNode c ∨ s.runner.phase = .transmitting c)
    (r : Result Unit) :
    ((s.answerSend c r).setPhase .reading).sendView config d = s.sendView config d := by
  rcases hphase with hphase | hphase <;>
    simp [sendView, answerSend, h, Ne.symm h, hphase, Phase.serving, unserved, Runner.isFinal]

/-- A command that is queued or served belongs to a call. -/
theorem exists_call_of_place {c : CallId} (hplace : SendPlace (s.sendView config c))
    (h : (s.sendView config c).queued ≠ 0 ∨ (s.sendView config c).serving ≠ .idle) :
    ∃ call, s.calls c = some call := by
  have hpast : Past (s.sendView config c).stage := by
    generalize s.sendView config c = v at hplace h
    cases hplace with
    | unsent _ _ => simp at h
    | _ hpast => exact hpast
  cases hcall : s.calls c with
  | none => exact absurd (by simp [sendView, hcall]) hpast.1
  | some call => exact ⟨call, rfl⟩

end ConnState

theorem Phase.of_serving_ne_idle {phase : Phase} {c : CallId} (h : phase.serving c ≠ .idle) :
    phase = .sendingNode c ∨ phase = .transmitting c := by
  cases phase <;> simp_all [Phase.serving]

/-- A `send_node` that waits has its command queued or served. -/
theorem SendPlace.of_sending {v : SendView} (h : SendPlace v) (hstage : v.stage = some .sending)
    (hslot : v.slot = .empty) : v.queued = 1 ∨ v.serving ≠ .idle := by
  cases h with
  | unsent _ hne => exact absurd hstage hne
  | queued _ => exact Or.inl rfl
  | taken _ => exact Or.inr nofun
  | transmitting _ => exact Or.inr nofun
  | _ => cases hslot

/-- A `send_node` times out only if the runner neither executes its command nor
will take it. -/
def TimesOutUnserved (config : ConnectionConfig) (s : ConnState) : ConnAction → Prop
  | .sendTimeout c => s.unserved config c = true ∧ s.runner.phase.serving c = .idle
  | _ => True

variable [WacoreBinary] {config : ConnectionConfig}

/-- Every step of the connection is a step of each send or leaves it alone. -/
theorem ConnStep.sendView (late : Prop) {s t : ConnState} {a : ConnAction}
    (h : ConnStep config s a t) (hlate : TimesOutUnserved config s a ∨ late) (d : CallId)
    (hplace : SendPlace (s.sendView config d)) :
    t.sendView config d = s.sendView config d ∨
      SendStep late (s.sendView config d) (t.sendView config d) := by
  have hserved : ∀ c, s.runner.phase = .sendingNode c ∨ s.runner.phase = .transmitting c →
      d = c → ∃ call, s.calls d = some call := by
    rintro c hphase rfl
    refine s.exists_call_of_place hplace (Or.inr ?_)
    rcases hphase with h | h <;> simp [ConnState.sendView, h, Phase.serving]
  cases h with
  | sendNode hfree _ =>
      refine s.sendView_setCall (.of_eq (.start ?_) ?_) d <;>
        simp [ConnState.sendView, hfree, Call.ofNode]
  | sendIqSupplied hfree _ _ =>
      refine s.sendView_setCall (.of_eq (.start ?_) ?_) d <;>
        simp [ConnState.sendView, hfree, Call.ofIq]
  | sendIqGenerated hfree _ _ =>
      refine s.sendView_setCall (.of_eq (.start ?_) ?_) d <;>
        simp [ConnState.sendView, hfree, Call.ofIq]
  | @register c call id hcall hcreated _ =>
      rcases eq_or_ne d c with rfl | hdc
      · refine Or.inr (.of_eq (.register ?_) ?_) <;>
          simp [ConnState.sendView, ConnState.unserved, hcall, hcreated]
      · left
        rw [ConnState.sendView_setCall_of_ne _ hdc]
        simp only [ConnState.sendView, ConnState.unserved, ConnState.insertWaiter_calls,
          ConnState.insertWaiter_commands, ConnState.insertWaiter_runner,
          ConnState.insertWaiter_handed, ConnState.insertWaiter_accepted]
        split
        · cases s.calls d <;> rfl
        · rfl
  | @enqueue c call hcall hstage _ =>
      rcases eq_or_ne d c with rfl | hdc
      · refine Or.inr (.of_eq (.enqueue (s.unqueued_of_call hcall hstage)) ?_)
        simp [ConnState.sendView, ConnState.unserved, hcall]
      · left
        simp [ConnState.sendView, ConnState.unserved, hdc, Ne.symm hdc]
  | enqueueClosed hcall hstage _ =>
      exact s.sendView_sendReturned hcall
        (.closed (s.unqueued_of_call hcall hstage) (Call.sendReturned_ended _ _)) d
  | sendAnswered hcall hstage hslot =>
      exact s.sendView_sendReturned hcall (.answered (by simp [ConnState.sendView, hcall, hstage])
        (by simp [ConnState.sendView, hcall, hslot]) (Call.sendReturned_stage _ _).1
        (Call.sendReturned_stage _ _).2) d
  | sendAbandoned hcall hstage hslot =>
      exact s.sendView_sendReturned hcall (.abandoned (by simp [ConnState.sendView, hcall, hstage])
        (by simp [ConnState.sendView, hcall, hslot]) (Call.sendReturned_ended _ _)) d
  | sendTimeout hcall hstage hslot =>
      exact s.sendView_sendReturned hcall (.timeout (by simp [ConnState.sendView, hcall, hstage])
        (by simp [ConnState.sendView, hcall, hslot]) hlate (Call.sendReturned_ended _ _)) d
  | responseAnswered hcall _ _ => exact s.sendView_ended late hcall id d
  | responseAbandoned hcall _ _ => exact s.sendView_ended late hcall id d
  | responseTimeout hcall _ _ => exact s.sendView_ended late hcall id d
  | drop hcall _ => exact s.sendView_ended late hcall id d
  | disconnect _ _ =>
      refine s.sendView_unserved late (by simp [ConnState.sendView]) fun hs => ?_
      rcases Bool.or_eq_true_iff.mp hs with hfinal | hbefore
      · exact Bool.or_eq_true_iff.mpr (Or.inl hfinal)
      · exact Bool.or_eq_true_iff.mpr (Or.inr (disconnectBefore_append hbefore _))
  | dropHandles _ => exact Or.inl rfl
  | @move m r hmove =>
      obtain ⟨hbefore, hafter, hfinal⟩ := hmove.serving d
      refine s.sendView_unserved late (by simp [ConnState.sendView, hbefore, hafter]) fun hs => ?_
      exact Bool.or_eq_true_iff.mpr ((Bool.or_eq_true_iff.mp hs).imp hfinal id)
  | frameOther hreading _ =>
      left
      simp only [ConnState.sendView, ConnState.unserved, Runner.isFinal, hreading]
      split <;> rfl
  | @frameIq n id hreading _ =>
      left
      simp only [ConnState.sendView, ConnState.unserved, Runner.isFinal, ConnState.setPhase_calls,
        ConnState.resolveWaiter_calls,
        ConnState.setPhase_commands, ConnState.resolveWaiter_commands, ConnState.setPhase_phase,
        ConnState.setPhase_handed, ConnState.resolveWaiter_handed, ConnState.setPhase_accepted,
        ConnState.resolveWaiter_accepted, hreading]
      split
      · cases s.calls d <;> rfl
      · rfl
  | @takeNode c rest hreading hcommands =>
      rcases eq_or_ne d c with rfl | hdc
      · refine Or.inr (.of_eq (.take (q := rest.count (.sendNode d))
          (b := disconnectBefore d rest) ?_ ?_ ?_) ?_) <;>
          simp [ConnState.sendView, ConnState.unserved, Runner.isFinal, disconnectBefore, hcommands,
            hreading, Phase.serving]
      · left
        simp [ConnState.sendView, ConnState.unserved, Runner.isFinal, disconnectBefore, hcommands,
          hreading, Phase.serving, Ne.symm hdc]
  | @sendRefused c e hphase =>
      rcases eq_or_ne d c with rfl | hdc
      · obtain ⟨call, hcall⟩ := hserved d (Or.inl hphase) rfl
        refine Or.inr (.of_eq (.refused (e := e) ?_) ?_) <;>
          simp [ConnState.sendView, ConnState.answerSend, hcall, hphase, Phase.serving,
            ConnState.unserved, Runner.isFinal]
      · exact Or.inl (s.sendView_answerSend_of_ne hdc (Or.inl hphase) _)
  | @handOver c hphase =>
      rcases eq_or_ne d c with rfl | hdc
      · refine Or.inr (.of_eq (.handOver ?_) ?_) <;>
          simp [ConnState.sendView, ConnState.unserved, Runner.isFinal, hphase, Phase.serving]
      · left
        simp [ConnState.sendView, ConnState.unserved, Runner.isFinal, Ne.symm hdc, hphase,
          Phase.serving]
  | @transportAccepts c hphase =>
      rcases eq_or_ne d c with rfl | hdc
      · obtain ⟨call, hcall⟩ := hserved d (Or.inr hphase) rfl
        refine Or.inr (.of_eq (.accepts ?_) ?_) <;>
          simp [ConnState.sendView, ConnState.answerSend, hcall, hphase, Phase.serving,
            ConnState.unserved, Runner.isFinal]
      · left
        simp [ConnState.sendView, ConnState.answerSend, hdc, Ne.symm hdc, hphase, Phase.serving,
          ConnState.unserved, Runner.isFinal]
  | @transportFails c e hphase =>
      rcases eq_or_ne d c with rfl | hdc
      · obtain ⟨call, hcall⟩ := hserved d (Or.inr hphase) rfl
        refine Or.inr (.of_eq (.fails (e := e) ?_) ?_) <;>
          simp [ConnState.sendView, ConnState.answerSend, hcall, hphase, Phase.serving,
            ConnState.unserved, Runner.isFinal]
      · exact Or.inl (s.sendView_answerSend_of_ne hdc (Or.inr hphase) _)
  | takeDisconnect hreading hcommands =>
      refine s.sendView_unserved late ?_ fun _ => rfl
      simp [ConnState.sendView, hcommands, hreading, Phase.serving]
  | commandsClosed hreading _ _ =>
      refine s.sendView_unserved late ?_ fun _ => rfl
      simp [ConnState.sendView, hreading, Phase.serving]
  | @cleanup r hleaving =>
      left
      have hfinal : Runner.isFinal config
            { s.runner with phase := .closing r, isConnected := false } =
          s.runner.isFinal config := by
        simp only [Runner.isFinal, hleaving]
        cases r <;> rfl
      simp only [ConnState.sendView, ConnState.drainWaiters, ConnState.unserved, hfinal, hleaving]
      split
      · cases s.calls d <;> rfl
      · rfl
  | abort hserves =>
      have hidle : s.runner.phase.serving d = .idle := by
        cases hphase : s.runner.phase <;> simp [hphase, Phase.serves] at hserves <;> rfl
      exact s.sendView_unserved late (by simp [ConnState.sendView, hidle]) fun _ => rfl
  | @abortSending c hserves =>
      have hphase : s.runner.phase = .sendingNode c ∨ s.runner.phase = .transmitting c := by
        cases hphase : s.runner.phase <;> simp_all [Phase.serves]
      right
      rcases eq_or_ne d c with rfl | hdc
      · obtain ⟨call, hcall⟩ := hserved d hphase rfl
        refine .of_eq (.abort ?_) ?_
        · rcases hphase with h | h <;> simp [ConnState.sendView, h, Phase.serving]
        · simp [ConnState.sendView, ConnState.dropSend, hcall, ConnState.unserved, Runner.isFinal]
      · have hidle : s.runner.phase.serving d = .idle := by
          rcases hphase with h | h <;> simp [h, Phase.serving, Ne.symm hdc]
        refine .of_eq .stop ?_
        simp [ConnState.sendView, ConnState.dropSend, hdc, hidle, ConnState.unserved,
          Runner.isFinal]
  | discard hstopped =>
      by_cases hmem : Command.sendNode d ∈ s.commands
      · have hcount := List.count_pos_iff.mpr hmem
        obtain ⟨call, hcall⟩ := s.exists_call_of_place hplace (Or.inl hcount.ne')
        obtain ⟨q, hq⟩ := Nat.exists_eq_succ_of_ne_zero hcount.ne'
        refine Or.inr (.of_eq (.discard (q := q) hq) ?_)
        simp [ConnState.sendView, ConnState.dropCommands, hmem, hcall, hstopped, ConnState.unserved,
          Runner.isFinal]
      · left
        simp [ConnState.sendView, ConnState.dropCommands, hmem, List.count_eq_zero_of_not_mem hmem,
          hstopped, ConnState.unserved, Runner.isFinal]

/-! ## The truth of `send_node` -/

theorem sendPlace_of_run {as : List ConnAction} {s : ConnState} (h : (connection config).Run as s)
    (c : CallId) : SendPlace (s.sendView config c) := by
  refine h.invariant (I := fun s => SendPlace (s.sendView config c)) ?_ ?_
  · rintro s rfl
    exact .unsent (fun h => absurd rfl h) nofun
  · intro s a t hplace hstep
    rcases hstep.sendView True (Or.inr trivial) c hplace with heq | hsend
    · rw [heq]
      exact hplace
    · exact hplace.step hsend

theorem sendTruthful_of_run {as : List ConnAction} {s : ConnState}
    (h : ((connection config).restrict (TimesOutUnserved config)).Run as s) (c : CallId) :
    SendTruthful (s.sendView config c) := by
  refine h.invariant (I := fun s => SendTruthful (s.sendView config c)) ?_ ?_
  · rintro s rfl
    exact ⟨.unsent (fun h => absurd rfl h) nofun, nofun, nofun⟩
  · rintro s a t htrue ⟨hstep, hguard⟩
    rcases hstep.sendView False (Or.inl hguard) c htrue.place with heq | hsend
    · rw [heq]
      exact htrue
    · exact htrue.step hsend

/-- Silence lasts. -/
theorem Silent.steps {s t : ConnState} {bs : List ConnAction} {c : CallId}
    (hplace : SendPlace (s.sendView config c)) (hsilent : Silent (s.sendView config c))
    (h : (connection config).Steps s bs t) :
    t.handed.count c = s.handed.count c ∧
      (t.accepted.map Prod.fst).count c = (s.accepted.map Prod.fst).count c := by
  have hall : SendPlace (t.sendView config c) ∧ Silent (t.sendView config c) ∧
      (t.sendView config c).handed = (s.sendView config c).handed ∧
      (t.sendView config c).accepted = (s.sendView config c).accepted := by
    refine h.preserves (I := fun t =>
        SendPlace (t.sendView config c) ∧ Silent (t.sendView config c) ∧
        (t.sendView config c).handed = (s.sendView config c).handed ∧
        (t.sendView config c).accepted = (s.sendView config c).accepted)
      ?_ ⟨hplace, hsilent, rfl, rfl⟩
    rintro u a w ⟨hp, hs, hhanded, haccepted⟩ hstep
    rcases hstep.sendView True (Or.inr trivial) c hp with heq | hsend
    · rw [heq]
      exact ⟨hp, hs, hhanded, haccepted⟩
    · obtain ⟨hs', hh, ha⟩ := hs.step hsend
      exact ⟨hp.step hsend, hs', hh.trans hhanded, ha.trans haccepted⟩
  exact hall.2.2

/-- What `send_node` returned for `c` is true: `Ok` for a node that was handed over
and accepted exactly once, an error for one that is not transmitted any more. -/
def ReturnsTruth (config : ConnectionConfig) (s : ConnState) (c : CallId) : Prop :=
  ∀ call, s.calls c = some call →
    (call.sent = some (.ok ()) →
      s.handed.count c = 1 ∧ (s.accepted.map Prod.fst).count c = 1) ∧
    ∀ e, call.sent = some (.error e) → ∀ bs t, (connection config).Steps s bs t →
      t.handed.count c = s.handed.count c ∧
        (t.accepted.map Prod.fst).count c = (s.accepted.map Prod.fst).count c

theorem SendTruthful.returnsTruth {s : ConnState} {c : CallId}
    (htrue : SendTruthful (s.sendView config c)) : ReturnsTruth config s c := by
  intro call hcall
  have hsent : (s.sendView config c).sent = call.sent := by simp [ConnState.sendView, hcall]
  constructor
  · intro hok
    have hslot := htrue.ok (hsent.trans hok)
    have hcounts : (s.sendView config c).handed = 1 ∧ (s.sendView config c).accepted = 1 := by
      generalize s.sendView config c = v at hslot htrue
      cases htrue.place with
      | accepted _ => exact ⟨rfl, rfl⟩
      | _ => cases hslot
    exact hcounts
  · intro e he bs t hsteps
    exact (htrue.error e (hsent.trans he)).steps htrue.place hsteps

/-! ### A timeout that comes too early -/

section

variable {s : ConnState}

/-- The runner is at its select, with the commands of `s`. -/
def Serves (s t : ConnState) : Prop :=
  t.runner.phase = .reading ∧ t.commands = s.commands ∧ t.handed = s.handed

theorem canServe_of_connecting (h : s.runner.phase = .connecting) :
    (connection config).CanReach (Serves s) s :=
  .of_step (a := .move .connected) (.move (.connected h)) (.here ⟨rfl, rfl, rfl⟩)

theorem canServe_of_delaying (h : s.runner.phase = .idle ∨ s.runner.phase = .delaying)
    (hin : s.runner.loggedOut = false) : (connection config).CanReach (Serves s) s := by
  have hidle : ∀ {u : ConnState}, u.runner.phase = .idle → u.runner.loggedOut = false →
      (connection config).CanReach (Serves u) u :=
    fun h hin => .of_step (a := .move .top) (.move (.connect h hin)) (canServe_of_connecting rfl)
  rcases h with h | h
  · exact hidle h hin
  · exact .of_step (a := .move .delayElapsed) (.move (.delayElapsed h)) (hidle rfl hin)

theorem canServe_of_leaving {e : ConnectionError}
    (h : s.runner.phase = .leaving (.error e) ∨ s.runner.phase = .closing (.error e))
    (hretry : (!config.autoReconnect || s.runner.loggedOut) = false) :
    (connection config).CanReach (Serves s) s := by
  have hclosing : ∀ {u : ConnState}, u.runner.phase = .closing (.error e) →
      (!config.autoReconnect || u.runner.loggedOut) = false →
      (connection config).CanReach (Serves u) u := by
    intro u h hretry
    have hdelay : u.runner.retryOrStop config = u.runner.retry :=
      if_neg (Bool.eq_false_iff.mp hretry)
    refine .of_step (a := .move .ended) (.move (.endedError h)) ?_
    refine canServe_of_delaying (Or.inr ?_) ?_
    · rw [hdelay]
      rfl
    · rw [hdelay]
      exact (Bool.or_eq_false_iff.mp hretry).2
  rcases h with h | h
  · exact .of_step (a := .cleanup) (.cleanup h) (hclosing rfl hretry)
  · exact hclosing h hretry

/-- A runner that is not about to stop gets back to its select. -/
theorem canServe (hopen : s.runner.isFinal config = false) :
    (connection config).CanReach (Serves s) s := by
  have hrouting : ∀ {u : ConnState} {n : Node}, u.runner.phase = .routing n →
      (connection config).CanReach (Serves u) u :=
    fun h => .of_step (a := .move .routed) (.move (.routed h)) (.here ⟨rfl, rfl, rfl⟩)
  cases hphase : s.runner.phase with
  | idle =>
      exact canServe_of_delaying (Or.inl hphase) (by simpa [Runner.isFinal, hphase] using hopen)
  | connecting => exact canServe_of_connecting hphase
  | reading => exact .here ⟨hphase, rfl, rfl⟩
  | sendingNode c =>
      exact .of_step (a := .sendRefused c .notConnected) (.sendRefused hphase)
        (.here ⟨rfl, rfl, rfl⟩)
  | transmitting c =>
      exact .of_step (a := .transportSent c (.error .notConnected)) (.transportFails hphase)
        (.here ⟨rfl, rfl, rfl⟩)
  | pinging =>
      exact .of_step (a := .move .pinged) (.move (.pinged hphase)) (.here ⟨rfl, rfl, rfl⟩)
  | acking n => exact .of_step (a := .move .acked) (.move (.acked hphase)) (hrouting rfl)
  | routing n => exact hrouting hphase
  | leaving r =>
      cases r with
      | ok _ => simp [Runner.isFinal, hphase] at hopen
      | error e =>
          exact canServe_of_leaving (Or.inl hphase) (by simpa [Runner.isFinal, hphase] using hopen)
  | closing r =>
      cases r with
      | ok _ => simp [Runner.isFinal, hphase] at hopen
      | error e =>
          exact canServe_of_leaving (Or.inr hphase) (by simpa [Runner.isFinal, hphase] using hopen)
  | delaying =>
      exact canServe_of_delaying (Or.inr hphase) (by simpa [Runner.isFinal, hphase] using hopen)
  | stopped => simp [Runner.isFinal, hphase] at hopen

/-- At its select the runner takes the commands one after the other, up to that of
`c`. -/
theorem canHandOver {c : CallId} (hreading : s.runner.phase = .reading)
    (hmem : .sendNode c ∈ s.commands) (hbefore : disconnectBefore c s.commands = false) :
    (connection config).CanReach (fun t => t.handed = c :: s.handed) s := by
  generalize hcommands : s.commands = commands at hmem hbefore
  induction commands generalizing s with
  | nil => cases hmem
  | cons command rest ih =>
      cases command with
      | disconnect => cases hbefore
      | sendNode d =>
          refine .of_step (a := .takeNode d) (.takeNode hreading hcommands) ?_
          rcases eq_or_ne d c with rfl | hdc
          · exact .of_step (a := .handOver d) (.handOver rfl) (.here rfl)
          · have hrest : Command.sendNode c ∈ rest := by simpa [hdc.symm] using hmem
            rw [disconnectBefore, if_neg hdc] at hbefore
            refine .of_step (a := .sendRefused d .notConnected) (.sendRefused rfl) ?_
            exact ih rfl rfl hrest hbefore

/-- After a timeout while the command may be served, the node may be transmitted. -/
theorem not_returnsTruth_of_timeout {t : ConnState} {c : CallId}
    (hplace : SendPlace (s.sendView config c)) (h : ConnStep config s (.sendTimeout c) t)
    (hlate : ¬ TimesOutUnserved config s (.sendTimeout c)) : ¬ ReturnsTruth config t c := by
  intro htruth
  cases h with
  | @sendTimeout c call hcall hstage hslot =>
      have herror := (htruth _ (ConnState.setCall_calls_self ..)).2 sendTimedOut rfl
      by_cases hserving : s.runner.phase.serving c = .idle
      · have hunserved : s.unserved config c = false :=
          Bool.eq_false_of_not_eq_true fun h => hlate ⟨h, hserving⟩
        obtain ⟨hopen, hbefore⟩ := Bool.or_eq_false_iff.mp hunserved
        have hqueued : s.commands.count (.sendNode c) = 1 := by
          refine (hplace.of_sending ?_ ?_).resolve_right (not_not_intro hserving)
          · simp [ConnState.sendView, hcall, hstage]
          · simp [ConnState.sendView, hcall, hslot]
        have hmem : Command.sendNode c ∈ s.commands :=
          List.count_pos_iff.mp (by rw [hqueued]; exact Nat.one_pos)
        have hserves : (connection config).CanReach (Serves s)
            (s.setCall c (call.sendReturned (.error sendTimedOut))) := canServe hopen
        obtain ⟨bs, u, hsteps, hreading, hcommands, hhanded⟩ := hserves
        obtain ⟨bs', u', hsteps', hu'⟩ : (connection config).CanReach _ u :=
          canHandOver hreading (by rw [hcommands]; exact hmem) (by rw [hcommands]; exact hbefore)
        have hcount := (herror _ u' (hsteps.append hsteps')).1
        rw [hu', hhanded] at hcount
        simp at hcount
      · rcases Phase.of_serving_ne_idle hserving with hphase | hphase
        · have hstep : ConnStep config (s.setCall c (call.sendReturned (.error sendTimedOut)))
              (.handOver c) _ := .handOver hphase
          have hcount := (herror _ _ (.single hstep)).1
          simp at hcount
        · have hstep : ConnStep config (s.setCall c (call.sendReturned (.error sendTimedOut)))
              (.transportSent c (.ok ())) _ := .transportAccepts hphase
          have hcount := (herror _ _ (.single hstep)).2
          simp at hcount

end

/-- In a run in which a `send_node` times out only if the runner neither executes
its command nor will take it, what every `send_node` returned is true; a next step
keeps this exactly when it meets the condition. -/
theorem sendNode_truthful {as : List ConnAction} {s : ConnState}
    (hrun : ((connection config).restrict (TimesOutUnserved config)).Run as s) :
    (∀ c, ReturnsTruth config s c) ∧
    ∀ a t, (connection config).step s a t →
      ((∀ c, ReturnsTruth config t c) ↔ TimesOutUnserved config s a) := by
  refine ⟨fun c => (sendTruthful_of_run hrun c).returnsTruth, fun a t hstep => ⟨fun htruth => ?_,
    fun hguard c => (sendTruthful_of_run (hrun.tail ⟨hstep, hguard⟩) c).returnsTruth⟩⟩
  by_contra hlate
  cases a with
  | sendTimeout c =>
      exact not_returnsTruth_of_timeout (sendPlace_of_run hrun.of_restrict c) hstep hlate (htruth c)
  | _ => exact hlate trivial

/-- A `<presence>` without attributes. -/
def presenceNode : Node := .mk "presence" [] none

omit [WacoreBinary] in
theorem sendNode_truthful_sent :
    letI := plainWacore
    ∃ as s call, ((connection ⟨true⟩).restrict (TimesOutUnserved ⟨true⟩)).Run as s ∧
      s.calls 0 = some call ∧ call.sent = some (.ok ()) ∧
      s.handed.count 0 = 1 ∧ (s.accepted.map Prod.fst).count 0 = 1 := by
  let _ := plainWacore
  have h0 : ((connection ⟨true⟩).restrict (TimesOutUnserved ⟨true⟩)).Run [] .new := .start rfl
  have h1 := h0.tail (show ConnStep ⟨true⟩ _ (.sendNode 0 presenceNode) _ ∧ True from
    ⟨.sendNode rfl rfl, trivial⟩)
  have h2 := h1.tail (show ConnStep ⟨true⟩ _ (.enqueue 0) _ ∧ True from
    ⟨.enqueue rfl (Or.inr ⟨rfl, rfl⟩) nofun, trivial⟩)
  have h3 := h2.tail (show ConnStep ⟨true⟩ _ (.move .top) _ ∧ True from
    ⟨.move (.connect rfl rfl), trivial⟩)
  have h4 := h3.tail (show ConnStep ⟨true⟩ _ (.move .connected) _ ∧ True from
    ⟨.move (.connected rfl), trivial⟩)
  have h5 := h4.tail (show ConnStep ⟨true⟩ _ (.takeNode 0) _ ∧ True from
    ⟨.takeNode rfl rfl, trivial⟩)
  have h6 := h5.tail (show ConnStep ⟨true⟩ _ (.handOver 0) _ ∧ True from
    ⟨.handOver rfl, trivial⟩)
  have h7 := h6.tail (show ConnStep ⟨true⟩ _ (.transportSent 0 (.ok ())) _ ∧ True from
    ⟨.transportAccepts rfl, trivial⟩)
  have h8 := h7.tail (show ConnStep ⟨true⟩ _ (.sendAnswered 0) _ ∧ True from
    ⟨.sendAnswered rfl rfl rfl, trivial⟩)
  exact ⟨_, _, _, h8, rfl, rfl, ((sendNode_truthful h8).1 0 _ rfl).1 rfl⟩

omit [WacoreBinary] in
/-- The send times out before the runner connects, and the runner transmits its
node once it has. -/
theorem sendNode_transmits_after_timeout :
    ¬ ∀ (w : WacoreBinary) config as s, (@connection w config).Run as s →
      ∀ c, @ReturnsTruth w config s c := by
  let _ := plainWacore
  intro h
  have h0 : (connection ⟨true⟩).Run [] .new := .start rfl
  have h1 := h0.tail (show ConnStep ⟨true⟩ _ (.sendNode 0 presenceNode) _ from .sendNode rfl rfl)
  have h2 := h1.tail (show ConnStep ⟨true⟩ _ (.enqueue 0) _ from
    .enqueue rfl (Or.inr ⟨rfl, rfl⟩) nofun)
  have h3 := h2.tail (show ConnStep ⟨true⟩ _ (.sendTimeout 0) _ from .sendTimeout rfl rfl rfl)
  have s1 := h3.here.tail (show ConnStep ⟨true⟩ _ (.move .top) _ from .move (.connect rfl rfl))
  have s2 := s1.tail (show ConnStep ⟨true⟩ _ (.move .connected) _ from .move (.connected rfl))
  have s3 := s2.tail (show ConnStep ⟨true⟩ _ (.takeNode 0) _ from .takeNode rfl rfl)
  have s4 := s3.tail (show ConnStep ⟨true⟩ _ (.handOver 0) _ from .handOver rfl)
  have herror := (h plainWacore ⟨true⟩ _ _ h3 0 _ rfl).2 sendTimedOut rfl
  exact absurd (herror _ _ s4).1 (by decide)

end Waepic.Connection
