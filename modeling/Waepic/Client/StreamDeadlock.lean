import Waepic.Client.StreamProgress
import Waepic.Connection.SendNode

/-!
# The deadlock of the read loop and the update stream

A node that is read while the queue is full and the stream still needs an answer
leads to a deadlock (`canReach_blocked`): `read_loop` waits for room, the stream
for the answer, and only a timer ends it.  In a run that takes no such node
there is always a step (`stream_progress`).
-/

namespace Waepic.Client

open Transition Binary Connection

variable [WacoreBinary] {config : StreamConfig}

/-! ## The connection under a stream -/

/-- A step of the system is a step of its connection, or leaves that alone. -/
theorem StreamStep.conn_step {s t : StreamState} {a : StreamAction} (h : StreamStep config s a t) :
    t.conn = s.conn ∨ ∃ b, ConnStep config.connection s.conn b t.conn := by
  cases h with
  | frame _ hstep => exact Or.inr ⟨_, hstep⟩
  | routed _ _ hstep => exact Or.inr ⟨_, hstep⟩
  | connected hstep => exact Or.inr ⟨_, hstep⟩
  | select _ _ _ hstep => exact Or.inr ⟨_, hstep⟩
  | conn _ hstep => exact Or.inr ⟨_, hstep⟩
  | callNode _ hstep => exact Or.inr ⟨_, hstep⟩
  | callIq _ hstep => exact Or.inr ⟨_, hstep⟩
  | _ => exact Or.inl rfl

/-- The connection of a reachable state is one of `connection`. -/
theorem conn_reachable {as : List StreamAction} {s : StreamState}
    (h : (updateStream config).Run as s) : (connection config.connection).Reachable s.conn := by
  refine h.invariant (I := fun s => (connection config.connection).Reachable s.conn) ?_ ?_
  · rintro s rfl
    exact ⟨[], .start rfl⟩
  · rintro s a t ⟨bs, hrun⟩ hstep
    rcases StreamStep.conn_step hstep with heq | ⟨b, hconn⟩
    · rw [heq]
      exact ⟨bs, hrun⟩
    · exact ⟨bs ++ [b], hrun.tail hconn⟩

/-- A call that has returned has its outcome, and a `send_node` awaits no
response. -/
structure CallSettled (call : Call) : Prop where
  awaiting : call.stage = .awaiting → call.iq ≠ none
  returned : ∀ r, call.stage = .returned r → sendOutcome call.iq call.response r ≠ none

theorem CallSettled.of_stage {call : Call} (hawaiting : call.stage ≠ .awaiting)
    (hreturned : ∀ r, call.stage ≠ .returned r) : CallSettled call :=
  ⟨fun h => absurd h hawaiting, fun r h => absurd h (hreturned r)⟩

/-- With an answer in the response slot there is an outcome. -/
theorem sendOutcome_ne_none (iq : Option (String × IqSpec)) {response : Slot (Result Node)}
    (h : response ≠ .empty) (r : Result Unit) : sendOutcome iq response r ≠ none := by
  cases r with
  | error e => nofun
  | ok _ =>
      cases iq with
      | none => nofun
      | some iq =>
          cases response with
          | empty => exact absurd rfl h
          | closed => nofun
          | filled r => cases r <;> nofun

theorem CallSettled.sendReturned (call : Call) {r : Result Unit} :
    CallSettled (call.sendReturned r) := by
  cases hiq : call.iq with
  | none =>
      refine ⟨by simp [Call.sendReturned, hiq], fun r' hr' => ?_⟩
      cases r' <;> simp [Call.sendReturned, hiq, sendOutcome, responseOutcome]
  | some iq =>
      refine ⟨fun _ => by simp [Call.sendReturned, hiq], fun r' hr' => ?_⟩
      cases r with
      | error e =>
          have he : r' = .error e := by simpa [Call.sendReturned, hiq, eq_comm] using hr'
          rw [he]
          simp [sendOutcome]
      | ok _ => simp [Call.sendReturned, hiq] at hr'

theorem CallSettled.step {dropped : Prop} {call call' : Call} (h : CallSettled call)
    (hmoves : CallStep dropped call call') : CallSettled call' := by
  cases hmoves with
  | same => exact h
  | register _ => exact .of_stage nofun nofun
  | enqueue _ => exact .of_stage nofun nofun
  | refused _ => exact .sendReturned call
  | answered _ _ => exact .sendReturned call
  | abandoned _ _ => exact .sendReturned call
  | timedOut _ _ => exact .sendReturned call
  | responded _ hfilled =>
      exact ⟨nofun, fun r _ => sendOutcome_ne_none call.iq (by rw [hfilled]; nofun) r⟩
  | responseAbandoned _ hclosed =>
      exact ⟨nofun, fun r _ => sendOutcome_ne_none call.iq (by rw [hclosed]; nofun) r⟩
  | responseTimedOut _ _ =>
      refine ⟨nofun, fun r hr => ?_⟩
      cases hr
      nofun
  | drop _ _ => exact .of_stage nofun nofun
  | fillSend _ => exact ⟨h.awaiting, h.returned⟩
  | closeSend => exact ⟨h.awaiting, h.returned⟩
  | fillResponse r =>
      refine ⟨h.awaiting, fun r' hr' => ?_⟩
      obtain ⟨o, ho⟩ := Option.ne_none_iff_exists'.mp (h.returned r' hr')
      rw [sendOutcome_of_response (fun h => responseOutcome_fill h r) ho]
      nofun
  | closeResponse =>
      refine ⟨h.awaiting, fun r' hr' => ?_⟩
      obtain ⟨o, ho⟩ := Option.ne_none_iff_exists'.mp (h.returned r' hr')
      rw [sendOutcome_of_response responseOutcome_close ho]
      nofun

/-- What the connection of a stream satisfies. -/
structure ConnSound (s : ConnState) : Prop where
  settled : ∀ c call, s.calls c = some call → CallSettled call
  /-- There is a free id for the next call. -/
  fresh : ∃ bound : Nat, ∀ c : Nat, bound ≤ c → s.calls c = none

theorem settled_of_starts {s : ConnState} {c : CallId} {call : Call} {a : ConnAction}
    (h : Starts s c call a) : CallSettled call := by
  cases h with
  | node hcall => rw [hcall]; exact .of_stage nofun nofun
  | supplied _ hcall => rw [hcall]; exact .of_stage nofun nofun
  | generated _ hcall => rw [hcall]; exact .of_stage nofun nofun

theorem ConnSound.step {config : ConnectionConfig} {s t : ConnState} {a : ConnAction}
    (hsound : ConnSound s) (h : ConnStep config s a t) : ConnSound t where
  settled c call' hcall' := by
    rcases h.call_cases hcall' with ⟨-, hstarts⟩ | ⟨call, hcall, hmoves, -⟩
    · exact settled_of_starts hstarts
    · exact (hsound.settled c call hcall).step hmoves
  fresh := by
    obtain ⟨bound, hbound⟩ := hsound.fresh
    -- the step starts one call at most
    have hstart : ∃ d : Nat, ∀ (c : Nat) call, Starts s c call a → c = d := by
      by_cases hex : ∃ d call, Starts s d call a
      · obtain ⟨d, call, hd⟩ := hex
        refine ⟨d, fun c call' hc => ?_⟩
        cases hd <;> cases hc <;> rfl
      · exact ⟨0, fun c call hc => absurd ⟨c, call, hc⟩ hex⟩
    obtain ⟨d, hd⟩ := hstart
    refine ⟨max bound (d + 1), fun c hc => Option.eq_none_iff_forall_not_mem.mpr ?_⟩
    intro call' hcall'
    rcases h.call_cases hcall' with ⟨-, hstarts⟩ | ⟨call, hcall, -, -⟩
    · have := hd c call' hstarts
      omega
    · rw [hbound c (by omega)] at hcall
      cases hcall

theorem connSound_of_reachable {config : ConnectionConfig} {s : ConnState}
    (h : (connection config).Reachable s) : ConnSound s := by
  obtain ⟨as, hrun⟩ := h
  refine hrun.invariant (I := ConnSound) ?_ fun _ _ _ hsound hstep => hsound.step hstep
  rintro s rfl
  exact ⟨fun c call hcall => (by cases hcall), 0, fun _ _ => rfl⟩

/-- What the stream keeps: the handle it borrows, and the call it awaits. -/
structure StreamSound (s : StreamState) : Prop where
  alive : s.conn.handlesAlive = true
  awaited : ∀ c next, s.phase = .awaiting c next →
    ∃ call, s.conn.calls c = some call ∧ call.stage ≠ .dropped

theorem not_dropped_of_callStep {dropped : Prop} {call call' : Call}
    (hmoves : CallStep dropped call call') (hdropped : ¬ dropped) (h : call.stage ≠ .dropped) :
    call'.stage ≠ .dropped := by
  have hreturned : ∀ r, (call.sendReturned r).stage ≠ .dropped := by
    intro r
    cases hiq : call.iq <;> cases r <;> simp [Call.sendReturned, hiq]
  cases hmoves with
  | refused _ => exact hreturned _
  | answered _ _ => exact hreturned _
  | abandoned _ _ => exact hreturned _
  | timedOut _ _ => exact hreturned _
  | drop hd _ => exact absurd hd hdropped
  | _ => first | exact h | simp

theorem alive_kept {config : ConnectionConfig} {s t : ConnState} {a : ConnAction}
    (h : ConnStep config s a t) (ha : a ≠ .dropHandles) : t.handlesAlive = s.handlesAlive := by
  cases h with
  | dropHandles _ => exact absurd rfl ha
  | register _ _ _ => exact ConnState.insertWaiter_handlesAlive ..
  | frameIq _ _ => exact ConnState.resolveWaiter_handlesAlive ..
  | _ => rfl

theorem StreamSound.step {s t : StreamState} {a : StreamAction} (hsound : StreamSound s)
    (h : StreamStep config s a t) : StreamSound t := by
  -- a step of the connection keeps the call that the stream awaits
  have hconn : ∀ (b : ConnAction) (u : ConnState), ConnStep config.connection s.conn b u →
      b ≠ .dropHandles → (∀ c next, s.phase = .awaiting c next → b ≠ .drop c) →
      StreamSound { s with conn := u } := by
    intro b u hstep hb hdrop
    refine ⟨(alive_kept hstep hb).trans hsound.alive, fun c next hphase => ?_⟩
    obtain ⟨call, hcall, hstage⟩ := hsound.awaited c next hphase
    obtain ⟨call', hcall', hmoves, -⟩ := hstep.call_step hcall
    exact ⟨call', hcall', not_dropped_of_callStep hmoves (hdrop c next hphase) hstage⟩
  have hidle : ∀ (t : StreamState), t.conn.handlesAlive = s.conn.handlesAlive →
      (∀ c next, t.phase ≠ .awaiting c next) → StreamSound t :=
    fun t halive hphase => ⟨halive.trans hsound.alive, fun c next hc => absurd hc (hphase c next)⟩
  cases h with
  | deliver _ => exact ⟨hsound.alive, hsound.awaited⟩
  | receive _ _ _ => exact ⟨hsound.alive, hsound.awaited⟩
  | invalid _ _ => exact ⟨hsound.alive, hsound.awaited⟩
  | frame _ hstep =>
      have hnext := hconn _ _ hstep nofun nofun
      exact ⟨hnext.alive, hnext.awaited⟩
  | routed _ _ hstep =>
      have hnext := hconn _ _ hstep nofun nofun
      exact ⟨hnext.alive, hnext.awaited⟩
  | connected hstep =>
      have hnext := hconn _ _ hstep nofun nofun
      exact ⟨hnext.alive, hnext.awaited⟩
  | @select b u hselect _ _ hstep =>
      refine hconn b u hstep ?_ ?_
      · rintro rfl
        exact hselect
      · rintro c next - rfl
        exact hselect
  | @conn b u es hes hstep =>
      have hnext := hconn b u hstep ?_ ?_
      · exact ⟨hnext.alive, hnext.awaited⟩
      · rintro rfl
        cases hes with
        | quiet hquiet => exact hquiet
      · rintro c next hphase rfl
        cases hes with
        | quiet hquiet => exact hquiet next hphase
  | recvConnected _ _ _ => exact hidle _ rfl nofun
  | recvNode _ _ _ => exact hidle _ rfl nofun
  | recvDisconnected hphase _ => exact hidle _ rfl (by rw [hphase]; nofun)
  | recvError hphase _ => exact hidle _ rfl (by rw [hphase]; nofun)
  | @callNode c node next u hphase hstep =>
      refine ⟨(alive_kept hstep nofun).trans hsound.alive, fun c' next' hc => ?_⟩
      cases hc
      cases hstep
      exact ⟨_, ConnState.setCall_calls_self .., nofun⟩
  | @callIq c spec next u hphase hstep =>
      refine ⟨(alive_kept hstep nofun).trans hsound.alive, fun c' next' hc => ?_⟩
      cases hc
      cases hstep <;> exact ⟨_, ConnState.setCall_calls_self .., nofun⟩
  | resume _ _ _ _ => exact hidle _ rfl nofun
  | finish _ => exact hidle _ rfl nofun

theorem streamSound_of_run {as : List StreamAction} {s : StreamState}
    (h : (updateStream config).Run as s) : StreamSound s := by
  refine h.invariant (I := StreamSound) ?_ fun _ _ _ hsound hstep => hsound.step hstep
  rintro s rfl
  exact ⟨rfl, nofun⟩

/-! ## Blocked states -/

/-- The call waits for an answer. -/
def AwaitsAnswer (call : Call) : Prop :=
  call.stage = .sending ∧ call.sendResult = .empty ∨
    call.stage = .awaiting ∧ call.response = .empty

/-- `read_loop` waits for room in the queue and the stream for an answer. -/
structure Blocked (s : StreamState) : Prop where
  routing : ∃ n, s.conn.runner.phase = .routing n
  full : eventCapacity ≤ s.events.length
  unanswered : ∃ c next call, s.phase = .awaiting c next ∧ s.conn.calls c = some call ∧
    AwaitsAnswer call

omit [WacoreBinary] in
theorem AwaitsAnswer.stage {call : Call} (h : AwaitsAnswer call) :
    call.stage = .sending ∨ call.stage = .awaiting :=
  h.imp And.left And.left

omit [WacoreBinary] in
theorem AwaitsAnswer.sendResult_empty {call : Call} (h : AwaitsAnswer call)
    (hs : call.stage = .sending) : call.sendResult = .empty := by
  rcases h with ⟨-, hempty⟩ | ⟨ha, -⟩
  · exact hempty
  · rw [hs] at ha
    cases ha

omit [WacoreBinary] in
theorem AwaitsAnswer.response_empty {call : Call} (h : AwaitsAnswer call)
    (hs : call.stage = .awaiting) : call.response = .empty := by
  rcases h with ⟨ha, -⟩ | ⟨-, hempty⟩
  · rw [hs] at ha
    cases ha
  · exact hempty

/-- A call that waits for an answer has no step of its own but its timers. -/
theorem AwaitsAnswer.no_step {config : ConnectionConfig} {s t : ConnState} {a : ConnAction}
    {c : CallId} {call : Call} (h : AwaitsAnswer call) (hcall : s.calls c = some call)
    (hstep : ConnStep config s a t) : ¬ CallAction c a := by
  have hsame : ∀ {call'}, s.calls c = some call' → call' = call :=
    fun h => Option.some.inj (h.symm.trans hcall)
  intro ha
  cases hstep with
  | register hcall' hstage _ =>
      cases ha
      cases hsame hcall'
      rcases h.stage with hs | hs <;> rw [hs] at hstage <;> cases hstage
  | enqueue hcall' hstage _ =>
      cases ha
      cases hsame hcall'
      rcases h.stage with hs | hs <;> simp [hs] at hstage
  | enqueueClosed hcall' hstage _ =>
      cases ha
      cases hsame hcall'
      rcases h.stage with hs | hs <;> simp [hs] at hstage
  | sendAnswered hcall' hstage hslot =>
      cases ha
      cases hsame hcall'
      rw [h.sendResult_empty hstage] at hslot
      cases hslot
  | sendAbandoned hcall' hstage hslot =>
      cases ha
      cases hsame hcall'
      rw [h.sendResult_empty hstage] at hslot
      cases hslot
  | responseAnswered hcall' hstage hslot =>
      cases ha
      cases hsame hcall'
      rw [h.response_empty hstage] at hslot
      cases hslot
  | responseAbandoned hcall' hstage hslot =>
      cases ha
      cases hsame hcall'
      rw [h.response_empty hstage] at hslot
      cases hslot
  | _ => exact ha

/-- While it broadcasts, `read_loop` does nothing else. -/
theorem routed_of_readLoopAction {config : ConnectionConfig} {s t : ConnState} {a : ConnAction}
    {n : Node} (hrouting : s.runner.phase = .routing n) (ha : ReadLoopAction a)
    (hstep : ConnStep config s a t) : a = .move .routed := by
  have hphase : ∀ {phase}, s.runner.phase = phase → phase = .routing n :=
    fun h => h.symm.trans hrouting
  cases hstep with
  | frameOther h _ => cases hphase h
  | frameIq h _ => cases hphase h
  | takeNode h _ => cases hphase h
  | sendRefused h => cases hphase h
  | handOver h => cases hphase h
  | transportAccepts h => cases hphase h
  | transportFails h => cases hphase h
  | takeDisconnect h _ => cases hphase h
  | commandsClosed h _ _ => cases hphase h
  | move hm =>
      cases hm with
      | acked h => cases hphase h
      | pinged h => cases hphase h
      | routed _ => rfl
      | _ => exact absurd ha id
  | _ => exact absurd ha id

theorem Blocked.not_canMove {s : StreamState} (h : Blocked s) : ¬ CanMove config s := by
  obtain ⟨⟨n, hrouting⟩, hfull, c, next, call, hphase, hcall, hunanswered⟩ := h
  rintro ⟨a, t, hprogress, hstep⟩
  -- an action of the connection is the broadcast
  have hrouted : ∀ b u, Progress s (.conn b) → ConnStep config.connection s.conn b u →
      b = .move .routed := by
    rintro b u (hloop | ⟨d, next', hawaiting, hown⟩) hconn
    · exact routed_of_readLoopAction hrouting hloop hconn
    · rw [hphase] at hawaiting
      cases hawaiting
      exact absurd hown (hunanswered.no_step hcall hconn)
  have hruns : ∀ {phase}, s.conn.runner.phase = phase → phase = .routing n :=
    fun h => h.symm.trans hrouting
  have hawaits : ∀ {phase}, s.phase = phase → phase = .awaiting c next :=
    fun h => h.symm.trans hphase
  cases hstep with
  | deliver _ => exact hprogress
  | receive hreading _ _ => cases hruns hreading
  | invalid hreading _ => cases hruns hreading
  | frame _ hconn => cases hrouted _ _ hprogress hconn
  | routed _ hroom _ => exact absurd hroom (Nat.not_lt.mpr hfull)
  | connected hconn => cases hrouted _ _ hprogress hconn
  | select hselect _ _ hconn =>
      cases hrouted _ _ hprogress hconn
      exact hselect
  | conn hes hconn =>
      cases hrouted _ _ hprogress hconn
      cases hes with
      | quiet hquiet => exact hquiet
  | recvConnected _ hidle _ => cases hawaits hidle
  | recvNode hidle _ _ => cases hawaits hidle
  | recvDisconnected hidle _ => cases hawaits hidle
  | recvError hidle _ => cases hawaits hidle
  | callNode hhandling _ => cases hawaits hhandling
  | callIq hhandling _ => cases hawaits hhandling
  | resume hawaiting hcall' hreturned _ =>
      cases hawaits hawaiting
      rw [hcall] at hcall'
      cases hcall'
      rcases hunanswered.stage with hs | hs <;> rw [hs] at hreturned <;> cases hreturned
  | finish hhandling => cases hawaits hhandling

/-! ## The way to a blocked state -/

/-- `read_loop` waits for room in the queue. -/
structure Held (s : StreamState) : Prop where
  routing : ∃ n, s.conn.runner.phase = .routing n
  full : eventCapacity ≤ s.events.length
  alive : s.conn.handlesAlive = true
  sound : ConnSound s.conn

section

variable {s : StreamState} {c : CallId} {call : Call} {next : Result (Option Node) → Handler}

theorem Held.conn (h : Held s) {b : ConnAction} {u : ConnState}
    (hstep : ConnStep config.connection s.conn b u) (hb : b ≠ .dropHandles)
    (hrunner : u.runner = s.conn.runner) (phase : StreamPhase) :
    Held { s with conn := u, phase := phase } where
  routing := by
    obtain ⟨n, hn⟩ := h.routing
    exact ⟨n, by rw [hrunner]; exact hn⟩
  full := h.full
  alive := (alive_kept hstep hb).trans h.alive
  sound := h.sound.step hstep

theorem Held.open (h : Held s) : s.conn.runner.phase ≠ .stopped := by
  obtain ⟨n, hn⟩ := h.routing
  rw [hn]
  nofun

/-- A call that is queued now is not served. -/
theorem Held.enqueue (h : Held s) (hphase : s.phase = .awaiting c next)
    (hcall : s.conn.calls c = some call)
    (hstage : call.stage = .registered ∨ call.stage = .created ∧ call.iq = none)
    (hempty : call.sendResult = .empty) : (updateStream config).CanReach Blocked s := by
  have hstep : ConnStep config.connection s.conn (.enqueue c) _ := .enqueue hcall hstage h.open
  refine .of_step (a := .conn (.enqueue c)) (.conn (.quiet trivial) hstep) (.here ?_)
  exact ⟨h.routing, h.full, c, next, _, hphase, ConnState.setCall_calls_self ..,
    Or.inl ⟨rfl, hempty⟩⟩

theorem Held.created (h : Held s) (hphase : s.phase = .awaiting c next)
    (hcall : s.conn.calls c = some call) (hstage : call.stage = .created)
    (hempty : call.sendResult = .empty) : (updateStream config).CanReach Blocked s := by
  cases hiq : call.iq with
  | none => exact h.enqueue hphase hcall (Or.inr ⟨hstage, hiq⟩) hempty
  | some iq =>
      have hid : call.iqId = some iq.1 := by rw [Call.iqId, hiq]; rfl
      have hstep : ConnStep config.connection s.conn (.register c iq.1) _ :=
        .register hcall hstage hid
      refine .of_step (a := .conn (.register c iq.1)) (.conn (.quiet trivial) hstep) ?_
      have hnext := h.conn hstep (by simp) (ConnState.insertWaiter_runner ..) s.phase
      exact Held.enqueue hnext hphase (ConnState.setCall_calls_self ..) (Or.inl rfl) hempty

theorem Held.handling (h : Held s) {handler : Handler} (hphase : s.phase = .handling handler)
    (hne : handler ≠ .done) : (updateStream config).CanReach Blocked s := by
  obtain ⟨bound, hfresh⟩ := h.sound.fresh
  have hfree := hfresh bound (Nat.le_refl bound)
  cases handler with
  | done => exact absurd rfl hne
  | sendNode node next =>
      have hstep : ConnStep config.connection s.conn (.sendNode bound node) _ :=
        .sendNode hfree h.alive
      refine .of_step (.callNode hphase hstep) ?_
      exact (h.conn hstep nofun rfl (.awaiting bound next)).created rfl
        (ConnState.setCall_calls_self ..) rfl rfl
  | sendIq spec next =>
      cases hid : spec.query.id with
      | some id =>
          have hstep : ConnStep config.connection s.conn (.sendIq bound spec) _ :=
            .sendIqSupplied hfree h.alive hid
          refine .of_step (.callIq hphase hstep) ?_
          exact (h.conn hstep nofun rfl (.awaiting bound next)).created rfl
            (ConnState.setCall_calls_self ..) rfl rfl
      | none =>
          have hstep : ConnStep config.connection s.conn (.sendIq bound spec) _ :=
            .sendIqGenerated hfree h.alive hid
          refine .of_step (.callIq hphase hstep) ?_
          exact (h.conn hstep nofun rfl (.awaiting bound next)).created rfl
            (ConnState.setCall_calls_self ..) rfl rfl

/-- The handler goes on to its next send. -/
theorem Held.returned (h : Held s) (hphase : s.phase = .awaiting c next)
    (hcall : s.conn.calls c = some call) {r : Result Unit} (hstage : call.stage = .returned r)
    {o : Result (Option Node)} (ho : outcome call = some o) (hnext : next o ≠ .done) :
    (updateStream config).CanReach Blocked s := by
  refine .of_step (.resume hphase hcall hstage ho) ?_
  have hheld : Held { s with phase := .handling (next o) } := ⟨h.routing, h.full, h.alive, h.sound⟩
  exact hheld.handling rfl hnext

theorem Held.awaiting (h : Held s) (hphase : s.phase = .awaiting c next)
    (hcall : s.conn.calls c = some call) (hstage : call.stage = .awaiting)
    {o : Result (Option Node)} (ho : outcome call = some o) (hnext : next o ≠ .done) :
    (updateStream config).CanReach Blocked s := by
  cases hslot : call.response with
  | empty => cases hiq : call.iq <;> simp [outcome, hstage, hslot, hiq, responseOutcome] at ho
  | filled r =>
      have hstep : ConnStep config.connection s.conn (.responseAnswered c) _ :=
        .responseAnswered hcall hstage hslot
      refine .of_step (a := .conn (.responseAnswered c)) (.conn (.quiet trivial) hstep) ?_
      have ho' := outcome_kept (.responded hstage hslot) not_false ho
      exact (h.conn hstep (by simp) rfl s.phase).returned hphase (ConnState.setCall_calls_self ..) rfl
        ho' hnext
  | closed =>
      have hstep : ConnStep config.connection s.conn (.responseAnswered c) _ :=
        .responseAbandoned hcall hstage hslot
      refine .of_step (a := .conn (.responseAnswered c)) (.conn (.quiet trivial) hstep) ?_
      have ho' := outcome_kept (.responseAbandoned hstage hslot) not_false ho
      exact (h.conn hstep (by simp) rfl s.phase).returned hphase (ConnState.setCall_calls_self ..) rfl
        ho' hnext

theorem Held.sending (h : Held s) (hphase : s.phase = .awaiting c next)
    (hcall : s.conn.calls c = some call) (hstage : call.stage = .sending)
    {o : Result (Option Node)} (ho : outcome call = some o) (hnext : next o ≠ .done) :
    (updateStream config).CanReach Blocked s := by
  -- the call goes on with what its send returned
  have hreturns : ∀ r u, ConnStep config.connection s.conn (.sendAnswered c) u →
      u = s.conn.setCall c (call.sendReturned r) → outcome (call.sendReturned r) = some o →
      (updateStream config).CanReach Blocked s := by
    rintro r u hstep rfl ho'
    refine .of_step (a := .conn (.sendAnswered c)) (.conn (.quiet trivial) hstep) ?_
    have hheld := h.conn hstep (by simp) rfl s.phase
    cases hs : (call.sendReturned r).stage with
    | returned r' =>
        exact hheld.returned hphase (ConnState.setCall_calls_self ..) hs ho' hnext
    | awaiting => exact hheld.awaiting hphase (ConnState.setCall_calls_self ..) hs ho' hnext
    | _ => cases hiq : call.iq <;> cases r <;> simp [Call.sendReturned, hiq] at hs
  cases hslot : call.sendResult with
  | empty => simp [outcome, hstage, hslot] at ho
  | filled r =>
      exact hreturns r _ (.sendAnswered hcall hstage hslot) rfl
        (outcome_kept (.answered hstage hslot) not_false ho)
  | closed =>
      exact hreturns _ _ (.sendAbandoned hcall hstage hslot) rfl
        (outcome_kept (.abandoned hstage hslot) not_false ho)

/-- The answers that the call has do not decide its outcome. -/
theorem Held.undecided (h : Held s) (hphase : s.phase = .awaiting c next)
    (hcall : s.conn.calls c = some call) (hlive : call.stage ≠ .dropped)
    (hqueued : Unqueued (some call.stage) → call.sendResult = .empty)
    (ho : outcome call = none) : (updateStream config).CanReach Blocked s := by
  have hsettled := h.sound.settled c call hcall
  have hblocked : AwaitsAnswer call → (updateStream config).CanReach Blocked s :=
    fun hun => .here ⟨h.routing, h.full, c, next, call, hphase, hcall, hun⟩
  cases hstage : call.stage with
  | created => exact h.created hphase hcall hstage (hqueued (Or.inl (by rw [hstage])))
  | registered =>
      exact h.enqueue hphase hcall (Or.inl hstage) (hqueued (Or.inr (by rw [hstage])))
  | sending =>
      cases hslot : call.sendResult with
      | empty => exact hblocked (Or.inl ⟨hstage, hslot⟩)
      | closed => simp [outcome, hstage, hslot] at ho
      | filled r =>
          simp only [outcome, hstage, hslot] at ho
          rcases r with e | ⟨⟨⟩⟩
          · cases ho
          · cases hiq : call.iq with
            | none => simp [sendOutcome, hiq, responseOutcome] at ho
            | some iq =>
                have hresponse : call.response = .empty := by
                  by_contra hne
                  exact sendOutcome_ne_none call.iq hne _ ho
                have hstep : ConnStep config.connection s.conn (.sendAnswered c) _ :=
                  .sendAnswered hcall hstage hslot
                refine .of_step (a := .conn (.sendAnswered c)) (.conn (.quiet trivial) hstep) ?_
                have hheld := h.conn hstep (by simp) rfl s.phase
                refine .here ⟨hheld.routing, hheld.full, c, next, _, hphase,
                  ConnState.setCall_calls_self .., Or.inr ⟨?_, hresponse⟩⟩
                simp [Call.sendReturned, hiq]
  | awaiting =>
      obtain ⟨iq, hiq⟩ := Option.ne_none_iff_exists'.mp (hsettled.awaiting hstage)
      refine hblocked (Or.inr ⟨hstage, ?_⟩)
      by_contra hne
      simp only [outcome, hstage, hiq, Option.isSome_some, if_true] at ho
      exact sendOutcome_ne_none (some iq) hne (.ok ()) ho
  | returned r =>
      simp only [outcome, hstage] at ho
      exact absurd ho (hsettled.returned r hstage)
  | dropped => exact absurd hstage hlive

/-- A stream that needs an answer of a `read_loop` without room ends up blocked. -/
theorem Held.canReach_blocked (h : Held s) (hsound : StreamSound s)
    (hqueued : ∀ c call, s.conn.calls c = some call → Unqueued (some call.stage) →
      call.sendResult = .empty)
    (hbusy : ¬ Free s.conn.calls s.phase) : (updateStream config).CanReach Blocked s := by
  cases hphase : s.phase with
  | idle =>
      rw [hphase] at hbusy
      exact absurd trivial hbusy
  | handling handler => exact h.handling hphase fun hdone => hbusy (by rw [hphase]; exact hdone)
  | awaiting c next =>
      obtain ⟨call, hcall, hlive⟩ := hsound.awaited c next hphase
      cases ho : outcome call with
      | none => exact h.undecided hphase hcall hlive (hqueued c call hcall) ho
      | some o =>
          have hnext : next o ≠ .done := by
            intro hdone
            rw [hphase] at hbusy
            exact hbusy ⟨call, o, hcall, ho, hdone⟩
          cases hstage : call.stage with
          | returned r => exact h.returned hphase hcall hstage ho hnext
          | awaiting => exact h.awaiting hphase hcall hstage ho hnext
          | sending => exact h.sending hphase hcall hstage ho hnext
          | created => simp [outcome, hstage] at ho
          | registered => simp [outcome, hstage] at ho
          | dropped => exact absurd hstage hlive

end

/-- A call that has not queued its command has no answer. -/
theorem sendResult_of_unqueued {config : ConnectionConfig} {s : ConnState}
    (h : (connection config).Reachable s) {c : CallId} {call : Call} (hcall : s.calls c = some call)
    (hstage : Unqueued (some call.stage)) : call.sendResult = .empty := by
  obtain ⟨as, hrun⟩ := h
  have hplace := sendPlace_of_run hrun c
  have hslot : (s.sendView config c).slot = call.sendResult := by simp [ConnState.sendView, hcall]
  have hview : (s.sendView config c).stage = some call.stage := by simp [ConnState.sendView, hcall]
  rw [← hslot]
  rw [← hview] at hstage
  generalize s.sendView config c = v at hplace hstage
  cases hplace with
  | unsent _ _ => rfl
  | queued _ => rfl
  | taken _ => rfl
  | transmitting _ => rfl
  | accepted hpast => exact absurd hstage hpast.2
  | failed hpast => exact absurd hstage hpast.2
  | lost hpast => exact absurd hstage hpast.2

/-- A node in hand without room for it, and a stream that needs an answer, lead to
a deadlock. -/
theorem canReach_blocked {as : List StreamAction} {s : StreamState}
    (hrun : (updateStream config).Run as s) (hframe : HoldsFrame s.conn.runner.phase)
    (hfull : eventCapacity ≤ s.events.length) (hbusy : ¬ Free s.conn.calls s.phase) :
    (updateStream config).CanReach Blocked s := by
  have hsound := streamSound_of_run hrun
  have hconn := conn_reachable hrun
  cases hphase : s.conn.runner.phase with
  | routing n =>
      have hheld : Held s := ⟨⟨n, hphase⟩, hfull, hsound.alive, connSound_of_reachable hconn⟩
      exact hheld.canReach_blocked hsound (fun _ _ => sendResult_of_unqueued hconn) hbusy
  | acking n =>
      have hstep : StreamStep config s (.conn (.move .acked)) _ :=
        .conn (.quiet trivial) (.move (.acked hphase))
      have hconn' := conn_reachable (hrun.tail hstep)
      refine .of_step hstep ?_
      exact Held.canReach_blocked
        ⟨⟨n, rfl⟩, hfull, hsound.alive, connSound_of_reachable hconn'⟩
        ⟨hsound.alive, hsound.awaited⟩ (fun _ _ => sendResult_of_unqueued hconn') hbusy
  | _ => exact absurd hframe (by rw [hphase]; exact id)

/-- In a run in which `read_loop` takes a node only if there is room for it or the
stream needs no other answer, some step besides a timer is enabled whenever a
frame or a command waits; and a next node that does not meet this leads to a
state without one. -/
theorem stream_progress {as : List StreamAction} {s : StreamState}
    (hrun : ((updateStream config).restrict FrameFits).Run as s) :
    (InReadLoop s.conn.runner.phase → s.Pending → CanMove config s) ∧
    ∀ n t, (updateStream config).step s (.conn (.frame n)) t → ¬ FrameFits s (.conn (.frame n)) →
      (updateStream config).CanReach
        (fun u => InReadLoop u.conn.runner.phase ∧ u.Pending ∧ ¬ CanMove config u) t := by
  refine ⟨(streamInv_of_run hrun).canMove, fun n t hstep hguard => ?_⟩
  have hheld : HoldsFrame t.conn.runner.phase ∧ t.events = s.announced n ∧
      t.conn.calls = s.received n ∧ t.phase = s.phase := by
    cases hstep with
    | frame _ hconn =>
        obtain ⟨hframe, hcalls⟩ := received_of_frame hconn
        exact ⟨hframe, rfl, hcalls, rfl⟩
    | select hselect _ _ _ => exact absurd hselect id
    | conn hes _ =>
        cases hes with
        | quiet hquiet => exact absurd hquiet id
  obtain ⟨hframe, hevents, hcalls, hphase⟩ := hheld
  obtain ⟨hfull, hbusy⟩ := not_or.mp hguard
  obtain ⟨bs, u, hsteps, hblocked⟩ := canReach_blocked (hrun.of_restrict.tail hstep) hframe
    (by rw [hevents]; exact Nat.not_lt.mp hfull) (by rw [hcalls, hphase]; exact hbusy)
  obtain ⟨m, hrouting⟩ := hblocked.routing
  refine ⟨bs, u, hsteps, ?_, Or.inr (Or.inr (Or.inr ?_)), hblocked.not_canMove⟩
  · rw [hrouting]
    trivial
  · rw [hrouting]
    trivial

/-- The specs of a device that sends pings for everything. -/
def pingPostConnect : PostConnect where
  unifiedSession := presenceNode
  preKeyCountSpec := pingSpec none
  count _ := 0
  preKeyUploadSpec _ := pingSpec none
  passiveModeSpec := pingSpec none
  deviceListSpec := pingSpec none
  presence := none
  appStateSyncSpec _ := pingSpec none

/-- No node makes its handler send. -/
def silentConfig : StreamConfig where
  connection := ⟨true⟩
  nodeHandlers _ h := h = .done
  handled _ := ⟨.done, rfl⟩

omit [WacoreBinary] in
/-- After the first connect the stream waits for its first send. -/
theorem postConnect_run {G : StreamState → StreamAction → Prop} [WacoreBinary]
    (hG : ∀ s a, (∀ n, a ≠ .conn (.frame n)) → G s a) :
    ∃ as s call next, ((updateStream silentConfig).restrict G).Run as s ∧
      s.conn.runner.phase = .reading ∧ s.conn.runner.isConnected = true ∧ s.inbox = [] ∧
      s.decoded = [] ∧ s.events = [] ∧ s.conn.commands = [.sendNode 0] ∧
      s.phase = .awaiting 0 next ∧ s.conn.calls 0 = some call ∧
      call.stage = .sending ∧ call.sendResult = .empty := by
  have h0 : ((updateStream silentConfig).restrict G).Run [] .new := .start rfl
  have h1 := h0.tail (show StreamStep silentConfig _ (.conn (.move .top)) _ ∧ G _ _ from
    ⟨.conn (.quiet trivial) (.move (.connect rfl rfl)), hG _ _ nofun⟩)
  have h2 := h1.tail (show StreamStep silentConfig _ (.conn (.move .connected)) _ ∧ G _ _ from
    ⟨.connected (.move (.connected rfl)), hG _ _ nofun⟩)
  have h3 := h2.tail (show StreamStep silentConfig _ .recv _ ∧ G _ _ from
    ⟨.recvConnected (some pingPostConnect) rfl rfl, hG _ _ nofun⟩)
  have h4 := h3.tail (show StreamStep silentConfig _ (.call 0) _ ∧ G _ _ from
    ⟨.callNode rfl (.sendNode rfl rfl), hG _ _ nofun⟩)
  have h5 := h4.tail (show StreamStep silentConfig _ (.conn (.enqueue 0)) _ ∧ G _ _ from
    ⟨.conn (.quiet trivial) (.enqueue rfl (Or.inr ⟨rfl, rfl⟩) nofun), hG _ _ nofun⟩)
  exact ⟨_, _, _, _, h5, rfl, rfl, rfl, rfl, rfl, rfl, rfl, rfl, rfl, rfl⟩

omit [WacoreBinary] in
theorem stream_progress_postConnect :
    letI := plainWacore
    ∃ as s, ((updateStream silentConfig).restrict FrameFits).Run as s ∧
      InReadLoop s.conn.runner.phase ∧ s.Pending ∧ CanMove silentConfig s := by
  let _ := plainWacore
  obtain ⟨as, s, call, next, hrun, hreading, -, -, -, -, hcommands, -⟩ :=
    postConnect_run (G := FrameFits) fun s a ha => by
      unfold FrameFits
      split
      · next n => exact absurd rfl (ha n)
      · trivial
  have hloop : InReadLoop s.conn.runner.phase := by
    rw [hreading]
    trivial
  have hpending : s.Pending := Or.inr (Or.inr (Or.inl (by rw [hcommands]; nofun)))
  exact ⟨as, s, hrun, hloop, hpending, (stream_progress hrun).1 hloop hpending⟩

/-- A node that is only broadcast. -/
structure Plain (n : Node) : Prop where
  ack : (routeNode n).ack = none
  announce : (routeNode n).announce = false
  waiter : (routeNode n).waiter = none

/-- The stream, the calls and the commands of `t` are those of `s`. -/
structure Waits (s t : StreamState) : Prop where
  phase : t.phase = s.phase
  calls : t.conn.calls = s.conn.calls
  commands : t.conn.commands = s.conn.commands

omit [WacoreBinary] in
theorem Waits.trans {s t u : StreamState} (h₁ : Waits s t) (h₂ : Waits t u) : Waits s u :=
  ⟨h₂.phase.trans h₁.phase, h₂.calls.trans h₁.calls, h₂.commands.trans h₁.commands⟩

theorem Plain.frame_step (config : StreamConfig) {n : Node} (h : Plain n) {s : StreamState}
    {rest : List Frame}
    (hreading : s.conn.runner.phase = .reading) (hdecoded : s.decoded = .node n :: rest) :
    ∃ t, StreamStep config s (.conn (.frame n)) t ∧ t.conn.runner.phase = .routing n ∧
      t.decoded = rest ∧ t.events = s.events ∧ Waits s t := by
  refine ⟨_, .frame hdecoded (.frameOther hreading h.waiter), ?_, rfl, ?_, ⟨rfl, rfl, rfl⟩⟩
  · simp [h.ack]
  · simp [StreamState.announced, h.announce]

theorem routed_step (config : StreamConfig) {n : Node} {s : StreamState}
    (hrouting : s.conn.runner.phase = .routing n)
    (hroom : s.events.length < eventCapacity) :
    ∃ t, StreamStep config s (.conn (.move .routed)) t ∧ t.conn.runner.phase = .reading ∧
      t.decoded = s.decoded ∧ t.events = s.events ++ [.node n] ∧ Waits s t :=
  ⟨_, .routed hrouting hroom (.move (.routed hrouting)), rfl, rfl, rfl, ⟨rfl, rfl, rfl⟩⟩

/-- A backlog that fits is broadcast while the stream waits. -/
theorem Plain.broadcast_backlog (config : StreamConfig) {n : Node} (h : Plain n) (k : Nat)
    {s : StreamState} {rest : List Frame} (hreading : s.conn.runner.phase = .reading)
    (hdecoded : s.decoded = List.replicate k (.node n) ++ rest)
    (hroom : s.events.length + k ≤ eventCapacity) :
    ∃ as t, (updateStream config).Steps s as t ∧ t.conn.runner.phase = .reading ∧
      t.decoded = rest ∧ t.events.length = s.events.length + k ∧ Waits s t := by
  induction k generalizing s with
  | zero => exact ⟨[], s, .refl, hreading, hdecoded, rfl, ⟨rfl, rfl, rfl⟩⟩
  | succ k ih =>
      rw [List.replicate_succ, List.cons_append] at hdecoded
      obtain ⟨u, hframe, hrouting, hu, huevents, huwaits⟩ :=
        h.frame_step config hreading hdecoded
      obtain ⟨v, hrouted, hvreading, hv, hvevents, hvwaits⟩ :=
        routed_step config hrouting (by rw [huevents]; omega)
      have hlength : v.events.length = s.events.length + 1 := by
        rw [hvevents, huevents, List.length_append, List.length_singleton]
      obtain ⟨as, t, hsteps, htreading, ht, htevents, htwaits⟩ :=
        ih hvreading (hv.trans hu) (by omega)
      have hfirst := System.Steps.tail (S := updateStream config) (.single hframe) hrouted
      exact ⟨_, t, hfirst.append hsteps, htreading, ht, by omega,
        huwaits.trans (hvwaits.trans htwaits)⟩

omit [WacoreBinary] in
/-- After a connect the server sends 257 nodes before `read_loop` serves the first
send of the client: the queue is full, and the stream waits for its send. -/
theorem stream_deadlocks_on_backlog :
    ¬ ∀ (w : WacoreBinary) config as s, (@updateStream w config).Run as s →
      InReadLoop s.conn.runner.phase → s.inbox ≠ [] ∨ s.conn.commands ≠ [] →
      @CanMove w config s := by
  let _ := plainWacore
  intro h
  have hplain : Plain presenceNode := ⟨rfl, rfl, rfl⟩
  obtain ⟨as, s, call, next, hrestrict, hreading, hconnected, hinbox, hdecoded, hevents,
    hcommands, hphase, hcall, hsending, hempty⟩ :=
    postConnect_run (G := fun _ _ => True) fun _ _ _ => trivial
  -- the server sends the backlog, and the queue takes 256 nodes of it
  have hdeliver : StreamStep silentConfig s
      (.deliver (List.replicate 256 (.node presenceNode) ++ [.node presenceNode])) _ :=
    .deliver hconnected
  have hreceive := (hrestrict.of_restrict.tail hdeliver).tail
    (show StreamStep silentConfig _ .receive _ from
      .receive hreading hdecoded (by rw [hinbox]; rfl))
  obtain ⟨bs, r, hrun, hrreading, hr, hrevents, hrwaits⟩ : ∃ bs r,
      (updateStream silentConfig).Run bs r ∧ r.conn.runner.phase = .reading ∧
      r.decoded = List.replicate 256 (.node presenceNode) ++ [.node presenceNode] ∧
      r.events = [] ∧ Waits s r :=
    ⟨_, _, hreceive, hreading, rfl, hevents, ⟨rfl, rfl, rfl⟩⟩
  obtain ⟨cs, t, hsteps, htreading, ht, htevents, htwaits⟩ :=
    hplain.broadcast_backlog silentConfig 256 hrreading hr (by rw [hrevents]; decide)
  obtain ⟨u, hframe, hrouting, -, huevents, huwaits⟩ :=
    hplain.frame_step silentConfig htreading ht
  have hwaits := hrwaits.trans (htwaits.trans huwaits)
  have hblocked : Blocked u := by
    refine ⟨⟨_, hrouting⟩, ?_, 0, next, call, hwaits.phase.trans hphase, ?_,
      Or.inl ⟨hsending, hempty⟩⟩
    · rw [huevents, htevents, hrevents]
      decide
    · rw [hwaits.calls]
      exact hcall
  refine hblocked.not_canMove (h plainWacore silentConfig _ u ((hrun.append hsteps).tail hframe)
    (by rw [hrouting]; trivial) (Or.inr ?_))
  rw [hwaits.commands, hcommands]
  nofun

end Waepic.Client
