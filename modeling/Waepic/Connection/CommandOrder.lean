import Waepic.Connection.Reconnect

/-!
# The order of commands

All handles of a connection queue their commands in one channel, and the runner takes them
one at a time, connection after connection.  So the nodes reach the transports in the order
in which they were queued, each at most once, and a `Disconnect` is a barrier: what is queued
behind it never reaches a transport, whether the runner finds it at once or only after
several attempts to connect (`commands_in_order`).

A state is compared with the history of its run: `queuedBy` are the commands that the calls
have queued, `takenBy` those that the runner has taken.  What is taken is a first part of what
was queued, and while the runner runs the rest is the queue (`OrderInv`).
-/

namespace Waepic.Connection

open Transition Binary

/-- The command that a call queues, or would queue if the channel were open. -/
def ConnAction.queues : ConnAction → Option Command
  | .enqueue c => some (.sendNode c)
  | .disconnect => some .disconnect
  | _ => none

/-- The command that the runner takes. -/
def ConnAction.takes : ConnAction → Option Command
  | .takeNode c => some (.sendNode c)
  | .takeDisconnect => some .disconnect
  | _ => none

def queuedBy (as : List ConnAction) : List Command := as.filterMap ConnAction.queues

def takenBy (as : List ConnAction) : List Command := as.filterMap ConnAction.takes

theorem queuedBy_concat (as : List ConnAction) (a : ConnAction) :
    queuedBy (as ++ [a]) = queuedBy as ++ a.queues.toList := by
  cases h : a.queues <;> simp [queuedBy, h]

theorem takenBy_concat (as : List ConnAction) (a : ConnAction) :
    takenBy (as ++ [a]) = takenBy as ++ a.takes.toList := by
  cases h : a.takes <;> simp [takenBy, h]

/-- `read_loop` has ended in order, and `run` goes on to its return. -/
def Phase.Ended : Phase → Prop
  | .leaving (.ok _) | .closing (.ok _) | .stopped => True
  | _ => False

/-! ## What a step does with the commands -/

variable {config : ConnectionConfig}

/-- A move of the runner takes up no command, and leads to none of its own accord. -/
structure RunnerKeeps (r r' : Runner) : Prop where
  sendingNode : ∀ c, r'.phase = .sendingNode c → r.phase = .sendingNode c
  transmitting : ∀ c, r'.phase = .transmitting c → r.phase = .transmitting c
  ended : r.phase.Ended → r'.phase.Ended
  stopped : r.phase = .stopped → r'.phase = .stopped
  connection : r.connection ≤ r'.connection

theorem RunnerKeeps.of_phase {r r' : Runner} {phase : Phase} (hphase : r'.phase = phase)
    (hserves : phase.serves = none) (hended : r.phase.Ended → phase.Ended)
    (hstopped : r.phase = .stopped → phase = .stopped)
    (hconnection : r.connection ≤ r'.connection) : RunnerKeeps r r' where
  sendingNode c h := by rw [← hphase, h] at hserves; cases hserves
  transmitting c h := by rw [← hphase, h] at hserves; cases hserves
  ended h := hphase ▸ hended h
  stopped h := hphase.trans (hstopped h)
  connection := hconnection

/-- From a phase that is not at the end of a run, to one without a command. -/
theorem RunnerKeeps.of_going {r r' : Runner} {phase : Phase} (hphase : r.phase = phase)
    (hgoing : ¬ phase.Ended) (hserves : r'.phase.serves = none)
    (hconnection : r.connection ≤ r'.connection) : RunnerKeeps r r' := by
  refine .of_phase rfl hserves (fun h => absurd (hphase ▸ h) hgoing) (fun h => ?_) hconnection
  exact absurd (show phase.Ended from hphase ▸ h ▸ trivial) hgoing

theorem RunnerStep.keeps {r r' : Runner} {m : RunnerMove} (h : RunnerStep config r m r') :
    RunnerKeeps r r' := by
  have hretry : (r.retryOrStop config).phase.serves = none := by
    rcases r.retryOrStop_phase config with h | h <;> rw [h] <;> rfl
  have hconnection : r.connection ≤ (r.retryOrStop config).connection :=
    (Runner.retryOrStop_connection r).ge
  cases h with
  | loggedOut h _ => exact .of_going h id rfl le_rfl
  | connect h _ => exact .of_going h id rfl le_rfl
  | connected h => exact .of_going h id rfl (Nat.le_succ _)
  | connectFailed h => exact .of_going h id hretry hconnection
  | endedOk _ => exact .of_phase rfl rfl (fun _ => trivial) (fun _ => rfl) le_rfl
  | endedError h => exact .of_going h id hretry hconnection
  | _ h => exact .of_going h id rfl le_rfl

/-- Where the runner is once it has taken a command. -/
def Command.phase : Command → Phase
  | .sendNode c => .sendingNode c
  | .disconnect => .leaving (.ok ())

/-- What a step does with the commands and their nodes. -/
inductive CommandStep (s : ConnState) (a : ConnAction) (t : ConnState) : Prop where
  | other :
      a.queues = none → a.takes = none → t.commands = s.commands → t.handed = s.handed →
      t.accepted = s.accepted → RunnerKeeps s.runner t.runner → CommandStep s a t
  | queue {command : Command} :
      a.queues = some command → a.takes = none → s.runner.phase ≠ .stopped →
      t.commands = s.commands ++ [command] → t.handed = s.handed → t.accepted = s.accepted →
      t.runner = s.runner → CommandStep s a t
  /-- The channel is closed. -/
  | closed {c : CallId} :
      a.queues = some (.sendNode c) → a.takes = none → s.runner.phase = .stopped →
      t.commands = s.commands → t.handed = s.handed → t.accepted = s.accepted →
      t.runner = s.runner → CommandStep s a t
  | take {command : Command} {rest : List Command} :
      a.queues = none → a.takes = some command → s.runner.phase = .reading →
      s.commands = command :: rest → t.commands = rest → t.handed = s.handed →
      t.accepted = s.accepted → t.runner = { s.runner with phase := command.phase } →
      CommandStep s a t
  | handOver {c : CallId} :
      a.queues = none → a.takes = none → s.runner.phase = .sendingNode c →
      t.commands = s.commands → t.handed = c :: s.handed → t.accepted = s.accepted →
      t.runner = { s.runner with phase := .transmitting c } → CommandStep s a t
  | accepts {c : CallId} :
      a.queues = none → a.takes = none → s.runner.phase = .transmitting c →
      t.commands = s.commands → t.handed = s.handed →
      t.accepted = (c, s.runner.connection) :: s.accepted →
      t.runner = { s.runner with phase := .reading } → CommandStep s a t
  /-- The queue is freed. -/
  | discard :
      a.queues = none → a.takes = none → s.runner.phase = .stopped → t.commands = [] →
      t.handed = s.handed → t.accepted = s.accepted → t.runner = s.runner → CommandStep s a t

theorem RunnerKeeps.refl (r : Runner) : RunnerKeeps r r :=
  ⟨fun _ => id, fun _ => id, id, id, le_rfl⟩

theorem ConnStep.command [WacoreBinary] {s t : ConnState} {a : ConnAction}
    (h : ConnStep config s a t) : CommandStep s a t := by
  have hstays : ∀ {r : Runner}, r = s.runner → RunnerKeeps s.runner r := by
    rintro _ rfl
    exact .refl _
  have hgoes : ∀ {phase : Phase} {r : Runner}, s.runner.phase = phase → ¬ phase.Ended →
      r.phase.serves = none → s.runner.connection ≤ r.connection → RunnerKeeps s.runner r :=
    .of_going
  cases h with
  | enqueue _ _ hrunning => exact .queue rfl rfl hrunning rfl rfl rfl rfl
  | enqueueClosed _ _ hstopped => exact .closed rfl rfl hstopped rfl rfl rfl rfl
  | disconnect _ hrunning => exact .queue rfl rfl hrunning rfl rfl rfl rfl
  | takeNode hreading hcommands => exact .take rfl rfl hreading hcommands rfl rfl rfl rfl
  | takeDisconnect hreading hcommands => exact .take rfl rfl hreading hcommands rfl rfl rfl rfl
  | handOver hsending => exact .handOver rfl rfl hsending rfl rfl rfl rfl
  | transportAccepts htransmitting => exact .accepts rfl rfl htransmitting rfl rfl rfl rfl
  | discard hstopped => exact .discard rfl rfl hstopped rfl rfl rfl rfl
  | register _ _ _ => exact .other rfl rfl (by simp) (by simp) (by simp) (hstays (by simp))
  | move hmove => exact .other rfl rfl rfl rfl rfl hmove.keeps
  | @frameOther n hreading _ =>
      refine .other rfl rfl rfl rfl rfl (hgoes hreading id ?_ le_rfl)
      dsimp only
      split <;> rfl
  | frameIq hreading _ =>
      refine .other rfl rfl (by simp) (by simp) (by simp) (hgoes hreading id rfl ?_)
      simp [ConnState.setPhase]
  | sendRefused hsending => exact .other rfl rfl rfl rfl rfl (hgoes hsending id rfl le_rfl)
  | transportFails htransmitting =>
      exact .other rfl rfl rfl rfl rfl (hgoes htransmitting id rfl le_rfl)
  | commandsClosed hreading _ _ => exact .other rfl rfl rfl rfl rfl (hgoes hreading id rfl le_rfl)
  | @cleanup r hleaving =>
      have hphase : (Phase.closing r).serves = none := rfl
      refine .other rfl rfl rfl rfl rfl (.of_phase rfl hphase (fun h => ?_) ?_ le_rfl)
      · cases r with
        | ok _ => trivial
        | error _ => rw [hleaving] at h; exact h
      · intro hstopped
        rw [hleaving] at hstopped
        cases hstopped
  | abort _ =>
      exact .other rfl rfl rfl rfl rfl (.of_phase rfl rfl (fun _ => trivial) (fun _ => rfl) le_rfl)
  | abortSending _ =>
      exact .other rfl rfl rfl rfl rfl (.of_phase rfl rfl (fun _ => trivial) (fun _ => rfl) le_rfl)
  | _ => exact .other rfl rfl rfl rfl rfl (hstays rfl)

/-! ## Each call queues one command -/

/-- A call that is past its queueing stays past it. -/
theorem SendStep.past {late : Prop} {v w : SendView} (h : SendStep late v w)
    (hpast : Past v.stage) : Past w.stage := by
  cases h with
  | start hstage => exact absurd hstage hpast.1
  | register hstage => exact absurd hpast (not_past_of_unqueued (Or.inl hstage))
  | enqueue hstage => exact absurd hpast (not_past_of_unqueued hstage)
  | closed hstage _ => exact absurd hpast (not_past_of_unqueued hstage)
  | answered _ _ hnext _ => exact hnext
  | abandoned _ _ hended => exact (past_of_not_inFlight hended).1
  | timeout _ _ _ hended => exact (past_of_not_inFlight hended).1
  | finish _ hended => exact (past_of_not_inFlight hended).1
  | _ => exact hpast

theorem ConnAction.eq_enqueue {a : ConnAction} {c : CallId}
    (h : a.queues = some (.sendNode c)) : a = .enqueue c := by
  cases a <;> simp_all [ConnAction.queues]

variable [WacoreBinary] {as : List ConnAction} {s : ConnState}

/-- `enqueue` leads a call past its queueing. -/
theorem ConnStep.enqueue_past {t : ConnState} {c : CallId}
    (h : ConnStep config s (.enqueue c) t) :
    Unqueued (s.sendView config c).stage ∧ Past (t.sendView config c).stage := by
  cases h with
  | enqueue hcall hstage _ =>
      refine ⟨s.unqueued_of_call hcall hstage, ?_⟩
      simp [ConnState.sendView, Past, Unqueued]
  | @enqueueClosed _ call hcall hstage _ =>
      refine ⟨s.unqueued_of_call hcall hstage, ?_⟩
      simpa [ConnState.sendView] using (call.sendReturned_stage (.error .notConnected)).1

/-- A call has queued a command only if it is past its queueing, and then one. -/
theorem queuedBy_once (h : (connection config).Run as s) (c : CallId) :
    (queuedBy as).count (.sendNode c) ≤ 1 ∧
      (.sendNode c ∈ queuedBy as → Past (s.sendView config c).stage) := by
  refine h.history_invariant
    (I := fun as s => (queuedBy as).count (.sendNode c) ≤ 1 ∧
      (.sendNode c ∈ queuedBy as → Past (s.sendView config c).stage))
    (fun _ _ => by simp [queuedBy]) ?_
  rintro as s a t hrun ⟨honce, hpast⟩ hstep
  by_cases henqueue : a.queues = some (.sendNode c)
  · obtain rfl := ConnAction.eq_enqueue henqueue
    obtain ⟨hunqueued, hafter⟩ := ConnStep.enqueue_past hstep
    have hnew : .sendNode c ∉ queuedBy as := fun hmem =>
      not_past_of_unqueued hunqueued (hpast hmem)
    refine ⟨?_, fun _ => hafter⟩
    rw [queuedBy_concat, henqueue, List.count_append, List.count_eq_zero_of_not_mem hnew]
    simp
  · have hother : .sendNode c ∉ a.queues.toList := by
      simpa using henqueue
    rw [queuedBy_concat, List.count_append, List.count_eq_zero_of_not_mem hother, List.mem_append]
    refine ⟨honce, fun hmem => ?_⟩
    have hbefore := hpast (hmem.resolve_right hother)
    rcases ConnStep.sendView True hstep (Or.inr trivial) c (sendPlace_of_run hrun c) with
      heq | hsend
    · rw [heq]
      exact hbefore
    · exact hsend.past hbefore

/-! ## The order -/

/-- What was handed over, with the command that the runner is about to hand over, and what was
accepted, as the history tells it. -/
structure OrderInv (as : List ConnAction) (s : ConnState) : Prop where
  /-- The runner takes the commands in the order of the queue. -/
  taken : takenBy as <+: queuedBy as
  queue : s.runner.phase ≠ .stopped → takenBy as ++ s.commands = queuedBy as
  /-- A `Disconnect` is the last command taken. -/
  disconnect : .disconnect ∈ takenBy as →
    s.runner.phase.Ended ∧ ∃ before, takenBy as = before ++ [.disconnect] ∧ .disconnect ∉ before
  handed : (s.handed.reverse.map Command.sendNode).Sublist (takenBy as)
  sending : ∀ c, s.runner.phase = .sendingNode c → ∃ before,
    takenBy as = before ++ [.sendNode c] ∧ (s.handed.reverse.map Command.sendNode).Sublist before
  accepted : (s.accepted.map Prod.fst).Sublist s.handed
  transmitting : ∀ c, s.runner.phase = .transmitting c → ∃ older,
    s.handed = c :: older ∧ (s.accepted.map Prod.fst).Sublist older
  connections : s.accepted.Pairwise fun later earlier => earlier.2 ≤ later.2
  connection : ∀ e ∈ s.accepted, e.2 ≤ s.runner.connection

omit [WacoreBinary] in
theorem orderInv_new : OrderInv [] .new where
  taken := List.prefix_rfl
  queue _ := rfl
  disconnect := nofun
  handed := .slnil
  sending := nofun
  accepted := .slnil
  transmitting := nofun
  connections := .nil
  connection := nofun

omit [WacoreBinary] in
/-- A step that neither takes a command nor hands one over. -/
theorem OrderInv.keep {t : ConnState} {a : ConnAction} (hinv : OrderInv as s)
    (htakes : a.takes = none) (hkeeps : RunnerKeeps s.runner t.runner)
    (hqueue : t.runner.phase ≠ .stopped → takenBy as ++ t.commands = queuedBy (as ++ [a]))
    (hhanded : t.handed = s.handed) (haccepted : t.accepted = s.accepted) :
    OrderInv (as ++ [a]) t := by
  have htaken : takenBy (as ++ [a]) = takenBy as := by simp [takenBy_concat, htakes]
  constructor
  · rw [htaken, queuedBy_concat]
    exact hinv.taken.trans (List.prefix_append ..)
  · rw [htaken]
    exact hqueue
  · rw [htaken]
    intro hmem
    obtain ⟨hended, hlast⟩ := hinv.disconnect hmem
    exact ⟨hkeeps.ended hended, hlast⟩
  · rw [htaken, hhanded]
    exact hinv.handed
  · rw [htaken, hhanded]
    exact fun c hc => hinv.sending c (hkeeps.sendingNode c hc)
  · rw [hhanded, haccepted]
    exact hinv.accepted
  · rw [hhanded, haccepted]
    exact fun c hc => hinv.transmitting c (hkeeps.transmitting c hc)
  · rw [haccepted]
    exact hinv.connections
  · rw [haccepted]
    exact fun e he => (hinv.connection e he).trans hkeeps.connection

omit [WacoreBinary] in
/-- While the runner serves commands, each is taken or in the queue, and no `Disconnect` was
taken. -/
theorem OrderInv.of_serving (hinv : OrderInv as s) (h : ¬ s.runner.phase.Ended) :
    takenBy as ++ s.commands = queuedBy as ∧ .disconnect ∉ takenBy as := by
  have hrunning : s.runner.phase ≠ .stopped := by
    intro hstopped
    exact h (by rw [hstopped]; trivial)
  exact ⟨hinv.queue hrunning, fun hmem => h (hinv.disconnect hmem).1⟩

omit [WacoreBinary] in
theorem OrderInv.step {t : ConnState} {a : ConnAction} (hinv : OrderInv as s)
    (h : CommandStep s a t) : OrderInv (as ++ [a]) t := by
  cases h with
  | other hqueues htakes hcommands hhanded haccepted hkeeps =>
      refine hinv.keep htakes hkeeps (fun hrunning => ?_) hhanded haccepted
      rw [queuedBy_concat, hqueues, hcommands, hinv.queue fun hs => hrunning (hkeeps.stopped hs)]
      exact (List.append_nil _).symm
  | queue hqueues htakes hrunning hcommands hhanded haccepted hrunner =>
      refine hinv.keep htakes (hrunner ▸ .refl _) (fun _ => ?_) hhanded haccepted
      rw [queuedBy_concat, hqueues, hcommands, ← List.append_assoc, hinv.queue hrunning]
      rfl
  | closed _ htakes hstopped _ hhanded haccepted hrunner =>
      refine hinv.keep htakes (hrunner ▸ .refl _) (fun hrunning => ?_) hhanded haccepted
      exact absurd (hrunner ▸ hstopped) hrunning
  | discard _ htakes hstopped _ hhanded haccepted hrunner =>
      refine hinv.keep htakes (hrunner ▸ .refl _) (fun hrunning => ?_) hhanded haccepted
      exact absurd (hrunner ▸ hstopped) hrunning
  | @take command rest hqueues htakes hreading hcommands hrest hhanded haccepted hrunner =>
      have htaken : takenBy (as ++ [a]) = takenBy as ++ [command] := by
        simp [takenBy_concat, htakes]
      obtain ⟨hqueue, hnew⟩ := hinv.of_serving (by rw [hreading]; exact id)
      have hqueued : queuedBy (as ++ [a]) = takenBy as ++ command :: rest := by
        rw [queuedBy_concat, hqueues, ← hcommands, hqueue]
        exact List.append_nil _
      have hphase : t.runner.phase = command.phase := by rw [hrunner]
      constructor
      · rw [htaken, hqueued]
        exact ⟨rest, by simp⟩
      · rw [htaken, hqueued, hrest]
        exact fun _ => List.append_assoc ..
      · rw [htaken, hphase]
        intro hmem
        obtain rfl : command = .disconnect := by simpa [hnew, eq_comm] using hmem
        exact ⟨trivial, _, rfl, hnew⟩
      · rw [htaken, hhanded]
        exact hinv.handed.trans (List.sublist_append_left ..)
      · rw [htaken, hhanded, hphase]
        intro c hc
        cases command with
        | sendNode d =>
            cases hc
            exact ⟨_, rfl, hinv.handed⟩
        | disconnect => cases hc
      · rw [hhanded, haccepted]
        exact hinv.accepted
      · rw [hphase]
        cases command <;> nofun
      · rw [haccepted]
        exact hinv.connections
      · rw [haccepted, hrunner]
        exact hinv.connection
  | @handOver c hqueues htakes hsending hcommands hhanded haccepted hrunner =>
      have htaken : takenBy (as ++ [a]) = takenBy as := by simp [takenBy_concat, htakes]
      have hqueued : queuedBy (as ++ [a]) = queuedBy as := by simp [queuedBy_concat, hqueues]
      obtain ⟨before, hbefore, hsublist⟩ := hinv.sending c hsending
      have hphase : t.runner.phase = .transmitting c := by rw [hrunner]
      obtain ⟨hqueue, hnew⟩ := hinv.of_serving (by rw [hsending]; exact id)
      constructor
      · rw [htaken, hqueued]
        exact hinv.taken
      · rw [htaken, hqueued, hcommands]
        exact fun _ => hqueue
      · rw [htaken]
        exact fun hmem => absurd hmem hnew
      · rw [htaken, hbefore, hhanded, List.reverse_cons, List.map_append]
        exact hsublist.append (List.Sublist.refl _)
      · rw [hphase]
        nofun
      · rw [hhanded, haccepted]
        exact hinv.accepted.cons c
      · rw [hphase, hhanded, haccepted]
        rintro d hd
        cases hd
        exact ⟨_, rfl, hinv.accepted⟩
      · rw [haccepted]
        exact hinv.connections
      · rw [haccepted, hrunner]
        exact hinv.connection
  | @accepts c hqueues htakes htransmitting hcommands hhanded haccepted hrunner =>
      have htaken : takenBy (as ++ [a]) = takenBy as := by simp [takenBy_concat, htakes]
      have hqueued : queuedBy (as ++ [a]) = queuedBy as := by simp [queuedBy_concat, hqueues]
      obtain ⟨older, holder, hsublist⟩ := hinv.transmitting c htransmitting
      have hphase : t.runner.phase = .reading := by rw [hrunner]
      obtain ⟨hqueue, hnew⟩ := hinv.of_serving (by rw [htransmitting]; exact id)
      constructor
      · rw [htaken, hqueued]
        exact hinv.taken
      · rw [htaken, hqueued, hcommands]
        exact fun _ => hqueue
      · rw [htaken]
        exact fun hmem => absurd hmem hnew
      · rw [htaken, hhanded]
        exact hinv.handed
      · rw [hphase]
        nofun
      · rw [hhanded, haccepted, holder]
        exact hsublist.cons_cons c
      · rw [hphase]
        nofun
      · rw [haccepted]
        exact .cons hinv.connection hinv.connections
      · rw [haccepted, hrunner]
        intro e he
        rcases List.mem_cons.mp he with rfl | he
        · exact le_rfl
        · exact hinv.connection e he

theorem orderInv_of_run (h : (connection config).Run as s) : OrderInv as s := by
  refine h.history_invariant ?_ fun as s a t _ hinv hstep => hinv.step (ConnStep.command hstep)
  rintro s rfl
  exact orderInv_new

omit [WacoreBinary] in
/-- The nodes handed over were queued before the first `Disconnect`. -/
theorem OrderInv.handed_sublist (hinv : OrderInv as s) :
    (s.handed.reverse.map Command.sendNode).Sublist
      ((queuedBy as).takeWhile (· ≠ .disconnect)) := by
  obtain ⟨before, htaken, hnone, hsublist⟩ : ∃ before, before <+: takenBy as ∧
      .disconnect ∉ before ∧ (s.handed.reverse.map Command.sendNode).Sublist before := by
    by_cases hmem : .disconnect ∈ takenBy as
    · obtain ⟨-, before, hbefore, hnone⟩ := hinv.disconnect hmem
      refine ⟨before, hbefore ▸ List.prefix_append .., hnone, ?_⟩
      have hfilter := hinv.handed.filter (· ≠ .disconnect)
      have hself : before.filter (· ≠ .disconnect) = before :=
        List.filter_eq_self.mpr fun x hx => by simpa using ne_of_mem_of_not_mem hx hnone
      rwa [hbefore, List.filter_append, hself, List.filter_eq_self.mpr (by simp),
        List.filter_cons_of_neg (by simp), List.filter_nil, List.append_nil] at hfilter
    · exact ⟨takenBy as, List.prefix_rfl, hmem, hinv.handed⟩
  obtain ⟨rest, hrest⟩ := htaken.trans hinv.taken
  refine hsublist.trans ?_
  rw [← hrest, List.takeWhile_append_of_pos fun x hx => by
    simpa using ne_of_mem_of_not_mem hx hnone]
  exact List.sublist_append_left ..

omit [WacoreBinary] in
/-- `Ok` was the runner's answer, also where a timeout may come at any time. -/
theorem SendStep.slot_of_ok {late : Prop} {v w : SendView} (h : SendStep late v w)
    (hok : v.sent = some (.ok ()) → v.slot = .filled (.ok ())) (hsent : w.sent = some (.ok ())) :
    w.slot = .filled (.ok ()) := by
  have hold : w.sent = v.sent → w.slot = .filled (.ok ()) := by
    intro heq
    have hslot := hok (heq ▸ hsent)
    rw [h.slot_kept (by rw [hslot]; nofun), hslot]
  cases h with
  | answered _ hslot _ _ =>
      cases hsent
      exact hslot
  | closed _ _ => cases hsent
  | abandoned _ _ _ => cases hsent
  | timeout _ _ _ _ => cases hsent
  | _ => exact hold rfl

/-- A node whose `send_node` returned `Ok` was accepted by a transport. -/
theorem accepted_of_ok (h : (connection config).Run as s) {c : CallId} {call : Call}
    (hcall : s.calls c = some call) (hok : call.sent = some (.ok ())) :
    c ∈ s.accepted.map Prod.fst := by
  have hinv : (s.sendView config c).sent = some (.ok ()) →
      (s.sendView config c).slot = .filled (.ok ()) := by
    refine h.history_invariant (I := fun _ s => (s.sendView config c).sent = some (.ok ()) →
      (s.sendView config c).slot = .filled (.ok ())) ?_ ?_
    · rintro s rfl
      nofun
    · intro as s a t hrun hs hstep
      rcases ConnStep.sendView True hstep (Or.inr trivial) c (sendPlace_of_run hrun c) with
        heq | hsend
      · rw [heq]
        exact hs
      · exact hsend.slot_of_ok hs
  have hslot := hinv (by simp [ConnState.sendView, hcall, hok])
  have hcount : 0 < (s.sendView config c).accepted := by
    have hplace := sendPlace_of_run h c
    generalize s.sendView config c = v at hplace hslot
    cases hplace with
    | accepted _ => exact Nat.one_pos
    | _ => cases hslot
  exact List.count_pos_iff.mp hcount

/-- In every run the nodes are handed to the transports in the order in which they were
queued, each at most once, and none that was queued behind a `Disconnect`; the transports
accept them in this order, on one connection after the other; every node whose `send_node`
returned `Ok` is among these; and while the runner runs, every command queued was taken or is
still in the queue. -/
theorem commands_in_order (h : (connection config).Run as s) :
    s.handed.Nodup ∧
      (s.handed.reverse.map Command.sendNode).Sublist
        ((queuedBy as).takeWhile (· ≠ .disconnect)) ∧
      (s.accepted.reverse.map Prod.fst).Sublist s.handed.reverse ∧
      (s.accepted.reverse.map Prod.snd).Pairwise (· ≤ ·) ∧
      (∀ c call, s.calls c = some call → call.sent = some (.ok ()) →
        c ∈ s.accepted.map Prod.fst) ∧
      (s.runner.phase ≠ .stopped → takenBy as ++ s.commands = queuedBy as) := by
  have hinv := orderInv_of_run h
  have hsublist := hinv.handed_sublist
  refine ⟨?_, hsublist, ?_, ?_, fun c call => accepted_of_ok h, hinv.queue⟩
  · rw [← List.nodup_reverse, List.nodup_iff_count_le_one]
    intro c
    calc s.handed.reverse.count c
        ≤ (s.handed.reverse.map Command.sendNode).count (.sendNode c) := List.count_le_count_map
      _ ≤ (queuedBy as).count (.sendNode c) :=
          (hsublist.trans (List.takeWhile_sublist _)).count_le _
      _ ≤ 1 := (queuedBy_once h c).1
  · rw [List.map_reverse]
    exact hinv.accepted.reverse
  · rw [List.pairwise_map, List.pairwise_reverse]
    exact hinv.connections

omit [WacoreBinary] in
/-- One node is queued before a `Disconnect` and one behind it, all before the runner connects. -/
theorem commands_in_order_disconnect :
    letI := plainWacore
    ∃ as s call, (connection ⟨true⟩).Run as s ∧ s.calls 0 = some call ∧
      call.sent = some (.ok ()) ∧
      queuedBy as = [.sendNode 0, .disconnect, .sendNode 1] ∧
      0 ∈ s.accepted.map Prod.fst ∧
      (s.handed.reverse.map Command.sendNode).Sublist [.sendNode 0] := by
  let _ := plainWacore
  have h0 : (connection ⟨true⟩).Run [] .new := .start rfl
  have h1 := h0.tail (show ConnStep ⟨true⟩ _ (.sendNode 0 presenceNode) _ from .sendNode rfl rfl)
  have h2 := h1.tail (show ConnStep ⟨true⟩ _ (.enqueue 0) _ from
    .enqueue rfl (Or.inr ⟨rfl, rfl⟩) nofun)
  have h3 := h2.tail (show ConnStep ⟨true⟩ _ .disconnect _ from .disconnect rfl nofun)
  have h4 := h3.tail (show ConnStep ⟨true⟩ _ (.sendNode 1 presenceNode) _ from .sendNode rfl rfl)
  have h5 := h4.tail (show ConnStep ⟨true⟩ _ (.enqueue 1) _ from
    .enqueue rfl (Or.inr ⟨rfl, rfl⟩) nofun)
  have h6 := h5.tail (show ConnStep ⟨true⟩ _ (.move .top) _ from .move (.connect rfl rfl))
  have h7 := h6.tail (show ConnStep ⟨true⟩ _ (.move .connected) _ from .move (.connected rfl))
  have h8 := h7.tail (show ConnStep ⟨true⟩ _ (.takeNode 0) _ from .takeNode rfl rfl)
  have h9 := h8.tail (show ConnStep ⟨true⟩ _ (.handOver 0) _ from .handOver rfl)
  have h10 := h9.tail (show ConnStep ⟨true⟩ _ (.transportSent 0 (.ok ())) _ from
    .transportAccepts rfl)
  have h11 := h10.tail (show ConnStep ⟨true⟩ _ (.sendAnswered 0) _ from
    .sendAnswered rfl rfl rfl)
  have h12 := h11.tail (show ConnStep ⟨true⟩ _ .takeDisconnect _ from .takeDisconnect rfl rfl)
  obtain ⟨-, hsublist, -, -, hok, -⟩ := commands_in_order h12
  exact ⟨_, _, _, h12, rfl, rfl, rfl, hok 0 _ rfl rfl, hsublist⟩

end Waepic.Connection
