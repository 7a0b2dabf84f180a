import Waepic.Client.EventWork

/-!
# The order of the updates

Whatever the order in which the loop and its tasks act: the updates that are no history
sync come out as the events came in, each once (`updates_in_order`); a `LoggedOut` comes
out after `clear_device` and before the loop does anything else (`loggedOut_after_clear`),
so that no device is stored then unless another task saved one
(`loggedOut_without_device`); a history sync in an encrypted message is acknowledged after
its updates, and a history sync node before them (`acknowledged_after_updates`); and the
collections are asked for after the dirty bits were cleaned (`cleaned_before_sync`).
-/

namespace Waepic.Client

open Transition Binary Connection Producers

variable {ρ σ κ τ : Type} [WacoreBinary] {w : HandlerLibrary σ κ τ} {clears : Bool}
  {s s' : LoopState ρ σ κ τ} {t : TakenEvent σ} {work : EventWork κ τ}

/-- The call of `clear_device` succeeds, and no other task saves a device before the
`LoggedOut` is sent. -/
def Unraced (s : LoopState ρ σ κ τ) : LoopAction ρ σ → Prop
  | .act .loop ok => ∀ rest, s.schedule.pending .loop = .clearDevice :: rest → ok = true
  | .others copies _ =>
      ∀ rest, s.schedule.pending .loop = .update (.failure .loggedOut) :: rest →
        s.copies.session.device = none → copies.session.device = none
  | _ => True

/-! ## The first event -/

/-- An event as the loop finds it when it has counted none. -/
def firstTaken (e : RawEvent) : TakenEvent (List SenderKeyName) :=
  ⟨e, debugSurroundings, [], false, 0⟩

/-- The stream of `exampleLibrary` after it took its first event. -/
def afterFirst (e : RawEvent) (work : EventWork (Option String) Bool) :
    LoopState Unit (List SenderKeyName) (Option String) Bool :=
  { LoopState.new loadedCopies with broadcast := [e] }.take (firstTaken e) work
    (countsEvent exampleLibrary.contentAsString (e, false))

/-- The notice that the device was removed. -/
def failureNode : Node := .mk "failure" [] none

def failureWork : EventWork (Option String) Bool :=
  ⟨[.clearDevice, .update (.failure .loggedOut)], []⟩

/-- The stream after the loop did its first act for that node. -/
def afterClear : LoopState Unit (List SenderKeyName) (Option String) Bool :=
  (afterFirst (.node failureNode) failureWork).act true true .loop .clearDevice
    [.update (.failure .loggedOut)]

/-- What the task of `aliceHistorySync` does. -/
def aliceTask : List (StreamAct (Option String) Bool) :=
  backgroundTask exampleHistoryDecoder exampleSurroundings ⟨[9], "3EB0", some 50, some 3⟩

section

omit [WacoreBinary]

theorem run_first {e : RawEvent} {work : EventWork (Option String) Bool}
    (hwork : letI := plainWacore; exampleLibrary.work (firstTaken e) = .ok work) :
    letI := plainWacore
    ((eventLoop exampleLibrary true).restrict Unraced).Run [.broadcast e, .take (firstTaken e)]
      (afterFirst e work) := by
  let _ := plainWacore
  have h₀ : ((eventLoop (ρ := Unit) exampleLibrary true).restrict Unraced).Run []
      (.new loadedCopies) := System.Run.start ⟨loadedCopies, rfl⟩
  have h₁ := h₀.tail (show LoopStep _ _ _ (.broadcast e) _ ∧ True from ⟨.broadcast e, trivial⟩)
  exact h₁.tail (show LoopStep _ _ _ (.take (firstTaken e)) _ ∧ True from
    ⟨.take rfl ⟨rfl, rfl, rfl⟩ hwork, trivial⟩)

theorem run_afterClear :
    letI := plainWacore
    ((eventLoop exampleLibrary true).restrict Unraced).Reachable afterClear := by
  let _ := plainWacore
  exact ⟨_, (run_first rfl).tail (show LoopStep _ _ _ (.act .loop true) _ ∧ Unraced _ _ from
    ⟨.act true rfl, fun _ _ => rfl⟩)⟩

/-- The stream takes a history sync, and then the notice.  The task of the first sends an update
before the loop clears the device, and another one before the loop tells the application. -/
theorem run_historyAndLogout :
    letI := plainWacore
    ∃ (s : LoopState Unit (List SenderKeyName) (Option String) Bool) (u v : MessageUpdate _),
      (eventLoop exampleLibrary true).Reachable s ∧
      s.taken.map (·.event) = [.node aliceHistorySync, .node failureNode] ∧
      s.schedule.log =
        [(.task 0, .update (.message u)), (.loop, .clearDevice), (.task 0, .update (.message v)),
          (.loop, .update (.failure .loggedOut))] ∧
      s.schedule.pending .loop = [] := by
  let _ := plainWacore
  have hwork : exampleLibrary.work (firstTaken (.node aliceHistorySync)) =
      .ok ⟨[], [aliceTask]⟩ := rfl
  have h₁ := (run_first hwork).of_restrict
  have h₂ := h₁.tail (show LoopStep _ _ _ (.broadcast (.node failureNode)) _ from .broadcast _)
  have h₃ := h₂.tail (show LoopStep _ _ _ (.act (.task 0) true) _ from .act true rfl)
  have hnext : exampleLibrary.work (firstTaken (.node failureNode)) = .ok failureWork := rfl
  have h₄ := h₃.tail (show LoopStep _ _ _ (.take (firstTaken (.node failureNode))) _ from
    .take rfl ⟨rfl, rfl, rfl⟩ hnext)
  have h₅ := h₄.tail (show LoopStep _ _ _ (.act .loop true) _ from .act true rfl)
  have h₆ := h₅.tail (show LoopStep _ _ _ (.act (.task 0) true) _ from .act true rfl)
  have h₇ := h₆.tail (show LoopStep _ _ _ (.act .loop true) _ from .act true rfl)
  exact ⟨_, _, _, ⟨_, h₇⟩, rfl, rfl, rfl⟩

end

/-! ## The order of the updates -/

omit [WacoreBinary] in
/-- Where only the loop sends updates that are no history sync, and no others. -/
theorem updatesOf_log {log : List (Worker × StreamAct κ τ)}
    (h : ∀ i u, (i, .update u) ∈ log → (u.isHistory = false ↔ i = .loop)) :
    (updatesOf (log.map Prod.snd)).filter (!·.isHistory) =
      updatesOf (Schedule.actsOf .loop log) := by
  induction log with
  | nil => rfl
  | cons act log ih =>
      obtain ⟨i, a⟩ := act
      have hlog := ih fun i u hu => h i u (.tail _ hu)
      rw [List.map_cons, ← List.singleton_append, updatesOf_append, List.filter_append, hlog]
      cases i with
      | loop =>
          rw [Schedule.actsOf_cons_self, ← List.singleton_append, updatesOf_append]
          cases a with
          | update u =>
              have hu : u.isHistory = false := (h .loop u List.mem_cons_self).mpr rfl
              simp [updatesOf, StreamAct.update?, hu]
          | _ => rfl
      | task k =>
          rw [Schedule.actsOf_cons_of_ne (loop_ne_task k).symm]
          cases a with
          | update u =>
              have hu : u.isHistory = true := by
                cases hhistory : u.isHistory with
                | true => rfl
                | false =>
                    exact absurd ((h _ u List.mem_cons_self).mp hhistory).symm (loop_ne_task k)
              simp [updatesOf, StreamAct.update?, hu]
          | _ => rfl

/-- The updates that the loop sends are those that are no history sync. -/
theorem ScheduleInv.isHistory_iff (hs : ScheduleInv w s) {i : Worker} {u : Update κ τ}
    (hu : (i, .update u) ∈ s.schedule.log) : u.isHistory = false ↔ i = .loop := by
  have hgiven := Schedule.mem_program_of_log hu
  cases i with
  | loop =>
      rw [hs.loop] at hgiven
      exact iff_of_true ((loopActs_done w s.taken).streams u (mem_updatesOf.mpr hgiven)) rfl
  | task k =>
      obtain ⟨t, -, hspawned⟩ := hs.spawned (List.ne_nil_of_mem hgiven)
      have hhistory := hspawned.isHistory hgiven
      refine iff_of_false (by rw [hhistory]; exact Bool.noConfusion) (loop_ne_task k).symm

theorem channel_eq_loop (hs : ScheduleInv w s) :
    s.channel.filter (!·.isHistory) = updatesOf (s.schedule.doneBy .loop) :=
  updatesOf_log fun _ _ => hs.isHistory_iff

omit [WacoreBinary] in
theorem updatesOf_flatMap {α : Type} (f : α → List (StreamAct κ τ)) (l : List α) :
    updatesOf (l.flatMap f) = l.flatMap fun x => updatesOf (f x) := by
  induction l with
  | nil => rfl
  | cons x l ih => rw [List.flatMap_cons, List.flatMap_cons, updatesOf_append, ih]

/-- The updates that came out, for the events taken. -/
theorem channel_of_run {s : LoopState ρ σ κ τ} (h : (eventLoop w clears).Reachable s) :
    s.channel.filter (!·.isHistory) <+: s.taken.flatMap w.eventUpdates ∧
      (s.schedule.pending .loop = [] →
        s.channel.filter (!·.isHistory) = s.taken.flatMap w.eventUpdates) := by
  obtain ⟨as, hrun⟩ := h
  have hs := ScheduleInv.run hrun
  have hupdates : s.taken.flatMap w.eventUpdates = updatesOf (s.schedule.program .loop) := by
    rw [hs.loop, updatesOf_flatMap]
    rfl
  refine ⟨?_, fun hidle => ?_⟩
  · rw [channel_eq_loop hs, hupdates]
    exact (s.schedule.doneBy_prefix .loop).filterMap _
  · rw [channel_eq_loop hs, hupdates, Schedule.doneBy_eq_program hidle]

/-- The events are taken in the order of the broadcasts, and the updates that are no
history sync come out in the order of the events, each once, whatever the tasks send
meanwhile; when the loop waits for an event, all of them have. -/
theorem updates_in_order (w : HandlerLibrary σ κ τ) (clears : Bool) {s : LoopState ρ σ κ τ}
    (h : (eventLoop w clears).Reachable s) :
    s.taken.map (·.event) <+: s.broadcast ∧
      s.channel.filter (!·.isHistory) <+: s.taken.flatMap w.eventUpdates ∧
      (s.schedule.pending .loop = [] →
        s.channel.filter (!·.isHistory) = s.taken.flatMap w.eventUpdates) := by
  obtain ⟨hchannel, hidle⟩ := channel_of_run h
  obtain ⟨as, hrun⟩ := h
  exact ⟨(ScheduleInv.run hrun).taken, hchannel, hidle⟩

omit [WacoreBinary] in
/-- The updates of the history sync come out on both sides of what the loop does. -/
theorem updates_in_order_loggedOut :
    letI := plainWacore
    ∃ (s : LoopState Unit (List SenderKeyName) (Option String) Bool) (u v : MessageUpdate _),
      (eventLoop exampleLibrary true).Reachable s ∧
      s.taken.map (·.event) = [.node aliceHistorySync, .node failureNode] ∧
      s.channel = [.message u, .message v, .failure .loggedOut] ∧
      s.channel.filter (!·.isHistory) = s.taken.flatMap exampleLibrary.eventUpdates := by
  let _ := plainWacore
  obtain ⟨s, u, v, hs, htaken, hlog, hidle⟩ := run_historyAndLogout
  refine ⟨s, u, v, hs, htaken, ?_, (updates_in_order exampleLibrary true hs).2.2 hidle⟩
  rw [LoopState.channel, hlog]
  rfl

/-! ## Logouts -/

theorem ScheduleInv.clearsFirst (hs : ScheduleInv w s) :
    ClearsFirst (s.schedule.program .loop) := by
  rw [hs.loop]
  exact (loopActs_done w s.taken).clearsFirst

/-- A `LoggedOut` comes out of the loop, and before it the device was cleared, and the loop has
done nothing else since. -/
theorem loggedOut_after_clear (w : HandlerLibrary σ κ τ) (clears : Bool) {s : LoopState ρ σ κ τ}
    (h : (eventLoop w clears).Reachable s) {before after : List (Worker × StreamAct κ τ)}
    {i : Worker} (hlog : s.schedule.log = before ++ (i, .update (.failure .loggedOut)) :: after) :
    i = .loop ∧ ∃ earlier since, before = earlier ++ (.loop, .clearDevice) :: since ∧
      ∀ act ∈ since, act.1 ≠ .loop := by
  obtain ⟨as, hrun⟩ := h
  have hs := ScheduleInv.run hrun
  obtain rfl : i = .loop := by
    refine (hs.isHistory_iff (u := .failure .loggedOut) ?_).mp rfl
    rw [hlog]
    exact List.mem_append_right _ List.mem_cons_self
  have hclears := hs.clearsFirst.mono (Schedule.acts_prefix hlog)
  obtain ⟨earlier, hearlier⟩ := hclears _ [] rfl
  obtain ⟨earlier, since, hbefore, -, hsince⟩ := Schedule.actsOf_eq_concat hearlier
  exact ⟨rfl, earlier, since, hbefore, hsince⟩

omit [WacoreBinary] in
/-- A task acts between the two. -/
theorem loggedOut_after_clear_failure :
    letI := plainWacore
    ∃ (s : LoopState Unit (List SenderKeyName) (Option String) Bool) (u v : MessageUpdate _),
      (eventLoop exampleLibrary true).Reachable s ∧
      s.schedule.log =
        [(.task 0, .update (.message u)), (.loop, .clearDevice), (.task 0, .update (.message v)),
          (.loop, .update (.failure .loggedOut))] ∧
      ∃ earlier since,
        [(.task 0, .update (.message u)), (.loop, .clearDevice), (.task 0, .update (.message v))] =
          earlier ++ (Worker.loop, (StreamAct.clearDevice : StreamAct (Option String) Bool)) ::
            since ∧
        ∀ act ∈ since, act.1 ≠ .loop := by
  let _ := plainWacore
  obtain ⟨s, u, v, hs, -, hlog, -⟩ := run_historyAndLogout
  exact ⟨s, u, v, hs, hlog, (loggedOut_after_clear exampleLibrary true hs (i := .loop) hlog).2⟩

/-- At the `LoggedOut` no device is stored. -/
structure ClearedInv (w : HandlerLibrary σ κ τ) (s : LoopState ρ σ κ τ) : Prop extends
    ScheduleInv w s where
  cleared : ∀ rest, s.schedule.pending .loop = .update (.failure .loggedOut) :: rest →
    s.copies.session.device = none

theorem ClearedInv.act (hs : ClearedInv w s) {i : Worker} {a : StreamAct κ τ} {ok : Bool}
    {rest : List (StreamAct κ τ)} (hpending : s.schedule.pending i = a :: rest)
    (hguard : Unraced s (.act i ok : LoopAction ρ σ)) : ClearedInv w (s.act true ok i a rest) := by
  refine ⟨hs.toScheduleInv.act hpending, fun more hmore => ?_⟩
  cases i with
  | loop =>
      rw [LoopState.act_schedule, Schedule.act_pending_self] at hmore
      subst hmore
      -- what stands right before the `LoggedOut` is the `clear_device`
      obtain ⟨earlier, hearlier⟩ := hs.clearsFirst (s.schedule.doneBy .loop ++ [a]) more
        (by rw [Schedule.program, hpending, List.append_assoc]; rfl)
      obtain rfl : a = .clearDevice := by
        have hlast := (List.append_inj' hearlier rfl).2
        exact (List.cons_eq_cons.mp hlast).1
      rw [hguard _ hpending]
      rfl
  | task k =>
      have hprogram : a ∈ s.schedule.program (.task k) := by
        rw [Schedule.program, hpending]
        exact List.mem_append_right _ List.mem_cons_self
      obtain ⟨t, -, hspawned⟩ := hs.spawned (List.ne_nil_of_mem hprogram)
      rw [LoopState.act_schedule, Schedule.act_pending_of_ne (loop_ne_task k)] at hmore
      rw [LoopState.act]
      exact (congrArg (·.session.device) (hspawned.keeps_device hprogram s true ok)).trans
        (hs.cleared more hmore)

theorem ClearedInv.step {a : LoopAction ρ σ} (hs : ClearedInv w s)
    (h : LoopStep w true s a s') (hguard : Unraced s a) : ClearedInv w s' := by
  have hschedule := hs.toScheduleInv.step h
  cases h with
  | broadcast e => exact ⟨hschedule, hs.cleared⟩
  | @take t work hidle hmatches hwork =>
      refine ⟨hschedule, fun rest hrest => ?_⟩
      rw [LoopState.take, Schedule.spawn_pending_of_ne loop_ne_task, Schedule.assign_pending_self,
        hidle, List.nil_append] at hrest
      obtain ⟨earlier, hearlier⟩ := (loopActs_work hwork).clearsFirst [] rest hrest
      simp at hearlier
  | act ok hpending => exact hs.act hpending hguard
  | others copies flag =>
      exact ⟨hschedule, fun rest hrest => hguard rest hrest (hs.cleared rest hrest)⟩

/-- With a session that clears its device: in every run in which the calls of `clear_device`
succeed and no other task saves a device between, none is stored when a `LoggedOut` comes
out. -/
theorem loggedOut_without_device (w : HandlerLibrary σ κ τ) {s : LoopState ρ σ κ τ}
    (h : ((eventLoop w true).restrict Unraced).Reachable s) {rest : List (StreamAct κ τ)}
    (hnext : s.schedule.pending .loop = .update (.failure .loggedOut) :: rest) :
    s.copies.session.device = none := by
  obtain ⟨as, hrun⟩ := h
  have hs : ClearedInv w s := by
    refine hrun.invariant ?_ fun _ _ _ hs hstep => hs.step hstep.1 hstep.2
    rintro _ ⟨copies, rfl⟩
    exact ⟨.new copies, fun rest hrest => by cases hrest⟩
  exact hs.cleared rest hnext

omit [WacoreBinary] in
/-- The session had a device. -/
theorem loggedOut_without_device_failure :
    letI := plainWacore
    (afterFirst (.node failureNode) failureWork).copies.session.device.isSome = true ∧
      afterClear.copies.session.device = none := by
  let _ := plainWacore
  have hnext : afterClear.schedule.pending .loop = [.update (.failure .loggedOut)] := rfl
  exact ⟨rfl, loggedOut_without_device exampleLibrary run_afterClear hnext⟩

/-! ## The tasks in order -/

/-- A message that leads to a history sync leads to one under its own id. -/
theorem backgroundHistorySync_msgId {d : Decoder σ κ} {env : Surroundings} {n : Node} {signal : σ}
    {sync : BackgroundHistorySync}
    (h : (processIncomingNode d env n signal).result = .backgroundHistorySync sync) :
    sync.msgId = (n.attrText "id").getD "" := by
  cases hnotif : nodeNotification d env n signal with
  | none =>
      obtain ⟨us, hresult, -⟩ := (processIncomingNode_of_no_notification hnotif).1
      rw [h] at hresult
      cases hresult
  | some notif =>
      obtain ⟨s', hprocess⟩ := processIncomingNode_of_notification hnotif
      rw [hprocess] at h
      cases hpayload : notif.payload env with
      | none =>
          simp only [hpayload, Option.map_none, IncomingNodeResult.ofHistorySync] at h
          cases h
      | some payload =>
          simp only [hpayload, Option.map_some, IncomingNodeResult.ofHistorySync] at h
          cases h
          rfl

/-- A history sync node is acknowledged under its id before the updates of its payload come out,
and a history sync in an encrypted message under the id of the message after them. -/
theorem acknowledged_after_updates (w : HandlerLibrary σ κ τ) (clears : Bool)
    {s : LoopState ρ σ κ τ} (h : (eventLoop w clears).Reachable s)
    {before after : List (Worker × StreamAct κ τ)} {k : Nat} {msgId : String}
    (hlog : s.schedule.log = before ++ (.task k, .acknowledge msgId) :: after) :
    ∃ t ∈ s.taken, ∃ n, t.event = .node n ∧
      ((isHistorySync n = true ∧ n.attrText "id" = some msgId ∧
          Schedule.actsOf (.task k) before = []) ∨
        ∃ sync, (processIncomingNode w.toDecoder t.env.toSurroundings n t.signal).result =
            .backgroundHistorySync sync ∧ sync.msgId = msgId ∧
          (n.attrText "id").getD "" = msgId ∧
          Schedule.actsOf (.task k) before =
            (processHistorySyncPayload w.toHistoryDecoder t.env.toSurroundings sync.compressed
              sync.syncType sync.progress).map fun u => .update (.message u)) := by
  obtain ⟨as, hrun⟩ := h
  have hs := ScheduleInv.run hrun
  have hgiven : .acknowledge msgId ∈ s.schedule.program (.task k) :=
    Schedule.mem_program_of_log (by rw [hlog]; exact List.mem_append_right _ List.mem_cons_self)
  have hupdate (us : List (MessageUpdate κ)) :
      .acknowledge msgId ∉ us.map fun u => (.update (.message u) : StreamAct κ τ) := by
    intro hmem
    obtain ⟨u, -, hu⟩ := List.mem_map.mp hmem
    cases hu
  obtain ⟨t, ht, hspawned⟩ := hs.spawned (List.ne_nil_of_mem hgiven)
  refine ⟨t, ht, ?_⟩
  generalize hprogram : s.schedule.program (.task k) = program at hspawned hgiven
  cases hspawned with
  | @history n hevent hsync =>
      refine ⟨n, hevent, .inl ?_⟩
      unfold historyTask at hprogram hgiven
      split at hgiven
      · cases hgiven
      · next compressed hextract =>
        rw [hextract] at hprogram
        rcases List.mem_append.mp hgiven with hack | hack
        · obtain ⟨id, hid, heq⟩ := List.mem_map.mp hack
          cases heq
          rw [Option.mem_toList] at hid
          rw [hid] at hprogram
          have hfirst : s.schedule.program (.task k) = [] ++ .acknowledge msgId :: _ := hprogram
          exact ⟨hsync, hid, Schedule.done_before hfirst List.not_mem_nil (hupdate _) hlog⟩
        · exact absurd hack (hupdate _)
  | @background n sync hevent hresult =>
      refine ⟨n, hevent, .inr ⟨sync, hresult, ?_⟩⟩
      obtain rfl : sync.msgId = msgId := by
        rcases List.mem_append.mp hgiven with hack | hack
        · exact absurd hack (hupdate _)
        · cases List.mem_singleton.mp hack
          rfl
      exact ⟨rfl, (backgroundHistorySync_msgId hresult).symm,
        Schedule.done_before hprogram (hupdate _) List.not_mem_nil hlog⟩
  | dirty hevent hchild htag | routing hevent hchild htag =>
      obtain ⟨e, -, heq⟩ := List.mem_map.mp hgiven
      cases heq

omit [WacoreBinary] in
theorem acknowledged_after_updates_alice :
    letI := plainWacore
    ∃ (s : LoopState Unit (List SenderKeyName) (Option String) Bool) (before : List _),
      (eventLoop exampleLibrary true).Reachable s ∧
      s.schedule.log = before ++ [(.task 0, .acknowledge "3EB0")] ∧
      ∃ t ∈ s.taken, ∃ n, t.event = .node n ∧
        ((isHistorySync n = true ∧ n.attrText "id" = some "3EB0" ∧
            Schedule.actsOf (.task 0) before = []) ∨
          ∃ sync, (processIncomingNode exampleLibrary.toDecoder t.env.toSurroundings n
              t.signal).result = .backgroundHistorySync sync ∧ sync.msgId = "3EB0" ∧
            (n.attrText "id").getD "" = "3EB0" ∧
            Schedule.actsOf (.task 0) before =
              (processHistorySyncPayload exampleLibrary.toHistoryDecoder t.env.toSurroundings
                sync.compressed sync.syncType sync.progress).map fun u =>
                  .update (.message u)) := by
  let _ := plainWacore
  have hwork : exampleLibrary.work (firstTaken (.node aliceHistorySync)) =
      .ok ⟨[], [aliceTask]⟩ := rfl
  have h₀ := (run_first hwork).of_restrict
  have h₁ := h₀.tail (show LoopStep _ _ _ (.act (.task 0) true) _ from .act true rfl)
  have h₂ := h₁.tail (show LoopStep _ _ _ (.act (.task 0) true) _ from .act true rfl)
  have h₃ := h₂.tail (show LoopStep _ _ _ (.act (.task 0) true) _ from .act true rfl)
  exact ⟨_, _, ⟨_, h₃⟩, rfl, acknowledged_after_updates exampleLibrary true ⟨_, h₃⟩
    (show _ = _ ++ [_] from rfl)⟩

/-- A task that asks for a collection cleans the dirty bits and asks for all of them. -/
theorem dirtyTask_of_sync {w : HandlerWacore σ κ} {child : Node} {name : String}
    {program : List (StreamAct κ τ)} (hprogram : program = (w.dirtyTask child).map .effect)
    (h : .effect (.appStateSync name) ∈
      (w.dirtyTask child).map (.effect : IbEffect → StreamAct κ τ)) :
    name ∈ appStateCollections ∧
      ∃ bit, w.handleDirtyChild child = some bit ∧ bit.dirtyType = "syncd_app_state" ∧
        program =
          .effect (.cleanDirtyBits ⟨(child.attrText "type").getD "", bit.timestamp⟩) ::
            appStateCollections.map fun c => .effect (.appStateSync c) := by
  unfold HandlerWacore.dirtyTask at hprogram h
  cases hbit : w.handleDirtyChild child with
  | none =>
      rw [hbit] at h
      cases h
  | some bit =>
      simp only [hbit] at hprogram h
      split at h
      · next hsync =>
        rw [if_pos hsync] at hprogram
        obtain ⟨e, he, heq⟩ := List.mem_map.mp h
        cases heq
        rcases List.mem_cons.mp he with heq | hmem
        · cases heq
        · obtain ⟨c, hc, heq⟩ := List.mem_map.mp hmem
          cases heq
          exact ⟨hc, bit, rfl, hsync, by rw [hprogram, List.map_cons, List.map_map]; rfl⟩
      · obtain ⟨e, he, heq⟩ := List.mem_map.mp h
        cases heq
        cases List.mem_singleton.mp he

/-- A collection is asked for only for a `<dirty>` child of this type, after its dirty bits
were cleaned and the collections before it were asked for, whatever the server answered. -/
theorem cleaned_before_sync (w : HandlerLibrary σ κ τ) (clears : Bool)
    {s : LoopState ρ σ κ τ} (h : (eventLoop w clears).Reachable s)
    {before after : List (Worker × StreamAct κ τ)} {k : Nat} {name : String}
    (hlog : s.schedule.log = before ++ (.task k, .effect (.appStateSync name)) :: after) :
    ∃ t ∈ s.taken, ∃ n child bit earlier later, t.event = .node n ∧
      child ∈ n.children.getD [] ∧ w.handleDirtyChild child = some bit ∧
      bit.dirtyType = "syncd_app_state" ∧ appStateCollections = earlier ++ name :: later ∧
      Schedule.actsOf (.task k) before =
        .effect (.cleanDirtyBits ⟨(child.attrText "type").getD "", bit.timestamp⟩) ::
          earlier.map fun c => .effect (.appStateSync c) := by
  obtain ⟨as, hrun⟩ := h
  have hs := ScheduleInv.run hrun
  have hgiven : .effect (.appStateSync name) ∈ s.schedule.program (.task k) :=
    Schedule.mem_program_of_log (by rw [hlog]; exact List.mem_append_right _ List.mem_cons_self)
  obtain ⟨t, ht, hspawned⟩ := hs.spawned (List.ne_nil_of_mem hgiven)
  generalize hprogram : s.schedule.program (.task k) = program at hspawned hgiven
  cases hspawned with
  | history hevent hsync =>
      unfold historyTask at hgiven
      split at hgiven
      · cases hgiven
      · rcases List.mem_append.mp hgiven with hmem | hmem <;>
          obtain ⟨_, -, heq⟩ := List.mem_map.mp hmem <;> cases heq
  | background hevent hresult =>
      rcases List.mem_append.mp hgiven with hmem | hmem
      · obtain ⟨_, -, heq⟩ := List.mem_map.mp hmem
        cases heq
      · cases List.mem_singleton.mp hmem
  | routing hevent hchild htag =>
      obtain ⟨e, he, heq⟩ := List.mem_map.mp hgiven
      cases heq
      obtain ⟨bytes, -, heq⟩ := List.mem_map.mp he
      cases heq
  | @dirty n child hevent hchild htag =>
      obtain ⟨hname, bit, hbit, htype, hprogram⟩ := dirtyTask_of_sync hprogram hgiven
      obtain ⟨earlier, later, hcollections⟩ := List.append_of_mem hname
      have hnodup : (earlier ++ name :: later).Nodup := by
        rw [← hcollections]
        decide
      have hsync (cs : List String) (hc : name ∉ cs) :
          .effect (.appStateSync name) ∉
            cs.map fun c => (.effect (.appStateSync c) : StreamAct κ τ) := by
        intro hmem
        obtain ⟨c, hmem, heq⟩ := List.mem_map.mp hmem
        cases heq
        exact hc hmem
      rw [hcollections, List.map_append, List.map_cons] at hprogram
      refine ⟨t, ht, n, child, bit, earlier, later, hevent, hchild, hbit, htype, hcollections, ?_⟩
      refine Schedule.done_before (by rw [hprogram]; rfl) ?_ (hsync later ?_) hlog
      · intro hmem
        rcases List.mem_cons.mp hmem with heq | hmem
        · cases heq
        · exact hsync earlier (fun hearlier => (List.nodup_append.mp hnodup).2.2 name hearlier name
            List.mem_cons_self rfl) hmem
      · exact (List.nodup_cons.mp (List.nodup_append.mp hnodup).2.1).1

/-- The notice that the app state is stale. -/
def staleNode : Node :=
  .mk "ib" [] (some (.nodes [.mk "dirty" [("type", .string "syncd_app_state")] none]))

/-- What its task does. -/
def staleTask : List (StreamAct (Option String) Bool) :=
  .effect (.cleanDirtyBits ⟨"syncd_app_state", none⟩) ::
    appStateCollections.map fun c => .effect (.appStateSync c)

omit [WacoreBinary] in
theorem cleaned_before_sync_stale :
    letI := plainWacore
    ∃ (s : LoopState Unit (List SenderKeyName) (Option String) Bool),
      (eventLoop exampleLibrary true).Reachable s ∧
      ∃ t ∈ s.taken, ∃ n child bit earlier later, t.event = .node n ∧
        child ∈ n.children.getD [] ∧ exampleLibrary.handleDirtyChild child = some bit ∧
        bit.dirtyType = "syncd_app_state" ∧
        appStateCollections = earlier ++ "critical_block" :: later ∧
        Schedule.actsOf (.task 0)
            [(Worker.task 0, .effect (.cleanDirtyBits ⟨"syncd_app_state", none⟩))] =
          (.effect (.cleanDirtyBits ⟨(child.attrText "type").getD "", bit.timestamp⟩) ::
            earlier.map fun c => .effect (.appStateSync c) :
              List (StreamAct (Option String) Bool)) := by
  let _ := plainWacore
  have hwork : exampleLibrary.work (firstTaken (.node staleNode)) = .ok ⟨[], [staleTask]⟩ := rfl
  have h₀ := (run_first hwork).of_restrict
  have h₁ := h₀.tail (show LoopStep _ _ _ (.act (.task 0) true) _ from .act true rfl)
  have h₂ := h₁.tail (show LoopStep _ _ _ (.act (.task 0) true) _ from .act true rfl)
  exact ⟨_, ⟨_, h₂⟩, cleaned_before_sync exampleLibrary true ⟨_, h₂⟩
    (show _ = _ ++ [_] from rfl)⟩

end Waepic.Client
