import Waepic.Client.DeviceCopies
import Waepic.Client.Handlers
import Waepic.Client.HistoryTasks
import Waepic.Library.Producers

/-!
# The event loop

`run_update_stream` takes the broadcast events one at a time.  What it does for an
event it does in order: it sends updates into the channel of the application, and
nodes to the server.  For a history sync, and for the `<dirty>` and `<edge_routing>`
children of an `<ib>`, it spawns tasks instead, which send into the same channel
while the loop goes on.

The loop and its tasks are producers (`Producers.Schedule`), and what an event gives
each of them is its work (`HandlerLibrary.work`).  In every run the loop and the tasks
were given exactly the work of the events taken (`ScheduleInv.run`).
-/

namespace Waepic.Client

open Transition Binary Connection Producers

variable {ρ σ κ τ : Type}

/-! ## Updates and acts -/

/-- Events emitted by the update stream. -/
inductive Update (κ τ : Type) where
  | connected
  | disconnected
  | pairSuccess
  | pairingCode (c : PairingCode)
  | message (u : MessageUpdate κ)
  | receipt (r : Receipt τ)
  | presence (p : Presence)
  | chatPresence (p : ChatPresence)
  | notification (u : NotificationUpdate)
  | failure (u : FailureUpdate)
  | offlineSyncPreview (count : Nat)
  | offlineSyncCompleted (count : Nat)

/-- A chunk of a history sync, or its completion. -/
def Update.isHistory : Update κ τ → Bool
  | .message (.historySync _) | .message .historySyncCompleted => true
  | _ => false

/-- What the loop or a task does at once. -/
inductive StreamAct (κ τ : Type) where
  /-- `tx.send`. -/
  | update (u : Update κ τ)
  /-- `handle.send_node`. -/
  | sendNode (n : Node)
  /-- The receipt of a history sync, if the device has a PN. -/
  | acknowledge (msgId : String)
  /-- The device gets a new secret and is saved. -/
  | rotateAdvSecret (secret : Bytes)
  | clearDevice
  | runPostConnectInit
  /-- `post_pair_reconnect.store(false)`. -/
  | closeWindow
  /-- What a task of `handle_ib` does. -/
  | effect (e : IbEffect)
  /-- `signal_cache.flush`. -/
  | flush

def StreamAct.update? : StreamAct κ τ → Option (Update κ τ)
  | .update u => some u
  | _ => none

/-- The updates among some acts. -/
def updatesOf (acts : List (StreamAct κ τ)) : List (Update κ τ) :=
  acts.filterMap StreamAct.update?

/-! ## What handling an event comes to -/

structure EventWork (κ τ : Type) where
  /-- What the loop does. -/
  acts : List (StreamAct κ τ)
  /-- What the tasks do that it spawns. -/
  tasks : List (List (StreamAct κ τ))

/-- An event that the loop took, and what it found. -/
structure TakenEvent (σ : Type) where
  event : RawEvent
  env : HandlerSurroundings
  signal : σ
  postPairReconnect : Bool
  /-- The events counted before. -/
  eventCount : Nat

section Work

variable [WacoreBinary]

/-- The task for a history sync node: `handle_history_sync` acknowledges it and returns
its updates. -/
def historyTask (d : HistoryDecoder σ κ) (env : Surroundings) (n : Node) :
    List (StreamAct κ τ) :=
  match extractHistorySyncPayload d n with
  | none => []
  | some compressed =>
      (n.attrText "id").toList.map .acknowledge ++
        (processHistorySyncPayload d env compressed none none).map fun u => .update (.message u)

/-- The task for a history sync in an encrypted message. -/
def backgroundTask (d : HistoryDecoder σ κ) (env : Surroundings) (sync : BackgroundHistorySync) :
    List (StreamAct κ τ) :=
  (processHistorySyncPayload d env sync.compressed sync.syncType sync.progress).map
      (fun u => .update (.message u)) ++
    [.acknowledge sync.msgId]

/-- The tasks that the loop of `handle_ib` spawns. -/
def HandlerWacore.ibTasks (w : HandlerWacore σ κ) : List Node → List (List IbEffect)
  | [] => []
  | child :: children =>
      if child.tag = "dirty" then w.dirtyTask child :: w.ibTasks children
      else if child.tag = "edge_routing" then routingTask child :: w.ibTasks children
      else if child.tag = "offline_sync_preview" then []
      else if child.tag = "offline" then []
      else w.ibTasks children

/-- The update that it returns with. -/
def ibUpdate : List Node → Option (Update κ τ)
  | [] => none
  | child :: children =>
      if child.tag = "offline_sync_preview" then some (.offlineSyncPreview (countOf child))
      else if child.tag = "offline" then some (.offlineSyncCompleted (countOf child))
      else ibUpdate children

/-- The work of a message: its updates, after the receipt that confirms its delivery. -/
def messageWork (d : HistoryDecoder σ κ) (env : Surroundings) (p : Processed σ κ) :
    EventWork κ τ where
  acts := p.sent.map .sendNode ++
    match p.result with
    | .updates us => us.map fun u => .update (.message u)
    | .backgroundHistorySync _ => []
  tasks :=
    match p.result with
    | .updates _ => []
    | .backgroundHistorySync sync => [backgroundTask d env sync]

/-- What the loop does with the update of another node: a `ConnectFailure` is hidden in
the window after a pairing, and at a `LoggedOut` the device is cleared first. -/
def updateActs (postPairReconnect : Bool) : Option (Update κ τ) → List (StreamAct κ τ)
  | none => []
  | some (.failure .loggedOut) => [.clearDevice, .update (.failure .loggedOut)]
  | some (.failure (.connectFailure reason message)) =>
      if postPairReconnect then [] else [.update (.failure (.connectFailure reason message))]
  | some u => [.update u]

/-- What `handle_pair_code_notification` does. -/
def ConfirmationHandled.acts (c : ConfirmationHandled) : List (StreamAct κ τ) :=
  c.advSecretKey.toList.map .rotateAdvSecret ++ c.finish.toList.map .sendNode

/-- The work of a node that is neither a message nor a history sync. -/
def HandlerLibrary.nodeWork (w : HandlerLibrary σ κ τ) (t : TakenEvent σ) (n : Node) :
    Panics.Checked (EventWork κ τ) :=
  match n.tag with
  | "receipt" =>
      pure ⟨updateActs t.postPairReconnect ((handleReceipt w.toReceiptDecoder n).map .receipt), []⟩
  | "presence" =>
      pure ⟨updateActs t.postPairReconnect ((handlePresence w.toDecoder n).map .presence), []⟩
  | "chatstate" =>
      pure ⟨updateActs t.postPairReconnect ((handleChatstate w.toDecoder n).map .chatPresence), []⟩
  | "notification" => do
      let (confirmation, u) ← w.handleNotification t.env n
      return ⟨confirmation.acts ++ updateActs t.postPairReconnect (u.map .notification), []⟩
  | "success" => pure ⟨updateActs t.postPairReconnect (some .pairSuccess), []⟩
  | "failure" | "stream:error" =>
      pure ⟨updateActs t.postPairReconnect (some (.failure (handleFailure w.contentAsString n))),
        []⟩
  | "iq" => pure ⟨updateActs t.postPairReconnect ((handlePairCode n).map .pairingCode), []⟩
  | "ib" => do
      let _ ← w.handleIb n
      return ⟨updateActs t.postPairReconnect (ibUpdate (n.children.getD [])),
        (w.ibTasks (n.children.getD [])).map (·.map .effect)⟩
  | _ => pure ⟨[], []⟩

/-- The body of the loop, up to its end. -/
def HandlerLibrary.body (w : HandlerLibrary σ κ τ) (t : TakenEvent σ) :
    Panics.Checked (EventWork κ τ) :=
  match t.event with
  | .node n =>
      if isHistorySync n then
        pure ⟨[], [historyTask w.toHistoryDecoder t.env.toSurroundings n]⟩
      else if n.tag = "message" then
        messageWork w.toHistoryDecoder t.env.toSurroundings <$>
          w.processIncomingNode t.env n t.signal
      else w.nodeWork t n
  | .connected =>
      if t.postPairReconnect then pure ⟨[.runPostConnectInit, .closeWindow], []⟩
      else pure ⟨[.update .connected, .runPostConnectInit], []⟩
  | .disconnected =>
      if t.postPairReconnect then pure ⟨[], []⟩ else pure ⟨[.update .disconnected], []⟩
  | .error _ => pure ⟨[], []⟩

/-- The end of the body counts the event. -/
def HandlerLibrary.counts (w : HandlerLibrary σ κ τ) (t : TakenEvent σ) : Bool :=
  countsEvent w.contentAsString (t.event, t.postPairReconnect)

/-- The flush at the end of the body. -/
def HandlerLibrary.flushActs (w : HandlerLibrary σ κ τ) (t : TakenEvent σ) :
    List (StreamAct κ τ) :=
  if w.counts t && (t.eventCount + 1) % 100 = 0 then [.flush] else []

/-- What the loop and its tasks do for an event. -/
def HandlerLibrary.work (w : HandlerLibrary σ κ τ) (t : TakenEvent σ) :
    Panics.Checked (EventWork κ τ) := do
  let body ← w.body t
  return { body with acts := body.acts ++ w.flushActs t }

end Work

/-! ## States and steps -/

/-- The loop, and the tasks in the order in which they were spawned. -/
inductive Worker where
  | loop
  | task (k : Nat)
deriving DecidableEq

structure LoopState (ρ σ κ τ : Type) where
  /-- What was broadcast to the stream, oldest first. -/
  broadcast : List RawEvent
  taken : List (TakenEvent σ)
  schedule : Schedule Worker (StreamAct κ τ)
  /-- How many tasks were spawned. -/
  tasks : Nat
  eventCount : Nat
  postPairReconnect : Bool
  copies : DeviceCopies ρ

namespace LoopState

def new (copies : DeviceCopies ρ) : LoopState ρ σ κ τ where
  broadcast := []
  taken := []
  schedule := .new
  tasks := 0
  eventCount := 0
  postPairReconnect := false
  copies := copies

/-- What an act changes beside what it sends.  `ok` says whether its call of the session
returns `Ok`, and `clears` whether the session has a `clear_device` of its own; where the
routing info is stored is left to the device's other fields. -/
def perform (clears ok : Bool) (s : LoopState ρ σ κ τ) : StreamAct κ τ → LoopState ρ σ κ τ
  | .rotateAdvSecret secret =>
      if ok then { s with copies := s.copies.rotateAdvSecret secret }
      else { s with copies.memory.advSecretKey := secret }
  | .clearDevice => if ok && clears then { s with copies := s.copies.setDevice none } else s
  | .runPostConnectInit => if ok then { s with copies := s.copies.runPostConnectInit } else s
  | .closeWindow => { s with postPairReconnect := false }
  | _ => s

/-- The loop or a task acts, and has these acts left. -/
def act (clears ok : Bool) (s : LoopState ρ σ κ τ) (i : Worker) (a : StreamAct κ τ)
    (rest : List (StreamAct κ τ)) : LoopState ρ σ κ τ :=
  { s.perform clears ok a with schedule := s.schedule.act i a rest }

/-- The loop takes an event, with this work. -/
def take (s : LoopState ρ σ κ τ) (t : TakenEvent σ) (work : EventWork κ τ) (counted : Bool) :
    LoopState ρ σ κ τ :=
  { s with
    taken := s.taken ++ [t]
    schedule := (s.schedule.assign .loop work.acts).spawn .task s.tasks work.tasks
    tasks := s.tasks + work.tasks.length
    eventCount := if counted then s.eventCount + 1 else s.eventCount }

/-- The updates in the channel of the application, oldest first. -/
def channel (s : LoopState ρ σ κ τ) : List (Update κ τ) := updatesOf (s.schedule.log.map Prod.snd)

end LoopState

/-- What the loop found when it took the event is what other tasks had left. -/
structure TakenEvent.Matches (t : TakenEvent σ) (s : LoopState ρ σ κ τ) : Prop where
  event : s.broadcast[s.taken.length]? = some t.event
  postPairReconnect : t.postPairReconnect = s.postPairReconnect
  eventCount : t.eventCount = s.eventCount

inductive LoopAction (ρ σ : Type) where
  | broadcast (e : RawEvent)
  | take (t : TakenEvent σ)
  | act (i : Worker) (ok : Bool)
  /-- Other tasks of the client change the device or the flag. -/
  | others (copies : DeviceCopies ρ) (postPairReconnect : Bool)

variable [WacoreBinary]

inductive LoopStep (w : HandlerLibrary σ κ τ) (clears : Bool) :
    LoopState ρ σ κ τ → LoopAction ρ σ → LoopState ρ σ κ τ → Prop where
  | broadcast {s : LoopState ρ σ κ τ} (e : RawEvent) :
      LoopStep w clears s (.broadcast e) { s with broadcast := s.broadcast ++ [e] }
  | take {s : LoopState ρ σ κ τ} {t : TakenEvent σ} {work : EventWork κ τ} :
      s.schedule.pending .loop = [] → t.Matches s → w.work t = .ok work →
      LoopStep w clears s (.take t) (s.take t work (w.counts t))
  | act {s : LoopState ρ σ κ τ} {i : Worker} {a : StreamAct κ τ} {rest : List (StreamAct κ τ)}
      (ok : Bool) :
      s.schedule.pending i = a :: rest →
      LoopStep w clears s (.act i ok) (s.act clears ok i a rest)
  | others {s : LoopState ρ σ κ τ} (copies : DeviceCopies ρ) (postPairReconnect : Bool) :
      LoopStep w clears s (.others copies postPairReconnect)
        { s with copies := copies, postPairReconnect := postPairReconnect }

/-- The runs of one stream. -/
def eventLoop (w : HandlerLibrary σ κ τ) (clears : Bool) :
    System (LoopState ρ σ κ τ) (LoopAction ρ σ) where
  init s := ∃ copies, s = .new copies
  step := LoopStep w clears

/-! ## What events come to -/

/-- What an event came to that the loop took. -/
def HandlerLibrary.done (w : HandlerLibrary σ κ τ) (t : TakenEvent σ) : EventWork κ τ :=
  (w.work t).toOption.getD ⟨[], []⟩

/-- The updates that the loop sends for an event. -/
def HandlerLibrary.eventUpdates (w : HandlerLibrary σ κ τ) (t : TakenEvent σ) :
    List (Update κ τ) :=
  updatesOf (w.done t).acts

variable {w : HandlerLibrary σ κ τ} {clears : Bool} {s s' : LoopState ρ σ κ τ}
  {t : TakenEvent σ} {work : EventWork κ τ}

theorem done_of_work (h : w.work t = .ok work) : w.done t = work := by
  rw [HandlerLibrary.done, h]
  rfl

omit [WacoreBinary] in
@[simp] theorem updatesOf_nil : updatesOf ([] : List (StreamAct κ τ)) = [] := rfl

omit [WacoreBinary] in
@[simp] theorem updatesOf_append (as bs : List (StreamAct κ τ)) :
    updatesOf (as ++ bs) = updatesOf as ++ updatesOf bs :=
  List.filterMap_append

/-! ## The schedule of a run -/

/-- What the loop and the tasks were given is the work of the events taken. -/
structure ScheduleInv (w : HandlerLibrary σ κ τ) (s : LoopState ρ σ κ τ) : Prop where
  taken : s.taken.map (·.event) <+: s.broadcast
  loop : s.schedule.program .loop = s.taken.flatMap fun t => (w.done t).acts
  tasks : s.tasks = (s.taken.flatMap fun t => (w.done t).tasks).length
  task : ∀ k, s.schedule.program (.task k) =
    ((s.taken.flatMap fun t => (w.done t).tasks)[k]?).getD []

section

omit [WacoreBinary]

variable {i : Worker} {a : StreamAct κ τ} {ok : Bool} {rest : List (StreamAct κ τ)}

@[simp] theorem LoopState.act_schedule :
    (s.act clears ok i a rest).schedule = s.schedule.act i a rest := rfl

/-- An act changes no more than the device and the flag. -/
theorem LoopState.act_frame :
    (s.act clears ok i a rest).broadcast = s.broadcast ∧
      (s.act clears ok i a rest).taken = s.taken ∧
      (s.act clears ok i a rest).tasks = s.tasks := by
  cases a with
  | rotateAdvSecret secret | runPostConnectInit => cases ok <;> exact ⟨rfl, rfl, rfl⟩
  | clearDevice => cases ok <;> cases clears <;> exact ⟨rfl, rfl, rfl⟩
  | _ => exact ⟨rfl, rfl, rfl⟩

theorem task_injective : Function.Injective Worker.task := by
  intro k l h
  cases h
  rfl

theorem loop_ne_task (k : Nat) : Worker.loop ≠ .task k := by
  intro h
  cases h

/-- A list of lists that grows at its end. -/
theorem getElem?_append_getD {α : Type} (xs ys : List (List α)) (k : Nat) :
    ((xs ++ ys)[k]?).getD [] =
      if k < xs.length then (xs[k]?).getD [] else (ys[k - xs.length]?).getD [] := by
  rw [List.getElem?_append]
  split <;> rfl

end

theorem ScheduleInv.new (copies : DeviceCopies ρ) :
    ScheduleInv w (.new copies : LoopState ρ σ κ τ) where
  taken := List.nil_prefix
  loop := rfl
  tasks := rfl
  task _ := rfl

theorem ScheduleInv.act (hs : ScheduleInv w s) {i : Worker} {a : StreamAct κ τ} {ok : Bool}
    {rest : List (StreamAct κ τ)} (hpending : s.schedule.pending i = a :: rest) :
    ScheduleInv w (s.act clears ok i a rest) := by
  obtain ⟨hbroadcast, htaken, htasks⟩ : (s.act clears ok i a rest).broadcast = s.broadcast ∧
      (s.act clears ok i a rest).taken = s.taken ∧
      (s.act clears ok i a rest).tasks = s.tasks := LoopState.act_frame
  constructor
  · rw [hbroadcast, htaken]
    exact hs.taken
  · rw [LoopState.act_schedule, Schedule.program_act hpending, htaken]
    exact hs.loop
  · rw [htasks, htaken]
    exact hs.tasks
  · intro k
    rw [LoopState.act_schedule, Schedule.program_act hpending, htaken]
    exact hs.task k

theorem ScheduleInv.take (hs : ScheduleInv w s) (hmatches : t.Matches s)
    (hwork : w.work t = .ok work) : ScheduleInv w (s.take t work (w.counts t)) := by
  have hdone := done_of_work hwork
  constructor
  · have hlength : s.taken.length < s.broadcast.length :=
      (List.getElem?_eq_some_iff.mp hmatches.event).1
    have htaken := List.prefix_iff_eq_take.mp hs.taken
    rw [List.length_map] at htaken
    rw [LoopState.take, List.map_append, htaken]
    refine List.prefix_iff_eq_take.mpr ?_
    rw [List.length_append, List.length_take_of_le hlength.le, List.map_singleton,
      List.length_singleton, List.take_add_one, hmatches.event]
    rfl
  · rw [LoopState.take, Schedule.program_spawn_of_ne loop_ne_task, Schedule.program_assign,
      if_pos rfl, hs.loop, List.flatMap_append, List.flatMap_singleton, hdone]
  · simp only [LoopState.take, List.flatMap_append, List.length_append, hs.tasks,
      List.flatMap_singleton, hdone]
  · intro k
    have htask : ∀ l, s.tasks ≤ l → s.schedule.program (.task l) = [] := fun l hl => by
      rw [hs.task, List.getElem?_eq_none (by rw [← hs.tasks]; exact hl)]
      rfl
    have hassign : ∀ l, (s.schedule.assign .loop work.acts).program (.task l) =
        s.schedule.program (.task l) := fun l => by
      rw [Schedule.program_assign, if_neg (loop_ne_task l).symm]
    simp only [LoopState.take]
    rw [List.flatMap_append, List.flatMap_singleton, hdone, getElem?_append_getD, ← hs.tasks]
    split
    · next hlt =>
      rw [Schedule.program_spawn_of_lt task_injective hlt, hassign, hs.task]
    · next hge =>
      obtain ⟨l, rfl⟩ := Nat.exists_eq_add_of_le (Nat.le_of_not_lt hge)
      rw [Schedule.program_spawn task_injective, hassign, htask _ (Nat.le_add_right ..),
        List.nil_append, Nat.add_sub_cancel_left]

theorem ScheduleInv.step {a : LoopAction ρ σ} (hs : ScheduleInv w s)
    (h : LoopStep w clears s a s') : ScheduleInv w s' := by
  cases h with
  | broadcast e =>
      exact ⟨hs.taken.trans (List.prefix_append ..), hs.loop, hs.tasks, hs.task⟩
  | take _ hmatches hwork => exact hs.take hmatches hwork
  | act ok hpending => exact hs.act hpending
  | others copies flag => exact ⟨hs.taken, hs.loop, hs.tasks, hs.task⟩

theorem ScheduleInv.run {as : List (LoopAction ρ σ)} (h : (eventLoop w clears).Run as s) :
    ScheduleInv w s := by
  refine h.invariant ?_ fun _ _ _ hs hstep => hs.step hstep
  rintro _ ⟨copies, rfl⟩
  exact .new copies

end Waepic.Client
