import Waepic.Client.EventLoop

/-!
# The work of an event

The loop sends no update of a history sync, and each `LoggedOut` right after
`clear_device` (`loopActs_work`); a task does what one of four kinds of tasks does
(`spawnedTask_of_work`), and sends no other updates than those of a history sync
(`SpawnedTask.isHistory`).
-/

namespace Waepic.Client

open Transition Binary Connection Producers

variable {ρ σ κ τ : Type} [WacoreBinary] {w : HandlerLibrary σ κ τ}
  {s : LoopState ρ σ κ τ} {t : TakenEvent σ} {work : EventWork κ τ}

/-! ## The work of the loop -/

/-- Each `LoggedOut` stands right behind a `clear_device`. -/
def ClearsFirst (acts : List (StreamAct κ τ)) : Prop :=
  ∀ before after, acts = before ++ .update (.failure .loggedOut) :: after →
    ∃ earlier, before = earlier ++ [.clearDevice]

/-- What the loop does for an event, and for several. -/
structure LoopActs (acts : List (StreamAct κ τ)) : Prop where
  streams : ∀ u ∈ updatesOf acts, u.isHistory = false
  clearsFirst : ClearsFirst acts

section

omit [WacoreBinary]

variable {as bs : List (StreamAct κ τ)} {a : StreamAct κ τ}

theorem ClearsFirst.mono (h : ClearsFirst bs) (hle : as <+: bs) : ClearsFirst as := by
  obtain ⟨more, rfl⟩ := hle
  intro before after has
  exact h before (after ++ more) (by rw [has, List.append_assoc]; rfl)

theorem ClearsFirst.append (has : ClearsFirst as) (hbs : ClearsFirst bs) :
    ClearsFirst (as ++ bs) := by
  intro before after happend
  rcases List.append_eq_append_iff.mp happend with ⟨mid, rfl, hmid⟩ | ⟨mid, hmid, hrest⟩
  · obtain ⟨earlier, rfl⟩ := hbs mid after hmid
    exact ⟨as ++ earlier, by rw [List.append_assoc]⟩
  · cases mid with
    | nil =>
        -- a `LoggedOut` at the start of `bs` has nothing before it
        obtain ⟨earlier, hearlier⟩ := hbs [] after hrest.symm
        simp at hearlier
    | cons m mid =>
        obtain ⟨rfl, -⟩ := List.cons_eq_cons.mp hrest
        exact has before mid hmid

theorem LoopActs.nil : LoopActs ([] : List (StreamAct κ τ)) where
  streams u hu := by simp at hu
  clearsFirst before after h := by simp at h

theorem LoopActs.append (has : LoopActs as) (hbs : LoopActs bs) : LoopActs (as ++ bs) where
  streams u hu := by
    rw [updatesOf_append] at hu
    rcases List.mem_append.mp hu with hu | hu
    · exact has.streams u hu
    · exact hbs.streams u hu
  clearsFirst := has.clearsFirst.append hbs.clearsFirst

theorem LoopActs.singleton (hhistory : ∀ u, a.update? = some u → u.isHistory = false)
    (hloggedOut : a ≠ .update (.failure .loggedOut)) : LoopActs [a] where
  streams u hu := by
    obtain ⟨b, hb, hu⟩ := List.mem_filterMap.mp hu
    rw [List.mem_singleton.mp hb] at hu
    exact hhistory u hu
  clearsFirst before after h := by
    obtain ⟨-, hsingle⟩ | ⟨-, hsingle⟩ := List.append_eq_singleton_iff.mp h.symm
    · exact absurd (List.cons_eq_cons.mp hsingle).1.symm hloggedOut
    · cases hsingle

/-- Acts that send no update. -/
theorem LoopActs.silent (h : ∀ a ∈ as, a.update? = none) : LoopActs as := by
  induction as with
  | nil => exact .nil
  | cons a as ih =>
      have ha := h a List.mem_cons_self
      have hfirst : LoopActs [a] := by
        refine .singleton ?_ ?_
        · intro u hu
          rw [ha] at hu
          cases hu
        · rintro rfl
          cases ha
      exact hfirst.append (ih fun b hb => h b (.tail _ hb))

theorem loopActs_updateActs (flag : Bool) {u : Option (Update κ τ)}
    (hu : ∀ v, u = some v → v.isHistory = false) : LoopActs (updateActs flag u) := by
  have hsingle {v : Update κ τ} (hv : u = some v) (hne : v ≠ .failure .loggedOut) :
      LoopActs [.update v] := by
    refine .singleton ?_ ?_
    · intro v' hv'
      cases hv'
      exact hu v hv
    · intro h
      cases h
      exact hne rfl
  unfold updateActs
  split
  · exact .nil
  · -- the device is cleared first
    constructor
    · intro v hv
      obtain rfl : .failure .loggedOut = v := by simpa [updatesOf, StreamAct.update?] using hv
      rfl
    · intro before after h
      cases before with
      | nil => simp at h
      | cons b before =>
          obtain ⟨rfl, hrest⟩ := List.cons_eq_cons.mp h
          obtain ⟨rfl, -⟩ | ⟨-, hsingle⟩ := List.append_eq_singleton_iff.mp hrest.symm
          · exact ⟨[], rfl⟩
          · cases hsingle
  · next reason message =>
    cases flag with
    | true => exact .nil
    | false => exact hsingle rfl (by simp)
  · next v hloggedOut hfailure => exact hsingle rfl (by rintro rfl; exact hloggedOut rfl)

end

/-- What `process_incoming_node` returns at once are messages to show. -/
theorem processIncomingNode_shows {d : Decoder σ κ} {env : Surroundings} {n : Node} {signal : σ}
    {us : List (MessageUpdate κ)}
    (h : (processIncomingNode d env n signal).result = .updates us) : ShowsMessagesOnly us := by
  cases hnotif : nodeNotification d env n signal with
  | none =>
      obtain ⟨us', hresult, hshows⟩ := (processIncomingNode_of_no_notification hnotif).1
      rw [h] at hresult
      cases hresult
      exact hshows
  | some notif =>
      obtain ⟨s', hprocess⟩ := processIncomingNode_of_notification hnotif
      rw [hprocess] at h
      cases hpayload : notif.payload env with
      | none =>
          simp only [hpayload, Option.map_none, IncomingNodeResult.ofHistorySync] at h
          cases h
          exact showsMessagesOnly_nil
      | some payload =>
          simp only [hpayload, Option.map_some, IncomingNodeResult.ofHistorySync] at h
          cases h

theorem loopActs_messageWork {d : HistoryDecoder σ κ} {env : Surroundings} {n : Node} {signal : σ} :
    LoopActs (messageWork d env (processIncomingNode d.toDecoder env n signal) :
      EventWork κ τ).acts := by
  refine LoopActs.append (.silent ?_) ?_
  · intro a ha
    obtain ⟨m, -, rfl⟩ := List.mem_map.mp ha
    rfl
  · split
    · next us hresult =>
      have hshows := processIncomingNode_shows hresult
      constructor
      · intro u hu
        obtain ⟨a, ha, hu⟩ := List.mem_filterMap.mp hu
        obtain ⟨v, hv, rfl⟩ := List.mem_map.mp ha
        cases hu
        obtain ⟨m, rfl⟩ := hshows v hv
        rfl
      · intro before after h
        have hmem : StreamAct.update (.failure .loggedOut) ∈
            us.map fun u => (StreamAct.update (.message u) : StreamAct κ τ) := by
          rw [h]
          exact List.mem_append_right _ List.mem_cons_self
        obtain ⟨v, -, hv⟩ := List.mem_map.mp hmem
        cases hv
    · exact .nil

omit [WacoreBinary] in
theorem loopActs_confirmation (c : ConfirmationHandled) :
    LoopActs (c.acts : List (StreamAct κ τ)) := by
  refine .silent fun a ha => ?_
  rcases List.mem_append.mp ha with ha | ha <;> obtain ⟨_, -, rfl⟩ := List.mem_map.mp ha <;> rfl

theorem ibUpdate_isHistory {children : List Node} {u : Update κ τ}
    (h : ibUpdate children = some u) : u.isHistory = false := by
  induction children with
  | nil => cases h
  | cons child children ih =>
      rw [ibUpdate] at h
      split at h
      · cases h
        rfl
      · split at h
        · cases h
          rfl
        · exact ih h

omit [WacoreBinary] in
/-- An update that is made of something is no history sync if none of its kind is. -/
theorem map_isHistory {α : Type} {o : Option α} {f : α → Update κ τ}
    (hf : ∀ x, (f x).isHistory = false) : ∀ u, o.map f = some u → u.isHistory = false := by
  intro u h
  obtain ⟨x, -, rfl⟩ := Option.map_eq_some_iff.mp h
  exact hf x

theorem loopActs_nodeWork {n : Node} (h : w.nodeWork t n = .ok work) : LoopActs work.acts := by
  unfold HandlerLibrary.nodeWork at h
  split at h
  · cases h
    exact loopActs_updateActs _ (map_isHistory fun _ => rfl)
  · cases h
    exact loopActs_updateActs _ (map_isHistory fun _ => rfl)
  · cases h
    exact loopActs_updateActs _ (map_isHistory fun _ => rfl)
  · cases hnotification : w.handleNotification t.env n with
    | error e =>
        rw [hnotification] at h
        cases h
    | ok result =>
        rw [hnotification] at h
        cases h
        exact (loopActs_confirmation _).append
          (loopActs_updateActs _ (map_isHistory fun _ => rfl))
  · cases h
    exact loopActs_updateActs t.postPairReconnect (u := some .pairSuccess) (by rintro _ ⟨⟩; rfl)
  · cases h
    exact loopActs_updateActs t.postPairReconnect (u := some (.failure _)) (by rintro _ ⟨⟩; rfl)
  · cases h
    exact loopActs_updateActs t.postPairReconnect (u := some (.failure _)) (by rintro _ ⟨⟩; rfl)
  · cases h
    exact loopActs_updateActs _ (map_isHistory fun _ => rfl)
  · cases hib : w.handleIb n with
    | error e =>
        rw [hib] at h
        cases h
    | ok effects =>
        rw [hib] at h
        cases h
        exact loopActs_updateActs _ fun u hu => ibUpdate_isHistory hu
  · cases h
    exact .nil

theorem processIncomingNode_eq {env : HandlerSurroundings} {n : Node} {signal : σ}
    {p : Processed σ κ} (h : w.processIncomingNode env n signal = .ok p) :
    p = processIncomingNode w.toDecoder env.toSurroundings n signal := by
  have hreturns :=
    processIncomingNode_of_returns (s := signal) (returns_processIncomingNode_iff.mp ⟨p, h⟩)
  rw [h] at hreturns
  cases hreturns
  rfl

theorem loopActs_body (h : w.body t = .ok work) : LoopActs work.acts := by
  have hconnected : LoopActs ([.runPostConnectInit, .closeWindow] : List (StreamAct κ τ)) :=
    .silent (by simp [StreamAct.update?])
  unfold HandlerLibrary.body at h
  split at h
  · split at h
    · cases h
      exact .nil
    · split at h
      · next n _ _ _ =>
        cases hprocess : w.processIncomingNode t.env n t.signal with
        | error e =>
            rw [hprocess] at h
            cases h
        | ok p =>
            rw [hprocess] at h
            cases h
            rw [processIncomingNode_eq hprocess]
            exact loopActs_messageWork
      · exact loopActs_nodeWork h
  · split at h
    · cases h
      exact hconnected
    · cases h
      have hfirst : LoopActs ([.update .connected] : List (StreamAct κ τ)) :=
        .singleton (by intro u hu; cases hu; rfl) (by simp)
      have hinit : LoopActs ([.runPostConnectInit] : List (StreamAct κ τ)) :=
        .silent (by simp [StreamAct.update?])
      exact hfirst.append hinit
  · split at h
    · cases h
      exact .nil
    · cases h
      exact .singleton (by intro u hu; cases hu; rfl) (by simp)
  · cases h
    exact .nil

theorem loopActs_work (h : w.work t = .ok work) : LoopActs work.acts := by
  cases hbody : w.body t with
  | error e =>
      rw [HandlerLibrary.work, hbody] at h
      cases h
  | ok body =>
      rw [HandlerLibrary.work, hbody] at h
      cases h
      refine (loopActs_body hbody).append ?_
      unfold HandlerLibrary.flushActs
      split
      · exact .silent (by simp [StreamAct.update?])
      · exact .nil

/-- All that the loop does. -/
theorem loopActs_done (w : HandlerLibrary σ κ τ) (ts : List (TakenEvent σ)) :
    LoopActs (ts.flatMap fun t => (w.done t).acts) := by
  induction ts with
  | nil => exact .nil
  | cons t ts ih =>
      have ht : LoopActs (w.done t).acts := by
        cases hwork : w.work t with
        | error e =>
            rw [HandlerLibrary.done, hwork]
            exact .nil
        | ok work =>
            rw [done_of_work hwork]
            exact loopActs_work hwork
      exact ht.append ih

/-! ## The work of the tasks -/

/-- What a task does that was spawned at an event. -/
inductive SpawnedTask (w : HandlerLibrary σ κ τ) (t : TakenEvent σ) :
    List (StreamAct κ τ) → Prop where
  | history {n : Node} :
      t.event = .node n → isHistorySync n = true →
      SpawnedTask w t (historyTask w.toHistoryDecoder t.env.toSurroundings n)
  | background {n : Node} {sync : BackgroundHistorySync} :
      t.event = .node n →
      (processIncomingNode w.toDecoder t.env.toSurroundings n t.signal).result =
        .backgroundHistorySync sync →
      SpawnedTask w t (backgroundTask w.toHistoryDecoder t.env.toSurroundings sync)
  | dirty {n child : Node} :
      t.event = .node n → child ∈ n.children.getD [] → child.tag = "dirty" →
      SpawnedTask w t ((w.dirtyTask child).map .effect)
  | routing {n child : Node} :
      t.event = .node n → child ∈ n.children.getD [] → child.tag = "edge_routing" →
      SpawnedTask w t ((routingTask child).map .effect)

theorem mem_ibTasks {children : List Node} {task : List IbEffect}
    (h : task ∈ w.toHandlerWacore.ibTasks children) :
    ∃ child ∈ children, (child.tag = "dirty" ∧ task = w.dirtyTask child) ∨
      (child.tag = "edge_routing" ∧ task = routingTask child) := by
  induction children with
  | nil => cases h
  | cons child children ih =>
      have hlater (htask : task ∈ w.toHandlerWacore.ibTasks children) :
          ∃ c ∈ child :: children, (c.tag = "dirty" ∧ task = w.dirtyTask c) ∨
            (c.tag = "edge_routing" ∧ task = routingTask c) := by
        obtain ⟨c, hc, hcases⟩ := ih htask
        exact ⟨c, .tail _ hc, hcases⟩
      rw [HandlerWacore.ibTasks] at h
      rcases tag_cases child with
        hdirty | hrouting | hpreview | hoffline | ⟨hdirty, hrouting, hpreview, hoffline⟩
      · rw [if_pos hdirty] at h
        rcases List.mem_cons.mp h with htask | htask
        · exact ⟨child, List.mem_cons_self, .inl ⟨hdirty, htask⟩⟩
        · exact hlater htask
      · rw [if_neg (by simp [hrouting]), if_pos hrouting] at h
        rcases List.mem_cons.mp h with htask | htask
        · exact ⟨child, List.mem_cons_self, .inr ⟨hrouting, htask⟩⟩
        · exact hlater htask
      · simp [hpreview] at h
      · simp [hoffline] at h
      · rw [if_neg hdirty, if_neg hrouting, if_neg hpreview, if_neg hoffline] at h
        exact hlater h

/-- The tasks and the update together are the effects of the loop of `handle_ib`. -/
theorem handleIb_eq (w : HandlerWacore σ κ) (children : List Node) :
    w.handleIb children = (w.ibTasks children).flatten ++
      (ibUpdate children : Option (Update κ τ)).toList.filterMap fun
        | .offlineSyncPreview count => some (.offlineSyncPreview count)
        | .offlineSyncCompleted count => some (.offlineSyncCompleted count)
        | _ => none := by
  induction children with
  | nil => rfl
  | cons child children ih =>
      rw [HandlerWacore.handleIb, HandlerWacore.ibTasks, ibUpdate]
      rcases tag_cases child with
        hdirty | hrouting | hpreview | hoffline | ⟨hdirty, hrouting, hpreview, hoffline⟩
      · simp [hdirty, ih]
      · simp [hrouting, ih]
      · simp [hpreview]
      · simp [hoffline]
      · simp [hdirty, hrouting, hpreview, hoffline, ih]

theorem spawnedTask_of_nodeWork {n : Node} {task : List (StreamAct κ τ)}
    (hevent : t.event = .node n) (h : w.nodeWork t n = .ok work) (htask : task ∈ work.tasks) :
    SpawnedTask w t task := by
  unfold HandlerLibrary.nodeWork at h
  split at h
  case h_4 =>
    cases hnotification : w.handleNotification t.env n with
    | error e =>
        rw [hnotification] at h
        cases h
    | ok result =>
        rw [hnotification] at h
        cases h
        cases htask
  case h_9 =>
    cases hib : w.handleIb n with
    | error e =>
        rw [hib] at h
        cases h
    | ok effects =>
        rw [hib] at h
        cases h
        obtain ⟨effects, heffects, rfl⟩ := List.mem_map.mp htask
        obtain ⟨child, hchild, ⟨htag, rfl⟩ | ⟨htag, rfl⟩⟩ := mem_ibTasks heffects
        · exact .dirty hevent hchild htag
        · exact .routing hevent hchild htag
  all_goals
    cases h
    cases htask

theorem spawnedTask_of_work {task : List (StreamAct κ τ)} (h : w.work t = .ok work)
    (htask : task ∈ work.tasks) : SpawnedTask w t task := by
  cases hbody : w.body t with
  | error e =>
      rw [HandlerLibrary.work, hbody] at h
      cases h
  | ok body =>
      rw [HandlerLibrary.work, hbody] at h
      cases h
      unfold HandlerLibrary.body at hbody
      split at hbody
      · next n hevent =>
        split at hbody
        · next hsync =>
          cases hbody
          rw [List.mem_singleton.mp htask]
          exact .history hevent hsync
        · split at hbody
          · cases hprocess : w.processIncomingNode t.env n t.signal with
            | error e =>
                rw [hprocess] at hbody
                cases hbody
            | ok p =>
                rw [hprocess] at hbody
                cases hbody
                rw [processIncomingNode_eq hprocess] at htask
                simp only [messageWork] at htask
                split at htask
                · cases htask
                · next sync hsync =>
                  rw [List.mem_singleton.mp htask]
                  exact .background hevent hsync
          · exact spawnedTask_of_nodeWork hevent hbody htask
      · split at hbody <;> cases hbody <;> cases htask
      · split at hbody <;> cases hbody <;> cases htask
      · cases hbody
        cases htask

/-- What a task was given is the work of a task that was spawned at an event taken. -/
theorem ScheduleInv.spawned (hs : ScheduleInv w s) {k : Nat}
    (h : s.schedule.program (.task k) ≠ []) :
    ∃ t ∈ s.taken, SpawnedTask w t (s.schedule.program (.task k)) := by
  rw [hs.task k] at h ⊢
  cases htask : (s.taken.flatMap fun t => (w.done t).tasks)[k]? with
  | none => exact absurd (by rw [htask]; rfl) h
  | some task =>
      obtain ⟨t, ht, hmem⟩ := List.mem_flatMap.mp (List.mem_of_getElem? htask)
      refine ⟨t, ht, ?_⟩
      cases hwork : w.work t with
      | error e =>
          rw [HandlerLibrary.done, hwork] at hmem
          cases hmem
      | ok work =>
          rw [done_of_work hwork] at hmem
          exact spawnedTask_of_work hwork hmem

omit [WacoreBinary] in
theorem processHistorySyncPayload_isHistory {d : HistoryDecoder σ κ} {env : Surroundings}
    {compressed : Bytes} {syncType : Option HistorySyncType} {progress : Option Nat}
    {u : MessageUpdate κ} (h : u ∈ processHistorySyncPayload d env compressed syncType progress) :
    (.message u : Update κ τ).isHistory = true := by
  rcases updates_cases d env ⟨compressed, syncType, progress⟩ with
    ⟨-, hus⟩ | ⟨_, -, ⟨-, hus⟩ | ⟨-, chunk, hus⟩⟩
  all_goals
    rw [HistoryPayload.updates] at hus
    rw [hus] at h
  · cases h
  · rw [List.mem_singleton.mp h]
    rfl
  · rcases List.mem_pair.mp h with rfl | rfl <;> rfl

/-- A task sends no other updates than those of a history sync. -/
theorem SpawnedTask.isHistory {task : List (StreamAct κ τ)} (h : SpawnedTask w t task)
    {u : Update κ τ} (hu : .update u ∈ task) : u.isHistory = true := by
  cases h with
  | history hevent hsync =>
      unfold historyTask at hu
      split at hu
      · cases hu
      · rcases List.mem_append.mp hu with hu | hu <;> obtain ⟨v, hv, heq⟩ := List.mem_map.mp hu
        · cases heq
        · cases heq
          exact processHistorySyncPayload_isHistory hv
  | background hevent hresult =>
      rcases List.mem_append.mp hu with hu | hu
      · obtain ⟨v, hv, heq⟩ := List.mem_map.mp hu
        cases heq
        exact processHistorySyncPayload_isHistory hv
      · cases List.mem_singleton.mp hu
  | dirty hevent hchild htag | routing hevent hchild htag =>
      obtain ⟨e, -, heq⟩ := List.mem_map.mp hu
      cases heq

omit [WacoreBinary] in
theorem mem_updatesOf {acts : List (StreamAct κ τ)} {u : Update κ τ} :
    u ∈ updatesOf acts ↔ .update u ∈ acts := by
  rw [updatesOf, List.mem_filterMap]
  constructor
  · rintro ⟨a, ha, hu⟩
    cases a with
    | update v =>
        cases hu
        exact ha
    | _ => cases hu
  · exact fun h => ⟨_, h, rfl⟩

/-- The tasks save no device. -/
theorem SpawnedTask.keeps_device {task : List (StreamAct κ τ)} (h : SpawnedTask w t task)
    {a : StreamAct κ τ} (ha : a ∈ task) (s : LoopState ρ σ κ τ) (clears ok : Bool) :
    (s.perform clears ok a).copies = s.copies := by
  cases h with
  | history hevent hsync =>
      unfold historyTask at ha
      split at ha
      · cases ha
      · rcases List.mem_append.mp ha with ha | ha <;> obtain ⟨v, -, rfl⟩ := List.mem_map.mp ha <;> rfl
  | background hevent hresult =>
      rcases List.mem_append.mp ha with ha | ha
      · obtain ⟨v, -, rfl⟩ := List.mem_map.mp ha
        rfl
      · rw [List.mem_singleton.mp ha]
        rfl
  | dirty hevent hchild htag | routing hevent hchild htag =>
      obtain ⟨e, -, rfl⟩ := List.mem_map.mp ha
      rfl

end Waepic.Client
