import Waepic.Client.HistorySync
import Waepic.Library.Transition

/-!
# The tasks of history syncs

`run_update_stream` starts a task for each history sync it receives, and goes on.
A task sends the updates of its payload into the channel of the stream, one after
the other, while others do the same.  Each payload ends with its own
`HistorySyncCompleted`, so a payload with a chunk that comes after another, or
one without a chunk that overtakes another, puts a chunk behind a completion.
-/

namespace Waepic.Client

open Transition Binary Connection

variable {σ κ : Type}

def MessageUpdate.isCompleted : MessageUpdate κ → Bool
  | historySyncCompleted => true
  | _ => false

/-- A received history sync. -/
structure HistoryPayload where
  compressed : Bytes
  syncType : Option HistorySyncType
  progress : Option Nat

structure HistoryTasks (κ : Type) where
  /-- What each task has still to send. -/
  pending : Nat → List (MessageUpdate κ)
  /-- How many tasks were started. -/
  started : Nat
  /-- The history updates of the stream, oldest first. -/
  delivered : List (MessageUpdate κ)

inductive HistoryAction where
  | start (payload : HistoryPayload)
  /-- A task sends its next update. -/
  | send (task : Nat)

def HistoryTasks.new : HistoryTasks κ where
  pending _ := []
  started := 0
  delivered := []

/-- Start a task with these updates. -/
def HistoryTasks.start (s : HistoryTasks κ) (us : List (MessageUpdate κ)) : HistoryTasks κ :=
  { s with pending := Function.update s.pending s.started us, started := s.started + 1 }

/-- Send an update of a task, which has these left. -/
def HistoryTasks.send (s : HistoryTasks κ) (task : Nat) (u : MessageUpdate κ)
    (us : List (MessageUpdate κ)) : HistoryTasks κ :=
  { s with pending := Function.update s.pending task us, delivered := s.delivered ++ [u] }

/-- The updates of a payload. -/
def HistoryPayload.updates (d : HistoryDecoder σ κ) (env : Surroundings) (p : HistoryPayload) :
    List (MessageUpdate κ) :=
  processHistorySyncPayload d env p.compressed p.syncType p.progress

inductive HistoryStep (d : HistoryDecoder σ κ) (env : Surroundings) :
    HistoryTasks κ → HistoryAction → HistoryTasks κ → Prop where
  | start {s : HistoryTasks κ} (p : HistoryPayload) :
      HistoryStep d env s (.start p) (s.start (p.updates d env))
  | send {s : HistoryTasks κ} {task : Nat} {u : MessageUpdate κ} {us : List (MessageUpdate κ)} :
      s.pending task = u :: us → HistoryStep d env s (.send task) (s.send task u us)

def historyTasks (d : HistoryDecoder σ κ) (env : Surroundings) :
    System (HistoryTasks κ) HistoryAction where
  init s := s = .new
  step := HistoryStep d env

/-- No chunk follows a completion. -/
def CompletedLast (us : List (MessageUpdate κ)) : Prop :=
  us.Pairwise fun u v => u.isCompleted = true → v.isHistorySync = false

/-- A payload with a chunk starts only before every completion, sent or to be
sent, and one without a chunk only when no chunk is left to be sent. -/
def HistoryTasks.Ready (d : HistoryDecoder σ κ) (env : Surroundings) (s : HistoryTasks κ) :
    HistoryAction → Prop
  | .start p => ∀ h, d.history p.compressed = some h →
      if syncedConversations d env h = [] then
        ∀ task, ∀ u ∈ s.pending task, u.isHistorySync = false
      else
        (∀ u ∈ s.delivered, u.isCompleted = false) ∧
          ∀ task, ∀ u ∈ s.pending task, u.isCompleted = false
  | .send _ => True

variable {d : HistoryDecoder σ κ} {env : Surroundings} {p : HistoryPayload}
  {s t : HistoryTasks κ} {a : HistoryAction}

/-! ## What starts a task -/

section

variable [WacoreBinary]

/-- The updates of a message are messages, which the loop sends, or those of a
payload, which a task sends. -/
theorem handleMessage_updates (d : HistoryDecoder σ κ) (env : Surroundings) (owner : HistoryOwner)
    (n : Node) (stores : σ) :
    ShowsMessagesOnly (handleMessage d env owner n stores).updates ∨
      ∃ p : HistoryPayload, (handleMessage d env owner n stores).updates = p.updates d env := by
  cases hnotif : nodeNotification d.toDecoder env n stores with
  | none =>
      obtain ⟨us, hresult, hshows⟩ := (processIncomingNode_of_no_notification hnotif).1
      rw [handleMessage, hresult]
      exact .inl hshows
  | some notif =>
      rw [handleMessage_of_notification hnotif]
      cases notif.payload env with
      | none => exact .inl showsMessagesOnly_nil
      | some compressed =>
          exact .inr ⟨⟨compressed, notif.syncType, notif.progress⟩, rfl⟩

/-- A history sync node has no updates, or those of a payload. -/
theorem handleHistorySync_updates (d : HistoryDecoder σ κ) (env : Surroundings)
    (owner : HistoryOwner) (n : Node) :
    (handleHistorySync d env owner n).updates = [] ∨
      ∃ p : HistoryPayload, (handleHistorySync d env owner n).updates = p.updates d env := by
  rw [handleHistorySync]
  cases extractHistorySyncPayload d n with
  | none => exact .inl rfl
  | some compressed => exact .inr ⟨⟨compressed, none, none⟩, rfl⟩

end

/-! ## What the tasks have left -/

@[simp] theorem HistoryTasks.start_pending_self {us : List (MessageUpdate κ)} :
    (s.start us).pending s.started = us := Function.update_self ..

theorem HistoryTasks.start_pending_of_ne {us : List (MessageUpdate κ)} {task : Nat}
    (h : task ≠ s.started) : (s.start us).pending task = s.pending task :=
  Function.update_of_ne h ..

@[simp] theorem HistoryTasks.send_pending_self {task : Nat} {u : MessageUpdate κ}
    {us : List (MessageUpdate κ)} : (s.send task u us).pending task = us :=
  Function.update_self ..

theorem HistoryTasks.send_pending_of_ne {task other : Nat} {u : MessageUpdate κ}
    {us : List (MessageUpdate κ)} (h : other ≠ task) :
    (s.send task u us).pending other = s.pending other := Function.update_of_ne h ..

/-- A payload has no updates, a completion, or a chunk and a completion. -/
theorem updates_cases (d : HistoryDecoder σ κ) (env : Surroundings) (p : HistoryPayload) :
    (d.history p.compressed = none ∧ p.updates d env = []) ∨
    ∃ h, d.history p.compressed = some h ∧
      ((syncedConversations d env h = [] ∧ p.updates d env = [.historySyncCompleted]) ∨
        (syncedConversations d env h ≠ [] ∧
          ∃ chunk, p.updates d env = [.historySync chunk, .historySyncCompleted])) := by
  unfold HistoryPayload.updates processHistorySyncPayload
  cases d.history p.compressed with
  | none => exact .inl ⟨rfl, rfl⟩
  | some h =>
      refine .inr ⟨h, rfl, ?_⟩
      cases hconvs : syncedConversations d env h with
      | nil => exact .inl ⟨rfl, by simp [hconvs]⟩
      | cons conv convs => exact .inr ⟨nofun, _, by simp [hconvs]; rfl⟩

/-- What a task can have left. -/
inductive Left : List (MessageUpdate κ) → Prop where
  | nothing : Left []
  | completion : Left [.historySyncCompleted]
  | chunk (chunk : HistorySyncChunk κ) : Left [.historySync chunk, .historySyncCompleted]

theorem left_updates (d : HistoryDecoder σ κ) (env : Surroundings) (p : HistoryPayload) :
    Left (p.updates d env) := by
  rcases updates_cases d env p with ⟨-, h⟩ | ⟨_, -, ⟨-, h⟩ | ⟨-, chunk, h⟩⟩
  · rw [h]; exact .nothing
  · rw [h]; exact .completion
  · rw [h]; exact .chunk chunk

theorem Left.tail {u : MessageUpdate κ} {us : List (MessageUpdate κ)} (h : Left (u :: us)) :
    Left us := by
  cases h with
  | completion => exact .nothing
  | chunk c => exact .completion

/-- Whatever has something left has a completion left. -/
theorem Left.eq_nil {us : List (MessageUpdate κ)} (h : Left us)
    (hus : ∀ u ∈ us, u.isCompleted = false) : us = [] := by
  cases h with
  | nothing => rfl
  | completion => cases hus .historySyncCompleted (by simp)
  | chunk chunk => cases hus .historySyncCompleted (by simp)

theorem left_start (hs : ∀ task, Left (s.pending task)) {us : List (MessageUpdate κ)}
    (h : Left us) (task : Nat) : Left ((s.start us).pending task) := by
  by_cases htask : task = s.started
  · rw [htask, HistoryTasks.start_pending_self]
    exact h
  · rw [HistoryTasks.start_pending_of_ne htask]
    exact hs task

theorem left_send (hs : ∀ task, Left (s.pending task)) {sender : Nat} {u : MessageUpdate κ}
    {us : List (MessageUpdate κ)} (h : Left us) (task : Nat) :
    Left ((s.send sender u us).pending task) := by
  by_cases htask : task = sender
  · rw [htask, HistoryTasks.send_pending_self]
    exact h
  · rw [HistoryTasks.send_pending_of_ne htask]
    exact hs task

/-! ## Runs that are ready for each payload -/

/-- A task that has a chunk to send is the only one with anything to send, and no
completion was sent. -/
structure HistoryTasks.Inv (s : HistoryTasks κ) : Prop where
  left : ∀ task, Left (s.pending task)
  alone : ∀ task chunk, s.pending task = [.historySync chunk, .historySyncCompleted] →
    (∀ u ∈ s.delivered, u.isCompleted = false) ∧ ∀ other ≠ task, s.pending other = []
  ordered : CompletedLast s.delivered

/-- A completion puts nothing out of order behind what was sent. -/
theorem CompletedLast.completion {us : List (MessageUpdate κ)} (h : CompletedLast us) :
    CompletedLast (us ++ [.historySyncCompleted]) := by
  refine List.pairwise_append.mpr ⟨h, List.pairwise_singleton .., ?_⟩
  intro u _ v hv _
  rw [List.mem_singleton.mp hv]
  rfl

/-- Nor does a chunk before every completion. -/
theorem CompletedLast.chunk {us : List (MessageUpdate κ)} {chunk : HistorySyncChunk κ}
    (h : CompletedLast us) (hus : ∀ u ∈ us, u.isCompleted = false) :
    CompletedLast (us ++ [.historySync chunk]) := by
  refine List.pairwise_append.mpr ⟨h, List.pairwise_singleton .., ?_⟩
  intro u hu v _ hcompleted
  rw [hus u hu] at hcompleted
  cases hcompleted

theorem HistoryTasks.Inv.new : (HistoryTasks.new : HistoryTasks κ).Inv where
  left _ := .nothing
  alone _ _ h := nomatch h
  ordered := .nil

/-- A payload that does not decode changes nothing. -/
theorem HistoryTasks.Inv.start_nothing (hs : s.Inv) : (s.start []).Inv where
  left := left_start hs.left .nothing
  alone task chunk h := by
    by_cases htask : task = s.started
    · rw [htask, start_pending_self] at h
      cases h
    · rw [start_pending_of_ne htask] at h
      obtain ⟨hdelivered, hothers⟩ := hs.alone task chunk h
      refine ⟨hdelivered, fun other hother => ?_⟩
      by_cases hstarted : other = s.started
      · rw [hstarted, start_pending_self]
      · rw [start_pending_of_ne hstarted]
        exact hothers other hother
  ordered := hs.ordered

theorem HistoryTasks.Inv.start_completion (hs : s.Inv)
    (hpending : ∀ task, ∀ u ∈ s.pending task, u.isHistorySync = false) :
    (s.start [.historySyncCompleted]).Inv where
  left := left_start hs.left .completion
  alone task chunk h := by
    by_cases htask : task = s.started
    · rw [htask, start_pending_self] at h
      cases h
    · rw [start_pending_of_ne htask] at h
      have hchunk := hpending task (.historySync chunk) (by simp [h])
      cases hchunk
  ordered := hs.ordered

theorem HistoryTasks.Inv.start_chunk (hs : s.Inv) {c : HistorySyncChunk κ}
    (hdelivered : ∀ u ∈ s.delivered, u.isCompleted = false)
    (hpending : ∀ task, ∀ u ∈ s.pending task, u.isCompleted = false) :
    (s.start [.historySync c, .historySyncCompleted]).Inv where
  left := left_start hs.left (.chunk c)
  alone task chunk h := by
    have hnothing : ∀ other, s.pending other = [] := fun other =>
      (hs.left other).eq_nil (hpending other)
    by_cases htask : task = s.started
    · refine ⟨hdelivered, fun other hother => ?_⟩
      rw [htask] at hother
      rw [start_pending_of_ne hother, hnothing]
    · rw [start_pending_of_ne htask, hnothing] at h
      cases h
  ordered := hs.ordered

/-- A completion is sent when no other task has a chunk. -/
theorem HistoryTasks.Inv.send_completion (hs : s.Inv) {task : Nat}
    (h : s.pending task = [.historySyncCompleted]) :
    (s.send task .historySyncCompleted []).Inv where
  left := left_send hs.left .nothing
  alone other chunk hother := by
    by_cases htask : other = task
    · rw [htask, send_pending_self] at hother
      cases hother
    · rw [send_pending_of_ne htask] at hother
      have hnothing := (hs.alone other chunk hother).2 task (Ne.symm htask)
      rw [h] at hnothing
      cases hnothing
  ordered := hs.ordered.completion

/-- A chunk is sent before every completion. -/
theorem HistoryTasks.Inv.send_chunk (hs : s.Inv) {task : Nat} {c : HistorySyncChunk κ}
    (h : s.pending task = [.historySync c, .historySyncCompleted]) :
    (s.send task (.historySync c) [.historySyncCompleted]).Inv where
  left := left_send hs.left .completion
  alone other chunk hother := by
    by_cases htask : other = task
    · rw [htask, send_pending_self] at hother
      cases hother
    · rw [send_pending_of_ne htask, (hs.alone task c h).2 other htask] at hother
      cases hother
  ordered := hs.ordered.chunk (hs.alone task c h).1

theorem HistoryTasks.Inv.step (hs : s.Inv) (hready : HistoryTasks.Ready d env s a)
    (hstep : HistoryStep d env s a t) : t.Inv := by
  cases hstep with
  | start p =>
      rcases updates_cases d env p with ⟨-, hus⟩ | ⟨h, hd, ⟨hconvs, hus⟩ | ⟨hconvs, c, hus⟩⟩
      · rw [hus]
        exact hs.start_nothing
      · have hpending := hready h hd
        rw [if_pos hconvs] at hpending
        rw [hus]
        exact hs.start_completion hpending
      · have hnone := hready h hd
        rw [if_neg hconvs] at hnone
        rw [hus]
        exact hs.start_chunk hnone.1 hnone.2
  | send h =>
      rename_i task u us
      have hleft := hs.left task
      rw [h] at hleft
      cases hleft with
      | completion => exact hs.send_completion h
      | chunk c => exact hs.send_chunk h

theorem HistoryTasks.Inv.of_run {as : List HistoryAction}
    (h : ((historyTasks d env).restrict (HistoryTasks.Ready d env)).Run as s) : s.Inv := by
  have hinit : ∀ s, ((historyTasks d env).restrict (HistoryTasks.Ready d env)).init s → s.Inv := by
    rintro _ rfl
    exact .new
  have hstep : ∀ s a t, s.Inv →
      ((historyTasks d env).restrict (HistoryTasks.Ready d env)).step s a t → t.Inv :=
    fun _ _ _ hs h => hs.step h.2 h.1
  exact System.Run.invariant hinit hstep h

/-! ## Payloads that are not ready -/

/-- Tasks that were not started have nothing to send. -/
structure HistoryTasks.Started (s : HistoryTasks κ) : Prop where
  left : ∀ task, Left (s.pending task)
  unstarted : ∀ task, s.started ≤ task → s.pending task = []

theorem HistoryTasks.Started.step (hs : s.Started) (h : HistoryStep d env s a t) : t.Started := by
  cases h with
  | start p =>
      refine ⟨left_start hs.left (left_updates d env p), fun task htask => ?_⟩
      have hlt : s.started < task := htask
      rw [start_pending_of_ne (by omega)]
      exact hs.unstarted task (by omega)
  | send h =>
      rename_i sender u us
      refine ⟨left_send hs.left (h ▸ hs.left sender).tail, fun task htask => ?_⟩
      have hnothing := hs.unstarted task htask
      by_cases heq : task = sender
      · rw [heq, h] at hnothing
        cases hnothing
      · rw [send_pending_of_ne heq]
        exact hnothing

theorem HistoryTasks.Started.of_run {as : List HistoryAction}
    (h : (historyTasks d env).Run as s) : s.Started := by
  have hinit : ∀ s, (historyTasks d env).init s → s.Started := by
    rintro _ rfl
    exact ⟨fun _ => .nothing, fun _ _ => rfl⟩
  exact System.Run.invariant hinit (fun _ _ _ hs hstep => hs.step hstep) h

/-- Some run from here puts a chunk behind a completion. -/
def Overtakes (d : HistoryDecoder σ κ) (env : Surroundings) (s : HistoryTasks κ) : Prop :=
  (historyTasks d env).CanReach (fun t => ¬ CompletedLast t.delivered) s

theorem overtakes_of_send {task : Nat} {u : MessageUpdate κ} {us : List (MessageUpdate κ)}
    (h : s.pending task = u :: us) (ht : Overtakes d env (s.send task u us)) :
    Overtakes d env s :=
  .of_step (show (historyTasks d env).step s (.send task) _ from .send h) ht

/-- A task sends its chunk behind a completion. -/
theorem overtakes_of_completed {task : Nat} {c : HistorySyncChunk κ} {u : MessageUpdate κ}
    {us : List (MessageUpdate κ)} (hu : u ∈ s.delivered) (hcompleted : u.isCompleted = true)
    (h : s.pending task = .historySync c :: us) : Overtakes d env s := by
  refine overtakes_of_send h (.here fun hlast => ?_)
  have hordered := (List.pairwise_append.mp hlast).2.2 u hu _ (List.mem_singleton_self _)
  cases hordered hcompleted

/-- One task sends its completion, and then another its chunk. -/
theorem overtakes_of_completion {task other : Nat} {c : HistorySyncChunk κ}
    {us : List (MessageUpdate κ)} (hne : other ≠ task)
    (htask : s.pending task = [.historySyncCompleted])
    (hother : s.pending other = .historySync c :: us) : Overtakes d env s := by
  refine overtakes_of_send htask ?_
  rw [← HistoryTasks.send_pending_of_ne hne] at hother
  exact overtakes_of_completed (List.mem_append_right _ (List.mem_singleton_self _)) rfl hother

theorem Left.eq_chunk {us : List (MessageUpdate κ)} {u : MessageUpdate κ} (h : Left us)
    (hu : u ∈ us) (hchunk : u.isHistorySync ≠ false) :
    ∃ c, us = [.historySync c, .historySyncCompleted] := by
  cases h with
  | nothing => cases hu
  | completion => cases List.mem_singleton.mp hu; exact absurd rfl hchunk
  | chunk c => exact ⟨c, rfl⟩

theorem Left.eq_completion_or_chunk {us : List (MessageUpdate κ)} {u : MessageUpdate κ}
    (h : Left us) (hu : u ∈ us) :
    us = [.historySyncCompleted] ∨ ∃ c, us = [.historySync c, .historySyncCompleted] := by
  cases h with
  | nothing => cases hu
  | completion => exact .inl rfl
  | chunk c => exact .inr ⟨c, rfl⟩

/-- A task sends all it has left, and then another its chunk. -/
theorem overtakes_of_pending (hs : s.Started) {task other : Nat} {c : HistorySyncChunk κ}
    {us : List (MessageUpdate κ)} {u : MessageUpdate κ} (hne : other ≠ task)
    (hu : u ∈ s.pending task) (hother : s.pending other = .historySync c :: us) :
    Overtakes d env s := by
  rcases (hs.left task).eq_completion_or_chunk hu with htask | ⟨c', htask⟩
  · exact overtakes_of_completion hne htask hother
  · refine overtakes_of_send htask ?_
    rw [← HistoryTasks.send_pending_of_ne hne] at hother
    exact overtakes_of_completion hne HistoryTasks.send_pending_self hother

/-- If a payload starts that is not ready, some run delivers a chunk after a
completion. -/
theorem overtakes_of_not_ready {as : List HistoryAction} (hrun : (historyTasks d env).Run as s)
    (hready : ¬ HistoryTasks.Ready d env s (.start p)) :
    Overtakes d env (s.start (p.updates d env)) := by
  have hs := HistoryTasks.Started.of_run hrun
  have hstarted : (s.start (p.updates d env)).Started := hs.step (.start p)
  have hne : ∀ task, ∀ u ∈ s.pending task, task ≠ s.started := by
    rintro task u hu rfl
    rw [hs.unstarted _ le_rfl] at hu
    cases hu
  by_contra hno
  refine hready fun h hd => ?_
  rcases updates_cases d env p with ⟨hnone, -⟩ | ⟨h', hd', hcases⟩
  · cases hnone.symm.trans hd
  · obtain rfl : h' = h := Option.some.inj (hd'.symm.trans hd)
    rcases hcases with ⟨hconvs, hus⟩ | ⟨hconvs, c, hus⟩
    · rw [if_pos hconvs]
      intro task u hu
      by_contra hchunk
      obtain ⟨c, htask⟩ := (hs.left task).eq_chunk hu hchunk
      rw [hus] at hno
      have hpending : (s.start [.historySyncCompleted]).pending task = _ :=
        (HistoryTasks.start_pending_of_ne (hne task u hu)).trans htask
      exact hno (overtakes_of_completion (hne task u hu) HistoryTasks.start_pending_self hpending)
    · rw [if_neg hconvs]
      have hself : (s.start (p.updates d env)).pending s.started =
          [.historySync c, .historySyncCompleted] := by rw [HistoryTasks.start_pending_self, hus]
      refine ⟨fun u hu => ?_, fun task u hu => ?_⟩
      · by_contra hcompleted
        exact hno (overtakes_of_completed hu (by simpa using hcompleted) hself)
      · have htask : u ∈ (s.start (p.updates d env)).pending task := by
          rw [HistoryTasks.start_pending_of_ne (hne task u hu)]
          exact hu
        exact absurd (overtakes_of_pending hstarted (hne task u hu).symm htask hself) hno

/-! ## Every run -/

/-- While payloads with a chunk start before every completion, and payloads
without one when no chunk is left to send, no chunk follows a completion; and
if a payload starts otherwise, some run delivers a chunk after a completion. -/
theorem completed_last_of_ready (d : HistoryDecoder σ κ) (env : Surroundings)
    {as : List HistoryAction} {s : HistoryTasks κ}
    (h : ((historyTasks d env).restrict (HistoryTasks.Ready d env)).Run as s) :
    CompletedLast s.delivered ∧
      ∀ p : HistoryPayload, ¬ HistoryTasks.Ready d env s (.start p) →
        Overtakes d env (s.start (p.updates d env)) :=
  ⟨(HistoryTasks.Inv.of_run h).ordered, fun _ => overtakes_of_not_ready h.of_restrict⟩

/-- A payload with a chat. -/
def examplePayload : HistoryPayload := ⟨[9], none, none⟩

/-- One payload is delivered with its completion last. -/
theorem chunk_before_completed :
    letI := plainWacore
    ∃ as s, ((historyTasks exampleHistoryDecoder exampleSurroundings).restrict
        (HistoryTasks.Ready exampleHistoryDecoder exampleSurroundings)).Run as s ∧
      s.delivered.length = 2 ∧ CompletedLast s.delivered ∧
      ∀ p : HistoryPayload,
        ¬ HistoryTasks.Ready exampleHistoryDecoder exampleSurroundings s (.start p) →
          Overtakes exampleHistoryDecoder exampleSurroundings
            (s.start (p.updates exampleHistoryDecoder exampleSurroundings)) := by
  let _ := plainWacore
  have hstep : ∀ {s} (a) {t}, HistoryStep exampleHistoryDecoder exampleSurroundings s a t →
      HistoryTasks.Ready exampleHistoryDecoder exampleSurroundings s a →
      ((historyTasks exampleHistoryDecoder exampleSurroundings).restrict
        (HistoryTasks.Ready exampleHistoryDecoder exampleSurroundings)).step s a t :=
    fun _ _ h hready => ⟨h, hready⟩
  have hready : HistoryTasks.Ready exampleHistoryDecoder exampleSurroundings .new
      (.start examplePayload) := by
    intro h hd
    obtain rfl : exampleHistory = h := Option.some.inj hd
    have hconvs : syncedConversations exampleHistoryDecoder exampleSurroundings
        exampleHistory ≠ [] := List.cons_ne_nil _ _
    rw [if_neg hconvs]
    exact ⟨fun _ hu => (nomatch hu), fun _ _ hu => (nomatch hu)⟩
  have h0 := System.Run.start
    (show ((historyTasks exampleHistoryDecoder exampleSurroundings).restrict
      (HistoryTasks.Ready exampleHistoryDecoder exampleSurroundings)).init .new from rfl)
  have h1 := h0.tail (hstep _ (.start examplePayload) hready)
  have h2 := h1.tail (hstep (.send 0) (.send rfl) trivial)
  have h3 := h2.tail (hstep (.send 0) (.send rfl) trivial)
  exact ⟨_, _, h3, rfl, completed_last_of_ready _ _ h3⟩

/-- Of two payloads, the second is delivered behind the completion of the first. -/
theorem chunk_after_completed :
    letI := plainWacore
    ¬ ∀ (d : HistoryDecoder (List SenderKeyName) (Option String)) env as s,
      (historyTasks d env).Run as s → CompletedLast s.delivered := by
  let _ := plainWacore
  intro h
  have hstep : ∀ {s} (a) {t}, HistoryStep exampleHistoryDecoder exampleSurroundings s a t →
      (historyTasks exampleHistoryDecoder exampleSurroundings).step s a t := fun _ _ h => h
  have h0 := System.Run.start
    (show (historyTasks exampleHistoryDecoder exampleSurroundings).init .new from rfl)
  have h1 := h0.tail (hstep _ (.start examplePayload))
  have h2 := h1.tail (hstep _ (.start examplePayload))
  have h3 := h2.tail (hstep (.send 0) (.send rfl))
  have h4 := h3.tail (hstep (.send 0) (.send rfl))
  have h5 := h4.tail (hstep (.send 1) (.send rfl))
  have hlast := h _ _ _ _ h5
  have hchunk := (List.pairwise_append.mp hlast).2.2 .historySyncCompleted
    (List.mem_append_right _ (List.mem_singleton_self _)) _ (List.mem_singleton_self _)
  cases hchunk rfl

end Waepic.Client
