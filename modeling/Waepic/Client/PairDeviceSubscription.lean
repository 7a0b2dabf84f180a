import Waepic.Client.QrPairing

/-!
# The pair-device and its receiver

After a connection the server sends a pair-device on its own.  The runner
broadcasts it to the receivers that there are; `request_pairing` makes the
receiver of its task, which sees what is broadcast from then on.  While there is
no receiver at all the channel is closed, and stays closed.

The connection stays up, the client is not paired, and the stream is read.  Then
the task, left to run, settles; it has shown a QR code exactly if
`request_pairing` made its receiver before the pair-device was broadcast, on an
open channel (`pair_device_shown_iff`).
-/

namespace Waepic.Client

open Transition Binary Connection

/-! ## The system -/

section

variable [WacoreBinary]

/-- The refs that an event brings. -/
def RawEvent.refs : RawEvent → Option (List String)
  | .node n => if isPairDeviceNode n then extractPairDeviceRefs n else none
  | _ => none

end

/-- A connection that is up, and the task of `request_pairing` with the events
that are queued for its receiver. -/
structure PairingRace (ρ : Type) where
  closed : Bool
  /-- The server's pair-device was broadcast. -/
  sent : Bool
  task : Option (QrTask ρ × List RawEvent)

namespace PairingRace

variable {ρ : Type}

/-- An event is broadcast. -/
def broadcast (s : PairingRace ρ) (e : RawEvent) : PairingRace ρ :=
  if s.closed then s else { s with task := s.task.map fun (q, queue) => (q, queue ++ [e]) }

def setTask (s : PairingRace ρ) (q : QrTask ρ) (queue : List RawEvent) : PairingRace ρ :=
  { s with task := some (q, queue) }

variable (s : PairingRace ρ) (e : RawEvent)

@[simp] theorem broadcast_sent : (s.broadcast e).sent = s.sent := by
  simp only [broadcast]
  split <;> rfl

@[simp] theorem broadcast_closed : (s.broadcast e).closed = s.closed := by
  simp only [broadcast]
  split <;> rfl

theorem broadcast_none (h : s.task = none) : (s.broadcast e).task = none := by
  simp only [broadcast]
  split <;> simp [h]

/-- On an open channel the event is queued. -/
theorem broadcast_some {q : QrTask ρ} {queue : List RawEvent} (h : s.task = some (q, queue)) :
    (s.broadcast e).task = some (q, if s.closed then queue else queue ++ [e]) := by
  simp only [broadcast]
  split <;> simp [h]

end PairingRace

inductive RaceAction (ρ : Type) where
  /-- Another event is broadcast. -/
  | broadcast (e : RawEvent)
  /-- The server's pair-device is broadcast. -/
  | pairDevice (e : RawEvent)
  /-- The last receiver is dropped. -/
  | close
  /-- `request_pairing` returns `Ok`. -/
  | request
  /-- The task takes an event. -/
  | recv (outcomes : PairOutcomes)
  /-- The task finds the channel closed. -/
  | recvClosed (outcomes : PairOutcomes)
  /-- `is_already_paired` returns. -/
  | loaded (ok : Bool)
  | deadline
  /-- Others leave the session so. -/
  | stored (session : PairSession ρ)

namespace RaceAction

variable {ρ : Type}

/-- The task takes the step. -/
def IsTask : RaceAction ρ → Prop
  | recv _ | recvClosed _ | loaded _ => True
  | _ => False

/-- A receiver that is made later has missed it. -/
def IsMissed : RaceAction ρ → Prop
  | pairDevice _ | close => True
  | _ => False

end RaceAction

variable [WacoreBinary] {ρ : Type}

inductive RaceStep (w : QrWacore ρ) : PairingRace ρ → RaceAction ρ → PairingRace ρ → Prop where
  | broadcast {s : PairingRace ρ} {e : RawEvent} :
      e.refs = none → e ≠ .disconnected → RaceStep w s (.broadcast e) (s.broadcast e)
  | pairDevice {s : PairingRace ρ} {e : RawEvent} :
      s.sent = false → e.refs ≠ none →
      RaceStep w s (.pairDevice e) { s.broadcast e with sent := true }
  | close {s : PairingRace ρ} :
      (∀ q queue, s.task = some (q, queue) → q.ended = true) →
      RaceStep w s .close { s with closed := true }
  | request {s : PairingRace ρ} {loaded : Except String (Option (PairingDevice ρ))}
      {hasSender flag : Bool} {session : PairSession ρ} {q : QrTask ρ} :
      s.task = none → session.isAuthorized = false →
      requestPairing loaded hasSender session flag = .ok q →
      RaceStep w s .request (s.setTask q [])
  | recv {s : PairingRace ρ} {q q' : QrTask ρ} {e : RawEvent} {queue : List RawEvent}
      {o : PairOutcomes} :
      s.task = some (q, e :: queue) → q.step w (.recv (.ok e) o) = some q' →
      RaceStep w s (.recv o) (s.setTask q' queue)
  | recvClosed {s : PairingRace ρ} {q q' : QrTask ρ} {o : PairOutcomes} :
      s.task = some (q, []) → s.closed = true →
      q.step w (.recv (.error .closed) o) = some q' →
      RaceStep w s (.recvClosed o) (s.setTask q' [])
  | loaded {s : PairingRace ρ} {q q' : QrTask ρ} {queue : List RawEvent} {ok : Bool} :
      s.task = some (q, queue) → q.step w (.loaded ok) = some q' →
      RaceStep w s (.loaded ok) (s.setTask q' queue)
  | deadline {s : PairingRace ρ} {q q' : QrTask ρ} {queue : List RawEvent} :
      s.task = some (q, queue) → q.step w .deadline = some q' →
      RaceStep w s .deadline (s.setTask q' queue)
  /-- Others do not pair the client. -/
  | stored {s : PairingRace ρ} {q q' : QrTask ρ} {queue : List RawEvent}
      {session : PairSession ρ} :
      s.task = some (q, queue) → session.isAuthorized = false →
      q.step w (.stored session) = some q' →
      RaceStep w s (.stored session) (s.setTask q' queue)

/-- The runs on a connection that stays up. -/
def pairingRaces (w : QrWacore ρ) : System (PairingRace ρ) (RaceAction ρ) where
  init s := s.sent = false ∧ s.task = none ∧ s.closed = false
  step := RaceStep w

/-- Only the task goes on. -/
def taskRuns (w : QrWacore ρ) : System (PairingRace ρ) (RaceAction ρ) :=
  (pairingRaces w).restrict fun _ a => a.IsTask

/-! ## Shown -/

/-- The stream has a QR code. -/
def QrTask.Shown (q : QrTask ρ) : Prop := ∃ code timeout, PairEvent.qrCode code timeout ∈ q.events

/-- The task can take no step but a deadline: it has nothing to take, or has returned. -/
def PairingRace.Settled (s : PairingRace ρ) : Prop :=
  ∀ q queue, s.task = some (q, queue) →
    q.ended = true ∨ queue = [] ∧ s.closed = false ∧ ∀ i code rest, q.phase ≠ .next i code rest

def PairingRace.Shown (s : PairingRace ρ) : Prop := ∀ q queue, s.task = some (q, queue) → q.Shown

/-- The receiver is made on an open channel before the pair-device. -/
def SubscribedFirst (as : List (RaceAction ρ)) : Prop :=
  ∃ before after, as = before ++ .request :: after ∧ ∀ a ∈ before, ¬ a.IsMissed

section Race

variable {w : QrWacore ρ} {as bs : List (RaceAction ρ)} {a : RaceAction ρ} {s t : PairingRace ρ}
  {q q' : QrTask ρ} {queue : List RawEvent}

section Subscribed

omit [WacoreBinary]

theorem SubscribedFirst.append (h : SubscribedFirst as) (bs : List (RaceAction ρ)) :
    SubscribedFirst (as ++ bs) := by
  obtain ⟨before, after, rfl, hbefore⟩ := h
  exact ⟨before, after ++ bs, by simp, hbefore⟩

/-- What follows makes no other receiver. -/
theorem SubscribedFirst.of_append (hbs : .request ∉ bs) (h : SubscribedFirst (as ++ bs)) :
    SubscribedFirst as := by
  obtain ⟨before, after, heq, hbefore⟩ := h
  rcases List.append_eq_append_iff.mp heq with ⟨rest, -, hrest⟩ | ⟨rest, has, hrest⟩
  · rw [hrest] at hbs
    exact (hbs (List.mem_append_right _ (List.mem_cons_self ..))).elim
  · cases rest with
    | nil =>
        rw [List.nil_append] at hrest
        rw [← hrest] at hbs
        exact (hbs (List.mem_cons_self ..)).elim
    | cons b rest =>
        obtain ⟨rfl, -⟩ := List.cons.inj hrest
        exact ⟨before, rest, has, hbefore⟩

/-- At the first `request_pairing`. -/
theorem subscribedFirst_request (has : .request ∉ as) :
    SubscribedFirst (as ++ [.request]) ↔ ∀ a ∈ as, ¬ a.IsMissed := by
  constructor
  · rintro ⟨before, after, heq, hbefore⟩
    rcases List.append_eq_append_iff.mp heq with ⟨rest, rfl, -⟩ | ⟨rest, rfl, hrest⟩
    · exact fun a ha => hbefore a (List.mem_append_left _ ha)
    · cases rest with
      | nil => simpa using hbefore
      | cons b rest =>
          obtain ⟨rfl, -⟩ := List.cons.inj hrest
          exact absurd (by simp) has
  · exact fun hbefore => ⟨as, [], rfl, hbefore⟩

end Subscribed

/-! ### The task -/

section Task

omit [WacoreBinary] in
theorem send_keeps_events (q : QrTask ρ) (e : PairEvent) : q.events <+: (q.send e).events := by
  simp only [QrTask.send]
  split
  · exact List.prefix_refl _
  · exact List.prefix_append _ _

omit [WacoreBinary] in
theorem nextCode_keeps_events (q : QrTask ρ) (i : Nat) (codes : List String) :
    q.events <+: (q.nextCode i codes).events := by
  cases codes with
  | nil => exact send_keeps_events q _
  | cons code rest => exact List.prefix_refl _

theorem onWaiting_keeps_events (q : QrTask ρ) (o : PairOutcomes) (r : Except RecvError RawEvent) :
    q.events <+: (q.onWaiting w o r).events := by
  simp only [QrTask.onWaiting]
  split
  · next n =>
      have hack : (q.acknowledge o n).events = q.events := (acknowledge_same q o n).2.2.1
      split
      · split
        · rw [hack]
        · rw [← hack]
          exact nextCode_keeps_events _ _ _
      · exact List.prefix_refl _
  all_goals exact List.prefix_refl _

theorem onShowing_keeps_events (q : QrTask ρ) (o : PairOutcomes) (r : Except RecvError RawEvent) :
    q.events <+: (q.onShowing w o r).events := by
  simp only [QrTask.onShowing]
  split
  · split
    · split
      · next session _ =>
          exact send_keeps_events { q with session, postPairReconnect := true } .success
      · next e session _ =>
          exact send_keeps_events { q with session, postPairReconnect := false }
            (.error (.pairing e))
    · exact List.prefix_refl _
  · exact send_keeps_events q _
  · exact send_keeps_events q _
  all_goals exact List.prefix_refl _

omit [WacoreBinary] in
theorem showCode_keeps_events (q : QrTask ρ) (i : Nat) (code : String) (rest : List String)
    (ok : Bool) : q.events <+: (q.showCode i code rest ok).events := by
  simp only [QrTask.showCode]
  split
  · exact send_keeps_events q _
  · split
    · exact List.prefix_refl _
    · exact send_keeps_events q _

/-- The stream keeps what it has. -/
theorem step_keeps_events {input : QrInput ρ} (h : q.step w input = some q') :
    q.events <+: q'.events := by
  cases input with
  | stored session | dropStream =>
      cases h
      exact List.prefix_refl _
  | recv r o =>
      rw [QrTask.step] at h
      split at h
      · cases h
        exact onWaiting_keeps_events q o r
      · cases h
        exact onShowing_keeps_events q o r
      · cases h
  | deadline =>
      rw [QrTask.step] at h
      split at h
      · cases h
        exact nextCode_keeps_events q _ _
      · cases h
  | loaded ok =>
      rw [QrTask.step] at h
      split at h
      · cases h
        exact showCode_keeps_events q _ _ _ ok
      · cases h

theorem QrTask.Shown.step {input : QrInput ρ} (hq : q.Shown) (h : q.step w input = some q') :
    q'.Shown := by
  obtain ⟨code, timeout, hcode⟩ := hq
  exact ⟨code, timeout, (step_keeps_events h).subset hcode⟩

theorem acknowledge_isAuthorized (q : QrTask ρ) (o : PairOutcomes) (n : Node) :
    (q.acknowledge o n).session.isAuthorized = q.session.isAuthorized := by
  simp only [QrTask.acknowledge]
  split
  · rfl
  · split <;> rfl

/-- An event without refs leaves a task waiting. -/
theorem onWaiting_of_refs_none {e : RawEvent} (hrefs : e.refs = none) (he : e ≠ .disconnected)
    (o : PairOutcomes) :
    (q.onWaiting w o (.ok e)).phase = q.phase ∧ (q.onWaiting w o (.ok e)).events = q.events ∧
      (q.onWaiting w o (.ok e)).dropped = q.dropped ∧
      (q.onWaiting w o (.ok e)).session.isAuthorized = q.session.isAuthorized := by
  cases e with
  | disconnected => exact absurd rfl he
  | connected => exact ⟨rfl, rfl, rfl, rfl⟩
  | error text => exact ⟨rfl, rfl, rfl, rfl⟩
  | node n =>
      rw [RawEvent.refs] at hrefs
      rw [QrTask.onWaiting]
      split
      · next hdevice =>
          rw [if_pos hdevice] at hrefs
          rw [hrefs]
          obtain ⟨hphase, -, hevents, hdropped⟩ := acknowledge_same q o n
          exact ⟨hphase, hevents, hdropped, acknowledge_isAuthorized q o n⟩
      · exact ⟨rfl, rfl, rfl, rfl⟩

theorem node_of_refs {e : RawEvent} (h : e.refs ≠ none) :
    ∃ n r refs, e = .node n ∧ isPairDeviceNode n = true ∧
      extractPairDeviceRefs n = some (r :: refs) := by
  cases e with
  | disconnected | connected | error text => exact absurd rfl h
  | node n =>
      rw [RawEvent.refs] at h
      split at h
      · next hdevice =>
          obtain ⟨refs, hextract⟩ := Option.ne_none_iff_exists'.mp h
          cases refs with
          | nil => exact absurd rfl (extractPairDeviceRefs_ne_nil hextract)
          | cons r refs => exact ⟨n, r, refs, rfl, hdevice, hextract⟩
      · exact absurd rfl h

/-- Refs take a waiting task to its first code. -/
theorem onWaiting_of_refs {e : RawEvent} (hrefs : e.refs ≠ none) (o : PairOutcomes) :
    (∃ code rest, (q.onWaiting w o (.ok e)).phase = .next 0 code rest) ∧
      (q.onWaiting w o (.ok e)).dropped = q.dropped ∧
      (q.onWaiting w o (.ok e)).session.isAuthorized = q.session.isAuthorized := by
  obtain ⟨n, r, refs, rfl, hdevice, hextract⟩ := node_of_refs hrefs
  refine ⟨?_, onWaiting_dropped q o _, ?_⟩
  · rw [QrTask.onWaiting, if_pos hdevice, hextract]
    exact ⟨_, _, rfl⟩
  · rw [QrTask.onWaiting, if_pos hdevice, hextract]
    exact acknowledge_isAuthorized q o n

/-- A task that has returned takes nothing more. -/
theorem not_ended_of_step {input : QrInput ρ} (h : q.step w input = some q')
    (hstored : ∀ session, input ≠ .stored session) (hdrop : input ≠ .dropStream) :
    ¬ q.ended = true := by
  intro hended
  simp only [QrTask.ended] at hended
  split at hended
  · next r hphase =>
      cases input with
      | recv | deadline | loaded =>
          rw [QrTask.step, hphase] at h
          cases h
      | stored session => exact hstored session rfl
      | dropStream => exact hdrop rfl
  · cases hended

omit [WacoreBinary] in
/-- The first code is shown. -/
theorem showCode_shown {i : Nat} {code : String} {rest : List String} (ok : Bool)
    (hauth : q.session.isAuthorized = false) (hopen : q.dropped = false) :
    (q.showCode i code rest ok).Shown := by
  rw [QrTask.showCode, hauth, Bool.and_false, hopen]
  refine ⟨code, timeoutSecs i, ?_⟩
  show _ ∈ (q.send (.qrCode code (timeoutSecs i))).events
  rw [send_events _ hopen]
  exact List.mem_append_right _ (List.mem_singleton_self _)

end Task

/-! ### The race -/

section Invariant

/-- What a history says of the race. -/
inductive RaceInv (as : List (RaceAction ρ)) (s : PairingRace ρ) : Prop where
  | idle :
      s.task = none → .request ∉ as → (s.sent = true ∨ s.closed = true ↔ ∃ a ∈ as, a.IsMissed) →
      RaceInv as s
  /-- The pair-device comes, or is queued. -/
  | waiting {q : QrTask ρ} {queue : List RawEvent} :
      s.task = some (q, queue) → SubscribedFirst as → s.closed = false → q.phase = .waiting →
      q.session.isAuthorized = false → q.dropped = false → .disconnected ∉ queue →
      (s.sent = true → ∃ e ∈ queue, e.refs ≠ none) → RaceInv as s
  | next {q : QrTask ρ} {queue : List RawEvent} {code : String} {rest : List String} :
      s.task = some (q, queue) → SubscribedFirst as → q.phase = .next 0 code rest →
      q.session.isAuthorized = false → q.dropped = false → RaceInv as s
  | shown {q : QrTask ρ} {queue : List RawEvent} :
      s.task = some (q, queue) → SubscribedFirst as → q.Shown → RaceInv as s
  /-- The pair-device does not come. -/
  | missed {q : QrTask ρ} {queue : List RawEvent} :
      s.task = some (q, queue) → ¬ SubscribedFirst as → s.sent = true ∨ s.closed = true →
      q.events = [] → (∀ e ∈ queue, e.refs = none ∧ e ≠ .disconnected) →
      q.phase = .waiting ∨ q.ended = true → RaceInv as s

omit [WacoreBinary] in
theorem requestPairing_eq {loaded : Except String (Option (PairingDevice ρ))}
    {hasSender flag : Bool} {session : PairSession ρ}
    (h : requestPairing loaded hasSender session flag = .ok q) :
    q.phase = .waiting ∧ q.session = session ∧ q.dropped = false ∧ q.events = [] := by
  simp only [requestPairing] at h
  split at h
  · cases h
  · cases h
  · split at h
    · cases h
      exact ⟨rfl, rfl, rfl, rfl⟩
    · cases h

/-- Before `request_pairing`. -/
theorem RaceInv.step_idle (htask : s.task = none) (hreq : .request ∉ as)
    (hmissed : s.sent = true ∨ s.closed = true ↔ ∃ a ∈ as, a.IsMissed)
    (hstep : RaceStep w s a t) : RaceInv (as ++ [a]) t := by
  cases hstep with
  | @broadcast e hrefs he =>
      refine .idle (s.broadcast_none e htask) (by simpa using hreq) ?_
      simpa [RaceAction.IsMissed] using hmissed
  | @pairDevice e hsent hrefs =>
      refine .idle (s.broadcast_none e htask) (by simpa using hreq) (iff_of_true (.inl rfl) ?_)
      exact ⟨_, List.mem_append_right _ (List.mem_singleton_self _), trivial⟩
  | close hended =>
      refine .idle htask (by simpa using hreq) (iff_of_true (.inr rfl) ?_)
      exact ⟨_, List.mem_append_right _ (List.mem_singleton_self _), trivial⟩
  | @request loaded hasSender flag session q _ hauth hq =>
      obtain ⟨hphase, hsession, hopen, hevents⟩ := requestPairing_eq hq
      have hfirst := subscribedFirst_request hreq
      by_cases hlate : s.sent = true ∨ s.closed = true
      · refine .missed rfl ?_ hlate hevents (by simp) (.inl hphase)
        rw [hfirst]
        obtain ⟨a, ha, hmiss⟩ := hmissed.mp hlate
        exact fun hnone => hnone a ha hmiss
      · obtain ⟨hsent, hclosed⟩ := not_or.mp hlate
        refine .waiting rfl ?_ (Bool.eq_false_of_not_eq_true hclosed) hphase (hsession ▸ hauth)
          hopen (by simp) (fun h => absurd h hsent)
        rw [hfirst]
        exact fun a ha hmiss => hlate (hmissed.mpr ⟨a, ha, hmiss⟩)
  | recv h | recvClosed h | loaded h | deadline h | stored h =>
      rw [htask] at h
      cases h

/-- While the task waits for a pair-device. -/
theorem RaceInv.step_waiting (htask : s.task = some (q, queue)) (hfirst : SubscribedFirst as)
    (hclosed : s.closed = false) (hphase : q.phase = .waiting)
    (hauth : q.session.isAuthorized = false) (hopen : q.dropped = false)
    (hqueue : .disconnected ∉ queue) (hcomes : s.sent = true → ∃ e ∈ queue, e.refs ≠ none)
    (hstep : RaceStep w s a t) : RaceInv (as ++ [a]) t := by
  have hfirst' := hfirst.append [a]
  cases hstep with
  | @broadcast e hrefs he =>
      have htask' := s.broadcast_some e htask
      rw [hclosed, if_neg Bool.false_ne_true] at htask'
      refine .waiting htask' hfirst' (by simpa using hclosed) hphase hauth hopen ?_ ?_
      · simpa [hqueue] using he.symm
      · rw [PairingRace.broadcast_sent]
        intro hsent
        obtain ⟨e', he', hrefs'⟩ := hcomes hsent
        exact ⟨e', List.mem_append_left _ he', hrefs'⟩
  | @pairDevice e hsent hrefs =>
      have htask' := s.broadcast_some e htask
      rw [hclosed, if_neg Bool.false_ne_true] at htask'
      refine .waiting htask' hfirst' (by simpa using hclosed) hphase hauth hopen ?_ ?_
      · have he : e ≠ .disconnected := by
          rintro rfl
          exact hrefs rfl
        simpa [hqueue] using he.symm
      · exact fun _ => ⟨e, List.mem_append_right _ (List.mem_singleton_self _), hrefs⟩
  | close hended =>
      have hended' := hended q queue htask
      rw [QrTask.ended, hphase] at hended'
      cases hended'
  | request hnone =>
      rw [htask] at hnone
      cases hnone
  | @recv _ q' e queue' o h hq =>
      rw [htask] at h
      cases h
      rw [QrTask.step, hphase] at hq
      cases hq
      obtain ⟨hne, hrest⟩ := not_or.mp (mt List.mem_cons.mpr hqueue)
      by_cases hrefs : e.refs = none
      · obtain ⟨hphase', -, hopen', hauth'⟩ := onWaiting_of_refs_none hrefs (Ne.symm hne) o
        refine .waiting rfl hfirst' hclosed (hphase'.trans hphase) (hauth'.trans hauth)
          (hopen'.trans hopen) hrest ?_
        intro hsent
        obtain ⟨e', he', hrefs'⟩ := hcomes hsent
        rcases List.mem_cons.mp he' with rfl | he'
        · exact absurd hrefs hrefs'
        · exact ⟨e', he', hrefs'⟩
      · obtain ⟨⟨code, rest, hphase'⟩, hopen', hauth'⟩ := onWaiting_of_refs hrefs o
        exact .next rfl hfirst' hphase' (hauth'.trans hauth) (hopen'.trans hopen)
  | recvClosed h hc =>
      rw [hclosed] at hc
      cases hc
  | loaded h hq | deadline h hq =>
      rw [htask] at h
      cases h
      rw [QrTask.step, hphase] at hq
      cases hq
  | stored h hsession hq =>
      rw [htask] at h
      cases h
      cases hq
      exact .waiting rfl hfirst' hclosed hphase hsession hopen hqueue hcomes

/-- Before the first code. -/
theorem RaceInv.step_next {code : String} {rest : List String} (htask : s.task = some (q, queue))
    (hfirst : SubscribedFirst as) (hphase : q.phase = .next 0 code rest)
    (hauth : q.session.isAuthorized = false) (hopen : q.dropped = false)
    (hstep : RaceStep w s a t) : RaceInv (as ++ [a]) t := by
  have hfirst' := hfirst.append [a]
  cases hstep with
  | broadcast | pairDevice => exact .next (s.broadcast_some _ htask) hfirst' hphase hauth hopen
  | close => exact .next htask hfirst' hphase hauth hopen
  | request hnone =>
      rw [htask] at hnone
      cases hnone
  | recv h hq | recvClosed h _ hq | deadline h hq =>
      rw [htask] at h
      cases h
      rw [QrTask.step, hphase] at hq
      cases hq
  | @loaded _ _ _ ok h hq =>
      rw [htask] at h
      cases h
      rw [QrTask.step, hphase] at hq
      cases hq
      exact .shown rfl hfirst' (showCode_shown ok hauth hopen)
  | stored h hsession hq =>
      rw [htask] at h
      cases h
      cases hq
      exact .next rfl hfirst' hphase hsession hopen

/-- A code that is shown stays on the stream. -/
theorem RaceInv.step_shown (htask : s.task = some (q, queue)) (hfirst : SubscribedFirst as)
    (hshown : q.Shown) (hstep : RaceStep w s a t) : RaceInv (as ++ [a]) t := by
  have hfirst' := hfirst.append [a]
  cases hstep with
  | broadcast | pairDevice => exact .shown (s.broadcast_some _ htask) hfirst' hshown
  | close => exact .shown htask hfirst' hshown
  | request hnone =>
      rw [htask] at hnone
      cases hnone
  | recv h hq | recvClosed h _ hq | loaded h hq | deadline h hq | stored h _ hq =>
      rw [htask] at h
      cases h
      exact .shown rfl hfirst' (hshown.step hq)

/-- After the pair-device is missed. -/
theorem RaceInv.step_missed (htask : s.task = some (q, queue)) (hlate : ¬ SubscribedFirst as)
    (hgone : s.sent = true ∨ s.closed = true) (hevents : q.events = [])
    (hqueue : ∀ e ∈ queue, e.refs = none ∧ e ≠ .disconnected)
    (hphase : q.phase = .waiting ∨ q.ended = true) (hstep : RaceStep w s a t) :
    RaceInv (as ++ [a]) t := by
  have hlate' : a ≠ .request → ¬ SubscribedFirst (as ++ [a]) := by
    intro ha hfirst
    exact hlate (hfirst.of_append (by simpa using ha.symm))
  cases hstep with
  | @broadcast e hrefs he =>
      refine .missed (s.broadcast_some _ htask) (hlate' (by simp)) (by simpa using hgone) hevents ?_
        hphase
      split
      · exact hqueue
      · intro e' he'
        rcases List.mem_append.mp he' with he' | he'
        · exact hqueue e' he'
        · rw [List.mem_singleton.mp he']
          exact ⟨hrefs, he⟩
  | @pairDevice e hsent hrefs =>
      -- The channel is closed, or the pair-device would be the second.
      have hclosed : s.closed = true := hgone.resolve_left (by simp [hsent])
      have htask' := s.broadcast_some e htask
      rw [if_pos hclosed] at htask'
      exact .missed htask' (hlate' (by simp)) (.inl rfl) hevents hqueue hphase
  | close => exact .missed htask (hlate' (by simp)) (.inr rfl) hevents hqueue hphase
  | request hnone =>
      rw [htask] at hnone
      cases hnone
  | @recv _ q' e queue' o h hq =>
      rw [htask] at h
      cases h
      have hwait := hphase.resolve_right (not_ended_of_step hq (by simp) (by simp))
      rw [QrTask.step, hwait] at hq
      cases hq
      obtain ⟨hrefs, he⟩ := hqueue e (List.mem_cons_self ..)
      obtain ⟨hphase', hevents', -⟩ := onWaiting_of_refs_none (w := w) hrefs he o
      exact .missed rfl (hlate' (by simp)) hgone (hevents'.trans hevents)
        (fun e' he' => hqueue e' (List.mem_cons_of_mem _ he')) (.inl (hphase'.trans hwait))
  | recvClosed h hclosed hq =>
      rw [htask] at h
      cases h
      have hwait := hphase.resolve_right (not_ended_of_step hq (by simp) (by simp))
      rw [QrTask.step, hwait] at hq
      cases hq
      exact .missed rfl (hlate' (by simp)) hgone hevents hqueue (.inr rfl)
  | loaded h hq | deadline h hq =>
      rw [htask] at h
      cases h
      have hwait := hphase.resolve_right (not_ended_of_step hq (by simp) (by simp))
      rw [QrTask.step, hwait] at hq
      cases hq
  | stored h hsession hq =>
      rw [htask] at h
      cases h
      cases hq
      exact .missed rfl (hlate' (by simp)) hgone hevents hqueue hphase

theorem RaceInv.step (h : RaceInv as s) (hstep : RaceStep w s a t) : RaceInv (as ++ [a]) t := by
  cases h with
  | idle htask hreq hmissed => exact .step_idle htask hreq hmissed hstep
  | waiting htask hfirst hclosed hphase hauth hopen hqueue hcomes =>
      exact .step_waiting htask hfirst hclosed hphase hauth hopen hqueue hcomes hstep
  | next htask hfirst hphase hauth hopen => exact .step_next htask hfirst hphase hauth hopen hstep
  | shown htask hfirst hshown => exact .step_shown htask hfirst hshown hstep
  | missed htask hlate hgone hevents hqueue hphase =>
      exact .step_missed htask hlate hgone hevents hqueue hphase hstep

theorem RaceInv.run (h : (pairingRaces w).Run as s) : RaceInv as s := by
  refine h.history_invariant ?_ ?_
  · rintro s ⟨hsent, htask, hclosed⟩
    exact .idle htask (by simp) (by simp [hsent, hclosed])
  · intro as s a t _ ih hstep
    exact ih.step hstep

/-- Where the task settles, the history says whether it has shown a code. -/
theorem RaceInv.shown_iff (h : RaceInv as s) (htask : s.task = some (q, queue))
    (hsent : s.sent = true) (hsettled : s.Settled) : s.Shown ↔ SubscribedFirst as := by
  cases h with
  | idle hnone =>
      rw [htask] at hnone
      cases hnone
  | @waiting q queue htask hfirst _ hphase _ _ _ hcomes =>
      obtain ⟨e, he, -⟩ := hcomes hsent
      rcases hsettled q queue htask with hended | ⟨hempty, -⟩
      · rw [QrTask.ended, hphase] at hended
        cases hended
      · rw [hempty] at he
        cases he
  | @next q queue code rest htask hfirst hphase =>
      rcases hsettled q queue htask with hended | ⟨-, -, hphase'⟩
      · rw [QrTask.ended, hphase] at hended
        cases hended
      · exact absurd hphase (hphase' 0 code rest)
  | @shown q queue htask' hfirst hshown =>
      refine iff_of_true ?_ hfirst
      intro q' queue' h
      rw [htask'] at h
      cases h
      exact hshown
  | @missed q queue htask' hlate _ hevents =>
      refine iff_of_false ?_ hlate
      intro hshown
      obtain ⟨code, timeout, hcode⟩ := hshown q queue htask'
      rw [hevents] at hcode
      cases hcode

end Invariant

/-! ### Settling -/

section Settling

omit [WacoreBinary] in
/-- `is_already_paired` returns only once. -/
theorem showCode_phase (q : QrTask ρ) (i : Nat) (code : String) (rest : List String) (ok : Bool) :
    ∀ i' code' rest', (q.showCode i code rest ok).phase ≠ .next i' code' rest' := by
  intro i' code' rest'
  simp only [QrTask.showCode]
  split
  · simp [QrTask.finish]
  · split <;> simp [QrTask.finish]

/-- A task that has not returned takes what its receiver has. -/
theorem receives (hnext : ∀ i code rest, q.phase ≠ .next i code rest) (hended : q.ended = false)
    (r : Except RecvError RawEvent) (o : PairOutcomes) : ∃ q', q.step w (.recv r o) = some q' := by
  simp only [QrTask.ended] at hended
  cases hphase : q.phase with
  | waiting | showing i rest =>
      rw [QrTask.step, hphase]
      exact ⟨_, rfl⟩
  | next i code rest => exact absurd hphase (hnext i code rest)
  | returned r =>
      rw [hphase] at hended
      cases hended

/-- A closed channel ends the task. -/
theorem ended_of_closed {o : PairOutcomes} (h : q.step w (.recv (.error .closed) o) = some q') :
    q'.ended = true := by
  rw [QrTask.step] at h
  split at h
  · cases h
    rfl
  · cases h
    rfl
  · cases h

omit [WacoreBinary] in
theorem settled_of_ended (htask : s.task = some (q, queue)) (hended : q.ended = true) :
    s.Settled := by
  intro q' queue' h
  rw [htask] at h
  cases h
  exact .inl hended

/-- A task at `is_already_paired` comes to its receiver. -/
theorem canSettle_of_receiver
    (hreceiver : ∀ (q : QrTask ρ) (s : PairingRace ρ), s.task = some (q, queue) →
      (∀ i code rest, q.phase ≠ .next i code rest) →
      (taskRuns w).CanReach PairingRace.Settled s)
    (htask : s.task = some (q, queue)) : (taskRuns w).CanReach PairingRace.Settled s := by
  by_cases hnext : ∃ i code rest, q.phase = .next i code rest
  · obtain ⟨i, code, rest, hphase⟩ := hnext
    have hq : q.step w (.loaded true) = some (q.showCode i code rest true) := by
      rw [QrTask.step, hphase]
    exact .of_step ⟨.loaded htask hq, trivial⟩
      (hreceiver _ _ rfl (showCode_phase q i code rest true))
  · exact hreceiver q s htask fun i code rest h => hnext ⟨i, code, rest, h⟩

/-- Left to run, the task settles. -/
theorem canSettle (s : PairingRace ρ) (htask : s.task = some (q, queue)) :
    (taskRuns w).CanReach PairingRace.Settled s := by
  induction queue generalizing q s with
  | nil =>
      refine canSettle_of_receiver ?_ htask
      intro q s htask hnext
      cases hended : q.ended with
      | true => exact .here (settled_of_ended htask hended)
      | false =>
          cases hclosed : s.closed with
          | true =>
              obtain ⟨q', hq⟩ := receives hnext hended (.error .closed) noFailures
              exact .of_step (t := s.setTask q' []) ⟨.recvClosed htask hclosed hq, trivial⟩
                (.here (settled_of_ended rfl (ended_of_closed hq)))
          | false =>
              refine .here ?_
              intro q' queue' h
              rw [htask] at h
              cases h
              exact .inr ⟨rfl, hclosed, hnext⟩
  | cons e queue ih =>
      refine canSettle_of_receiver ?_ htask
      intro q s htask hnext
      cases hended : q.ended with
      | true => exact .here (settled_of_ended htask hended)
      | false =>
          obtain ⟨q', hq⟩ := receives hnext hended (.ok e) noFailures
          exact .of_step ⟨.recv htask hq, trivial⟩ (ih _ rfl)

/-- The steps of the task keep what was sent, and make no receiver. -/
theorem taskRuns_steps (h : (taskRuns w).Steps s bs t) (htask : s.task = some (q, queue)) :
    t.sent = s.sent ∧ (∃ q' queue', t.task = some (q', queue')) ∧ .request ∉ bs := by
  induction h with
  | refl => exact ⟨rfl, ⟨q, queue, htask⟩, by simp⟩
  | @tail t u bs a _ hstep ih =>
      obtain ⟨hsent, -, hbs⟩ := ih
      obtain ⟨hstep, hown⟩ := hstep
      cases hstep with
      | recv | recvClosed | loaded => exact ⟨hsent, ⟨_, _, rfl⟩, by simpa using hbs⟩
      | broadcast | pairDevice | close | request | deadline | stored => cases hown

/-- A connection stays up that brings its pair-device, and the client is not
paired: the task, left to run, settles, and has then shown a QR code exactly if
its receiver was made first. -/
theorem pair_device_shown_iff (w : QrWacore ρ) (as : List (RaceAction ρ)) (s : PairingRace ρ)
    (hrun : (pairingRaces w).Run as s) (hsent : s.sent = true) (htask : s.task ≠ none) :
    (taskRuns w).CanReach PairingRace.Settled s ∧
      ∀ bs t, (taskRuns w).Steps s bs t → t.Settled → (t.Shown ↔ SubscribedFirst as) := by
  obtain ⟨⟨q, queue⟩, htask⟩ := Option.ne_none_iff_exists'.mp htask
  refine ⟨canSettle s htask, ?_⟩
  intro bs t hsteps hsettled
  obtain ⟨hsame, ⟨q', queue', htask'⟩, hbs⟩ := taskRuns_steps hsteps htask
  have hinv : RaceInv (as ++ bs) t := .run (hrun.append hsteps.of_restrict)
  rw [hinv.shown_iff htask' (hsame.trans hsent) hsettled]
  exact ⟨SubscribedFirst.of_append hbs, fun hfirst => hfirst.append bs⟩

end Settling

end Race

/-! ## Runs -/

section Runs

omit [WacoreBinary]

/-- A connection that is up. -/
def upRace : PairingRace Unit := ⟨false, false, none⟩

theorem requestPairing_unpaired : requestPairing (.ok (some unpairedDevice)) true
    unpairedTask.session false = .ok unpairedTask := rfl

/-- The receiver is there when the pair-device comes. -/
theorem pair_device_shown_subscribed :
    letI := plainWacore
    ∃ s, (pairingRaces plainQrWacore).Run [.request, .pairDevice (.node pairDeviceIq)] s ∧
      s.sent = true ∧ (taskRuns plainQrWacore).CanReach PairingRace.Settled s ∧
      ∀ bs t, (taskRuns plainQrWacore).Steps s bs t → t.Settled → t.Shown := by
  let _ := plainWacore
  have hstep : ∀ {as s} (_ : (pairingRaces plainQrWacore).Run as s) (a) {t},
      RaceStep plainQrWacore s a t → (pairingRaces plainQrWacore).step s a t := fun _ _ _ h => h
  have h0 : (pairingRaces plainQrWacore).Run [] upRace := System.Run.start ⟨rfl, rfl, rfl⟩
  have h1 := h0.tail (hstep h0 .request (.request rfl rfl requestPairing_unpaired))
  have hrefs : RawEvent.refs (.node pairDeviceIq) ≠ none := by decide
  have h2 := h1.tail (hstep h1 (.pairDevice (.node pairDeviceIq)) (.pairDevice rfl hrefs))
  obtain ⟨hsettles, hshown⟩ := pair_device_shown_iff plainQrWacore _ _ h2 rfl nofun
  refine ⟨_, h2, rfl, hsettles, ?_⟩
  intro bs t hsteps hsettled
  exact (hshown bs t hsteps hsettled).mpr ⟨[], _, rfl, by simp⟩

/-- The pair-device comes between `Connected` and `request_pairing`: the task
waits, and no code is shown. -/
theorem pair_device_missed :
    letI := plainWacore
    ¬ ∀ (w : QrWacore Unit) (as : List (RaceAction Unit)) (s : PairingRace Unit),
      (pairingRaces w).Run as s → s.sent = true → s.task ≠ none →
      ∀ bs t, (taskRuns w).Steps s bs t → t.Settled → t.Shown := by
  let _ := plainWacore
  intro hall
  have hstep : ∀ {as s} (_ : (pairingRaces plainQrWacore).Run as s) (a) {t},
      RaceStep plainQrWacore s a t → (pairingRaces plainQrWacore).step s a t := fun _ _ _ h => h
  have h0 : (pairingRaces plainQrWacore).Run [] upRace := System.Run.start ⟨rfl, rfl, rfl⟩
  have hrefs : RawEvent.refs (.node pairDeviceIq) ≠ none := by decide
  have h1 := h0.tail (hstep h0 (.pairDevice (.node pairDeviceIq)) (.pairDevice rfl hrefs))
  have h2 := h1.tail (hstep h1 .request (.request rfl rfl requestPairing_unpaired))
  have hsettled : PairingRace.Settled ⟨false, true, some (unpairedTask, [])⟩ := by
    intro q queue h
    cases h
    exact .inr ⟨rfl, rfl, nofun⟩
  obtain ⟨code, timeout, hcode⟩ := hall _ _ _ h2 rfl nofun [] _ .refl hsettled _ _ rfl
  cases hcode

end Runs

end Waepic.Client
