import Waepic.Client.CacheFlush
import Waepic.Client.DeviceCopies
import Waepic.Client.Subscriptions

/-!
# The window after a pairing

At a pair-success the task that pairs sets `post_pair_reconnect`, and clears it
if the pairing fails.  The update stream takes the events at its own pace.  What
it takes while the flag is set it hides: a `ConnectFailure`, a `Disconnected`,
and a `Connected`, after which it clears the flag.

Meant is the reconnect that the server forces.  The flag does not say which
event was broadcast when, nor whether a reconnect follows: the stream hides
exactly the forced reconnect if one follows what it takes while the flag is set,
and none follows what it took before, and only then (`hides_forced_reconnect`).
-/

namespace Waepic.Client

open Transition Binary Connection

/-! ## The broadcasts -/

/-- Where the broadcasts stand. -/
inductive Span where
  /-- Before the pair-success. -/
  | before
  /-- The connection of the pair-success. -/
  | paired
  /-- It is lost, and no `Connected` was broadcast since. -/
  | lost
  | closed
deriving DecidableEq

section

variable [WacoreBinary]

/-- After an event. -/
def Span.next : Span → RawEvent → Span
  | .before, .node n => if isPairSuccessNode n then .paired else .before
  | .paired, .disconnected => .lost
  | .lost, .connected => .closed
  | span, _ => span

def spanOf (log : List RawEvent) : Span := log.foldl Span.next .before

/-- Of the events that the window is about, those of the forced reconnect. -/
def Span.forced : Span → RawEvent → Bool
  | .paired, .connected => false
  | .paired, _ => true
  | .lost, .connected => true
  | _, _ => false

end

/-! ## The task and the stream -/

/-- The task that pairs. -/
inductive PairingPhase where
  | idle
  /-- At its receiver, before the event `next`. -/
  | waiting (next : Nat)
  /-- In `handle_pair_success`. -/
  | handling
  | succeeded
  | failed
  /-- Without a pair-success. -/
  | returned
deriving DecidableEq

namespace PairingPhase

/-- It took the pair-success, and the pairing has not failed. -/
def pairs : PairingPhase → Bool
  | handling | succeeded => true
  | _ => false

/-- It took the pair-success. -/
def tookSuccess : PairingPhase → Bool
  | handling | succeeded | failed => true
  | _ => false

theorem of_tookSuccess_false {p : PairingPhase} (h : p.tookSuccess = false) :
    p.pairs = false ∧ p ≠ failed := by
  cases p <;> simp_all [tookSuccess, pairs]

theorem of_not_pairs {p : PairingPhase} (h : p.pairs ≠ true) :
    p = failed ∨ p.tookSuccess = false := by
  cases p <;> simp_all [tookSuccess, pairs]

end PairingPhase

/-- Where the stream awaits. -/
inductive WindowPhase where
  /-- At `raw_rx.recv`. -/
  | receiving
  /-- In `run_post_connect_init`, after a `Connected` that is hidden or not. -/
  | initializing (hidden : Bool)

structure WindowState where
  conn : ConnState
  /-- What was broadcast, oldest first. -/
  log : List RawEvent
  /-- For each event that the stream took, whether the body of its loop was left
  at the end: then its update was sent. -/
  taken : List Bool
  phase : WindowPhase
  pairing : PairingPhase
  postPairReconnect : Bool

def WindowState.new : WindowState where
  conn := .new
  log := []
  taken := []
  phase := .receiving
  pairing := .idle
  postPairReconnect := false

inductive WindowAction where
  | runner (a : ConnAction)
  /-- A frame that does not decode. -/
  | invalid
  /-- The task comes to the loop that waits for the pair-success. -/
  | await (next : Nat)
  /-- The task takes an event. -/
  | pairTake
  /-- The task returns: a deadline, or a closed channel. -/
  | expire
  /-- `handle_pair_success` returns. -/
  | handled (ok : Bool)
  /-- The stream takes an event. -/
  | take
  /-- `run_post_connect_init` returns. -/
  | initialized

variable [WacoreBinary]

/-- The task at an event. -/
def WindowState.pairTake (s : WindowState) (i : Nat) : RawEvent → WindowState
  | .node n =>
      if isPairSuccessNode n then { s with pairing := .handling, postPairReconnect := true }
      else { s with pairing := .waiting (i + 1) }
  | .disconnected => { s with pairing := .returned }
  | .connected | .error _ => { s with pairing := .waiting (i + 1) }

/-- The stream at an event. -/
def WindowState.take (contentAsString : Node → Option String) (s : WindowState) (e : RawEvent) :
    WindowState :=
  { s with
    taken := s.taken ++ [countsEvent contentAsString (e, s.postPairReconnect)]
    phase :=
      match e with
      | .connected => .initializing s.postPairReconnect
      | _ => .receiving }

inductive WindowStep (contentAsString : Node → Option String) (config : ConnectionConfig) :
    WindowState → WindowAction → WindowState → Prop where
  /-- `try_broadcast` drops an event that finds the queue full. -/
  | runner {s : WindowState} {a : ConnAction} {t : ConnState} {es kept : List RawEvent} :
      Emits config s.conn a es → ConnStep config s.conn a t → kept.Sublist es →
      WindowStep contentAsString config s (.runner a) { s with conn := t, log := s.log ++ kept }
  | routed {s : WindowState} {n : Node} {t : ConnState} :
      s.conn.runner.phase = .routing n → ConnStep config s.conn (.move .routed) t →
      WindowStep contentAsString config s (.runner (.move .routed))
        { s with conn := t, log := s.log ++ [.node n] }
  | invalid {s : WindowState} {e : ConnectionError} :
      s.conn.runner.phase = .reading →
      WindowStep contentAsString config s .invalid { s with log := s.log ++ [.error e.toText] }
  | await {s : WindowState} {i : Nat} :
      s.pairing = .idle → i ≤ s.log.length →
      WindowStep contentAsString config s (.await i) { s with pairing := .waiting i }
  | pairTake {s : WindowState} {i : Nat} {e : RawEvent} :
      s.pairing = .waiting i → s.log[i]? = some e →
      WindowStep contentAsString config s .pairTake (s.pairTake i e)
  | expire {s : WindowState} {i : Nat} :
      s.pairing = .waiting i →
      WindowStep contentAsString config s .expire { s with pairing := .returned }
  | succeeded {s : WindowState} :
      s.pairing = .handling →
      WindowStep contentAsString config s (.handled true) { s with pairing := .succeeded }
  | failed {s : WindowState} :
      s.pairing = .handling →
      WindowStep contentAsString config s (.handled false)
        { s with pairing := .failed, postPairReconnect := false }
  | take {s : WindowState} {e : RawEvent} :
      s.phase = .receiving → s.log[s.taken.length]? = some e →
      WindowStep contentAsString config s .take (s.take contentAsString e)
  | initialized {s : WindowState} {hidden : Bool} :
      s.phase = .initializing hidden →
      WindowStep contentAsString config s .initialized
        { s with phase := .receiving, postPairReconnect := !hidden && s.postPairReconnect }

/-! ## What is hidden -/

variable (contentAsString : Node → Option String)

/-- A `Connected`, a `Disconnected` or a `ConnectFailure`. -/
def RawEvent.windowed : RawEvent → Bool
  | .connected | .disconnected => true
  | .node n => isConnectFailure contentAsString n
  | .error _ => false

namespace WindowState

/-- The first `Connected` of the forced reconnect was broadcast. -/
def Reconnected (s : WindowState) : Prop := spanOf s.log = .closed

def Stopped (s : WindowState) : Prop := s.conn.runner.phase = .stopped

/-- Of the events taken, those of the forced reconnect are hidden, if there is
one, and the others are delivered. -/
def HidesForced (s : WindowState) : Prop :=
  ∀ k e sent, s.log[k]? = some e → e.windowed contentAsString = true → s.taken[k]? = some sent →
    if (spanOf (s.log.take k)).forced e then
      (s.Reconnected → s.pairing ≠ .failed → sent = false) ∧
        (s.Stopped → ¬ s.Reconnected → sent = true)
    else sent = true

end WindowState

/-- Whether the stream took an event of the forced reconnect. -/
structure ForcedTaken where
  /-- Before the task took the pair-success. -/
  early : Bool
  /-- After it, and before the pairing failed. -/
  paired : Bool

/-- The next event is of the forced reconnect. -/
def WindowState.nextForced (s : WindowState) : Bool :=
  s.log[s.taken.length]?.any fun e =>
    e.windowed contentAsString && (spanOf (s.log.take s.taken.length)).forced e

def ForcedTaken.next (taken : ForcedTaken) (s : WindowState) : WindowAction → ForcedTaken
  | .take =>
      { early := taken.early || s.nextForced contentAsString && !s.pairing.tookSuccess
        paired := taken.paired || s.nextForced contentAsString && s.pairing.pairs }
  | _ => taken

/-- The stream takes an event of the forced reconnect before the task took the
pair-success only if no reconnect has followed, and after it, before the pairing
fails, only if the runner has not stopped without one; it takes the others while
the task has not taken the pair-success, or the pairing failed.  After an event
taken early no `Connected` ends the window unless the pairing failed, and after
one taken late the runner does not stop without it. -/
def InTime (config : ConnectionConfig) (p : WindowState × ForcedTaken) : WindowAction → Prop
  | .take =>
      ∀ e, p.1.log[p.1.taken.length]? = some e → e.windowed contentAsString = true →
        if (spanOf (p.1.log.take p.1.taken.length)).forced e then
          (p.1.pairing.pairs = true → p.1.Stopped → p.1.Reconnected) ∧
            (p.1.Reconnected → p.1.pairing.tookSuccess = true)
        else
          spanOf (p.1.log.take p.1.taken.length) = .closed ∨ p.1.pairing.pairs = false
  | .runner a =>
      (p.2.paired = true → ¬ p.1.Reconnected →
        ∀ t, ConnStep config p.1.conn a t → t.runner.phase ≠ .stopped) ∧
      (p.2.early = true → p.1.pairing ≠ .failed → spanOf p.1.log = .lost →
        ∀ es, Emits config p.1.conn a es → RawEvent.connected ∉ es)
  | _ => True

/-- The runs of a runner, a task that pairs and an update stream. -/
def postPairWindows (config : ConnectionConfig) : System WindowState WindowAction where
  init s := s = .new
  step := WindowStep contentAsString config

/-- The runs, with what the stream took of the forced reconnect. -/
def recordedWindows (config : ConnectionConfig) : System (WindowState × ForcedTaken) WindowAction :=
  (postPairWindows contentAsString config).record ⟨false, false⟩
    (ForcedTaken.next contentAsString)

section Window

variable {contentAsString : Node → Option String} {config : ConnectionConfig}
  {s t : WindowState} {took : ForcedTaken} {e : RawEvent} {log es : List RawEvent}

/-! ### Spans -/

theorem spanOf_concat (log : List RawEvent) (e : RawEvent) :
    spanOf (log ++ [e]) = (spanOf log).next e :=
  List.foldl_concat ..

/-- A window that is over stays over. -/
theorem spanOf_append_closed (h : spanOf log = .closed) (es : List RawEvent) :
    spanOf (log ++ es) = .closed := by
  induction es using List.reverseRecOn with
  | nil => rwa [List.append_nil]
  | append_singleton es e ih =>
      rw [← List.append_assoc, spanOf_concat, ih]
      rfl

/-- Only a `Connected` after a loss ends the window. -/
theorem next_eq_closed {span : Span} (h : span.next e = .closed) (hspan : span ≠ .closed) :
    span = .lost ∧ e = .connected := by
  simp only [Span.next] at h
  split at h
  · split at h <;> cases h
  · cases h
  · exact ⟨rfl, rfl⟩
  · exact absurd h hspan

/-- Without a `Connected` no window ends. -/
theorem spanOf_append_ne_closed (h : spanOf log ≠ .closed) (hes : RawEvent.connected ∉ es) :
    spanOf (log ++ es) ≠ .closed := by
  induction es using List.reverseRecOn with
  | nil => rwa [List.append_nil]
  | append_singleton es e ih =>
      rw [List.mem_append, List.mem_singleton, not_or] at hes
      rw [← List.append_assoc, spanOf_concat]
      intro hclosed
      exact hes.2 (next_eq_closed hclosed (ih hes.1)).2.symm

/-- A `Connected` is broadcast alone. -/
theorem Emits.eq_connected {conn : ConnState} {a : ConnAction} (h : Emits config conn a es)
    (hes : RawEvent.connected ∈ es) : es = [.connected] := by
  cases h with
  | connected => rfl
  | frame =>
      split at hes
      · next hannounce => rw [if_pos hannounce]
      · cases hes
  | silent | connectFailed | connectStopped | pinged | pingFailed | endedOk | endedError
  | endedStopped => simp at hes

/-- The runner ends the window with a `Connected` after a loss. -/
theorem Emits.closes {conn : ConnState} {a : ConnAction} {kept : List RawEvent}
    (h : Emits config conn a es) (hkept : kept.Sublist es) (hopen : spanOf log ≠ .closed)
    (hclosed : spanOf (log ++ kept) = .closed) :
    spanOf log = .lost ∧ RawEvent.connected ∈ es := by
  have hmem : RawEvent.connected ∈ kept := by
    by_contra hnot
    exact spanOf_append_ne_closed hopen hnot hclosed
  have hes := hkept.subset hmem
  rw [h.eq_connected hes] at hkept
  rcases List.sublist_singleton.mp hkept with rfl | rfl
  · cases hmem
  · rw [spanOf_concat] at hclosed
    exact ⟨(next_eq_closed hclosed hopen).1, hes⟩

/-- A windowed event is hidden exactly if the flag is set. -/
theorem countsEvent_of_windowed (he : e.windowed contentAsString = true) (flag : Bool) :
    countsEvent contentAsString (e, flag) = !flag := by
  cases e with
  | connected | disconnected => cases flag <;> rfl
  | error text => cases he
  | node n =>
      have he' : isConnectFailure contentAsString n = true := he
      have htag : n.tag = "failure" ∨ n.tag = "stream:error" := by
        simp only [isConnectFailure] at he'
        split at he'
        · assumption
        · cases he'
      have hsync : isHistorySync n = false := by
        simp only [isHistorySync]
        rcases htag with h | h <;> simp [h]
      have hmessage : n.tag ≠ "message" := by
        rcases htag with h | h <;> simp [h]
      simp only [countsEvent, bodyExit]
      cases flag <;> simp [hsync, hmessage, he']

/-! ### The invariant -/

/-- The stream took the `Connected` that ends the window. -/
def WindowState.Passed (s : WindowState) : Prop := spanOf (s.log.take s.taken.length) = .closed

/-- The stream took an event of the forced reconnect, and sent its update or not. -/
def WindowState.TookForced (contentAsString : Node → Option String) (s : WindowState)
    (sent : Bool) : Prop :=
  ∃ k e, s.log[k]? = some e ∧ e.windowed contentAsString = true ∧
    (spanOf (s.log.take k)).forced e = true ∧ s.taken[k]? = some sent

/-- What the stream took, so far: an event of the forced reconnect is hidden
after the task took the pair-success and before the pairing fails, and sent
before that or after it. -/
structure WindowInv (contentAsString : Node → Option String) (s : WindowState)
    (took : ForcedTaken) : Prop where
  length : s.taken.length ≤ s.log.length
  taken : ∀ k e sent, s.log[k]? = some e → e.windowed contentAsString = true →
    s.taken[k]? = some sent →
    if (spanOf (s.log.take k)).forced e then
      (sent = false → took.paired = true) ∧
        (sent = true → s.pairing = .failed ∨ took.early = true)
    else sent = true
  /-- What the record says was taken. -/
  hidden : took.paired = true → s.TookForced contentAsString false
  sent : took.early = true → s.TookForced contentAsString true
  stopped : s.Stopped → ¬ s.Reconnected → took.paired = false
  reconnected : s.Reconnected → took.early = true → s.pairing = .failed
  flag : s.postPairReconnect = true ↔
    s.pairing.pairs = true ∧ (s.Passed → s.phase = .initializing true)
  passed : s.Passed → s.pairing.tookSuccess = true
  initializing : s.phase = .initializing true → s.Passed

omit [WacoreBinary] in
/-- What is broadcast later is after what the stream took. -/
theorem getElem?_of_append {k n : Nat} (h : n ≤ log.length) (hk : k < n)
    (he : (log ++ es)[k]? = some e) : log[k]? = some e ∧ (log ++ es).take k = log.take k := by
  have hlt : k < log.length := Nat.lt_of_lt_of_le hk h
  rw [List.getElem?_append_left hlt] at he
  exact ⟨he, List.take_append_of_le_length (Nat.le_of_lt hlt)⟩

theorem WindowInv.new : WindowInv contentAsString .new ⟨false, false⟩ where
  length := Nat.le_refl 0
  taken k e sent he := by cases he
  hidden hlate := by cases hlate
  sent hearly := by cases hearly
  stopped _ _ := rfl
  reconnected _ hearly := by cases hearly
  flag := by simp [WindowState.new, PairingPhase.pairs]
  passed h := by cases h
  initializing h := by cases h

/-- What was taken stays so. -/
theorem WindowState.TookForced.grow {sent : Bool} (h : s.TookForced contentAsString sent)
    (conn : ConnState) :
    WindowState.TookForced contentAsString { s with conn, log := s.log ++ es } sent := by
  obtain ⟨k, e, he, hwindowed, hforced, hsent⟩ := h
  have hk : k < s.log.length := (List.getElem?_eq_some_iff.mp he).1
  refine ⟨k, e, ?_, hwindowed, ?_, hsent⟩
  · exact (List.getElem?_append_left hk).trans he
  · show (spanOf ((s.log ++ es).take k)).forced e = true
    rwa [List.take_append_of_le_length (Nat.le_of_lt hk)]

/-- More is broadcast. -/
theorem WindowInv.grow (h : WindowInv contentAsString s took) (conn : ConnState)
    (hstopped : conn.runner.phase = .stopped → ¬ s.Reconnected → took.paired = false)
    (hreconnected : spanOf (s.log ++ es) = .closed → took.early = true → s.pairing = .failed) :
    WindowInv contentAsString { s with conn, log := s.log ++ es } took := by
  have hpassed : WindowState.Passed { s with conn, log := s.log ++ es } ↔ s.Passed := by
    simp only [WindowState.Passed]
    rw [List.take_append_of_le_length h.length]
  constructor
  · exact Nat.le_trans h.length (by simp)
  · intro k e sent he hwindowed hsent
    have hk : k < s.taken.length := (List.getElem?_eq_some_iff.mp hsent).1
    obtain ⟨he', htake⟩ := getElem?_of_append h.length hk he
    rw [htake]
    exact h.taken k e sent he' hwindowed hsent
  · exact fun hlate => (h.hidden hlate).grow conn
  · exact fun hearly => (h.sent hearly).grow conn
  · intro hstop hover
    exact hstopped hstop fun hreconnected => hover (spanOf_append_closed hreconnected es)
  · exact hreconnected
  · rw [hpassed]
    exact h.flag
  · rw [hpassed]
    exact h.passed
  · rw [hpassed]
    exact h.initializing

/-- The task goes on; a pairing that failed stays so. -/
theorem WindowInv.setPairing (h : WindowInv contentAsString s took) (pairing : PairingPhase)
    (postPairReconnect : Bool) (hfailed : s.pairing ≠ .failed)
    (hflag : postPairReconnect = true ↔
      pairing.pairs = true ∧ (s.Passed → s.phase = .initializing true))
    (hpassed : s.Passed → pairing.tookSuccess = true) :
    WindowInv contentAsString { s with pairing, postPairReconnect } took := by
  constructor
  · exact h.length
  · intro k e sent he hwindowed hsent
    have htaken := h.taken k e sent he hwindowed hsent
    split at htaken
    · next hforced =>
        rw [if_pos hforced]
        exact ⟨htaken.1, fun hsent => .inr ((htaken.2 hsent).resolve_left hfailed)⟩
    · next hforced =>
        rw [if_neg hforced]
        exact htaken
  · exact h.hidden
  · exact h.sent
  · exact h.stopped
  · intro hreconnected hearly
    exact absurd (h.reconnected hreconnected hearly) hfailed
  · exact hflag
  · exact hpassed
  · exact h.initializing

theorem WindowInv.not_passed (h : WindowInv contentAsString s took)
    (hwaits : s.pairing.tookSuccess = false) : ¬ s.Passed := by
  intro hpassed
  rw [h.passed hpassed] at hwaits
  cases hwaits

/-- A task that waits goes on to wait, or returns. -/
theorem WindowInv.keepWaiting (h : WindowInv contentAsString s took) {pairing : PairingPhase}
    (hbefore : s.pairing.tookSuccess = false) (hafter : pairing.tookSuccess = false) :
    WindowInv contentAsString { s with pairing } took := by
  obtain ⟨hpairs, hfailed⟩ := PairingPhase.of_tookSuccess_false hbefore
  refine h.setPairing pairing s.postPairReconnect hfailed ?_ fun hpassed =>
    absurd hpassed (h.not_passed hbefore)
  rw [h.flag, hpairs, (PairingPhase.of_tookSuccess_false hafter).1]

theorem WindowInv.pairTake {i : Nat} (h : WindowInv contentAsString s took)
    (hwaiting : s.pairing = .waiting i) (e : RawEvent) :
    WindowInv contentAsString (s.pairTake i e) took := by
  have hbefore : s.pairing.tookSuccess = false := by
    rw [hwaiting]
    rfl
  cases e with
  | disconnected | connected | error text => exact h.keepWaiting hbefore rfl
  | node n =>
      rw [WindowState.pairTake]
      split
      · refine h.setPairing .handling true (by simp [hwaiting]) ?_ fun _ => rfl
        exact iff_of_true rfl ⟨rfl, fun hpassed => absurd hpassed (h.not_passed hbefore)⟩
      · exact h.keepWaiting hbefore rfl

/-- `handle_pair_success` returns. -/
theorem WindowInv.handled (h : WindowInv contentAsString s took)
    (hhandling : s.pairing = .handling) :
    WindowInv contentAsString { s with pairing := .succeeded } took ∧
      WindowInv contentAsString { s with pairing := .failed, postPairReconnect := false } took := by
  have hfailed : s.pairing ≠ .failed := by simp [hhandling]
  constructor
  · refine h.setPairing .succeeded s.postPairReconnect hfailed ?_ fun _ => rfl
    rw [h.flag, hhandling]
    rfl
  · refine h.setPairing .failed false hfailed (iff_of_false nofun ?_) fun _ => rfl
    rintro ⟨hpairs, -⟩
    cases hpairs

/-- After its `run_post_connect_init` the stream clears a flag that it saw. -/
theorem WindowInv.initialized {hidden : Bool} (h : WindowInv contentAsString s took)
    (hphase : s.phase = .initializing hidden) :
    WindowInv contentAsString
      { s with phase := .receiving, postPairReconnect := !hidden && s.postPairReconnect } took := by
  constructor
  · exact h.length
  · exact h.taken
  · exact h.hidden
  · exact h.sent
  · exact h.stopped
  · exact h.reconnected
  · cases hidden with
    | true =>
        refine iff_of_false nofun ?_
        rintro ⟨-, hreceiving⟩
        cases hreceiving (h.initializing hphase)
    | false =>
        show s.postPairReconnect = true ↔ _
        rw [h.flag, hphase]
        refine and_congr_right fun _ => ?_
        constructor
        all_goals
          intro hphase' hpassed
          cases hphase' hpassed
  · exact h.passed
  · intro hreceiving
    cases hreceiving

/-! ### The stream takes an event -/

section Take

theorem take_initializing :
    (s.take contentAsString e).phase = .initializing true ↔
      e = .connected ∧ s.postPairReconnect = true := by
  simp only [WindowState.take]
  cases e <;> simp

theorem take_passed (he : s.log[s.taken.length]? = some e) :
    (s.take contentAsString e).Passed ↔ (spanOf (s.log.take s.taken.length)).next e = .closed := by
  have htake : s.log.take (s.taken.length + 1) = s.log.take s.taken.length ++ [e] := by
    rw [List.take_add_one, he]
    rfl
  rw [← spanOf_concat, ← htake]
  simp only [WindowState.Passed, WindowState.take]
  rw [List.length_append]
  rfl

theorem WindowInv.flag_iff (h : WindowInv contentAsString s took) (hphase : s.phase = .receiving) :
    s.postPairReconnect = true ↔ s.pairing.pairs = true ∧ ¬ s.Passed := by
  rw [h.flag, hphase]
  refine and_congr_right fun _ => ?_
  constructor
  · intro hreceiving hpassed
    cases hreceiving hpassed
  · exact fun hpassed hp => absurd hp hpassed

theorem WindowInv.flag_clear (h : WindowInv contentAsString s took)
    (hbefore : s.pairing.tookSuccess = false) : s.postPairReconnect = false := by
  rw [Bool.eq_false_iff, Ne, h.flag, (PairingPhase.of_tookSuccess_false hbefore).1]
  rintro ⟨hpairs, -⟩
  cases hpairs

theorem nextForced_iff : s.nextForced contentAsString = true ↔
    ∃ e, s.log[s.taken.length]? = some e ∧ e.windowed contentAsString = true ∧
      (spanOf (s.log.take s.taken.length)).forced e = true := by
  simp only [WindowState.nextForced]
  cases s.log[s.taken.length]? <;> simp

theorem ForcedTaken.next_paired : (took.next contentAsString s .take).paired = true ↔
    took.paired = true ∨ s.nextForced contentAsString = true ∧ s.pairing.pairs = true := by
  simp [ForcedTaken.next]

theorem ForcedTaken.next_early : (took.next contentAsString s .take).early = true ↔
    took.early = true ∨ s.nextForced contentAsString = true ∧ s.pairing.tookSuccess = false := by
  simp [ForcedTaken.next]

/-- What was taken before, and the event itself. -/
theorem WindowState.TookForced.take {sent : Bool} (h : s.TookForced contentAsString sent) :
    (s.take contentAsString e).TookForced contentAsString sent := by
  obtain ⟨k, e', he, hwindowed, hforced, hsent⟩ := h
  have hk : k < s.taken.length := (List.getElem?_eq_some_iff.mp hsent).1
  exact ⟨k, e', he, hwindowed, hforced, (List.getElem?_append_left hk).trans hsent⟩

theorem tookForced_of_next (he : s.log[s.taken.length]? = some e)
    (hnext : s.nextForced contentAsString = true) :
    (s.take contentAsString e).TookForced contentAsString (!s.postPairReconnect) := by
  obtain ⟨e', he', hwindowed, hforced⟩ := nextForced_iff.mp hnext
  obtain rfl := Option.some.inj (he.symm.trans he')
  refine ⟨s.taken.length, e, he, hwindowed, hforced, ?_⟩
  rw [← countsEvent_of_windowed hwindowed]
  exact List.getElem?_concat_length

/-- An event of the forced reconnect comes before the window ends. -/
theorem not_passed_of_next (hnext : s.nextForced contentAsString = true) : ¬ s.Passed := by
  obtain ⟨e, -, -, hforced⟩ := nextForced_iff.mp hnext
  intro hover
  rw [WindowState.Passed] at hover
  rw [hover] at hforced
  cases e <;> cases hforced

/-- The event itself is hidden or sent as it should be. -/
theorem WindowInv.taken_event (h : WindowInv contentAsString s took)
    (hphase : s.phase = .receiving) (he : s.log[s.taken.length]? = some e)
    (hguard : InTime contentAsString config (s, took) .take)
    (hwindowed : e.windowed contentAsString = true) :
    if (spanOf (s.log.take s.taken.length)).forced e then
      (countsEvent contentAsString (e, s.postPairReconnect) = false →
        (took.next contentAsString s .take).paired = true) ∧
      (countsEvent contentAsString (e, s.postPairReconnect) = true →
        s.pairing = .failed ∨ (took.next contentAsString s .take).early = true)
    else countsEvent contentAsString (e, s.postPairReconnect) = true := by
  have hintime := hguard e he hwindowed
  have hflag := h.flag_iff hphase
  rw [countsEvent_of_windowed hwindowed]
  split
  · next hforced =>
      have hnext : s.nextForced contentAsString = true :=
        nextForced_iff.mpr ⟨e, he, hwindowed, hforced⟩
      have hpassed : ¬ s.Passed := not_passed_of_next hnext
      constructor
      · intro hset
        have hpairs : s.pairing.pairs = true := (hflag.mp (by simpa using hset)).1
        exact ForcedTaken.next_paired.mpr (.inr ⟨hnext, hpairs⟩)
      · intro hclear
        have hpairs : s.pairing.pairs ≠ true := by
          intro hpairs
          rw [hflag.mpr ⟨hpairs, hpassed⟩] at hclear
          cases hclear
        rcases PairingPhase.of_not_pairs hpairs with hfailed | hbefore
        · exact .inl hfailed
        · exact .inr (ForcedTaken.next_early.mpr (.inr ⟨hnext, hbefore⟩))
  · next hforced =>
      rw [if_neg hforced] at hintime
      have hclear : s.postPairReconnect ≠ true := by
        intro hset
        obtain ⟨hpairs, hpassed⟩ := hflag.mp hset
        rcases hintime with hover | hnot
        · exact hpassed hover
        · rw [hpairs] at hnot
          cases hnot
      simpa using hclear

/-- The stream ends the window with an event of the forced reconnect. -/
theorem closes_of_passed (he : s.log[s.taken.length]? = some e) (hpassed : ¬ s.Passed)
    (hpassed' : (s.take contentAsString e).Passed) :
    e = .connected ∧ (spanOf (s.log.take s.taken.length)).forced e = true := by
  obtain ⟨hlost, rfl⟩ := next_eq_closed ((take_passed he).mp hpassed') hpassed
  rw [hlost]
  exact ⟨rfl, rfl⟩

/-- What the stream took is what was broadcast. -/
theorem reconnected_of_passed (hpassed : (s.take contentAsString e).Passed) :
    s.Reconnected := by
  rw [WindowState.Passed] at hpassed
  have hlog := spanOf_append_closed hpassed (s.log.drop (s.taken.length + 1))
  simpa [WindowState.take, WindowState.Reconnected] using hlog

/-- The events taken so far stay as they should be. -/
theorem WindowInv.take_taken (h : WindowInv contentAsString s took) (hphase : s.phase = .receiving)
    (he : s.log[s.taken.length]? = some e)
    (hguard : InTime contentAsString config (s, took) .take) {k : Nat} {e' : RawEvent} {sent : Bool}
    (he' : s.log[k]? = some e') (hwindowed : e'.windowed contentAsString = true)
    (hsent : (s.taken ++ [countsEvent contentAsString (e, s.postPairReconnect)])[k]? = some sent) :
    if (spanOf (s.log.take k)).forced e' then
      (sent = false → (took.next contentAsString s .take).paired = true) ∧
      (sent = true → s.pairing = .failed ∨ (took.next contentAsString s .take).early = true)
    else sent = true := by
  rcases Nat.lt_or_ge k s.taken.length with hk | hk
  · rw [List.getElem?_append_left hk] at hsent
    have htaken := h.taken k e' sent he' hwindowed hsent
    split at htaken
    · next hforced =>
        rw [if_pos hforced]
        constructor
        · exact fun hhidden => ForcedTaken.next_paired.mpr (.inl (htaken.1 hhidden))
        · exact fun hsent => (htaken.2 hsent).imp_right fun hearly =>
            ForcedTaken.next_early.mpr (.inl hearly)
    · next hforced => rwa [if_neg hforced]
  · have hlt := (List.getElem?_eq_some_iff.mp hsent).1
    rw [List.length_append, List.length_singleton] at hlt
    obtain rfl : k = s.taken.length := by omega
    rw [List.getElem?_concat_length] at hsent
    obtain rfl := Option.some.inj hsent
    obtain rfl := Option.some.inj (he.symm.trans he')
    exact h.taken_event hphase he hguard hwindowed

/-- A hidden `Connected` ends the window. -/
theorem WindowInv.passed_of_hidden (h : WindowInv contentAsString s took)
    (hphase : s.phase = .receiving) (he : s.log[s.taken.length]? = some .connected)
    (hguard : InTime contentAsString config (s, took) .take) (hset : s.postPairReconnect = true) :
    (s.take contentAsString .connected).Passed := by
  obtain ⟨hpairs, hpassed⟩ := (h.flag_iff hphase).mp hset
  have hintime := hguard _ he rfl
  rw [take_passed he]
  split at hintime
  · next hforced =>
      cases hspan : spanOf (s.log.take s.taken.length) with
      | lost => rfl
      | before | paired | closed =>
          rw [show spanOf _ = _ from hspan] at hforced
          cases hforced
  · rcases hintime with hover | hnot
    · exact absurd hover hpassed
    · rw [show s.pairing.pairs = false from hnot] at hpairs
      cases hpairs

theorem WindowInv.take (h : WindowInv contentAsString s took) (hphase : s.phase = .receiving)
    (he : s.log[s.taken.length]? = some e)
    (hguard : InTime contentAsString config (s, took) .take) :
    WindowInv contentAsString (s.take contentAsString e) (took.next contentAsString s .take) := by
  have hflag := h.flag_iff hphase
  have hstays : s.Passed → (s.take contentAsString e).Passed := by
    intro hpassed
    rw [take_passed he]
    rw [WindowState.Passed] at hpassed
    rw [hpassed]
    rfl
  have hforced : s.nextForced contentAsString = true →
      (s.pairing.pairs = true → s.Stopped → s.Reconnected) ∧
        (s.Reconnected → s.pairing.tookSuccess = true) := by
    intro hnext
    obtain ⟨e', he', hwindowed, hforced⟩ := nextForced_iff.mp hnext
    have hintime := hguard e' he' hwindowed
    rwa [if_pos hforced] at hintime
  constructor
  · have hlt : s.taken.length < s.log.length := (List.getElem?_eq_some_iff.mp he).1
    simpa [WindowState.take] using Nat.succ_le_of_lt hlt
  · intro k e' sent he' hwindowed hsent
    exact h.take_taken hphase he hguard he' hwindowed hsent
  · intro hlate
    rcases ForcedTaken.next_paired.mp hlate with htook | ⟨hnext, hpairs⟩
    · exact (h.hidden htook).take
    · have hset := tookForced_of_next he hnext
      rwa [hflag.mpr ⟨hpairs, not_passed_of_next hnext⟩] at hset
  · intro hearly
    rcases ForcedTaken.next_early.mp hearly with htook | ⟨hnext, hbefore⟩
    · exact (h.sent htook).take
    · have hsent := tookForced_of_next he hnext
      rwa [h.flag_clear hbefore] at hsent
  · intro hstopped hreconnected
    rw [Bool.eq_false_iff, Ne, ForcedTaken.next_paired]
    rintro (htook | ⟨hnext, hpairs⟩)
    · rw [h.stopped hstopped hreconnected] at htook
      cases htook
    · exact hreconnected ((hforced hnext).1 hpairs hstopped)
  · intro hreconnected hearly
    rcases ForcedTaken.next_early.mp hearly with htook | ⟨hnext, hbefore⟩
    · exact h.reconnected hreconnected htook
    · rw [(hforced hnext).2 hreconnected] at hbefore
      cases hbefore
  · rw [take_initializing]
    show s.postPairReconnect = true ↔ s.pairing.pairs = true ∧ _
    constructor
    · intro hset
      obtain ⟨hpairs, hpassed⟩ := hflag.mp hset
      exact ⟨hpairs, fun hpassed' => ⟨(closes_of_passed he hpassed hpassed').1, hset⟩⟩
    · rintro ⟨hpairs, hclosed⟩
      by_cases hpassed : s.Passed
      · exact (hclosed (hstays hpassed)).2
      · exact hflag.mpr ⟨hpairs, hpassed⟩
  · intro hpassed'
    show s.pairing.tookSuccess = true
    by_cases hpassed : s.Passed
    · exact h.passed hpassed
    · obtain ⟨rfl, hnext⟩ := closes_of_passed he hpassed hpassed'
      exact (hforced (nextForced_iff.mpr ⟨_, he, rfl, hnext⟩)).2 (reconnected_of_passed hpassed')
  · rw [take_initializing]
    rintro ⟨rfl, hset⟩
    exact h.passed_of_hidden hphase he hguard hset

end Take

/-! ### Runs -/

theorem WindowInv.runner {a : ConnAction} {conn : ConnState} {kept : List RawEvent}
    (h : WindowInv contentAsString s took) (hemits : Emits config s.conn a es)
    (hconn : ConnStep config s.conn a conn) (hkept : kept.Sublist es)
    (hguard : InTime contentAsString config (s, took) (.runner a)) :
    WindowInv contentAsString { s with conn, log := s.log ++ kept } took := by
  obtain ⟨hgoesOn, hsilent⟩ := hguard
  refine h.grow conn ?_ ?_
  · intro hstopped hreconnected
    exact Bool.eq_false_iff.mpr fun htook => hgoesOn htook hreconnected conn hconn hstopped
  · intro hclosed hearly
    by_cases hopen : spanOf s.log = .closed
    · exact h.reconnected hopen hearly
    · obtain ⟨hlost, hconnected⟩ := hemits.closes hkept hopen hclosed
      by_contra hfailed
      exact hsilent hearly hfailed hlost es hemits hconnected

/-- An event that is no `Connected` does not end the window. -/
theorem WindowInv.reconnected_concat (h : WindowInv contentAsString s took)
    (he : e ≠ .connected) (hclosed : spanOf (s.log ++ [e]) = .closed)
    (hearly : took.early = true) : s.pairing = .failed := by
  refine h.reconnected ?_ hearly
  by_contra hopen
  exact spanOf_append_ne_closed hopen (by simpa using he.symm) hclosed

theorem WindowInv.step {a : WindowAction} (h : WindowInv contentAsString s took)
    (hstep : WindowStep contentAsString config s a t)
    (hguard : InTime contentAsString config (s, took) a) :
    WindowInv contentAsString t (took.next contentAsString s a) := by
  cases hstep with
  | runner hemits hconn hkept => exact h.runner hemits hconn hkept hguard
  | routed hphase hconn =>
      refine h.grow _ ?_ (h.reconnected_concat nofun)
      intro hstopped hreconnected
      exact Bool.eq_false_iff.mpr fun htook => hguard.1 htook hreconnected _ hconn hstopped
  | invalid hphase => exact h.grow s.conn h.stopped (h.reconnected_concat nofun)
  | await hidle hnext => exact h.keepWaiting (by rw [hidle]; rfl) rfl
  | pairTake hwaiting he => exact h.pairTake hwaiting _
  | expire hwaiting => exact h.keepWaiting (by rw [hwaiting]; rfl) rfl
  | succeeded hhandling => exact (h.handled hhandling).1
  | failed hhandling => exact (h.handled hhandling).2
  | take hphase he => exact h.take hphase he hguard
  | initialized hphase => exact h.initialized hphase

theorem WindowInv.hidesForced (h : WindowInv contentAsString s took) :
    s.HidesForced contentAsString := by
  intro k e sent he hwindowed hsent
  have htaken := h.taken k e sent he hwindowed hsent
  split at htaken
  · next hforced =>
      rw [if_pos hforced]
      obtain ⟨hhidden, hsentWhen⟩ := htaken
      constructor
      · intro hreconnected hpairing
        refine Bool.eq_false_iff.mpr fun hsent => ?_
        rcases hsentWhen hsent with hfailed | hearly
        · exact hpairing hfailed
        · exact hpairing (h.reconnected hreconnected hearly)
      · intro hstopped hreconnected
        refine Bool.eq_true_of_not_eq_false fun hsent => ?_
        rw [h.stopped hstopped hreconnected] at hhidden
        cases hhidden hsent
  · next hforced => rwa [if_neg hforced]

/-! ### Steps that are not in time -/

theorem WindowState.HidesForced.of_reconnected (h : s.HidesForced contentAsString)
    (hreconnected : s.Reconnected) (hpairing : s.pairing ≠ .failed) :
    ¬ s.TookForced contentAsString true := by
  rintro ⟨k, e, he, hwindowed, hforced, hsent⟩
  have hhides := h k e true he hwindowed hsent
  rw [if_pos hforced] at hhides
  cases hhides.1 hreconnected hpairing

theorem WindowState.HidesForced.of_stopped (h : s.HidesForced contentAsString)
    (hstopped : s.Stopped) (hreconnected : ¬ s.Reconnected) : ¬ s.TookForced contentAsString false := by
  rintro ⟨k, e, he, hwindowed, hforced, hsent⟩
  have hhides := h k e false he hwindowed hsent
  rw [if_pos hforced] at hhides
  cases hhides.2 hstopped hreconnected

theorem WindowInv.take_fails (h : WindowInv contentAsString s took)
    (hphase : s.phase = .receiving) (he : s.log[s.taken.length]? = some e)
    (hguard : ¬ InTime contentAsString config (s, took) .take) :
    ¬ (s.take contentAsString e).HidesForced contentAsString := by
  intro hhides
  simp only [InTime, not_forall] at hguard
  obtain ⟨e', he', hwindowed, hguard⟩ := hguard
  obtain rfl := Option.some.inj (he.symm.trans he')
  have hflag := h.flag_iff hphase
  split at hguard
  · next hforced =>
      have hnext : s.nextForced contentAsString = true :=
        nextForced_iff.mpr ⟨e, he, hwindowed, hforced⟩
      have htook := tookForced_of_next he hnext
      rcases not_and_or.mp hguard with hlate | hearly
      · obtain ⟨hpairs, hstopped⟩ := Classical.not_imp.mp hlate
        obtain ⟨hstopped, hreconnected⟩ := Classical.not_imp.mp hstopped
        rw [hflag.mpr ⟨hpairs, not_passed_of_next hnext⟩] at htook
        exact hhides.of_stopped hstopped hreconnected htook
      · obtain ⟨hreconnected, hbefore⟩ := Classical.not_imp.mp hearly
        have hwaits : s.pairing.tookSuccess = false := Bool.eq_false_iff.mpr hbefore
        rw [h.flag_clear hwaits] at htook
        have hfailed := (PairingPhase.of_tookSuccess_false hwaits).2
        exact hhides.of_reconnected hreconnected hfailed htook
  · next hforced =>
      obtain ⟨hpassed, hpairs⟩ := not_or.mp hguard
      have hset : s.postPairReconnect = true := hflag.mpr ⟨by simpa using hpairs, hpassed⟩
      have hsent : countsEvent contentAsString (e, s.postPairReconnect) = true := by
        have hall := hhides s.taken.length e _ he hwindowed List.getElem?_concat_length
        split at hall
        · next hforced' => exact absurd hforced' hforced
        · exact hall
      rw [countsEvent_of_windowed hwindowed, hset] at hsent
      cases hsent

/-- The runner stops, or broadcasts the `Connected`. -/
theorem WindowInv.runner_fails {a : ConnAction} {conn : ConnState}
    (h : WindowInv contentAsString s took) (hemits : Emits config s.conn a es)
    (hconn : ConnStep config s.conn a conn)
    (hguard : ¬ InTime contentAsString config (s, took) (.runner a)) :
    ∃ u, WindowStep contentAsString config s (.runner a) u ∧
      ¬ u.HidesForced contentAsString := by
  rcases not_and_or.mp hguard with hlate | hearly
  · obtain ⟨hlate, hrest⟩ := Classical.not_imp.mp hlate
    obtain ⟨hreconnected, hstops⟩ := Classical.not_imp.mp hrest
    obtain ⟨conn', hstops⟩ := not_forall.mp hstops
    obtain ⟨hconn', hstopped⟩ := Classical.not_imp.mp hstops
    refine ⟨_, .runner hemits hconn' (List.nil_sublist es), fun hhides => ?_⟩
    refine hhides.of_stopped (not_not.mp hstopped) ?_ ((h.hidden hlate).grow conn')
    rwa [WindowState.Reconnected, List.append_nil]
  · obtain ⟨hearly, hrest⟩ := Classical.not_imp.mp hearly
    obtain ⟨hfailed, hrest⟩ := Classical.not_imp.mp hrest
    obtain ⟨hlost, hconnects⟩ := Classical.not_imp.mp hrest
    obtain ⟨es', hconnects⟩ := not_forall.mp hconnects
    obtain ⟨hemits', hmem⟩ := Classical.not_imp.mp hconnects
    obtain rfl := hemits'.eq_connected (not_not.mp hmem)
    refine ⟨_, .runner hemits' hconn (List.Sublist.refl _), fun hhides => ?_⟩
    refine hhides.of_reconnected ?_ hfailed ((h.sent hearly).grow conn)
    rw [WindowState.Reconnected, spanOf_concat, hlost]
    rfl

/-- Of a step that is not in time some outcome hides or delivers what it should not. -/
theorem WindowInv.fails {a : WindowAction} (h : WindowInv contentAsString s took)
    (hstep : WindowStep contentAsString config s a t)
    (hguard : ¬ InTime contentAsString config (s, took) a) :
    ∃ u, WindowStep contentAsString config s a u ∧ ¬ u.HidesForced contentAsString := by
  cases hstep with
  | runner hemits hconn hkept => exact h.runner_fails hemits hconn hguard
  | routed hphase hconn =>
      refine absurd ⟨?_, ?_⟩ hguard
      · intro _ _ t hconn
        cases hconn with
        | move hmove =>
            cases hmove
            nofun
      · intro _ _ _ es hemits
        cases hemits with
        | silent hsilent => cases hsilent
  | take hphase he => exact ⟨_, .take hphase he, h.take_fails hphase he hguard⟩
  | _ => exact absurd trivial hguard

end Window

/-- The window hides exactly the forced reconnect, in every run whose steps are
in time; and of a further step that is not, some outcome does not. -/
theorem hides_forced_reconnect (config : ConnectionConfig) (as : List WindowAction)
    (p : WindowState × ForcedTaken)
    (hrun : ((recordedWindows contentAsString config).restrict
      (InTime contentAsString config)).Run as p) :
    p.1.HidesForced contentAsString ∧
      ∀ a t, WindowStep contentAsString config p.1 a t → ¬ InTime contentAsString config p a →
        ∃ u, WindowStep contentAsString config p.1 a u ∧ ¬ u.HidesForced contentAsString := by
  have hinv : WindowInv contentAsString p.1 p.2 := by
    refine hrun.invariant (I := fun p => WindowInv contentAsString p.1 p.2) ?_ ?_
    · rintro ⟨s, took⟩ ⟨rfl, rfl⟩
      exact .new
    · rintro ⟨s, took⟩ a ⟨t, took'⟩ hinv ⟨⟨hstep, rfl⟩, hguard⟩
      exact hinv.step hstep hguard
  exact ⟨hinv.hidesForced, fun _ _ => hinv.fails⟩

/-! ### A forced reconnect, and none -/

section Runs

omit [WacoreBinary]

theorem windowStep_inTime {config : ConnectionConfig} {s t : WindowState} {took : ForcedTaken}
    {a : WindowAction} :
    letI := plainWacore
    WindowStep (fun _ => none) config s a t → InTime (fun _ => none) config (s, took) a →
      ((recordedWindows (fun _ => none) config).restrict (InTime (fun _ => none) config)).step
        (s, took) a (t, took.next (fun _ => none) s a) :=
  fun h hguard => ⟨⟨h, rfl⟩, hguard⟩

theorem move_goesOn {config : ConnectionConfig} {s : ConnState} {m : RunnerMove}
    (hgoesOn : ∀ r, RunnerStep config s.runner m r → r.phase ≠ .stopped) :
    letI := plainWacore
    ∀ t, ConnStep config s (.move m) t → t.runner.phase ≠ .stopped := by
  rintro t ⟨⟩
  next hrunner => exact hgoesOn _ hrunner

/-- The pair-success was broadcast, and the stream took the `Connected` before it. -/
def pairedWindow : WindowState where
  conn :=
    { ConnState.new with
      runner :=
        { ConnState.new.runner with phase := .reading, connection := 1, isConnected := true } }
  log := [.connected, .node pairSuccessNode]
  taken := [true]
  phase := .receiving
  pairing := .waiting 1
  postPairReconnect := false

theorem paired_run (config : ConnectionConfig) :
    letI := plainWacore
    ∃ as, ((recordedWindows (fun _ => none) config).restrict
        (InTime (fun _ => none) config)).Run as (pairedWindow, ⟨false, false⟩) := by
  let _ := plainWacore
  let S := (recordedWindows (fun _ => none) config).restrict (InTime (fun _ => none) config)
  have h0 : S.Run [] (.new, ⟨false, false⟩) := .start ⟨rfl, rfl⟩
  have h1 := h0.tail (windowStep_inTime (.runner (.silent (a := .move .top) rfl)
    (.move (.connect rfl rfl)) (.refl _)) ⟨nofun, nofun⟩)
  have h2 := h1.tail (windowStep_inTime (.runner .connected (.move (.connected rfl)) (.refl _))
    ⟨nofun, nofun⟩)
  have h3 := h2.tail (windowStep_inTime (.take rfl rfl) (by
    intro e he _
    cases he
    exact .inr rfl))
  have h4 := h3.tail (windowStep_inTime (.initialized rfl) trivial)
  have h5 := h4.tail (windowStep_inTime (.await (i := 1) rfl (Nat.le_refl _)) trivial)
  have h6 := h5.tail (windowStep_inTime (.runner (.frame (n := pairSuccessNode))
    (.frameOther rfl rfl) (.refl _)) ⟨nofun, nofun⟩)
  have h7 := h6.tail (windowStep_inTime (.routed rfl (.move (.routed rfl))) ⟨nofun, nofun⟩)
  exact ⟨_, h7⟩

/-- The connection is lost after the pair-success, and the runner reconnects. -/
theorem reconnecting_run :
    letI := plainWacore
    ∃ as p, ((recordedWindows (fun _ => none) ⟨true⟩).restrict
        (InTime (fun _ => none) ⟨true⟩)).Run as p ∧
      p.1.Reconnected ∧ p.1.taken = [true, true, false, false] := by
  let _ := plainWacore
  obtain ⟨as, h0⟩ := paired_run ⟨true⟩
  have h1 := h0.tail (windowStep_inTime (.pairTake rfl rfl) trivial)
  have h2 := h1.tail (windowStep_inTime (.take rfl rfl) (by
    intro e he hwindowed
    cases he
    cases hwindowed))
  have h3 := h2.tail (windowStep_inTime (.succeeded rfl) trivial)
  have h4 := h3.tail (windowStep_inTime (.runner (.silent (a := .move .transportClosed) rfl)
    (.move (.transportClosed (e := .notConnected) rfl)) (.refl _)) ⟨nofun, nofun⟩)
  have h5 := h4.tail (windowStep_inTime (.runner (.silent (a := .cleanup) rfl) (.cleanup rfl)
    (.refl _)) ⟨nofun, nofun⟩)
  have h6 := h5.tail (windowStep_inTime (.runner (.endedError rfl rfl) (.move (.endedError rfl))
    (.refl _)) ⟨nofun, nofun⟩)
  have h7 := h6.tail (windowStep_inTime (.take rfl rfl) (by
    intro e he _
    cases he
    exact ⟨nofun, fun _ => rfl⟩))
  have h8 := h7.tail (windowStep_inTime (.runner (.silent (a := .move .delayElapsed) rfl)
    (.move (.delayElapsed rfl)) (.refl _))
    ⟨fun _ _ => move_goesOn (by rintro r ⟨⟩; nofun), nofun⟩)
  have h9 := h8.tail (windowStep_inTime (.runner (.silent (a := .move .top) rfl)
    (.move (.connect rfl rfl)) (.refl _))
    ⟨fun _ _ => move_goesOn (by
      rintro r (⟨-, hlogged⟩ | ⟨-, -⟩)
      · cases hlogged
      · nofun), nofun⟩)
  have h10 := h9.tail (windowStep_inTime (.runner .connected (.move (.connected rfl)) (.refl _))
    ⟨fun _ _ => move_goesOn (by rintro r ⟨⟩; nofun), nofun⟩)
  have h11 := h10.tail (windowStep_inTime (.take rfl rfl) (by
    intro e he _
    cases he
    exact ⟨nofun, fun _ => rfl⟩))
  exact ⟨_, _, h11, rfl, rfl⟩

/-- It is lost and the runner stops, and the stream took the `Disconnected` before
the task took the pair-success. -/
theorem stopping_run :
    letI := plainWacore
    ∃ as p, ((recordedWindows (fun _ => none) ⟨false⟩).restrict
        (InTime (fun _ => none) ⟨false⟩)).Run as p ∧
      p.1.Stopped ∧ p.1.pairing = .succeeded ∧ p.1.taken = [true, true, true] := by
  let _ := plainWacore
  obtain ⟨as, h0⟩ := paired_run ⟨false⟩
  have h1 := h0.tail (windowStep_inTime (.take rfl rfl) (by
    intro e he hwindowed
    cases he
    cases hwindowed))
  have h2 := h1.tail (windowStep_inTime (.runner (.silent (a := .move .transportClosed) rfl)
    (.move (.transportClosed (e := .notConnected) rfl)) (.refl _)) ⟨nofun, nofun⟩)
  have h3 := h2.tail (windowStep_inTime (.runner (.silent (a := .cleanup) rfl) (.cleanup rfl)
    (.refl _)) ⟨nofun, nofun⟩)
  have h4 := h3.tail (windowStep_inTime (.runner (.endedStopped rfl rfl) (.move (.endedError rfl))
    (.refl _)) ⟨nofun, nofun⟩)
  have h5 := h4.tail (windowStep_inTime (.take rfl rfl) (by
    intro e he _
    cases he
    exact ⟨nofun, nofun⟩))
  have h6 := h5.tail (windowStep_inTime (.pairTake rfl rfl) trivial)
  have h7 := h6.tail (windowStep_inTime (.succeeded rfl) trivial)
  exact ⟨_, _, h7, rfl, rfl, rfl⟩

/-- A forced reconnect that the stream hides, and a last `Disconnected` that it
delivers. -/
theorem hides_forced_reconnect_paired :
    letI := plainWacore
    (∃ as p, ((recordedWindows (fun _ => none) ⟨true⟩).restrict
        (InTime (fun _ => none) ⟨true⟩)).Run as p ∧
      p.1.Reconnected ∧ p.1.taken = [true, true, false, false] ∧
      p.1.HidesForced fun _ => none) ∧
    ∃ as p, ((recordedWindows (fun _ => none) ⟨false⟩).restrict
        (InTime (fun _ => none) ⟨false⟩)).Run as p ∧
      p.1.Stopped ∧ p.1.pairing = .succeeded ∧ p.1.taken = [true, true, true] ∧
      p.1.HidesForced fun _ => none := by
  let _ := plainWacore
  constructor
  · obtain ⟨as, p, hrun, hreconnected, htaken⟩ := reconnecting_run
    exact ⟨as, p, hrun, hreconnected, htaken, (hides_forced_reconnect _ _ _ _ hrun).1⟩
  · obtain ⟨as, p, hrun, hstopped, hpairing, htaken⟩ := stopping_run
    exact ⟨as, p, hrun, hstopped, hpairing, htaken, (hides_forced_reconnect _ _ _ _ hrun).1⟩

/-- Without `auto_reconnect` the `Disconnected` after a pairing is hidden, and no
reconnect follows. -/
theorem disconnected_hidden :
    letI := plainWacore
    ¬ ∀ (config : ConnectionConfig) (as : List WindowAction) (p : WindowState × ForcedTaken),
      (recordedWindows (fun _ => none) config).Run as p → p.1.HidesForced fun _ => none := by
  let _ := plainWacore
  intro hall
  have hstep : ∀ {s t : WindowState} {took : ForcedTaken} {a : WindowAction},
      WindowStep (fun _ => none) ⟨false⟩ s a t →
      (recordedWindows (fun _ => none) ⟨false⟩).step (s, took) a
        (t, took.next (fun _ => none) s a) := fun h => ⟨h, rfl⟩
  obtain ⟨as, hpaired⟩ := paired_run ⟨false⟩
  have h0 := hpaired.of_restrict
  have h1 := h0.tail (hstep (.pairTake rfl rfl))
  have h2 := h1.tail (hstep (.take rfl rfl))
  have h3 := h2.tail (hstep (.succeeded rfl))
  have h4 := h3.tail (hstep (.runner (.silent (a := .move .transportClosed) rfl)
    (.move (.transportClosed (e := .notConnected) rfl)) (.refl _)))
  have h5 := h4.tail (hstep (.runner (.silent (a := .cleanup) rfl) (.cleanup rfl) (.refl _)))
  have h6 := h5.tail (hstep (.runner (.endedStopped rfl rfl) (.move (.endedError rfl)) (.refl _)))
  have h7 := h6.tail (hstep (.take rfl rfl))
  -- The third event is the `Disconnected`.
  obtain ⟨-, hdelivered⟩ := hall _ _ _ h7 2 .disconnected false rfl rfl rfl
  cases hdelivered rfl nofun

end Runs

end Waepic.Client
