import Waepic.Library.Periodic
import Waepic.Client.Failure
import Waepic.Client.UpdateStream

/-!
# Flushes of the Signal cache

`run_update_stream` counts the events it handles and flushes the Signal cache
whenever the count is a multiple of 100.  The count stands at the end of the
loop body, and a `continue` skips it: for the nodes of a history sync, for every
message, for a `ConnectFailure` in the window after a pairing, and for the
`Connected` and `Disconnected` of that window.  When the event channel is closed
the loop is left without a flush.

So the cache is flushed in every 100 consecutive events exactly while no event
is skipped before the last flush, and never at the end
(`flushesInTime_iff`).
-/

namespace Waepic.Client

open Binary Periodic

/-! ## The loop -/

/-- What `raw_rx.recv` returns.  With an event stands what `post_pair_reconnect`
holds where the loop reads it. -/
inductive Recv where
  | event (e : RawEvent) (postPairReconnect : Bool)
  | overflowed (n : Nat)
  | closed

/-- How the body of the loop is left. -/
inductive BodyExit where
  /-- By `continue`. -/
  | skipped
  /-- At its end. -/
  | counted
deriving DecidableEq

/-- A call of `flush`. -/
structure Flush where
  /-- How many events were received before. -/
  received : Nat
  /-- The event channel was closed before. -/
  afterClose : Bool

/-- The state of `run_update_stream`, with what it received and its flushes. -/
structure UpdateLoop where
  eventCount : Nat
  received : List (RawEvent × Bool)
  flushes : List Flush
  ended : Bool

namespace UpdateLoop

def new : UpdateLoop where
  eventCount := 0
  received := []
  flushes := []
  ended := false

/-- `signal_cache.flush`. -/
def flush (s : UpdateLoop) : UpdateLoop :=
  { s with flushes := s.flushes ++ [⟨s.received.length, s.ended⟩] }

/-- The end of the body: count the event, and flush after every 100. -/
def countEvent (s : UpdateLoop) : UpdateLoop :=
  let s := { s with eventCount := s.eventCount + 1 }
  if s.eventCount % 100 = 0 then s.flush else s

end UpdateLoop

variable [WacoreBinary]

/-- `is_history_sync`. -/
def isHistorySync (n : Node) : Bool :=
  (n.tag = "notification" && n.attrText "type" = some "history_sync_notification") ||
    (n.tag = "ib" && (n.child "history_sync").isSome)

/-- The update of a node is a `ConnectFailure`; only `handle_failure` gives one. -/
def isConnectFailure (contentAsString : Node → Option String) (n : Node) : Bool :=
  if n.tag = "failure" ∨ n.tag = "stream:error" then
    match handleFailure contentAsString n with
    | .connectFailure _ _ => true
    | _ => false
  else false

/-- The body of the loop, for an event and `post_pair_reconnect`. -/
def bodyExit (contentAsString : Node → Option String) :
    RawEvent → (postPairReconnect : Bool) → BodyExit
  | .node n, postPairReconnect =>
      if isHistorySync n then .skipped
      else if n.tag = "message" then .skipped
      else if isConnectFailure contentAsString n && postPairReconnect then .skipped
      else .counted
  | .connected, postPairReconnect => if postPairReconnect then .skipped else .counted
  | .disconnected, postPairReconnect => if postPairReconnect then .skipped else .counted
  | .error _, _ => .counted

variable (contentAsString : Node → Option String)

/-- One iteration of the loop. -/
def UpdateLoop.step (s : UpdateLoop) : Recv → UpdateLoop
  | .event e postPairReconnect =>
      if s.ended then s
      else
        let s := { s with received := s.received ++ [(e, postPairReconnect)] }
        match bodyExit contentAsString e postPairReconnect with
        | .skipped => s
        | .counted => s.countEvent
  | .overflowed _ => s
  | .closed => { s with ended := true }

/-- `run_update_stream`, on what `recv` returns. -/
def runUpdateStream (recvs : List Recv) : UpdateLoop :=
  recvs.foldl (UpdateLoop.step contentAsString) .new

/-! ## When it flushes -/

/-- Every 100 consecutive events are followed by a flush before the next, or have
one among them, and the task flushes when it ends. -/
def UpdateLoop.FlushesInTime (s : UpdateLoop) : Prop :=
  (∀ i, i + 100 ≤ s.received.length →
    ∃ f ∈ s.flushes, i < f.received ∧ f.received ≤ i + 100) ∧
  (s.ended = true → ∃ f ∈ s.flushes, f.afterClose = true)

/-- The events of what `recv` returns. -/
def eventsOf (recvs : List Recv) : List (RawEvent × Bool) :=
  recvs.filterMap fun
    | .event e postPairReconnect => some (e, postPairReconnect)
    | _ => none

/-- The event is counted. -/
def countsEvent (r : RawEvent × Bool) : Bool :=
  bodyExit contentAsString r.1 r.2 = .counted

/-- The state of the loop after these events, while the channel is open. -/
structure UpdateLoop.Open (s : UpdateLoop) (events : List (RawEvent × Bool)) : Prop where
  ended : s.ended = false
  received : s.received = events
  eventCount : s.eventCount = events.countP (countsEvent contentAsString)
  flushes : ∀ f, f ∈ s.flushes ↔
    ∃ k, WorksAt 100 (countsEvent contentAsString) events k ∧ f = ⟨k + 1, false⟩

variable {contentAsString : Node → Option String} {s : UpdateLoop}
  {events : List (RawEvent × Bool)} {recvs : List Recv}

omit [WacoreBinary] in
theorem eventsOf_append (recvs recvs' : List Recv) :
    eventsOf (recvs ++ recvs') = eventsOf recvs ++ eventsOf recvs' :=
  List.filterMap_append

theorem runUpdateStream_concat (recvs : List Recv) (r : Recv) :
    runUpdateStream contentAsString (recvs ++ [r]) =
      (runUpdateStream contentAsString recvs).step contentAsString r := by
  simp only [runUpdateStream]
  rw [List.foldl_concat]

theorem UpdateLoop.open_new : UpdateLoop.new.Open contentAsString [] where
  ended := rfl
  received := rfl
  eventCount := rfl
  flushes f := by simp [UpdateLoop.new, WorksAt]

/-- An event keeps the invariant: a skipped one changes nothing but what was
received, a counted one flushes if it completes a hundred. -/
theorem UpdateLoop.Open.event (h : s.Open contentAsString events) (e : RawEvent)
    (postPairReconnect : Bool) :
    (s.step contentAsString (.event e postPairReconnect)).Open contentAsString
      (events ++ [(e, postPairReconnect)]) := by
  obtain ⟨hended, hreceived, hcount, hflushes⟩ := h
  have hcounts : countsEvent contentAsString (e, postPairReconnect) =
      (bodyExit contentAsString e postPairReconnect = .counted : Bool) := rfl
  simp only [step, hended, Bool.false_eq_true, if_false]
  cases hexit : bodyExit contentAsString e postPairReconnect with
  | skipped =>
      have hskipped : countsEvent contentAsString (e, postPairReconnect) = false := by
        rw [hcounts, hexit]; rfl
      constructor
      · rfl
      · exact congrArg (· ++ [_]) hreceived
      · simp [hcount, hskipped]
      · intro f
        simp [hflushes, worksAt_concat, hskipped]
  | counted =>
      have hcounted : countsEvent contentAsString (e, postPairReconnect) = true := by
        rw [hcounts, hexit]; rfl
      have hcount' : s.eventCount + 1 =
          (events ++ [(e, postPairReconnect)]).countP (countsEvent contentAsString) := by
        simp [hcount, hcounted]
      have hworks : ∀ k, WorksAt 100 (countsEvent contentAsString)
          (events ++ [(e, postPairReconnect)]) k ↔
          WorksAt 100 (countsEvent contentAsString) events k ∨
            k = events.length ∧ 100 ∣ s.eventCount + 1 := by
        intro k
        rw [worksAt_concat, hcount]
        simp only [hcounted, true_and]
      simp only [countEvent]
      by_cases hdue : (s.eventCount + 1) % 100 = 0
      · have hdvd : 100 ∣ s.eventCount + 1 := Nat.dvd_of_mod_eq_zero hdue
        rw [if_pos hdue]
        constructor
        · rfl
        · exact congrArg (· ++ [_]) hreceived
        · exact hcount'
        · intro f
          simp [flush, hflushes, hworks, hdvd, hreceived, or_and_right, exists_or]
      · have hdvd : ¬ 100 ∣ s.eventCount + 1 := fun h => hdue (Nat.mod_eq_zero_of_dvd h)
        rw [if_neg hdue]
        constructor
        · rfl
        · exact congrArg (· ++ [_]) hreceived
        · exact hcount'
        · intro f
          simp [hflushes, hworks, hdvd]

/-- While the channel is open, the loop has received the events, counted what it
did not skip, and flushed at every hundred. -/
theorem open_runUpdateStream (hopen : .closed ∉ recvs) :
    (runUpdateStream contentAsString recvs).Open contentAsString (eventsOf recvs) := by
  induction recvs using List.reverseRecOn with
  | nil => exact UpdateLoop.open_new
  | append_singleton recvs r ih =>
      obtain ⟨hrecvs, hr⟩ : .closed ∉ recvs ∧ .closed ≠ r := by simpa using hopen
      rw [runUpdateStream_concat, eventsOf_append]
      cases r with
      | event e postPairReconnect => exact (ih hrecvs).event e postPairReconnect
      | overflowed n => exact (List.append_nil (eventsOf recvs)).symm ▸ ih hrecvs
      | closed => exact absurd rfl hr

/-- Once the channel is closed the loop has ended. -/
theorem ended_runUpdateStream (hclosed : .closed ∈ recvs) :
    (runUpdateStream contentAsString recvs).ended = true := by
  induction recvs using List.reverseRecOn with
  | nil => cases hclosed
  | append_singleton recvs r ih =>
      rw [runUpdateStream_concat]
      rcases List.mem_append.mp hclosed with hclosed | hr
      · have hended := ih hclosed
        cases r <;> simp [UpdateLoop.step, hended]
      · obtain rfl : .closed = r := by simpa using hr
        rfl

/-- No flush follows the end of the loop. -/
theorem flush_before_close : ∀ f ∈ (runUpdateStream contentAsString recvs).flushes,
    f.afterClose = false := by
  induction recvs using List.reverseRecOn with
  | nil => exact nofun
  | append_singleton recvs r ih =>
      rw [runUpdateStream_concat]
      cases r with
      | event e postPairReconnect =>
          cases hended : (runUpdateStream contentAsString recvs).ended with
          | true => simpa [UpdateLoop.step, hended] using ih
          | false =>
              simp only [UpdateLoop.step, hended, Bool.false_eq_true, if_false]
              cases bodyExit contentAsString e postPairReconnect with
              | skipped => exact ih
              | counted =>
                  simp only [UpdateLoop.countEvent, UpdateLoop.flush]
                  split
                  · intro f hf
                    rcases List.mem_append.mp hf with hf | hf
                    · exact ih f hf
                    · rw [List.mem_singleton.mp hf]
                  · exact ih
      | overflowed n | closed => exact ih

/-- Messages alone never flush the cache. -/
theorem flushes_of_messages
    (h : ∀ r ∈ recvs, ∃ n postPairReconnect, r = .event (.node n) postPairReconnect ∧
      n.tag = "message") :
    (runUpdateStream contentAsString recvs).flushes = [] := by
  induction recvs using List.reverseRecOn with
  | nil => rfl
  | append_singleton recvs r ih =>
      obtain ⟨n, postPairReconnect, rfl, htag⟩ := h r (by simp)
      have hexit : bodyExit contentAsString (.node n) postPairReconnect = .skipped := by
        simp [bodyExit, htag]
      have hnone := ih fun r hr => h r (List.mem_append_left _ hr)
      rw [runUpdateStream_concat]
      cases hended : (runUpdateStream contentAsString recvs).ended <;>
        simp [UpdateLoop.step, hended, hexit, hnone]

/-- The cache is flushed in every 100 consecutive events, and when the task ends,
exactly if the channel is not closed and the loop skips none of the events up to
the last multiple of 100. -/
theorem flushesInTime_iff (contentAsString : Node → Option String) (recvs : List Recv) :
    (runUpdateStream contentAsString recvs).FlushesInTime ↔
      .closed ∉ recvs ∧
        ∀ r ∈ (eventsOf recvs).take (100 * ((eventsOf recvs).length / 100)),
          bodyExit contentAsString r.1 r.2 = .counted := by
  by_cases hclosed : .closed ∈ recvs
  · apply iff_of_false
    · intro h
      obtain ⟨f, hf, hafter⟩ := h.2 (ended_runUpdateStream hclosed)
      rw [flush_before_close f hf] at hafter
      cases hafter
    · exact fun h => h.1 hclosed
  · have h : (runUpdateStream contentAsString recvs).Open contentAsString (eventsOf recvs) :=
      open_runUpdateStream hclosed
    have hwindows : (runUpdateStream contentAsString recvs).FlushesInTime ↔
        WorksInWindows 100 (countsEvent contentAsString) (eventsOf recvs) := by
      simp only [UpdateLoop.FlushesInTime, WorksInWindows]
      rw [h.received, h.ended]
      constructor
      · intro hflush i hi
        obtain ⟨f, hf, hlt, hle⟩ := hflush.1 i hi
        obtain ⟨k, hworks, rfl⟩ := (h.flushes f).mp hf
        exact ⟨k, Nat.lt_succ_iff.mp hlt, hle, hworks⟩
      · intro hworks
        refine ⟨fun i hi => ?_, nofun⟩
        obtain ⟨k, hik, hk, hworks⟩ := hworks i hi
        exact ⟨⟨k + 1, false⟩, (h.flushes _).mpr ⟨k, hworks, rfl⟩, Nat.lt_succ_of_le hik, hk⟩
    rw [hwindows, works_in_windows_iff (by decide)]
    simp [hclosed, AllCount, countsEvent]

/-- A hundred messages, and nothing else. -/
def hundredMessages : List Recv :=
  List.replicate 100 (.event (.node (.mk "message" [] none)) false)

omit [WacoreBinary] in
/-- A hundred messages are received and the cache is not flushed. -/
theorem hundred_messages_not_flushed :
    letI := plainWacore
    ¬ (runUpdateStream (fun _ => none) hundredMessages).FlushesInTime := by
  let _ := plainWacore
  intro h
  have hclosed : .closed ∉ hundredMessages := by simp [hundredMessages]
  have hopen : (runUpdateStream (fun _ => none) hundredMessages).Open (fun _ => none)
      (eventsOf hundredMessages) := open_runUpdateStream hclosed
  obtain ⟨f, hf, _⟩ := h.1 0 (by rw [hopen.received]; decide)
  rw [flushes_of_messages] at hf
  · cases hf
  · intro r hr
    exact ⟨_, _, List.eq_of_mem_replicate hr, rfl⟩

end Waepic.Client
