import Waepic.Client.UpdateStream

/-!
# Progress of the read loop and the update stream

`read_loop` stops at a full event queue until the stream receives, and the
stream, inside a handler, waits for answers that only `read_loop` brings.
-/

namespace Waepic.Client

open Transition Binary Connection

variable [WacoreBinary]

/-! ## The outcome of a call -/

theorem responseOutcome_fill {iq : Option (String × IqSpec)} {response : Slot (Result Node)}
    {o : Result (Option Node)} (h : responseOutcome iq response = some o) (r : Result Node) :
    responseOutcome iq (response.fill r) = some o := by
  cases iq with
  | none => exact h
  | some iq =>
      cases response with
      | empty => cases h
      | filled _ => exact h
      | closed => exact h

theorem responseOutcome_close {iq : Option (String × IqSpec)} {response : Slot (Result Node)}
    {o : Result (Option Node)} (h : responseOutcome iq response = some o) :
    responseOutcome iq response.close = some o := by
  cases iq with
  | none => exact h
  | some iq =>
      cases response with
      | empty => cases h
      | filled _ => exact h
      | closed => exact h

theorem sendOutcome_of_response {iq : Option (String × IqSpec)}
    {response response' : Slot (Result Node)} {r : Result Unit} {o : Result (Option Node)}
    (h : responseOutcome iq response = some o → responseOutcome iq response' = some o)
    (ho : sendOutcome iq response r = some o) : sendOutcome iq response' r = some o := by
  cases r with
  | error e => exact ho
  | ok _ => exact h ho

/-- The outcome depends on the response slot as `responseOutcome` does. -/
theorem outcome_of_response {call : Call} {response : Slot (Result Node)}
    {o : Result (Option Node)}
    (h : responseOutcome call.iq call.response = some o → responseOutcome call.iq response = some o)
    (ho : outcome call = some o) : outcome { call with response := response } = some o := by
  simp only [outcome] at ho ⊢
  cases hstage : call.stage with
  | returned r =>
      simp only [hstage] at ho
      exact sendOutcome_of_response h ho
  | awaiting =>
      simp only [hstage] at ho ⊢
      cases hiq : call.iq with
      | none => simp [hiq] at ho
      | some iq => simpa [hiq] using h (by simpa [hiq] using ho)
  | sending =>
      simp only [hstage] at ho ⊢
      cases hslot : call.sendResult with
      | empty => simp [hslot] at ho
      | closed => simpa [hslot] using ho
      | filled r => exact sendOutcome_of_response h (by simpa [hslot] using ho)
  | created => simp [hstage] at ho
  | registered => simp [hstage] at ho
  | dropped => simp [hstage] at ho

/-- The outcome waits for the answer of a send. -/
theorem outcome_of_sendResult {call : Call} {slot : Slot (Result Unit)} {o : Result (Option Node)}
    (h : call.sendResult ≠ .empty → slot = call.sendResult) (ho : outcome call = some o) :
    outcome { call with sendResult := slot } = some o := by
  by_cases hsending : call.stage = .sending
  · have hne : call.sendResult ≠ .empty := by
      intro hempty
      simp [outcome, hsending, hempty] at ho
    rw [h hne]
    exact ho
  · cases hstage : call.stage <;> simp_all [outcome]

theorem outcome_kept {dropped : Prop} {call call' : Call} {o : Result (Option Node)}
    (hmoves : CallStep dropped call call') (hdropped : ¬ dropped) (ho : outcome call = some o) :
    outcome call' = some o := by
  cases hmoves with
  | same => exact ho
  | register hs => simp [outcome, hs] at ho
  | enqueue hs => rcases hs with hs | ⟨hs, -⟩ <;> simp [outcome, hs] at ho
  | refused hs => rcases hs with hs | ⟨hs, -⟩ <;> simp [outcome, hs] at ho
  | @answered r hs hfilled =>
      simp only [outcome, hs, hfilled] at ho
      cases hiq : call.iq with
      | none => simpa [outcome, Call.sendReturned, hiq, sendOutcome] using ho
      | some iq =>
          rcases r with e | ⟨⟨⟩⟩ <;>
            simpa [outcome, Call.sendReturned, hiq, sendOutcome] using ho
  | abandoned hs hclosed =>
      simp only [outcome, hs, hclosed] at ho
      cases hiq : call.iq <;> simpa [outcome, Call.sendReturned, hiq, sendOutcome] using ho
  | timedOut hs hempty => simp [outcome, hs, hempty] at ho
  | @responded r hs hfilled =>
      simp only [outcome, hs, hfilled] at ho
      cases hiq : call.iq with
      | none => simp [hiq] at ho
      | some iq =>
          rcases r with e | n
          · simpa [hiq, responseOutcome, outcome, sendOutcome, Call.responded] using ho
          · have hresult : some ((iqResult iq.2 n).map fun _ => some n) = some o := by
              simpa [hiq, responseOutcome] using ho
            rw [← hresult]
            cases hparsed : iqResult iq.2 n <;>
              simp [hiq, hfilled, responseOutcome, outcome, sendOutcome, Call.responded, hparsed,
                Except.map]
  | responseAbandoned hs hclosed =>
      simp only [outcome, hs, hclosed] at ho
      cases hiq : call.iq with
      | none => simp [hiq] at ho
      | some iq => simpa [hiq, responseOutcome, outcome, sendOutcome] using ho
  | responseTimedOut hs hempty =>
      cases hiq : call.iq <;> simp [outcome, hs, hempty, hiq, responseOutcome] at ho
  | drop hd _ => exact absurd hd hdropped
  | fillSend r => exact outcome_of_sendResult (fun hne => Slot.fill_of_ne_empty hne r) ho
  | closeSend => exact outcome_of_sendResult Slot.close_of_ne_empty ho
  | fillResponse r => exact outcome_of_response (fun h => responseOutcome_fill h r) ho
  | closeResponse => exact outcome_of_response responseOutcome_close ho

/-! ## Progress -/

/-- `read_loop` works on a node that it will broadcast. -/
def HoldsFrame : Phase → Prop
  | .acking _ | .routing _ => True
  | _ => False

def InReadLoop : Phase → Prop
  | .reading | .sendingNode _ | .transmitting _ | .pinging | .acking _ | .routing _ => True
  | _ => False

/-- A frame or a command waits. -/
def StreamState.Pending (s : StreamState) : Prop :=
  s.inbox ≠ [] ∨ s.decoded ≠ [] ∨ s.conn.commands ≠ [] ∨ HoldsFrame s.conn.runner.phase

/-- An action of `read_loop`, without the keepalive timer. -/
def ReadLoopAction : ConnAction → Prop
  | .frame _ | .takeNode _ | .sendRefused _ _ | .handOver _ | .transportSent _ _ => True
  | .takeDisconnect | .commandsClosed => True
  | .move .acked | .move .routed | .move .pinged => True
  | _ => False

/-- An action of the call `c`, without its timers. -/
def CallAction (c : CallId) : ConnAction → Prop
  | .register d _ | .enqueue d | .sendAnswered d | .responseAnswered d => d = c
  | _ => False

/-- An action of `read_loop` or of the stream that is no timer expiring. -/
def Progress (s : StreamState) : StreamAction → Prop
  | .deliver _ => False
  | .conn a => ReadLoopAction a ∨ ∃ c next, s.phase = .awaiting c next ∧ CallAction c a
  | _ => True

def CanMove (config : StreamConfig) (s : StreamState) : Prop :=
  ∃ a t, Progress s a ∧ (updateStream config).step s a t

/-- The stream will receive again without another answer of `read_loop`. -/
def Free (calls : CallId → Option Call) : StreamPhase → Prop
  | .idle => True
  | .handling h => h = .done
  | .awaiting c next => ∃ call o, calls c = some call ∧ outcome call = some o ∧ next o = .done

/-- The calls after a node has resolved its waiter. -/
def StreamState.received (s : StreamState) (n : Node) : CallId → Option Call :=
  match (routeNode n).waiter with
  | some id => (s.conn.resolveWaiter id n).calls
  | none => s.conn.calls

/-- `read_loop` takes a node only if it finds room in the queue for it, or the
stream needs no other answer to receive again. -/
def FrameFits (s : StreamState) : StreamAction → Prop
  | .conn (.frame n) =>
      (s.announced n).length < eventCapacity ∨ Free (s.received n) s.phase
  | _ => True

structure StreamInv (s : StreamState) : Prop where
  capacity : s.events.length ≤ eventCapacity
  fits : HoldsFrame s.conn.runner.phase →
    s.events.length < eventCapacity ∨ Free s.conn.calls s.phase

/-! ### The event queue -/

omit [WacoreBinary] in
theorem tryBroadcast_length_le {events : List RawEvent} (h : events.length ≤ eventCapacity)
    (e : RawEvent) : (tryBroadcast events e).length ≤ eventCapacity := by
  simp only [tryBroadcast]
  split
  · rw [List.length_append, List.length_singleton]
    omega
  · exact h

omit [WacoreBinary] in
theorem foldl_tryBroadcast_length_le (es : List RawEvent) {events : List RawEvent}
    (h : events.length ≤ eventCapacity) :
    (es.foldl tryBroadcast events).length ≤ eventCapacity := by
  induction es generalizing events with
  | nil => exact h
  | cons e es ih => exact ih (tryBroadcast_length_le h e)

theorem announced_length_le {s : StreamState} (h : s.events.length ≤ eventCapacity) (n : Node) :
    (s.announced n).length ≤ eventCapacity := by
  simp only [StreamState.announced]
  split
  · exact tryBroadcast_length_le h _
  · exact h

/-! ### What the runner holds -/

variable {config : ConnectionConfig} {s t : ConnState} {a : ConnAction}

omit [WacoreBinary] in
theorem holdsFrame_of_runnerStep {r r' : Runner} {m : RunnerMove} (h : RunnerStep config r m r')
    (hr : HoldsFrame r'.phase) : HoldsFrame r.phase := by
  have hretry : ¬ HoldsFrame (r.retryOrStop config).phase := by
    simp only [Runner.retryOrStop]
    split <;> exact id
  cases h with
  | acked hacking =>
      rw [hacking]
      trivial
  | connectFailed _ => exact absurd hr hretry
  | endedError _ => exact absurd hr hretry
  | _ => exact absurd hr id

/-- Only a frame gives `read_loop` a node. -/
theorem holdsFrame_of_connStep (h : ConnStep config s a t) (ht : HoldsFrame t.runner.phase) :
    HoldsFrame s.runner.phase ∨ ∃ n, a = .frame n := by
  cases h with
  | frameOther _ _ => exact Or.inr ⟨_, rfl⟩
  | frameIq _ _ => exact Or.inr ⟨_, rfl⟩
  | move hm => exact Or.inl (holdsFrame_of_runnerStep hm ht)
  | register _ _ _ =>
      rw [ConnState.setCall_runner, ConnState.insertWaiter_runner] at ht
      exact Or.inl ht
  | takeNode _ _ => exact absurd ht id
  | sendRefused _ => exact absurd ht id
  | handOver _ => exact absurd ht id
  | transportAccepts _ => exact absurd ht id
  | transportFails _ => exact absurd ht id
  | takeDisconnect _ _ => exact absurd ht id
  | commandsClosed _ _ _ => exact absurd ht id
  | cleanup _ => exact absurd ht id
  | abort _ => exact absurd ht id
  | abortSending _ => exact absurd ht id
  | _ => exact Or.inl ht

/-- `read_loop` holds the node of a frame, and the waiter of its id is resolved. -/
theorem received_of_frame {s : StreamState} {n : Node}
    (h : ConnStep config s.conn (.frame n) t) :
    HoldsFrame t.runner.phase ∧ t.calls = s.received n := by
  cases h with
  | frameOther _ hwaiter =>
      constructor
      · show HoldsFrame (if _ then _ else _)
        split <;> trivial
      · simp [StreamState.received, hwaiter]
  | frameIq _ hwaiter =>
      exact ⟨trivial, by simp [StreamState.received, hwaiter]⟩

/-- What the stream waits for does not go away. -/
theorem Free.kept {phase : StreamPhase} (hfree : Free s.calls phase) (h : ConnStep config s a t)
    (hdrop : ∀ c next, phase = .awaiting c next → a ≠ .drop c) : Free t.calls phase := by
  cases phase with
  | idle => trivial
  | handling _ => exact hfree
  | awaiting c next =>
      obtain ⟨call, o, hcall, ho, hnext⟩ := hfree
      obtain ⟨call', hcall', hmoves, -⟩ := h.call_step hcall
      exact ⟨call', o, hcall', outcome_kept hmoves (hdrop c next rfl) ho, hnext⟩

/-- While `read_loop` holds a node the runner broadcasts nothing else. -/
theorem Announces.nil_of_holdsFrame {s : StreamState} {es : List RawEvent}
    (hes : Announces config s a es) (h : ConnStep config s.conn a t)
    (hframe : HoldsFrame s.conn.runner.phase) : es = [] := by
  have hphase : ∀ phase, s.conn.runner.phase = phase → HoldsFrame phase := by
    rintro phase rfl
    exact hframe
  cases hes with
  | quiet _ => rfl
  | connectFailed _ _ => rfl
  | pinged => rfl
  | connectStopped _ =>
      cases h with
      | move hm =>
          cases hm with
          | connectFailed hconnecting => exact absurd (hphase _ hconnecting) id
  | pingFailed =>
      cases h with
      | move hm =>
          cases hm with
          | pinged hpinging => exact absurd (hphase _ hpinging) id
  | endedOk hclosing => exact absurd (hphase _ hclosing) id
  | endedError hclosing _ _ => exact absurd (hphase _ hclosing) id
  | endedStopped hclosing _ => exact absurd (hphase _ hclosing) id

/-- A step of the connection besides `frame` keeps what `StreamInv` says of the
node in hand. -/
theorem fits_kept {s : StreamState} {events : List RawEvent} (hinv : StreamInv s)
    (h : ConnStep config s.conn a t) (hframe : ∀ n, a ≠ .frame n)
    (hdrop : ∀ c next, s.phase = .awaiting c next → a ≠ .drop c)
    (hevents : HoldsFrame s.conn.runner.phase → events = s.events) :
    HoldsFrame t.runner.phase → events.length < eventCapacity ∨ Free t.calls s.phase := by
  intro ht
  rcases holdsFrame_of_connStep h ht with hs | ⟨n, ha⟩
  · rw [hevents hs]
    exact (hinv.fits hs).imp id fun hfree => hfree.kept h hdrop
  · exact absurd ha (hframe n)

/-- A stream that is not free and the node in hand leave room in the queue. -/
theorem StreamInv.room {s : StreamState} (hinv : StreamInv s)
    (hframe : HoldsFrame s.conn.runner.phase) (hfree : ¬ Free s.conn.calls s.phase) :
    s.events.length < eventCapacity :=
  (hinv.fits hframe).resolve_right hfree

/-! ## The invariant -/

theorem StreamInv.recv {s : StreamState} (hinv : StreamInv s) {e : RawEvent}
    {rest : List RawEvent} (hevents : s.events = e :: rest) (phase : StreamPhase) :
    StreamInv { s with events := rest, phase := phase } := by
  have hlength : rest.length + 1 ≤ eventCapacity := by
    simpa [hevents] using hinv.capacity
  exact ⟨Nat.le_of_succ_le hlength, fun _ => Or.inl hlength⟩

theorem StreamInv.step {config : StreamConfig} {s t : StreamState} {a : StreamAction}
    (hinv : StreamInv s) (h : StreamStep config s a t) (hguard : FrameFits s a) : StreamInv t := by
  cases h with
  | deliver _ => exact ⟨hinv.capacity, hinv.fits⟩
  | receive _ _ _ => exact ⟨hinv.capacity, hinv.fits⟩
  | invalid hreading _ =>
      refine ⟨tryBroadcast_length_le hinv.capacity _, fun hframe => ?_⟩
      rw [hreading] at hframe
      exact absurd hframe id
  | @frame n rest t hdecoded hstep =>
      refine ⟨announced_length_le hinv.capacity n, fun _ => hguard.imp id fun hfree => ?_⟩
      rw [(received_of_frame hstep).2]
      exact hfree
  | routed hrouting hroom hstep =>
      refine ⟨?_, fun hframe => ?_⟩
      · rw [List.length_append, List.length_singleton]
        omega
      · cases hstep with
        | move hm => cases hm; exact absurd hframe id
  | connected hstep =>
      refine ⟨tryBroadcast_length_le hinv.capacity _, fun hframe => ?_⟩
      cases hstep with
      | move hm => cases hm; exact absurd hframe id
  | @select a t hselect _ _ hstep =>
      refine ⟨hinv.capacity, fits_kept (s := s) hinv hstep ?_ ?_ fun _ => rfl⟩
      · rintro n rfl
        exact hselect
      · rintro c next - rfl
        exact hselect
  | @conn a t es hes hstep =>
      refine ⟨foldl_tryBroadcast_length_le es hinv.capacity, fits_kept (s := s) hinv hstep ?_ ?_ ?_⟩
      · rintro n rfl
        cases hes with
        | quiet hquiet => exact hquiet
      · rintro c next hawaiting rfl
        cases hes with
        | quiet hquiet => exact hquiet next hawaiting
      · intro hframe
        rw [hes.nil_of_holdsFrame hstep hframe]
        rfl
  | recvConnected stored _ hevents => exact hinv.recv hevents _
  | recvNode _ hevents _ => exact hinv.recv hevents _
  | recvDisconnected _ hevents => exact hinv.recv hevents _
  | recvError _ hevents => exact hinv.recv hevents _
  | callNode hhandling hstep =>
      refine ⟨hinv.capacity, fun hframe => ?_⟩
      cases hstep
      exact Or.inl (hinv.room hframe (by rw [hhandling]; nofun))
  | callIq hhandling hstep =>
      refine ⟨hinv.capacity, fun hframe => ?_⟩
      have hbusy : ¬ Free s.conn.calls s.phase := by
        rw [hhandling]
        nofun
      cases hstep <;> exact Or.inl (hinv.room hframe hbusy)
  | @resume c next call r o hawaiting hcall hreturned ho =>
      refine ⟨hinv.capacity, fun hframe => (hinv.fits hframe).imp id fun hfree => ?_⟩
      rw [hawaiting] at hfree
      obtain ⟨call', o', hcall', ho', hnext⟩ := hfree
      rw [hcall] at hcall'
      cases hcall'
      rw [ho] at ho'
      cases ho'
      exact hnext
  | finish _ => exact ⟨hinv.capacity, fun hframe => (hinv.fits hframe).imp id fun _ => trivial⟩

theorem streamInv_of_run {config : StreamConfig} {as : List StreamAction} {s : StreamState}
    (h : ((updateStream config).restrict FrameFits).Run as s) : StreamInv s := by
  refine h.invariant ?_ fun _ _ _ hinv hstep => hinv.step hstep.1 hstep.2
  rintro s rfl
  exact ⟨Nat.zero_le _, fun hframe => absurd hframe id⟩

/-! ## Enabled steps -/

section

variable {config : StreamConfig} {s : StreamState}

theorem exists_frame_step {config : ConnectionConfig} {conn : ConnState} {n : Node}
    (hreading : conn.runner.phase = .reading) : ∃ t, ConnStep config conn (.frame n) t := by
  cases hwaiter : (routeNode n).waiter with
  | none => exact ⟨_, .frameOther hreading hwaiter⟩
  | some id => exact ⟨_, .frameIq hreading hwaiter⟩

/-- A stream with an event receives it, or goes on with the answers it has. -/
theorem Free.canMove (hfree : Free s.conn.calls s.phase) (hevents : s.events ≠ []) :
    CanMove config s := by
  cases hphase : s.phase with
  | idle =>
      obtain ⟨e, rest, hcons⟩ := List.exists_cons_of_ne_nil hevents
      cases e with
      | node n =>
          obtain ⟨h, hhandler⟩ := config.handled n
          exact ⟨.recv, _, trivial, .recvNode hphase hcons hhandler⟩
      | connected => exact ⟨.recv, _, trivial, .recvConnected none hphase hcons⟩
      | disconnected => exact ⟨.recv, _, trivial, .recvDisconnected hphase hcons⟩
      | error text => exact ⟨.recv, _, trivial, .recvError hphase hcons⟩
  | handling h =>
      rw [hphase] at hfree
      exact ⟨.finish, _, trivial, .finish (hphase.trans (congrArg _ hfree))⟩
  | awaiting c next =>
      rw [hphase] at hfree
      obtain ⟨call, o, hcall, ho, -⟩ := hfree
      have hown : ∀ a, CallAction c a → Progress s (.conn a) :=
        fun a ha => Or.inr ⟨c, next, hphase, ha⟩
      cases hstage : call.stage with
      | returned r => exact ⟨.resume, _, trivial, .resume hphase hcall hstage ho⟩
      | sending =>
          cases hslot : call.sendResult with
          | empty => simp [outcome, hstage, hslot] at ho
          | filled r =>
              exact ⟨_, _, hown (.sendAnswered c) rfl,
                .conn (.quiet trivial) (.sendAnswered hcall hstage hslot)⟩
          | closed =>
              exact ⟨_, _, hown (.sendAnswered c) rfl,
                .conn (.quiet trivial) (.sendAbandoned hcall hstage hslot)⟩
      | awaiting =>
          cases hslot : call.response with
          | empty =>
              cases hiq : call.iq <;> simp [outcome, hstage, hslot, hiq, responseOutcome] at ho
          | filled r =>
              exact ⟨_, _, hown (.responseAnswered c) rfl,
                .conn (.quiet trivial) (.responseAnswered hcall hstage hslot)⟩
          | closed =>
              exact ⟨_, _, hown (.responseAnswered c) rfl,
                .conn (.quiet trivial) (.responseAbandoned hcall hstage hslot)⟩
      | created => simp [outcome, hstage] at ho
      | registered => simp [outcome, hstage] at ho
      | dropped => simp [outcome, hstage] at ho

/-- At its select `read_loop` takes what waits. -/
theorem canMove_of_reading (hreading : s.conn.runner.phase = .reading) (hpending : s.Pending) :
    CanMove config s := by
  cases hdecoded : s.decoded with
  | cons frame rest =>
      cases frame with
      | node n =>
          obtain ⟨t, hstep⟩ : ∃ t, ConnStep config.connection s.conn (.frame n) t :=
            exists_frame_step hreading
          exact ⟨.conn (.frame n), _, Or.inl trivial, .frame hdecoded hstep⟩
      | invalid e => exact ⟨.invalid, _, trivial, .invalid hreading hdecoded⟩
  | nil =>
      cases hinbox : s.inbox with
      | cons chunk rest => exact ⟨.receive, _, trivial, .receive hreading hdecoded hinbox⟩
      | nil =>
          cases hcommands : s.conn.commands with
          | cons command rest =>
              cases command with
              | sendNode c =>
                  exact ⟨.conn (.takeNode c), _, Or.inl trivial,
                    .select trivial hdecoded hinbox (.takeNode hreading hcommands)⟩
              | disconnect =>
                  exact ⟨.conn .takeDisconnect, _, Or.inl trivial,
                    .select trivial hdecoded hinbox (.takeDisconnect hreading hcommands)⟩
          | nil =>
              rcases hpending with h | h | h | h
              · exact absurd hinbox h
              · exact absurd hdecoded h
              · exact absurd hcommands h
              · rw [hreading] at h
                exact absurd h id

theorem StreamInv.canMove (hinv : StreamInv s) (hloop : InReadLoop s.conn.runner.phase)
    (hpending : s.Pending) : CanMove config s := by
  cases hphase : s.conn.runner.phase with
  | reading => exact canMove_of_reading hphase hpending
  | sendingNode c =>
      exact ⟨.conn (.handOver c), _, Or.inl trivial, .conn (.quiet trivial) (.handOver hphase)⟩
  | transmitting c =>
      exact ⟨.conn (.transportSent c (.ok ())), _, Or.inl trivial,
        .conn (.quiet trivial) (.transportAccepts hphase)⟩
  | pinging =>
      exact ⟨.conn (.move .pinged), _, Or.inl trivial, .conn .pinged (.move (.pinged hphase))⟩
  | acking n =>
      exact ⟨.conn (.move .acked), _, Or.inl trivial,
        .conn (.quiet trivial) (.move (.acked hphase))⟩
  | routing n =>
      rcases Nat.lt_or_ge s.events.length eventCapacity with hroom | hfull
      · exact ⟨.conn (.move .routed), _, Or.inl trivial,
          .routed hphase hroom (.move (.routed hphase))⟩
      · have hfree := (hinv.fits (by rw [hphase]; trivial)).resolve_left (Nat.not_lt.mpr hfull)
        refine hfree.canMove fun hnil => ?_
        rw [hnil] at hfull
        exact absurd hfull (by decide)
  | idle => exact absurd hloop (by rw [hphase]; exact id)
  | connecting => exact absurd hloop (by rw [hphase]; exact id)
  | leaving r => exact absurd hloop (by rw [hphase]; exact id)
  | closing r => exact absurd hloop (by rw [hphase]; exact id)
  | delaying => exact absurd hloop (by rw [hphase]; exact id)
  | stopped => exact absurd hloop (by rw [hphase]; exact id)

end

end Waepic.Client
