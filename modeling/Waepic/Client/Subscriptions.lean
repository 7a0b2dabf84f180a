import Waepic.Client.UpdateStream
import Waepic.Connection.Reconnect
import Waepic.Library.Broadcast

/-!
# Subscriptions

The runner broadcasts its events, and `stream_updates`, `request_pairing` and
`request_pair_code` make receivers for them at any time and drop them at any
time.  `Connection::new` makes the channel with a receiver of its own, which
`run` drops when it starts.

The channel is closed when its last receiver is dropped and is not opened again.
So a runner that starts before the first subscription, or goes on after the last
one, broadcasts nodes that no later receiver gets (`hears_all`).
-/

namespace Waepic.Client

open Transition Binary Connection Broadcast

/-! ## States and actions -/

/-- An action of the runner, which it takes once `run` has started. -/
def isRunnerAction : ConnAction → Bool
  | .move _ | .frame _ | .takeNode _ | .sendRefused _ _ | .handOver _ | .transportSent _ _
  | .takeDisconnect | .commandsClosed | .cleanup | .abort | .discard => true
  | _ => false

/-- An action with which the runner may broadcast. -/
def mayEmit : ConnAction → Bool
  | .frame _ | .move .connected | .move .connectFailed | .move .pinged | .move .routed
  | .move .ended => true
  | _ => false

/-- The receiver that `Connection::new` keeps in the runner. -/
def eventRx : Nat := 0

structure EventState where
  conn : ConnState
  /-- `run` was called. -/
  started : Bool
  events : Channel RawEvent

def EventState.new : EventState where
  conn := .new
  started := false
  events := .new eventCapacity

inductive EventAction where
  | start
  | conn (a : ConnAction)
  /-- A frame that does not decode. -/
  | invalid
  | subscribe
  | recv (id : Nat)
  | unsubscribe (id : Nat)

variable [WacoreBinary]

/-! ## Steps -/

/-- What an action passes to `try_broadcast`. -/
inductive Emits (config : ConnectionConfig) (s : ConnState) :
    ConnAction → List RawEvent → Prop where
  | silent {a : ConnAction} : mayEmit a = false → Emits config s a []
  | connected : Emits config s (.move .connected) [.connected]
  | frame {n : Node} :
      Emits config s (.frame n) (if (routeNode n).announce then [.connected] else [])
  | connectFailed :
      s.runner.mayRetry config = true → Emits config s (.move .connectFailed) []
  | connectStopped {e : ConnectionError} :
      s.runner.mayRetry config = false →
      Emits config s (.move .connectFailed)
        [.error ("connect failed and auto_reconnect is disabled: " ++ e.toText)]
  | pinged : Emits config s (.move .pinged) []
  | pingFailed {e : ConnectionError} :
      Emits config s (.move .pinged) [.error ("keepalive failed: " ++ e.toText)]
  | endedOk :
      s.runner.phase = .closing (.ok ()) → Emits config s (.move .ended) [.disconnected]
  | endedError {e : ConnectionError} :
      s.runner.phase = .closing (.error e) → s.runner.mayRetry config = true →
      Emits config s (.move .ended) [.disconnected]
  | endedStopped {e : ConnectionError} :
      s.runner.phase = .closing (.error e) → s.runner.mayRetry config = false →
      Emits config s (.move .ended) [.disconnected, .error ("disconnected: " ++ e.toText)]

inductive EventStep (config : ConnectionConfig) : EventState → EventAction → EventState → Prop where
  | start {s : EventState} :
      s.started = false →
      EventStep config s .start
        { s with started := true, events := s.events.dropReceiver eventRx }
  | conn {s : EventState} {a : ConnAction} {t : ConnState} {es : List RawEvent} :
      (isRunnerAction a = true → s.started = true) → Emits config s.conn a es →
      ConnStep config s.conn a t →
      EventStep config s (.conn a)
        { s with conn := t, events := es.foldl Channel.tryBroadcast s.events }
  /-- `broadcast` waits for room, and returns at once if the channel is closed. -/
  | routed {s : EventState} {n : Node} {t : ConnState} :
      s.started = true → s.conn.runner.phase = .routing n →
      s.events.full = false ∨ s.events.closed = true →
      ConnStep config s.conn (.move .routed) t →
      EventStep config s (.conn (.move .routed))
        { s with conn := t, events := s.events.tryBroadcast (.node n) }
  | invalid {s : EventState} {e : ConnectionError} :
      s.started = true → s.conn.runner.phase = .reading →
      EventStep config s .invalid
        { s with events := s.events.tryBroadcast (.error e.toText) }
  | subscribe {s : EventState} :
      EventStep config s .subscribe { s with events := s.events.newReceiver }
  | recv {s : EventState} {id : Nat} :
      EventStep config s (.recv id) { s with events := s.events.recv id }
  | unsubscribe {s : EventState} {id : Nat} :
      id ≠ eventRx →
      EventStep config s (.unsubscribe id) { s with events := s.events.dropReceiver id }

/-- The runs of a connection with its subscribers. -/
def subscriptions (config : ConnectionConfig) : System EventState EventAction where
  init s := s = .new
  step := EventStep config

/-! ## What the receivers miss -/

/-- The nodes among the events. -/
def nodesOf (events : List RawEvent) : List Node :=
  events.filterMap fun e =>
    match e with
    | .node n => some n
    | _ => none

/-- What the history of a run says about its nodes. -/
structure Broadcasts where
  /-- The nodes that the read loop broadcast, oldest first. -/
  nodes : List Node
  /-- How many there were when a receiver was made. -/
  since : Nat → Nat

def Broadcasts.next (h : Broadcasts) (s : EventState) : EventAction → Broadcasts
  | .subscribe => { h with since := Function.update h.since s.events.nextId h.nodes.length }
  | .conn (.move .routed) =>
      match s.conn.runner.phase with
      | .routing n => { h with nodes := h.nodes ++ [n] }
      | _ => h
  | _ => h

/-- The runs of a connection with its subscribers, with the nodes broadcast. -/
def broadcasts (config : ConnectionConfig) : System (EventState × Broadcasts) EventAction :=
  (subscriptions config).record ⟨[], fun _ => 0⟩ Broadcasts.next

/-- Every receiver that is alive has got, or will get, the nodes broadcast since
it was made. -/
def HearsAll (p : EventState × Broadcasts) : Prop :=
  p.1.events.All fun id heard => nodesOf heard = p.2.nodes.drop (p.2.since id)

/-- The last receiver is not dropped while the runner may still broadcast. -/
def KeepsReceiver (config : ConnectionConfig) (p : EventState × Broadcasts) : EventAction → Prop
  | .start => p.1.events.Has (· ≠ eventRx)
  | .unsubscribe id =>
      p.1.events.Has (· ≠ id) ∨ p.1.conn.runner.isFinal config = true
  | _ => True

/-! ### While some receiver is kept -/

omit [WacoreBinary] in
theorem nodesOf_append (events : List RawEvent) (e : RawEvent) :
    nodesOf (events ++ [e]) = nodesOf events ++ nodesOf [e] :=
  List.filterMap_append ..

variable {config : ConnectionConfig}

theorem Emits.not_node {s : ConnState} {a : ConnAction} {es : List RawEvent}
    (h : Emits config s a es) : ∀ e ∈ es, nodesOf [e] = [] := by
  cases h with
  | frame => split <;> simp [nodesOf]
  | _ => simp [nodesOf]

theorem runner_eq_of_not_runnerAction {s t : ConnState} {a : ConnAction} (h : ConnStep config s a t)
    (ha : isRunnerAction a = false) : t.runner = s.runner := by
  cases h with
  | register _ _ _ => rw [ConnState.setCall_runner, ConnState.insertWaiter_runner]
  | move _ | frameOther _ _ | frameIq _ _ | takeNode _ _ | sendRefused _ | handOver _
  | transportAccepts _ | transportFails _ | takeDisconnect _ _ | commandsClosed _ _ _
  | cleanup _ | abort _ | abortSending _ | discard _ => cases ha
  | _ => rfl

/-- What the guarded runs keep. -/
structure HearingInv (config : ConnectionConfig) (p : EventState × Broadcasts) : Prop where
  hears : HearsAll p
  since_le : ∀ id, p.2.since id ≤ p.2.nodes.length
  /-- The channel is open as long as the runner may broadcast. -/
  opened : p.1.events.closed = true → p.1.conn.runner.isFinal config = true
  /-- Before `run` the runner keeps its receiver. -/
  unstarted : p.1.started = false →
    p.1.conn.runner = ConnState.new.runner ∧ p.1.events.Has (· = eventRx)

omit [WacoreBinary] in
theorem hearingInv_new : HearingInv config (.new, ⟨[], fun _ => 0⟩) where
  hears := by
    intro r hr
    rw [List.mem_singleton.mp hr]
    rfl
  since_le _ := Nat.le_refl _
  opened h := by cases h
  unstarted _ := ⟨rfl, .new 0, List.mem_singleton_self _, rfl⟩

theorem Emits.next_eq {s : EventState} {a : ConnAction} {es : List RawEvent}
    (h : Emits config s.conn a es) (hist : Broadcasts) : hist.next s (.conn a) = hist := by
  cases h with
  | silent ha =>
      cases a with
      | move m =>
          cases m with
          | routed => cases ha
          | _ => rfl
      | _ => rfl
  | _ => rfl

theorem Emits.ignored {s : ConnState} {a : ConnAction} {es : List RawEvent}
    (h : Emits config s a es) (hist : Broadcasts) :
    ∀ e ∈ es, ∀ id events, nodesOf (events ++ [e]) = hist.nodes.drop (hist.since id) ↔
      nodesOf events = hist.nodes.drop (hist.since id) := by
  intro e he id events
  rw [nodesOf_append, h.not_node e he, List.append_nil]

/-- A node is broadcast.  The channel is open, so every receiver hears it. -/
theorem HearingInv.routed {s : EventState} {t : ConnState} {hist : Broadcasts} {n : Node}
    (hinv : HearingInv config (s, hist)) (hstarted : s.started = true)
    (hphase : s.conn.runner.phase = .routing n)
    (hroom : s.events.full = false ∨ s.events.closed = true)
    (hconn : ConnStep config s.conn (.move .routed) t) :
    HearingInv config ({ s with conn := t, events := s.events.tryBroadcast (.node n) },
      { hist with nodes := hist.nodes ++ [n] }) := by
  have hopen : s.events.closed = false := by
    refine Bool.eq_false_of_not_eq_true fun hclosed => ?_
    have hfinal := hinv.opened hclosed
    simp [Runner.isFinal, hphase] at hfinal
  have haccepts : s.events.accepts = true := by
    simpa [Channel.accepts, hopen] using hroom
  refine ⟨Channel.all_tryBroadcast.mpr ?_, ?_, ?_, ?_⟩
  · intro r hr
    show nodesOf (if s.events.accepts then r.heard ++ [.node n] else r.heard) = _
    rw [if_pos haccepts, nodesOf_append, hinv.hears r hr,
      List.drop_append_of_le_length (hinv.since_le _)]
    rfl
  · intro id
    exact (hinv.since_le id).trans (by simp)
  · intro hclosed
    rw [Channel.tryBroadcast_closed] at hclosed
    exact hconn.flow.isFinal (hinv.opened hclosed)
  · intro hunstarted
    cases hstarted.symm.trans hunstarted

omit [WacoreBinary] in
/-- A new receiver hears the nodes from now on. -/
theorem HearingInv.subscribe {s : EventState} {hist : Broadcasts}
    (hinv : HearingInv config (s, hist)) :
    HearingInv config ({ s with events := s.events.newReceiver }, hist.next s .subscribe) := by
  refine ⟨Channel.all_newReceiver.mpr ⟨?_, ?_⟩, ?_, hinv.opened, ?_⟩
  · intro r hr
    have hne : r.id ≠ s.events.nextId := (s.events.id_lt r hr).ne
    show nodesOf r.heard = hist.nodes.drop (Function.update hist.since _ _ r.id)
    rw [Function.update_of_ne hne]
    exact hinv.hears r hr
  · show [] = hist.nodes.drop (Function.update hist.since _ _ s.events.nextId)
    rw [Function.update_self, List.drop_length]
  · intro id
    show Function.update hist.since _ _ id ≤ hist.nodes.length
    by_cases h : id = s.events.nextId
    · rw [h, Function.update_self]
    · rw [Function.update_of_ne h]
      exact hinv.since_le id
  · intro hstarted
    obtain ⟨hrunner, hhas⟩ := hinv.unstarted hstarted
    exact ⟨hrunner, hhas.newReceiver⟩

theorem HearingInv.step {s t : EventState} {hist : Broadcasts} {a : EventAction}
    (hinv : HearingInv config (s, hist)) (h : EventStep config s a t)
    (hguard : KeepsReceiver config (s, hist) a) : HearingInv config (t, hist.next s a) := by
  cases h with
  | start _ =>
      refine ⟨Channel.all_dropReceiver.mpr fun r hr _ => hinv.hears r hr, hinv.since_le, ?_, nofun⟩
      intro hclosed
      rcases Channel.dropReceiver_closed_iff.mp hclosed with hclosed | hnone
      · exact hinv.opened hclosed
      · exact absurd hguard hnone
  | @conn a t es hrun hemits hconn =>
      rw [hemits.next_eq]
      refine ⟨(Channel.all_foldl_of_ignored (hemits.ignored hist)).mpr hinv.hears,
        hinv.since_le, ?_, ?_⟩
      · intro hclosed
        rw [Channel.foldl_tryBroadcast_closed] at hclosed
        exact hconn.flow.isFinal (hinv.opened hclosed)
      · intro hstarted
        obtain ⟨hrunner, hhas⟩ := hinv.unstarted hstarted
        have ha : isRunnerAction a = false := by
          refine Bool.eq_false_of_not_eq_true fun ha => ?_
          cases hstarted.symm.trans (hrun ha)
        exact ⟨(runner_eq_of_not_runnerAction hconn ha).trans hrunner,
          Channel.has_foldl_tryBroadcast.mpr hhas⟩
  | @routed n t hstarted hphase hroom hconn =>
      have hnext : hist.next s (.conn (.move .routed)) =
          { hist with nodes := hist.nodes ++ [n] } := by
        simp [Broadcasts.next, hphase]
      rw [hnext]
      exact hinv.routed hstarted hphase hroom hconn
  | invalid hstarted _ =>
      refine ⟨(Channel.all_tryBroadcast_of_ignored ?_).mpr hinv.hears, hinv.since_le, ?_, ?_⟩
      · intro id events
        rw [nodesOf_append]
        exact iff_of_eq (congrArg (· = _) (List.append_nil _))
      · rw [Channel.tryBroadcast_closed]
        exact hinv.opened
      · intro hunstarted
        cases hstarted.symm.trans hunstarted
  | subscribe => exact hinv.subscribe
  | recv =>
      refine ⟨Channel.all_recv.mpr hinv.hears, hinv.since_le, hinv.opened, ?_⟩
      intro hstarted
      obtain ⟨hrunner, hhas⟩ := hinv.unstarted hstarted
      exact ⟨hrunner, Channel.has_recv.mpr hhas⟩
  | @unsubscribe id hid =>
      refine ⟨Channel.all_dropReceiver.mpr fun r hr _ => hinv.hears r hr, hinv.since_le, ?_, ?_⟩
      · intro hclosed
        rcases Channel.dropReceiver_closed_iff.mp hclosed with hclosed | hnone
        · exact hinv.opened hclosed
        · exact hguard.resolve_left hnone
      · intro hstarted
        obtain ⟨hrunner, hhas⟩ := hinv.unstarted hstarted
        refine ⟨hrunner, hhas.dropReceiver ?_⟩
        rintro id' rfl
        exact hid.symm

theorem hearingInv_of_run {as : List EventAction} {p : EventState × Broadcasts}
    (h : ((broadcasts config).restrict (KeepsReceiver config)).Run as p) :
    HearingInv config p := by
  refine h.invariant ?_ ?_
  · rintro ⟨s, hist⟩ ⟨rfl, rfl⟩
    exact hearingInv_new
  · rintro ⟨s, hist⟩ a ⟨t, hist'⟩ hinv ⟨⟨hstep, rfl⟩, hguard⟩
    exact hinv.step hstep hguard

/-! ### Once the last receiver is dropped -/

theorem exists_emits {s t : ConnState} {a : ConnAction} (h : ConnStep config s a t)
    (ha : a ≠ .move .routed) : ∃ es, Emits config s a es := by
  cases h with
  | move hmove =>
      cases hmove with
      | connected _ => exact ⟨_, .connected⟩
      | connectFailed _ =>
          cases hretry : s.runner.mayRetry config with
          | true => exact ⟨_, .connectFailed hretry⟩
          | false => exact ⟨_, .connectStopped (e := .notConnected) hretry⟩
      | pinged _ => exact ⟨_, .pinged⟩
      | routed _ => exact absurd rfl ha
      | endedOk hphase => exact ⟨_, .endedOk hphase⟩
      | endedError hphase =>
          cases hretry : s.runner.mayRetry config with
          | true => exact ⟨_, .endedError hphase hretry⟩
          | false => exact ⟨_, .endedStopped hphase hretry⟩
      | _ => exact ⟨_, .silent rfl⟩
  | frameOther _ _ => exact ⟨_, .frame⟩
  | frameIq _ _ => exact ⟨_, .frame⟩
  | _ => exact ⟨_, .silent rfl⟩

/-- What a runner without receivers does to the history: the nodes only grow. -/
structure Broadcasts.Extends (hist hist' : Broadcasts) : Prop where
  since : hist'.since = hist.since
  nodes : hist.nodes.length ≤ hist'.nodes.length

/-- A node is broadcast on a closed channel. -/
theorem deaf_routed {s : EventState} {n : Node} (hstarted : s.started = true)
    (hclosed : s.events.closed = true) (hphase : s.conn.runner.phase = .routing n)
    {t : ConnState} (h : ConnStep config s.conn (.move .routed) t) (hist : Broadcasts) :
    (broadcasts config).step (s, hist) (.conn (.move .routed))
      ({ s with conn := t }, { hist with nodes := hist.nodes ++ [n] }) := by
  have hstep := EventStep.routed hstarted hphase (Or.inr hclosed) h
  rw [Channel.tryBroadcast_of_closed _ _ hclosed] at hstep
  refine ⟨hstep, ?_⟩
  simp only [Broadcasts.next, hphase]

/-- On a closed channel the connection goes on. -/
theorem deaf_step {s : EventState} {t : ConnState} {a : ConnAction} (hstarted : s.started = true)
    (hclosed : s.events.closed = true) (h : ConnStep config s.conn a t) (hist : Broadcasts) :
    ∃ hist', (broadcasts config).step (s, hist) (.conn a) ({ s with conn := t }, hist') ∧
      hist.Extends hist' := by
  by_cases ha : a = .move .routed
  · subst ha
    have hphase : ∃ n, s.conn.runner.phase = .routing n := by
      cases h with
      | move hmove =>
          cases hmove with
          | routed hphase => exact ⟨_, hphase⟩
    obtain ⟨n, hphase⟩ := hphase
    exact ⟨_, deaf_routed hstarted hclosed hphase h hist, rfl, by simp⟩
  · obtain ⟨es, hemits⟩ := exists_emits h ha
    have hstep := EventStep.conn (fun _ => hstarted) hemits h
    rw [Channel.foldl_tryBroadcast_of_closed _ _ hclosed] at hstep
    exact ⟨hist, ⟨hstep, (hemits.next_eq hist).symm⟩, rfl, Nat.le_refl _⟩

theorem deaf_steps {s : EventState} {t : ConnState} {as : List ConnAction}
    (hstarted : s.started = true) (hclosed : s.events.closed = true)
    (h : (connection config).Steps s.conn as t) (hist : Broadcasts) :
    ∃ hist', (broadcasts config).Steps (s, hist) (as.map .conn) ({ s with conn := t }, hist') ∧
      hist.Extends hist' := by
  induction h with
  | refl => exact ⟨hist, .refl, rfl, Nat.le_refl _⟩
  | @tail t u as a _ hstep ih =>
      obtain ⟨hist₁, hsteps, hextends⟩ := ih
      obtain ⟨hist₂, hlast, hextends'⟩ :=
        deaf_step (s := { s with conn := t }) hstarted hclosed hstep hist₁
      refine ⟨hist₂, ?_, hextends'.since.trans hextends.since,
        hextends.nodes.trans hextends'.nodes⟩
      rw [List.map_append]
      exact hsteps.tail hlast

/-- A receiver made on a closed channel misses the next node. -/
theorem canReach_missed {s : EventState} (hstarted : s.started = true)
    (hclosed : s.events.closed = true) (hopen : s.conn.runner.isFinal config = false)
    (hist : Broadcasts) : (broadcasts config).CanReach (fun u => ¬ HearsAll u) (s, hist) := by
  let n : Node := .mk "message" [] none
  have hroute := routeNode_of_not_iq (n := n) (by decide)
  -- a receiver is made
  have hsubscribe : (broadcasts config).step (s, hist) .subscribe
      ({ s with events := s.events.newReceiver }, hist.next s .subscribe) := ⟨.subscribe, rfl⟩
  have hmade : (Receiver.new s.events.nextId : Receiver RawEvent) ∈
      s.events.newReceiver.receivers :=
    List.mem_append_right _ (List.mem_singleton_self _)
  refine .of_step hsubscribe ?_
  generalize hhist : hist.next s .subscribe = hist₁
  have hsince : hist₁.since s.events.nextId ≤ hist₁.nodes.length := by
    rw [← hhist]
    exact (Function.update_self ..).le
  -- the runner gets to its select
  obtain ⟨as, u, hsteps, hreading, -, -⟩ := canServe hopen
  obtain ⟨hist₂, hserve, hextends⟩ := deaf_steps
    (s := { s with events := s.events.newReceiver }) hstarted hclosed hsteps hist₁
  -- and broadcasts a node
  obtain ⟨v, hframe, hrouting⟩ :
      ∃ v, ConnStep config u (.frame n) v ∧ v.runner.phase = .routing n :=
    ⟨_, .frameOther hreading (by rw [hroute]), by simp [hroute]⟩
  obtain ⟨hist₃, hread, hextends'⟩ := deaf_step
    (s := { s with conn := u, events := s.events.newReceiver }) hstarted hclosed hframe hist₂
  have hmove : ConnStep config v (.move .routed) _ := .move (.routed hrouting)
  have hlast := deaf_routed (s := { s with conn := v, events := s.events.newReceiver })
    hstarted hclosed hrouting hmove hist₃
  refine ⟨_, _, (hserve.tail hread).tail hlast, ?_⟩
  intro hall
  have hheard := hall _ hmade
  simp only [Receiver.new_id, Receiver.new_heard, nodesOf, List.filterMap_nil] at hheard
  have hlength := congrArg List.length hheard
  rw [List.length_nil, List.length_drop, List.length_append, List.length_singleton,
    hextends'.since, hextends.since] at hlength
  have hle := hextends.nodes.trans hextends'.nodes
  omega

/-- A step that drops the last receiver too early closes the channel. -/
theorem HearingInv.closed_of_not_keeps {s t : EventState} {hist : Broadcasts} {a : EventAction}
    (hinv : HearingInv config (s, hist)) (h : EventStep config s a t)
    (hguard : ¬ KeepsReceiver config (s, hist) a) :
    t.started = true ∧ t.events.closed = true ∧ t.conn.runner.isFinal config = false := by
  cases h with
  | start hstarted =>
      refine ⟨rfl, Channel.dropReceiver_closed_iff.mpr (Or.inr hguard), ?_⟩
      show s.conn.runner.isFinal config = false
      rw [(hinv.unstarted hstarted).1]
      rfl
  | unsubscribe hid =>
      obtain ⟨hnone, hopen⟩ := not_or.mp hguard
      refine ⟨?_, Channel.dropReceiver_closed_iff.mpr (Or.inr hnone),
        Bool.eq_false_of_not_eq_true hopen⟩
      refine Bool.eq_true_of_not_eq_false fun hstarted => ?_
      obtain ⟨-, r, hr, heq⟩ := hinv.unstarted hstarted
      exact hnone ⟨r, hr, by rw [heq]; exact hid.symm⟩
  | _ => exact absurd trivial hguard

/-- In a run in which the last receiver is not dropped while the runner may still
broadcast, every receiver gets every node broadcast during its life; a next step
that drops it leads to a node that a receiver misses. -/
theorem hears_all {as : List EventAction} {p : EventState × Broadcasts}
    (hrun : ((broadcasts config).restrict (KeepsReceiver config)).Run as p) :
    HearsAll p ∧
    ∀ a q, (broadcasts config).step p a q → ¬ KeepsReceiver config p a →
      (broadcasts config).CanReach (fun u => ¬ HearsAll u) q := by
  have hinv := hearingInv_of_run hrun
  refine ⟨hinv.hears, ?_⟩
  rintro a ⟨t, hist⟩ ⟨hstep, -⟩ hguard
  obtain ⟨hstarted, hclosed, hopen⟩ := hinv.closed_of_not_keeps hstep hguard
  exact canReach_missed hstarted hclosed hopen hist

omit [WacoreBinary] in
/-- A subscriber from before `run` gets the first node. -/
theorem hears_all_subscribed :
    letI := plainWacore
    ∃ as p, ((broadcasts ⟨true⟩).restrict (KeepsReceiver ⟨true⟩)).Run as p ∧
      p.2.nodes.length = 1 ∧ HearsAll p := by
  let _ := plainWacore
  let S := (broadcasts ⟨true⟩).restrict (KeepsReceiver ⟨true⟩)
  have hstep : ∀ {p : EventState × Broadcasts} {a : EventAction} {t : EventState},
      EventStep ⟨true⟩ p.1 a t → KeepsReceiver ⟨true⟩ p a → S.step p a (t, p.2.next p.1 a) :=
    fun h hguard => ⟨⟨h, rfl⟩, hguard⟩
  have h0 : S.Run [] (.new, ⟨[], fun _ => 0⟩) := .start ⟨rfl, rfl⟩
  have h1 := h0.tail (hstep .subscribe trivial)
  have h2 := h1.tail (hstep (.start rfl)
    ⟨.new 1, List.mem_append_right _ (List.mem_singleton_self _), by decide⟩)
  have h3 := h2.tail (hstep (.conn (fun _ => rfl) (.silent (a := .move .top) rfl)
    (.move (.connect rfl rfl))) trivial)
  have h4 := h3.tail (hstep (.conn (fun _ => rfl) .connected (.move (.connected rfl))) trivial)
  have h5 := h4.tail (hstep (.conn (fun _ => rfl) (.frame (n := .mk "message" [] none))
    (.frameOther rfl rfl)) trivial)
  have h6 := h5.tail (hstep (.routed rfl rfl (Or.inl rfl) (.move (.routed rfl))) trivial)
  exact ⟨_, _, h6, rfl, (hears_all h6).1⟩

omit [WacoreBinary] in
/-- If `run` starts before the first subscription, later receivers miss nodes. -/
theorem not_hears_all :
    letI := plainWacore
    ¬ ∀ as p, (broadcasts ⟨true⟩).Run as p → HearsAll p := by
  let _ := plainWacore
  intro hall
  have h0 : (broadcasts ⟨true⟩).Run [] (.new, ⟨[], fun _ => 0⟩) := .start ⟨rfl, rfl⟩
  let s : EventState :=
    { EventState.new with started := true, events := EventState.new.events.dropReceiver eventRx }
  have hstart : EventStep ⟨true⟩ .new .start s := .start rfl
  have h1 := h0.tail (show (broadcasts ⟨true⟩).step _ .start (s, _) from ⟨hstart, rfl⟩)
  have hdeaf : (broadcasts ⟨true⟩).CanReach (fun u => ¬ HearsAll u) (s, ⟨[], fun _ => 0⟩) :=
    canReach_missed rfl rfl rfl _
  obtain ⟨as, q, hsteps, hmissed⟩ := hdeaf
  exact hmissed (hall _ _ (h1.append hsteps))

end Waepic.Client
