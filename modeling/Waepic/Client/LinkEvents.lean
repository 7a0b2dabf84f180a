import Waepic.Client.Subscriptions

/-!
# Connection events

`Connected` and `Disconnected` say when a connection begins and ends: one
`Connected` for each `connect_once` that succeeds, one `Disconnected` for each
`read_loop` that has ended.  Taken together these alternate, and a receiver that
was made before `run` started should get just them (`LinksFaithful`).

They are broadcast with `try_broadcast`, which loses an event if the queue is
full, and a `set` IQ with a `<success>` child announces a second `Connected`.  So
the law is kept exactly by the steps that do neither (`KeepsLinks`).
-/

namespace Waepic.Client

open Transition Binary Connection Broadcast

/-! ## The law -/

def isLink : RawEvent → Bool
  | .connected | .disconnected => true
  | _ => false

/-- The connection events among the events. -/
def linksOf (events : List RawEvent) : List RawEvent := events.filter isLink

/-- `Connected` and `Disconnected` in turn, `n` of them. -/
def alternating : Nat → List RawEvent
  | 0 => []
  | n + 1 => alternating n ++ [if n % 2 = 0 then .connected else .disconnected]

/-- What the history of a run says about its connections. -/
structure LinkLog where
  /-- The first receiver that was made after `run` started. -/
  startId : Option Nat
  /-- The connections that began and ended, oldest first. -/
  links : List RawEvent

def LinkLog.next (h : LinkLog) (s : EventState) : EventAction → LinkLog
  | .start => { h with startId := some s.events.nextId }
  | .conn (.move .connected) => { h with links := h.links ++ [.connected] }
  | .conn (.move .ended) => { h with links := h.links ++ [.disconnected] }
  | _ => h

/-- The receiver was made before `run` started. -/
def LinkLog.Early (h : LinkLog) (id : Nat) : Prop := ∀ k, h.startId = some k → id < k

/-- The runs of a connection with its subscribers, with the connections made. -/
def linkLogs [WacoreBinary] (config : ConnectionConfig) :
    System (EventState × LinkLog) EventAction :=
  (subscriptions config).record ⟨none, []⟩ LinkLog.next

/-- Every receiver from before `run` has got, or will get, one event for each
beginning and each end of a connection, and these alternate. -/
def LinksFaithful (p : EventState × LinkLog) : Prop :=
  (p.1.events.All fun id heard => p.2.Early id → linksOf heard = p.2.links) ∧
    p.2.links = alternating p.2.links.length

/-- While a receiver from before `run` is alive, a connection event finds room, and
no second `Connected` does. -/
def KeepsLinks [WacoreBinary] (p : EventState × LinkLog) : EventAction → Prop
  | .conn (.move .connected) | .conn (.move .ended) =>
      p.1.events.Has p.2.Early → p.1.events.full = false
  | .conn (.frame n) =>
      (routeNode n).announce = true → p.1.events.Has p.2.Early → p.1.events.full = true
  | _ => True

/-! ## Connections alternate -/

/-- Between `Connected` and `Disconnected`. -/
def linked (phase : Phase) : Bool :=
  match phase with
  | .leaving _ | .closing _ => true
  | phase => phase.inReadLoop

theorem linked_of_inReadLoop {phase : Phase} (h : phase.inReadLoop = true) :
    linked phase = true := by
  cases phase <;> first | rfl | exact h

variable {config : ConnectionConfig}

/-- Only `connect_once` begins a connection, and only the end of `run`'s cleanup
ends it. -/
theorem linked_eq_of_flow {r r' : Runner} {a : ConnAction} (h : Flow config r a r')
    (hconnected : a ≠ .move .connected) (hended : a ≠ .move .ended) :
    r'.phase = .stopped ∨ r.phase ≠ .stopped ∧ linked r'.phase = linked r.phase := by
  cases h with
  | kept _ =>
      by_cases hstopped : r.phase = .stopped
      · exact Or.inl hstopped
      · exact Or.inr ⟨hstopped, rfl⟩
  | loop _ hloop hloop' _ _ =>
      refine Or.inr ⟨?_, ?_⟩
      · intro hstopped
        rw [hstopped] at hloop
        cases hloop
      · rw [linked_of_inReadLoop hloop, linked_of_inReadLoop hloop']
  | loggedOut _ _ => exact Or.inl rfl
  | attempt hphase _ => exact Or.inr (by simp [hphase, linked, Phase.inReadLoop])
  | connected _ => exact absurd rfl hconnected
  | connectFailed hphase =>
      rcases r.retryOrStop_phase config with hstop | hdelay
      · exact Or.inl hstop
      · exact Or.inr (by simp [hphase, hdelay, linked, Phase.inReadLoop])
  | delayElapsed hphase => exact Or.inr (by simp [hphase, linked, Phase.inReadLoop])
  | transportClosed hphase => exact Or.inr (by simp [hphase, linked, Phase.inReadLoop])
  | quit _ hphase => exact Or.inr (by simp [hphase, linked, Phase.inReadLoop])
  | cleanup hphase => exact Or.inr (by simp [hphase, linked])
  | endedOk _ => exact absurd rfl hended
  | endedError _ => exact absurd rfl hended
  | abort => exact Or.inl rfl

/-- A history of connections: it alternates, and its last one goes on exactly if
the runner is in it. -/
structure LinksAlternate (r : Runner) (links : List RawEvent) : Prop where
  eq : links = alternating links.length
  current : r.phase ≠ .stopped → (links.length % 2 = 1 ↔ linked r.phase = true)

theorem LinksAlternate.push_connected {r r' : Runner} {links : List RawEvent}
    (h : LinksAlternate r links) (hphase : r.phase = .connecting)
    (hphase' : r'.phase = .reading) : LinksAlternate r' (links ++ [.connected]) := by
  have heven : links.length % 2 = 0 := by
    have hcurrent := h.current (by rw [hphase]; exact nofun)
    rw [hphase] at hcurrent
    have hodd : ¬ links.length % 2 = 1 := fun h => by cases hcurrent.mp h
    omega
  constructor
  · rw [List.length_append, List.length_singleton, alternating, if_pos heven, ← h.eq]
  · intro _
    rw [List.length_append, List.length_singleton, hphase']
    exact iff_of_true (by omega) rfl

theorem LinksAlternate.push_disconnected {r r' : Runner} {links : List RawEvent}
    (h : LinksAlternate r links) (hlinked : linked r.phase = true)
    (hphase : r.phase ≠ .stopped) (hlinked' : linked r'.phase = false) :
    LinksAlternate r' (links ++ [.disconnected]) := by
  have hodd : links.length % 2 = 1 := (h.current hphase).mpr hlinked
  constructor
  · rw [List.length_append, List.length_singleton, alternating, if_neg (by omega), ← h.eq]
  · intro _
    rw [List.length_append, List.length_singleton, hlinked']
    exact iff_of_false (by omega) nofun

/-- A step adds the connection that it begins or ends. -/
theorem LinksAlternate.flow {s : EventState} {h : LinkLog} {a : ConnAction} {r' : Runner}
    (halternate : LinksAlternate s.conn.runner h.links)
    (hflow : Flow config s.conn.runner a r') :
    LinksAlternate r' (h.next s (.conn a)).links := by
  by_cases hconnected : a = .move .connected
  · subst hconnected
    cases hflow with
    | kept ha => cases ha
    | loop ha _ _ _ _ => cases ha
    | connected hphase => exact halternate.push_connected hphase rfl
    | quit ha _ => rcases ha with ha | ha <;> cases ha
  · by_cases hended : a = .move .ended
    · subst hended
      cases hflow with
      | kept ha => cases ha
      | loop ha _ _ _ _ => cases ha
      | quit ha _ => rcases ha with ha | ha <;> cases ha
      | endedOk hphase =>
          exact halternate.push_disconnected (by rw [hphase]; rfl) (by rw [hphase]; exact nofun)
            rfl
      | endedError hphase =>
          refine halternate.push_disconnected (by rw [hphase]; rfl) (by rw [hphase]; exact nofun)
            ?_
          rcases s.conn.runner.retryOrStop_phase config with hstop | hdelay
          · rw [hstop]; rfl
          · rw [hdelay]; rfl
    · have hnext : (h.next s (.conn a)).links = h.links := by
        cases a with
        | move m =>
            cases m with
            | connected => exact absurd rfl hconnected
            | ended => exact absurd rfl hended
            | _ => rfl
        | _ => rfl
      rw [hnext]
      refine ⟨halternate.eq, ?_⟩
      intro hphase
      rcases linked_eq_of_flow hflow hconnected hended with hstopped | ⟨hrunning, hlinked⟩
      · exact absurd hstopped hphase
      · rw [hlinked]
        exact halternate.current hrunning

/-! ## What every run keeps -/

/-- What every run keeps. -/
structure LinkInv (p : EventState × LinkLog) : Prop where
  alternate : LinksAlternate p.1.conn.runner p.2.links
  /-- The channel is open for the receivers from before `run`. -/
  opened : p.1.events.closed = true → p.1.events.All fun id _ => ¬ p.2.Early id
  startId_le : ∀ k, p.2.startId = some k → k ≤ p.1.events.nextId
  unstarted : p.1.started = false →
    p.2.startId = none ∧ p.2.links = [] ∧ p.1.events.Has (· = eventRx)
  begun : p.1.started = true → p.2.startId ≠ none

theorem linkInv_new : LinkInv (.new, ⟨none, []⟩) where
  alternate := ⟨rfl, fun _ => iff_of_false nofun nofun⟩
  opened := nofun
  startId_le := nofun
  unstarted _ := ⟨rfl, rfl, .new 0, List.mem_singleton_self _, rfl⟩
  begun := nofun

theorem LinkLog.next_startId (h : LinkLog) (s : EventState) {a : EventAction} (ha : a ≠ .start) :
    (h.next s a).startId = h.startId := by
  simp only [next]
  split
  · exact absurd rfl ha
  · rfl
  · rfl
  · rfl

/-- An action of a call begins and ends no connection. -/
theorem LinkLog.next_of_not_runnerAction (h : LinkLog) (s : EventState) {a : ConnAction}
    (ha : isRunnerAction a = false) : h.next s (.conn a) = h := by
  cases a with
  | move m => cases ha
  | _ => rfl

/-- What a broadcast does not change. -/
theorem LinkInv.broadcast {s t : EventState} {h h' : LinkLog} (hinv : LinkInv (s, h))
    (halternate : LinksAlternate t.conn.runner h'.links) (hstartId : h'.startId = h.startId)
    (hclosed : t.events.closed = s.events.closed) (hnextId : t.events.nextId = s.events.nextId)
    (hall : ∀ P : Nat → Prop, t.events.All (fun id _ => P id) ↔ s.events.All fun id _ => P id)
    (hstarted : t.started = s.started) (hlinks : s.started = false → h'.links = h.links) :
    LinkInv (t, h') := by
  have hearly : h'.Early = h.Early := by
    funext id
    simp only [LinkLog.Early]
    rw [hstartId]
  refine ⟨halternate, ?_, ?_, ?_, ?_⟩
  · intro hc
    show t.events.All fun id _ => ¬ h'.Early id
    rw [hearly, hall]
    exact hinv.opened (hclosed.symm.trans hc)
  · intro k hk
    rw [hnextId]
    exact hinv.startId_le k (hstartId.symm.trans hk)
  · intro hun
    have hun' : s.started = false := hstarted.symm.trans hun
    obtain ⟨hnone, hempty, hhas⟩ := hinv.unstarted hun'
    refine ⟨hstartId.trans hnone, (hlinks hun').trans hempty, ?_⟩
    rw [Channel.has_iff] at hhas ⊢
    rwa [hall]
  · intro hbegun
    show h'.startId ≠ none
    rw [hstartId]
    exact hinv.begun (hstarted.symm.trans hbegun)

/-- Before `run` the channel is open. -/
theorem LinkInv.open_of_unstarted {p : EventState × LinkLog} (hinv : LinkInv p)
    (hun : p.1.started = false) : p.1.events.closed = false := by
  refine Bool.eq_false_of_not_eq_true fun hclosed => ?_
  obtain ⟨hnone, -, r, hr, -⟩ := hinv.unstarted hun
  refine hinv.opened hclosed r hr fun k hk => ?_
  cases hnone.symm.trans hk

/-- A receiver made after `run` started is not early. -/
theorem LinkInv.not_early_nextId {p : EventState × LinkLog} (hinv : LinkInv p)
    (hstarted : p.1.started = true) : ¬ p.2.Early p.1.events.nextId := by
  intro hearly
  obtain ⟨k, hk⟩ := Option.ne_none_iff_exists'.mp (hinv.begun hstarted)
  exact Nat.lt_irrefl _ ((hearly k hk).trans_le (hinv.startId_le k hk))

theorem LinkInv.step [WacoreBinary] {s t : EventState} {h : LinkLog} {a : EventAction}
    (hinv : LinkInv (s, h)) (hstep : EventStep config s a t) : LinkInv (t, h.next s a) := by
  cases hstep with
  | start hstarted =>
      refine ⟨hinv.alternate, ?_, ?_, nofun, nofun⟩
      · intro hclosed
        rw [Channel.all_dropReceiver]
        rcases Channel.dropReceiver_closed_iff.mp hclosed with hclosed | hnone
        · cases (hinv.open_of_unstarted hstarted).symm.trans hclosed
        · intro r hr hne
          exact absurd ⟨r, hr, hne⟩ hnone
      · intro k hk
        cases hk
        exact Nat.le_refl _
  | @conn a t es hrun hemits hconn =>
      refine hinv.broadcast (hinv.alternate.flow hconn.flow) (h.next_startId s nofun)
        (Channel.foldl_tryBroadcast_closed _ _) (Channel.foldl_tryBroadcast_nextId _ _)
        (fun P => Channel.all_foldl_of_ignored fun _ _ _ _ => Iff.rfl) rfl ?_
      intro hun
      have ha : isRunnerAction a = false := by
        refine Bool.eq_false_of_not_eq_true fun ha => ?_
        cases hun.symm.trans (hrun ha)
      rw [h.next_of_not_runnerAction s ha]
  | @routed n t hstarted _ _ hconn =>
      exact hinv.broadcast (hinv.alternate.flow hconn.flow) rfl (Channel.tryBroadcast_closed _ _)
        (Channel.tryBroadcast_nextId _ _)
        (fun P => Channel.all_tryBroadcast_of_ignored fun _ _ => Iff.rfl) rfl fun _ => rfl
  | invalid _ _ =>
      exact hinv.broadcast hinv.alternate rfl (Channel.tryBroadcast_closed _ _)
        (Channel.tryBroadcast_nextId _ _)
        (fun P => Channel.all_tryBroadcast_of_ignored fun _ _ => Iff.rfl) rfl fun _ => rfl
  | subscribe =>
      refine ⟨hinv.alternate, ?_, ?_, ?_, hinv.begun⟩
      · intro hclosed
        have hstarted : s.started = true := by
          refine Bool.eq_true_of_not_eq_false fun hun => ?_
          cases (hinv.open_of_unstarted hun).symm.trans hclosed
        exact Channel.all_newReceiver.mpr
          ⟨hinv.opened hclosed, hinv.not_early_nextId hstarted⟩
      · intro k hk
        exact (hinv.startId_le k hk).trans (Nat.le_succ _)
      · intro hun
        obtain ⟨hnone, hempty, hhas⟩ := hinv.unstarted hun
        exact ⟨hnone, hempty, hhas.newReceiver⟩
  | recv =>
      exact hinv.broadcast hinv.alternate rfl rfl rfl (fun P => Channel.all_recv) rfl fun _ => rfl
  | @unsubscribe id hid =>
      refine ⟨hinv.alternate, ?_, hinv.startId_le, ?_, hinv.begun⟩
      · intro hclosed
        rw [Channel.all_dropReceiver]
        rcases Channel.dropReceiver_closed_iff.mp hclosed with hclosed | hnone
        · exact fun r hr _ => hinv.opened hclosed r hr
        · intro r hr hne
          exact absurd ⟨r, hr, hne⟩ hnone
      · intro hun
        obtain ⟨hnone, hempty, hhas⟩ := hinv.unstarted hun
        refine ⟨hnone, hempty, hhas.dropReceiver ?_⟩
        rintro id' rfl
        exact hid.symm

theorem linkInv_of_run [WacoreBinary] {as : List EventAction} {p : EventState × LinkLog}
    (h : (linkLogs config).Run as p) : LinkInv p := by
  refine h.invariant ?_ ?_
  · rintro ⟨s, log⟩ ⟨rfl, rfl⟩
    exact linkInv_new
  · rintro ⟨s, log⟩ a ⟨t, log'⟩ hinv ⟨hstep, rfl⟩
    exact hinv.step hstep

/-! ## When the law is kept -/

/-- A connection event reaches the early receivers if there is room. -/
theorem linksOf_tryBroadcast {s : EventState} {h : LinkLog} {e : RawEvent}
    (hinv : LinkInv (s, h))
    (hfaithful : s.events.All fun id heard => h.Early id → linksOf heard = h.links)
    (he : isLink e = true) {r : Receiver RawEvent} (hr : r ∈ s.events.receivers)
    (hearly : h.Early r.id) :
    linksOf (if s.events.accepts then r.heard ++ [e] else r.heard) =
      if s.events.full then h.links else h.links ++ [e] := by
  have hopen : s.events.closed = false :=
    Bool.eq_false_of_not_eq_true fun hclosed => hinv.opened hclosed r hr hearly
  have haccepts : s.events.accepts = !s.events.full := by simp [Channel.accepts, hopen]
  have hheard := hfaithful r hr hearly
  rw [haccepts]
  cases s.events.full with
  | true => exact hheard
  | false =>
      show (r.heard ++ [e]).filter isLink = h.links ++ [e]
      rw [List.filter_append, List.filter_cons_of_pos he]
      exact congrArg (· ++ [e]) hheard

/-- What the early receivers have got after a connection event. -/
theorem faithful_tryBroadcast_iff {s : EventState} {h : LinkLog} {e : RawEvent}
    {links : List RawEvent} (hinv : LinkInv (s, h))
    (hfaithful : s.events.All fun id heard => h.Early id → linksOf heard = h.links)
    (he : isLink e = true) :
    ((s.events.tryBroadcast e).All fun id heard => h.Early id → linksOf heard = links) ↔
      (s.events.Has h.Early →
        (if s.events.full then h.links else h.links ++ [e]) = links) := by
  rw [Channel.all_tryBroadcast]
  constructor
  · rintro hall ⟨r, hr, hearly⟩
    exact (linksOf_tryBroadcast hinv hfaithful he hr hearly).symm.trans (hall r hr hearly)
  · intro hlinks r hr hearly
    exact (linksOf_tryBroadcast hinv hfaithful he hr hearly).trans (hlinks ⟨r, hr, hearly⟩)

/-- The event is news: it must find room. -/
theorem announce_iff {s : EventState} {h : LinkLog} {e : RawEvent} (hinv : LinkInv (s, h))
    (hfaithful : s.events.All fun id heard => h.Early id → linksOf heard = h.links)
    (he : isLink e = true) :
    ((s.events.tryBroadcast e).All fun id heard => h.Early id → linksOf heard = h.links ++ [e]) ↔
      (s.events.Has h.Early → s.events.full = false) := by
  rw [faithful_tryBroadcast_iff hinv hfaithful he]
  cases s.events.full <;> simp

/-- The event is no news: it must find no room. -/
theorem repeat_iff {s : EventState} {h : LinkLog} {e : RawEvent} (hinv : LinkInv (s, h))
    (hfaithful : s.events.All fun id heard => h.Early id → linksOf heard = h.links)
    (he : isLink e = true) :
    ((s.events.tryBroadcast e).All fun id heard => h.Early id → linksOf heard = h.links) ↔
      (s.events.Has h.Early → s.events.full = true) := by
  rw [faithful_tryBroadcast_iff hinv hfaithful he]
  cases s.events.full <;> simp

/-- Other events do not count. -/
theorem linksOf_append_other {e : RawEvent} (he : isLink e = false) (events : List RawEvent) :
    linksOf (events ++ [e]) = linksOf events := by
  rw [linksOf, List.filter_append, List.filter_cons_of_neg (by rw [he]; exact nofun)]
  exact List.append_nil _

/-- An event that does not count changes nothing. -/
theorem all_other_iff {c : Channel RawEvent} {h : LinkLog} {links : List RawEvent}
    {e : RawEvent} (he : isLink e = false) :
    ((c.tryBroadcast e).All fun id heard => h.Early id → linksOf heard = links) ↔
      c.All fun id heard => h.Early id → linksOf heard = links :=
  Channel.all_tryBroadcast_of_ignored fun _ _ => by rw [linksOf_append_other he]

variable [WacoreBinary]

/-- An action that may not emit begins and ends no connection. -/
theorem keepsLinks_of_silent {s : EventState} {a : ConnAction} (ha : mayEmit a = false)
    (h : LinkLog) : h.next s (.conn a) = h ∧ KeepsLinks (s, h) (.conn a) := by
  cases a with
  | move m =>
      cases m with
      | connected => cases ha
      | ended => cases ha
      | _ => exact ⟨rfl, trivial⟩
  | frame n => cases ha
  | _ => exact ⟨rfl, trivial⟩

/-- A step keeps the law exactly if it loses no connection event and repeats none. -/
theorem keepsLinks_iff {s t : EventState} {h : LinkLog} {a : EventAction} (hinv : LinkInv (s, h))
    (hfaithful : s.events.All fun id heard => h.Early id → linksOf heard = h.links)
    (hstep : EventStep config s a t) :
    (t.events.All fun id heard => (h.next s a).Early id → linksOf heard = (h.next s a).links) ↔
      KeepsLinks (s, h) a := by
  cases hstep with
  | start hstarted =>
      obtain ⟨hnone, -, -⟩ := hinv.unstarted hstarted
      refine iff_of_true (Channel.all_dropReceiver.mpr ?_) trivial
      intro r hr _ _
      exact hfaithful r hr fun k hk => by cases hnone.symm.trans hk
  | @conn a t es hrun hemits hconn =>
      cases hemits with
      | silent ha =>
          obtain ⟨hnext, hkeeps⟩ := keepsLinks_of_silent ha h
          rw [hnext]
          exact iff_of_true hfaithful hkeeps
      | connected => exact announce_iff hinv hfaithful rfl
      | @frame n =>
          cases hannounce : (routeNode n).announce with
          | false =>
              refine iff_of_true hfaithful ?_
              intro htrue
              cases hannounce.symm.trans htrue
          | true =>
              refine (repeat_iff hinv hfaithful (e := .connected) rfl).trans ?_
              exact ⟨fun hroom _ => hroom, fun hroom => hroom hannounce⟩
      | connectFailed _ => exact iff_of_true hfaithful trivial
      | connectStopped _ => exact iff_of_true ((all_other_iff rfl).mpr hfaithful) trivial
      | pinged => exact iff_of_true hfaithful trivial
      | pingFailed => exact iff_of_true ((all_other_iff rfl).mpr hfaithful) trivial
      | endedOk _ => exact announce_iff hinv hfaithful rfl
      | endedError _ _ => exact announce_iff hinv hfaithful rfl
      | endedStopped _ _ => exact (all_other_iff rfl).trans (announce_iff hinv hfaithful rfl)
  | routed _ _ _ _ => exact iff_of_true ((all_other_iff rfl).mpr hfaithful) trivial
  | invalid _ _ => exact iff_of_true ((all_other_iff rfl).mpr hfaithful) trivial
  | subscribe =>
      refine iff_of_true (Channel.all_newReceiver.mpr ⟨hfaithful, ?_⟩) trivial
      intro hearly
      have hun : s.started = false :=
        Bool.eq_false_of_not_eq_true fun hstarted => hinv.not_early_nextId hstarted hearly
      exact (hinv.unstarted hun).2.1.symm
  | recv => exact iff_of_true (Channel.all_recv.mpr hfaithful) trivial
  | unsubscribe _ =>
      exact iff_of_true (Channel.all_dropReceiver.mpr fun r hr _ => hfaithful r hr) trivial

theorem linksFaithful_iff {p q : EventState × LinkLog} {a : EventAction} (hinv : LinkInv p)
    (hfaithful : LinksFaithful p) (hstep : (linkLogs config).step p a q) :
    LinksFaithful q ↔ KeepsLinks p a := by
  obtain ⟨s, h⟩ := p
  obtain ⟨t, h'⟩ := q
  obtain ⟨hstep, rfl⟩ := hstep
  have halternate := (hinv.step hstep).alternate.eq
  exact (and_iff_left halternate).trans (keepsLinks_iff hinv hfaithful.1 hstep)

theorem linksFaithful_of_run {as : List EventAction} {p : EventState × LinkLog}
    (h : ((linkLogs config).restrict KeepsLinks).Run as p) : LinksFaithful p := by
  refine h.history_invariant (I := fun _ p => LinksFaithful p) ?_ ?_
  · rintro ⟨s, log⟩ ⟨rfl, rfl⟩
    exact ⟨fun r hr _ => by rw [List.mem_singleton.mp hr]; rfl, rfl⟩
  · intro as p a q hrun hfaithful hstep
    exact (linksFaithful_iff (linkInv_of_run hrun.of_restrict) hfaithful hstep.1).mpr hstep.2

/-- In a run in which every connection event finds room and no `<success>` repeats
one, the receivers from before `run` get one `Connected` for each connection that
begins and one `Disconnected` for each that ends, in turn; a next step keeps this
exactly if it is such a step. -/
theorem links_faithful {as : List EventAction} {p : EventState × LinkLog}
    (hrun : ((linkLogs config).restrict KeepsLinks).Run as p) :
    LinksFaithful p ∧
    ∀ a q, (linkLogs config).step p a q → (LinksFaithful q ↔ KeepsLinks p a) := by
  have hfaithful := linksFaithful_of_run hrun
  refine ⟨hfaithful, fun a q hstep => ?_⟩
  exact linksFaithful_iff (linkInv_of_run hrun.of_restrict) hfaithful hstep

/-- A subscriber, and `run` up to the first connection. -/
theorem first_connection (config : ConnectionConfig) (S : System (EventState × LinkLog) EventAction)
    (hinit : S.init (.new, ⟨none, []⟩))
    (hstep : ∀ {p : EventState × LinkLog} {a : EventAction} {t : EventState},
      EventStep config p.1 a t → KeepsLinks p a → S.step p a (t, p.2.next p.1 a)) :
    ∃ p, S.Run [.subscribe, .start, .conn (.move .top), .conn (.move .connected)] p ∧
      p.1.started = true ∧ p.1.conn.runner.phase = .reading ∧ p.1.events.full = false ∧
      p.2.links = [.connected] ∧ p.2.startId = some 2 ∧
      p.1.events.receivers = [⟨1, [], [.connected]⟩] := by
  have h0 : S.Run [] (.new, ⟨none, []⟩) := .start hinit
  have h1 := h0.tail (hstep .subscribe trivial)
  have h2 := h1.tail (hstep (.start rfl) trivial)
  have h3 := h2.tail (hstep (.conn (fun _ => rfl) (.silent (a := .move .top) rfl)
    (.move (.connect rfl rfl))) trivial)
  have h4 := h3.tail (hstep (.conn (fun _ => rfl) .connected (.move (.connected rfl)))
    fun _ => rfl)
  exact ⟨_, h4, rfl, rfl, rfl, rfl, rfl, rfl⟩

omit [WacoreBinary] in
theorem links_faithful_connected :
    letI := plainWacore
    ∃ as p, ((linkLogs ⟨true⟩).restrict KeepsLinks).Run as p ∧ p.2.links = [.connected] ∧
      LinksFaithful p := by
  let _ := plainWacore
  obtain ⟨p, hrun, -, -, -, hlinks, -, -⟩ := first_connection ⟨true⟩
    ((linkLogs ⟨true⟩).restrict KeepsLinks) ⟨rfl, rfl⟩ fun h hkeeps => ⟨⟨h, rfl⟩, hkeeps⟩
  exact ⟨_, p, hrun, hlinks, (links_faithful hrun).1⟩

/-- A server IQ that reports a success. -/
def successNode : Node :=
  .mk "iq" [("type", .string "set"), ("id", .string "1")] (some (.nodes [.mk "success" [] none]))

omit [WacoreBinary] in
/-- A `<success>` is announced as a second connection. -/
theorem links_not_faithful :
    letI := plainWacore
    ¬ ∀ as p, (linkLogs ⟨true⟩).Run as p → LinksFaithful p := by
  let _ := plainWacore
  intro hall
  obtain ⟨p, hrun, hstarted, hreading, hroom, -, hstart, hreceivers⟩ :=
    first_connection ⟨true⟩ (linkLogs ⟨true⟩) ⟨rfl, rfl⟩ fun h _ => ⟨h, rfl⟩
  have hearly : p.1.events.Has p.2.Early := by
    refine ⟨⟨1, [], [.connected]⟩, by rw [hreceivers]; exact List.mem_singleton_self _, ?_⟩
    intro k hk
    cases hstart.symm.trans hk
    decide
  have hframe : (linkLogs ⟨true⟩).step p (.conn (.frame successNode)) (_, _) :=
    ⟨.conn (fun _ => hstarted) .frame (.frameOther hreading rfl), rfl⟩
  have hkeeps := (linksFaithful_iff (linkInv_of_run hrun) (hall _ _ hrun) hframe).mp
    (hall _ _ (hrun.tail hframe))
  cases hroom.symm.trans (hkeeps rfl hearly)

end Waepic.Client
