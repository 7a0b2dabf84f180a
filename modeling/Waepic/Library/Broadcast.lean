import Mathlib.Data.List.Basic

/-!
# Broadcast channels

A channel with a bounded queue, from which every receiver takes each event once.
An event stays in the queue until the slowest receiver has taken it, so the queue
is full when some receiver has as many events before it as the queue holds.
There is no event without a receiver: the channel is closed when the last one is
dropped, and stays closed, although new receivers may still be made.

The queue is kept by receiver.  `heard` is all that was ever queued for one;
taking an event does not change it.  What an operation does to every receiver is
said by the lemmas on `Channel.All`.
-/

namespace Broadcast

variable {ε : Type*}

/-! ## Receivers -/

/-- What a receiver has taken, and what is queued for it, oldest first. -/
structure Receiver (ε : Type*) where
  id : Nat
  received : List ε
  pending : List ε

namespace Receiver

def new (id : Nat) : Receiver ε where
  id := id
  received := []
  pending := []

def push (r : Receiver ε) (e : ε) : Receiver ε := { r with pending := r.pending ++ [e] }

def pushAll (r : Receiver ε) (es : List ε) : Receiver ε := { r with pending := r.pending ++ es }

/-- Take the first event, if there is one. -/
def recv (r : Receiver ε) : Receiver ε :=
  match r.pending with
  | [] => r
  | e :: rest => { r with received := r.received ++ [e], pending := rest }

/-- All that was queued for the receiver. -/
def heard (r : Receiver ε) : List ε := r.received ++ r.pending

@[simp] theorem new_id (id : Nat) : (new id : Receiver ε).id = id := rfl

@[simp] theorem new_heard (id : Nat) : (new id : Receiver ε).heard = [] := rfl

@[simp] theorem push_id (r : Receiver ε) (e : ε) : (r.push e).id = r.id := rfl

@[simp] theorem push_heard (r : Receiver ε) (e : ε) : (r.push e).heard = r.heard ++ [e] :=
  (List.append_assoc ..).symm

@[simp] theorem recv_id (r : Receiver ε) : r.recv.id = r.id := by
  simp only [recv]
  split <;> rfl

@[simp] theorem recv_heard (r : Receiver ε) : r.recv.heard = r.heard := by
  simp only [recv]
  split
  · rfl
  · next e rest h => simp [heard, h]

theorem recv_pending_length_le (r : Receiver ε) :
    r.recv.pending.length ≤ r.pending.length := by
  simp only [recv]
  split
  · exact Nat.le_refl _
  · next e rest h => simp [h]

end Receiver

/-! ## Channels -/

structure Channel (ε : Type*) where
  capacity : Nat
  /-- The receivers that are alive. -/
  receivers : List (Receiver ε)
  nextId : Nat
  closed : Bool
  id_lt : ∀ r ∈ receivers, r.id < nextId
  pending_le : ∀ r ∈ receivers, r.pending.length ≤ capacity
  /-- An open channel has a receiver. -/
  alive : closed = false → receivers ≠ []

namespace Channel

/-- A channel is made with one receiver. -/
def new (capacity : Nat) : Channel ε where
  capacity := capacity
  receivers := [.new 0]
  nextId := 1
  closed := false
  id_lt := by simp
  pending_le := by simp [Receiver.new]
  alive := by simp

/-- Some receiver has not taken any event of the queue. -/
def full (c : Channel ε) : Bool := c.receivers.any fun r => c.capacity ≤ r.pending.length

def accepts (c : Channel ε) : Bool := !c.closed && !c.full

/-- Queue an event for every receiver; it is lost if the queue is full or the
channel closed. -/
def tryBroadcast (c : Channel ε) (e : ε) : Channel ε :=
  if h : c.accepts = true then
    { c with
      receivers := c.receivers.map fun r => r.push e
      id_lt := by simpa using c.id_lt
      pending_le := by
        intro r' hr'
        obtain ⟨r, hr, rfl⟩ := List.mem_map.mp hr'
        simp only [accepts, full, Bool.and_eq_true, Bool.not_eq_true', List.any_eq_false,
          decide_eq_true_eq, Nat.not_le] at h
        simpa [Receiver.push] using Nat.succ_le_of_lt (h.2 r hr)
      alive := by simpa using c.alive }
  else c

/-- A receiver is made.  It does not open a closed channel. -/
def newReceiver (c : Channel ε) : Channel ε where
  capacity := c.capacity
  receivers := c.receivers ++ [.new c.nextId]
  nextId := c.nextId + 1
  closed := c.closed
  id_lt := by
    intro r hr
    rcases List.mem_append.mp hr with hr | hr
    · exact Nat.lt_succ_of_lt (c.id_lt r hr)
    · rw [List.mem_singleton.mp hr]
      exact Nat.lt_succ_self _
  pending_le := by
    intro r hr
    rcases List.mem_append.mp hr with hr | hr
    · exact c.pending_le r hr
    · rw [List.mem_singleton.mp hr]
      exact Nat.zero_le _
  alive := by simp

/-- A receiver is dropped.  With the last one the channel is closed. -/
def dropReceiver (c : Channel ε) (id : Nat) : Channel ε where
  capacity := c.capacity
  receivers := c.receivers.filter fun r => r.id ≠ id
  nextId := c.nextId
  closed := c.closed || (c.receivers.filter fun r => r.id ≠ id).isEmpty
  id_lt r hr := c.id_lt r (List.mem_of_mem_filter hr)
  pending_le r hr := c.pending_le r (List.mem_of_mem_filter hr)
  alive := by
    intro h
    exact List.isEmpty_eq_false_iff.mp (Bool.or_eq_false_iff.mp h).2

/-- A receiver takes an event. -/
def recv (c : Channel ε) (id : Nat) : Channel ε where
  capacity := c.capacity
  receivers := c.receivers.map fun r => if r.id = id then r.recv else r
  nextId := c.nextId
  closed := c.closed
  id_lt := by
    intro r' hr'
    obtain ⟨r, hr, rfl⟩ := List.mem_map.mp hr'
    have hlt := c.id_lt r hr
    split <;> simpa using hlt
  pending_le := by
    intro r' hr'
    obtain ⟨r, hr, rfl⟩ := List.mem_map.mp hr'
    have hle := c.pending_le r hr
    split
    · exact Nat.le_trans r.recv_pending_length_le hle
    · exact hle
  alive := by simpa using c.alive

/-! ### What an operation does to the channel -/

section

variable (c : Channel ε) (e : ε) (id : Nat)

theorem tryBroadcast_receivers :
    (c.tryBroadcast e).receivers =
      if c.accepts then c.receivers.map fun r => r.push e else c.receivers := by
  simp only [tryBroadcast]
  by_cases h : c.accepts = true
  · rw [dif_pos h, if_pos h]
  · rw [dif_neg h, if_neg h]

@[simp] theorem tryBroadcast_closed : (c.tryBroadcast e).closed = c.closed := by
  simp only [tryBroadcast]
  split <;> rfl

@[simp] theorem tryBroadcast_nextId : (c.tryBroadcast e).nextId = c.nextId := by
  simp only [tryBroadcast]
  split <;> rfl

@[simp] theorem foldl_tryBroadcast_closed (es : List ε) :
    (es.foldl tryBroadcast c).closed = c.closed := by
  induction es generalizing c with
  | nil => rfl
  | cons e es ih => rw [List.foldl_cons, ih, tryBroadcast_closed]

@[simp] theorem foldl_tryBroadcast_nextId (es : List ε) :
    (es.foldl tryBroadcast c).nextId = c.nextId := by
  induction es generalizing c with
  | nil => rfl
  | cons e es ih => rw [List.foldl_cons, ih, tryBroadcast_nextId]

theorem tryBroadcast_of_closed (h : c.closed = true) : c.tryBroadcast e = c :=
  dif_neg (by simp [accepts, h])

theorem foldl_tryBroadcast_of_closed (es : List ε) (h : c.closed = true) :
    es.foldl tryBroadcast c = c := by
  induction es with
  | nil => rfl
  | cons e es ih => rw [List.foldl_cons, tryBroadcast_of_closed c e h, ih]

end

/-! ### Room -/

/-- No receiver has more than `capacity - k` events before it. -/
def HasRoom (c : Channel ε) (k : Nat) : Prop :=
  ∀ r ∈ c.receivers, r.pending.length + k ≤ c.capacity

section

variable {c : Channel ε} {k : Nat}

theorem HasRoom.not_full (h : c.HasRoom (k + 1)) : c.full = false := by
  simp only [full, List.any_eq_false, decide_eq_true_eq]
  intro r hr
  have hroom := h r hr
  omega

theorem HasRoom.accepts (h : c.HasRoom (k + 1)) (hopen : c.closed = false) :
    c.accepts = true := by
  simp [Channel.accepts, hopen, h.not_full]

@[simp] theorem tryBroadcast_capacity (c : Channel ε) (e : ε) :
    (c.tryBroadcast e).capacity = c.capacity := by
  simp only [tryBroadcast]
  split <;> rfl

theorem HasRoom.tryBroadcast {e : ε} (h : c.HasRoom (k + 1)) : (c.tryBroadcast e).HasRoom k := by
  intro r' hr'
  rw [tryBroadcast_receivers] at hr'
  rw [tryBroadcast_capacity]
  split at hr'
  · obtain ⟨r, hr, rfl⟩ := List.mem_map.mp hr'
    have hroom := h r hr
    simp only [Receiver.push, List.length_append, List.length_singleton]
    omega
  · have hroom := h r' hr'
    omega

/-- With room for all of them, every event reaches every receiver, in order. -/
theorem HasRoom.foldl_tryBroadcast_receivers {es : List ε} (h : c.HasRoom es.length)
    (hopen : c.closed = false) :
    (es.foldl Channel.tryBroadcast c).receivers = c.receivers.map (Receiver.pushAll · es) := by
  induction es generalizing c with
  | nil => simp [Receiver.pushAll]
  | cons e es ih =>
      have haccepts : c.accepts = true := HasRoom.accepts h hopen
      rw [List.foldl_cons, ih h.tryBroadcast (by rw [tryBroadcast_closed, hopen]),
        tryBroadcast_receivers, if_pos haccepts, List.map_map]
      refine List.map_congr_left fun r _ => ?_
      simp [Receiver.pushAll, Receiver.push]

end

/-! ### What an operation does to the receivers -/

/-- Every receiver that is alive has heard what `P` says. -/
def All (c : Channel ε) (P : Nat → List ε → Prop) : Prop := ∀ r ∈ c.receivers, P r.id r.heard

/-- Some receiver that is alive has an id with `P`. -/
def Has (c : Channel ε) (P : Nat → Prop) : Prop := ∃ r ∈ c.receivers, P r.id

section

variable {c : Channel ε} {P : Nat → List ε → Prop}

theorem has_iff {P : Nat → Prop} : c.Has P ↔ ¬ c.All fun id _ => ¬ P id := by
  simp [Has, All]

theorem all_tryBroadcast {e : ε} :
    (c.tryBroadcast e).All P ↔
      c.All fun id events => P id (if c.accepts then events ++ [e] else events) := by
  simp only [All]
  rw [tryBroadcast_receivers]
  cases c.accepts <;> simp

/-- An event that `P` ignores changes nothing, be it queued or not. -/
theorem all_tryBroadcast_of_ignored {e : ε}
    (h : ∀ id events, P id (events ++ [e]) ↔ P id events) : (c.tryBroadcast e).All P ↔ c.All P := by
  rw [all_tryBroadcast]
  cases c.accepts
  · rfl
  · exact forall₂_congr fun r _ => h r.id r.heard

theorem all_foldl_of_ignored {es : List ε}
    (h : ∀ e ∈ es, ∀ id events, P id (events ++ [e]) ↔ P id events) :
    (es.foldl tryBroadcast c).All P ↔ c.All P := by
  induction es generalizing c with
  | nil => rfl
  | cons e es ih =>
      rw [List.foldl_cons, ih fun e' he' => h e' (List.mem_cons_of_mem _ he'),
        all_tryBroadcast_of_ignored (h e (List.mem_cons_self ..))]

theorem all_newReceiver : c.newReceiver.All P ↔ c.All P ∧ P c.nextId [] := by
  simp [All, newReceiver, or_imp, forall_and]

theorem all_dropReceiver {id : Nat} :
    (c.dropReceiver id).All P ↔ c.All fun id' events => id' ≠ id → P id' events := by
  simp [All, dropReceiver]

/-- Another receiver stays. -/
theorem Has.dropReceiver {P : Nat → Prop} {id : Nat} (h : c.Has P) (hP : ∀ id', P id' → id' ≠ id) :
    (c.dropReceiver id).Has P := by
  obtain ⟨r, hr, hrP⟩ := h
  exact ⟨r, List.mem_filter.mpr ⟨hr, by simpa using hP r.id hrP⟩, hrP⟩

theorem Has.newReceiver {P : Nat → Prop} (h : c.Has P) : c.newReceiver.Has P := by
  obtain ⟨r, hr, hrP⟩ := h
  exact ⟨r, List.mem_append_left _ hr, hrP⟩

/-- A drop closes the channel exactly if it leaves no receiver. -/
theorem dropReceiver_closed_iff {id : Nat} :
    (c.dropReceiver id).closed = true ↔ c.closed = true ∨ ¬ c.Has (· ≠ id) := by
  simp [dropReceiver, Has, List.filter_eq_nil_iff]

theorem all_recv {id : Nat} : (c.recv id).All P ↔ c.All P := by
  simp only [All, recv, List.forall_mem_map]
  refine forall₂_congr fun r _ => ?_
  split <;> simp

theorem has_recv {P : Nat → Prop} {id : Nat} : (c.recv id).Has P ↔ c.Has P := by
  rw [has_iff, has_iff, all_recv]

/-- Events make and drop no receiver. -/
theorem has_foldl_tryBroadcast {P : Nat → Prop} {es : List ε} :
    (es.foldl tryBroadcast c).Has P ↔ c.Has P := by
  rw [has_iff, has_iff, all_foldl_of_ignored fun _ _ _ _ => Iff.rfl]

end

end Channel

end Broadcast
