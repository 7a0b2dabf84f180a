import Waepic.Client.Pairing
import Waepic.Library.Transition

/-!
# Edge routing

`handle_ib` goes through the children of an `<ib>` up to an offline child.  For
each `<edge_routing>` with a `<routing_info>` that is not empty,
`handle_edge_routing_child` spawns an update of the device in memory.
`connect_once` builds the header of its handshake from the device that the
session stores.

A value reaches the stored device only by a save of a device that was taken from
memory: in the second stage of a pairing by code, or at its pair-success.  A
pairing by QR code saves what the session held when the pairing was requested, and
`run_post_connect_init` and `load_or_create_device` put in memory what it holds.

So where the updates run in order and no reload takes the value out of memory,
`connect_once` uses the latest value exactly if the stored device has the routing
info of the one in memory (`edge_routing_reaches_handshake_iff`).
-/

namespace Waepic.Client

open Binary Connection Transition

/-! ## Nodes -/

/-- The bytes that `handle_edge_routing_child` stores. -/
def routingInfo (child : Node) : Option Bytes :=
  ((child.child "routing_info").bind bytesOf).filter (· ≠ [])

/-- The bytes that the loop of `handle_ib` spawns updates with, oldest first. -/
def spawnedRoutingInfos : List Node → List Bytes
  | [] => []
  | child :: children =>
      if child.tag = "edge_routing" then
        (routingInfo child).toList ++ spawnedRoutingInfos children
      else if child.tag = "offline_sync_preview" || child.tag = "offline" then []
      else spawnedRoutingInfos children

/-- The updates that `handle_ib` spawns. -/
def handleIbRouting (n : Node) : List Bytes := spawnedRoutingInfos (n.children.getD [])

/-! ## The client -/

/-- A `Device`. -/
structure RoutedDevice (ρ : Type) where
  edgeRoutingInfo : Option Bytes
  others : ρ

structure RoutedClient (ρ : Type) where
  /-- The device that the session stores. -/
  stored : Option (RoutedDevice ρ)
  memory : RoutedDevice ρ
  /-- The updates spawned so far. -/
  spawned : List Bytes
  /-- The updates that have run. -/
  ran : Nat → Bool
  /-- The devices that reloads have loaded. -/
  reloads : Nat → Option (RoutedDevice ρ)
  /-- The devices that pairings have taken. -/
  pairings : Nat → Option (RoutedDevice ρ)

inductive RoutingAction (ρ : Type) where
  /-- `handle_ib`. -/
  | ib (n : Node)
  /-- A spawned update runs. -/
  | update (i : Nat)
  /-- `connect_once` starts; the header of its handshake is built with `routing`. -/
  | connect (routing : Option Bytes)
  /-- `run_post_connect_init` or `load_or_create_device` loads the device. -/
  | load (c : Nat)
  /-- The loaded device is put in memory. -/
  | overwrite (c : Nat)
  /-- A pairing by code takes a clone of the device in memory, with what it rotates. -/
  | clone (p : Nat) (others : ρ)
  /-- `request_pairing` loads the device. -/
  | requestPairing (p : Nat)
  /-- The pairing saves the device that it took, with what it pairs. -/
  | save (p : Nat) (others : ρ)
  /-- `create` of the session; `Device::new()` gives the other fields. -/
  | create (others : ρ)
  | clearDevice

variable {ρ : Type}

inductive RoutingStep : RoutedClient ρ → RoutingAction ρ → RoutedClient ρ → Prop where
  | ib {s : RoutedClient ρ} {n : Node} :
      RoutingStep s (.ib n) { s with spawned := s.spawned ++ handleIbRouting n }
  | update {s : RoutedClient ρ} {i : Nat} {bytes : Bytes} :
      s.spawned[i]? = some bytes → s.ran i = false →
      RoutingStep s (.update i)
        { s with
          memory := { s.memory with edgeRoutingInfo := some bytes }
          ran := Function.update s.ran i true }
  | connect {s : RoutedClient ρ} {device : RoutedDevice ρ} :
      s.stored = some device → RoutingStep s (.connect device.edgeRoutingInfo) s
  | load {s : RoutedClient ρ} {c : Nat} :
      s.reloads c = none →
      RoutingStep s (.load c) { s with reloads := Function.update s.reloads c s.stored }
  | overwrite {s : RoutedClient ρ} {c : Nat} {device : RoutedDevice ρ} :
      s.reloads c = some device →
      RoutingStep s (.overwrite c)
        { s with memory := device, reloads := Function.update s.reloads c none }
  | clone {s : RoutedClient ρ} {p : Nat} {others : ρ} :
      s.pairings p = none →
      RoutingStep s (.clone p others)
        { s with
          memory := { s.memory with others := others }
          pairings := Function.update s.pairings p (some { s.memory with others := others }) }
  | requestPairing {s : RoutedClient ρ} {p : Nat} :
      s.pairings p = none →
      RoutingStep s (.requestPairing p)
        { s with pairings := Function.update s.pairings p s.stored }
  | save {s : RoutedClient ρ} {p : Nat} {device : RoutedDevice ρ} {others : ρ} :
      s.pairings p = some device →
      RoutingStep s (.save p others)
        { s with
          stored := some { device with others := others }
          pairings := Function.update s.pairings p none }
  | create {s : RoutedClient ρ} {others : ρ} :
      RoutingStep s (.create others) { s with stored := s.stored.or (some ⟨none, others⟩) }
  | clearDevice {s : RoutedClient ρ} : RoutingStep s .clearDevice { s with stored := none }

/-- The runs of a client that connects with any session. -/
def routedClients : System (RoutedClient ρ) (RoutingAction ρ) where
  init s := s.spawned = [] ∧ s.ran = (fun _ => false) ∧ s.reloads = (fun _ => none) ∧
    s.pairings = fun _ => none
  step := RoutingStep

/-! ## The latest routing info -/

namespace RoutedClient

/-- The latest update that has run, and its bytes. -/
structure Latest (s : RoutedClient ρ) (i : Nat) (bytes : Bytes) : Prop where
  spawned : s.spawned[i]? = some bytes
  ran : s.ran i = true
  last : ∀ j, s.ran j = true → j ≤ i

/-- Updates run in order, or later ones had the same bytes.  Once one has run, a reload
and a connection take a device with the routing info of the one in memory. -/
def KeepsRouting (s : RoutedClient ρ) : RoutingAction ρ → Prop
  | .update i => ∀ j bytes, s.Latest j bytes → i < j → s.spawned[i]? = some bytes
  | .overwrite c => ∀ i bytes device, s.Latest i bytes → s.reloads c = some device →
      device.edgeRoutingInfo = s.memory.edgeRoutingInfo
  | .connect _ => ∀ i bytes device, s.Latest i bytes → s.stored = some device →
      device.edgeRoutingInfo = s.memory.edgeRoutingInfo
  | _ => True

/-- The memory has the latest bytes. -/
structure Routed (s : RoutedClient ρ) : Prop where
  bound : ∀ i, s.ran i = true → i < s.spawned.length
  memory : ∀ i bytes, s.Latest i bytes → s.memory.edgeRoutingInfo = some bytes

end RoutedClient

section Steps

variable {s t : RoutedClient ρ} {a : RoutingAction ρ}

/-- More updates do not change the latest that has run. -/
theorem latest_append {infos : List Bytes} {i : Nat} {bytes : Bytes} (hs : s.Routed)
    (h : RoutedClient.Latest { s with spawned := s.spawned ++ infos } i bytes) :
    s.Latest i bytes := by
  refine ⟨?_, h.ran, h.last⟩
  have hspawned := h.spawned
  rwa [List.getElem?_append_left (hs.bound i h.ran)] at hspawned

/-- An update runs: it is the latest from then on, or a later one is. -/
theorem latest_update {i j : Nat} {bytes bytes' : Bytes} (hi : s.spawned[i]? = some bytes)
    {memory : RoutedDevice ρ}
    (h : RoutedClient.Latest { s with memory := memory, ran := Function.update s.ran i true } j
      bytes') : bytes' = bytes ∨ s.Latest j bytes' ∧ i < j := by
  by_cases hj : j = i
  · rw [hj] at h
    exact .inl (Option.some.inj (h.spawned.symm.trans hi))
  · have hran := h.ran
    have hle := h.last i (Function.update_self ..)
    dsimp only at hran
    rw [Function.update_of_ne hj] at hran
    refine .inr ⟨⟨h.spawned, hran, fun k hk => h.last k ?_⟩, Nat.lt_of_le_of_ne hle (Ne.symm hj)⟩
    dsimp only
    by_cases hki : k = i
    · rw [hki, Function.update_self]
    · rw [Function.update_of_ne hki]
      exact hk

theorem RoutedClient.Routed.step (hs : s.Routed) (hguard : s.KeepsRouting a)
    (h : RoutingStep s a t) : t.Routed := by
  cases h with
  | ib =>
      refine ⟨fun i hi => ?_, fun i bytes hlatest => ?_⟩
      · rw [List.length_append]
        exact Nat.lt_add_right _ (hs.bound i hi)
      · exact hs.memory i bytes (latest_append hs hlatest)
  | @update i bytes hi hran =>
      refine ⟨fun j hj => ?_, fun j bytes' hlatest => ?_⟩
      · by_cases hji : j = i
        · rw [hji]
          exact (List.getElem?_eq_some_iff.mp hi).1
        · dsimp only at hj
          rw [Function.update_of_ne hji] at hj
          exact hs.bound j hj
      · rcases latest_update hi hlatest with heq | ⟨hbefore, hlt⟩
        · rw [heq]
        · rw [← hguard j bytes' hbefore hlt, hi]
  | @overwrite c device hdevice =>
      refine ⟨hs.bound, fun i bytes hlatest => ?_⟩
      have hbefore : s.Latest i bytes := ⟨hlatest.spawned, hlatest.ran, hlatest.last⟩
      exact (hguard i bytes device hbefore hdevice).trans (hs.memory i bytes hbefore)
  | connect _ => exact hs
  | load _ | clone _ | requestPairing _ | save _ | create | clearDevice =>
      exact ⟨hs.bound, fun i bytes hlatest =>
        hs.memory i bytes ⟨hlatest.spawned, hlatest.ran, hlatest.last⟩⟩

/-- In every run in which updates run in order and no reload takes the routing info out
of memory: the next connection uses the latest routing info exactly if the stored device
has that of the device in memory. -/
theorem edge_routing_reaches_handshake_iff (as : List (RoutingAction ρ)) (s t : RoutedClient ρ)
    (routing : Option Bytes) (hrun : (routedClients.restrict RoutedClient.KeepsRouting).Run as s)
    (hstep : RoutingStep s (.connect routing) t) :
    (∀ i bytes, s.Latest i bytes → routing = some bytes) ↔ s.KeepsRouting (.connect routing) := by
  have hrouted : s.Routed := by
    refine hrun.invariant (I := RoutedClient.Routed) ?_ ?_
    · rintro s ⟨-, hran, -, -⟩
      refine ⟨fun i hi => ?_, fun i bytes hlatest => ?_⟩
      · rw [hran] at hi
        cases hi
      · have hi := hlatest.ran
        rw [hran] at hi
        cases hi
    · exact fun s a t hs hstep => hs.step hstep.2 hstep.1
  cases hstep with
  | connect hstored =>
      constructor
      · intro hright i bytes device hlatest hdevice
        cases hstored.symm.trans hdevice
        rw [hright i bytes hlatest, hrouted.memory i bytes hlatest]
      · intro hguard i bytes hlatest
        rw [hguard i bytes _ hlatest hstored, hrouted.memory i bytes hlatest]

end Steps

/-! ## A reconnection -/

/-- A client that loaded a device without routing info. -/
def unroutedClient : RoutedClient Unit where
  stored := some ⟨none, ()⟩
  memory := ⟨none, ()⟩
  spawned := []
  ran _ := false
  reloads _ := none
  pairings _ := none

/-- An `<ib>` with routing info. -/
def routingNode : Node :=
  .mk "ib" [] (some (.nodes [.mk "edge_routing" []
    (some (.nodes [.mk "routing_info" [] (some (.bytes [1]))]))]))

/-- Of the updates the first has run. -/
theorem latest_first {s : RoutedClient Unit} {bytes : Bytes}
    (hspawned : s.spawned[0]? = some bytes)
    (hran : s.ran = Function.update (fun _ => false) 0 true) : s.Latest 0 bytes := by
  refine ⟨hspawned, by rw [hran, Function.update_self], fun j hj => ?_⟩
  cases j with
  | zero => exact Nat.le_refl 0
  | succ j =>
      rw [hran, Function.update_of_ne (Nat.succ_ne_zero j)] at hj
      cases hj

/-- A pairing by code saves the device before the connection. -/
theorem edge_routing_reaches_handshake_saved :
    ∃ (as : List (RoutingAction Unit)) (s : RoutedClient Unit),
      (routedClients.restrict RoutedClient.KeepsRouting).Run as s ∧ s.Latest 0 [1] ∧
      RoutingStep s (.connect (some [1])) s ∧ s.KeepsRouting (.connect (some [1])) := by
  have hstep : ∀ {as s} (_ : (routedClients.restrict RoutedClient.KeepsRouting).Run as s)
      (a : RoutingAction Unit) {t}, RoutingStep s a t → s.KeepsRouting a →
      (routedClients.restrict RoutedClient.KeepsRouting).step s a t :=
    fun _ _ _ h hguard => ⟨h, hguard⟩
  have h₀ : (routedClients.restrict RoutedClient.KeepsRouting).Run [] unroutedClient :=
    System.Run.start ⟨rfl, rfl, rfl, rfl⟩
  have h₁ := h₀.tail (hstep h₀ (.ib routingNode) .ib trivial)
  have h₂ := h₁.tail (hstep h₁ (.update 0) (.update rfl rfl) fun j _ hlatest _ => by
    cases hlatest.ran)
  have h₃ := h₂.tail (hstep h₂ (.clone 0 ()) (.clone rfl) trivial)
  have h₄ := h₃.tail (hstep h₃ (.save 0 ()) (.save rfl) trivial)
  have hconnect : ∀ {s : RoutedClient Unit}, s.stored = some ⟨some [1], ()⟩ →
      RoutingStep s (.connect (some [1])) s := fun h => @RoutingStep.connect _ _ ⟨some [1], ()⟩ h
  refine ⟨_, _, h₄, latest_first rfl rfl, hconnect rfl, ?_⟩
  refine (edge_routing_reaches_handshake_iff _ _ _ _ h₄ (hconnect rfl)).mp fun i bytes hlatest => ?_
  cases i with
  | zero => exact hlatest.spawned
  | succ i => cases hlatest.ran

/-- Nothing saves the device between the update and the connection. -/
theorem edge_routing_not_saved :
    ¬ ∀ (as : List (RoutingAction Unit)) (s t : RoutedClient Unit) (routing : Option Bytes),
      routedClients.Run as s → RoutingStep s (.connect routing) t →
        ∀ i bytes, s.Latest i bytes → routing = some bytes := by
  intro hall
  have hstep : ∀ {as s} (_ : routedClients.Run as s) (a : RoutingAction Unit) {t},
      RoutingStep s a t → routedClients.step s a t := fun _ _ _ h => h
  have h₀ : routedClients.Run [] unroutedClient := System.Run.start ⟨rfl, rfl, rfl, rfl⟩
  have h₁ := h₀.tail (hstep h₀ (.ib routingNode) .ib)
  have h₂ := h₁.tail (hstep h₁ (.update 0) (.update rfl rfl))
  have hlatest := hall _ _ _ none h₂ (@RoutingStep.connect _ _ ⟨none, ()⟩ rfl) 0 [1]
    (latest_first rfl rfl)
  cases hlatest

end Waepic.Client
