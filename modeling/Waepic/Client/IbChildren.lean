import Waepic.Client.EdgeRouting
import Waepic.Client.HistorySync
import Waepic.Client.UpdateStreams

/-!
# The children of an `<ib>`

The loop of `handle_ib` spawns a task for each `<dirty>` and `<edge_routing>`
child, and returns at the first `<offline_sync_preview>` or `<offline>` with its
update.  Before that `run_update_stream` looks for a `<history_sync>` child, and
with one it hands the whole node to `handle_history_sync`.

So these three kinds of children end the handling of the node (`divertsNode`).
Every child is honoured in every order of the children exactly if beside such a
child no other child has an effect (`honours_children_iff`).

What the tasks do is counted, not when they run: effects are compared up to
`List.Perm`.
-/

namespace Waepic.Client

open Binary Connection

variable [WacoreBinary] {σ κ : Type}

/-! ## What a child causes -/

inductive IbEffect where
  /-- A task sends a `CleanDirtyBitsSpec`. -/
  | cleanDirtyBits (bit : DirtyBit)
  /-- It sends an `AppStateSyncSpec`. -/
  | appStateSync (name : String)
  /-- A task stores the routing info in the device. -/
  | storeRouting (bytes : Bytes)
  /-- `handle_history_sync` processes the payload. -/
  | historySync (compressed : Bytes)
  /-- The update `OfflineSyncPreview`. -/
  | offlineSyncPreview (count : Nat)
  /-- The update `OfflineSyncCompleted`. -/
  | offlineSyncCompleted (count : Nat)
deriving DecidableEq

/-- `str::parse::<u32>`. -/
def parseU32 (s : String) : Option Nat :=
  match s.toList with
  | '+' :: cs => (parseDigits cs).filter (· < 2 ^ 32)
  | cs => (parseDigits cs).filter (· < 2 ^ 32)

/-- The `count` attribute. -/
def countOf (child : Node) : Nat := ((child.attrText "count").bind parseU32).getD 0

/-- The task of `handle_dirty_child`: the IQ names the type as the child does. -/
def HandlerWacore.dirtyTask (w : HandlerWacore σ κ) (child : Node) : List IbEffect :=
  match w.handleDirtyChild child with
  | none => []
  | some bit =>
      .cleanDirtyBits ⟨(child.attrText "type").getD "", bit.timestamp⟩ ::
        if bit.dirtyType = "syncd_app_state" then appStateCollections.map .appStateSync else []

/-- The task of `handle_edge_routing_child`. -/
def routingTask (child : Node) : List IbEffect := (routingInfo child).toList.map .storeRouting

/-- The loop of `handle_ib`. -/
def HandlerWacore.handleIb (w : HandlerWacore σ κ) : List Node → List IbEffect
  | [] => []
  | child :: children =>
      if child.tag = "dirty" then w.dirtyTask child ++ w.handleIb children
      else if child.tag = "edge_routing" then routingTask child ++ w.handleIb children
      else if child.tag = "offline_sync_preview" then [.offlineSyncPreview (countOf child)]
      else if child.tag = "offline" then [.offlineSyncCompleted (countOf child)]
      else w.handleIb children

/-- `run_update_stream` on an `<ib>`. -/
def HandlerWacore.updateStreamIb (w : HandlerWacore σ κ) (n : Node) : List IbEffect :=
  if isHistorySync n then ((n.child "history_sync").bind bytesOf).toList.map .historySync
  else w.handleIb (n.children.getD [])

/-- The payload is what `handle_history_sync` extracts. -/
theorem extractHistorySyncPayload_of_ib (d : HistoryDecoder σ κ) {n : Node} (h : n.tag = "ib") :
    extractHistorySyncPayload d n = (n.child "history_sync").bind bytesOf := by
  simp [extractHistorySyncPayload, h]

/-! ### The tasks of each kind -/

omit [WacoreBinary] in
/-- The kinds of children that the loop tells apart. -/
theorem tag_cases (child : Node) :
    child.tag = "dirty" ∨ child.tag = "edge_routing" ∨ child.tag = "offline_sync_preview" ∨
      child.tag = "offline" ∨
      (child.tag ≠ "dirty" ∧ child.tag ≠ "edge_routing" ∧ child.tag ≠ "offline_sync_preview" ∧
        child.tag ≠ "offline") := by
  simp only [ne_eq, ← not_or]
  tauto

def IbEffect.routing : IbEffect → Option Bytes
  | storeRouting bytes => some bytes
  | _ => none

def IbEffect.cleaned : IbEffect → Option DirtyBit
  | cleanDirtyBits bit => some bit
  | _ => none

variable {w : HandlerWacore σ κ} {child : Node}

theorem dirtyTask_routing : (w.dirtyTask child).filterMap IbEffect.routing = [] := by
  simp only [HandlerWacore.dirtyTask]
  split
  · rfl
  · split <;> rfl

omit [WacoreBinary] in
theorem routingTask_routing :
    (routingTask child).filterMap IbEffect.routing = (routingInfo child).toList := by
  simp only [routingTask]
  cases routingInfo child <;> rfl

/-- The loop stores the routing infos that it spawns updates with. -/
theorem handleIb_routing (w : HandlerWacore σ κ) (children : List Node) :
    (w.handleIb children).filterMap IbEffect.routing = spawnedRoutingInfos children := by
  induction children with
  | nil => rfl
  | cons child children ih =>
      rw [HandlerWacore.handleIb, spawnedRoutingInfos]
      rcases tag_cases child with
        hdirty | hrouting | hpreview | hoffline | ⟨hdirty, hrouting, hpreview, hoffline⟩
      · simp [hdirty, dirtyTask_routing, ih]
      · simp [hrouting, routingTask_routing, ih]
      · simp [hpreview, IbEffect.routing]
      · simp [hoffline, IbEffect.routing]
      · simp [hdirty, hrouting, hpreview, hoffline, ih]

/-- `DirtyBit::from_raw` keeps the type. -/
def HandlerWacore.KeepsDirtyType (w : HandlerWacore σ κ) : Prop :=
  ∀ dirtyType timestamp bit, w.dirtyBit dirtyType timestamp = .ok bit → bit.dirtyType = dirtyType

theorem dirtyTask_cleaned (hw : w.KeepsDirtyType) :
    (w.dirtyTask child).filterMap IbEffect.cleaned = (w.handleDirtyChild child).toList := by
  simp only [HandlerWacore.dirtyTask]
  cases hbit : w.handleDirtyChild child with
  | none => rfl
  | some bit =>
      obtain ⟨dirtyType, htype, hraw⟩ := Option.bind_eq_some_iff.mp hbit
      have hkeeps : bit.dirtyType = dirtyType := by
        cases hok : w.dirtyBit dirtyType (child.attrText "timestamp") with
        | error msg =>
            rw [hok] at hraw
            cases hraw
        | ok bit' =>
            rw [hok] at hraw
            cases hraw
            exact hw _ _ _ hok
      have hbits : (⟨(child.attrText "type").getD "", bit.timestamp⟩ : DirtyBit) = bit := by
        rw [htype, Option.getD_some, ← hkeeps]
      simp only [hbits]
      split <;> rfl

omit [WacoreBinary] in
theorem routingTask_cleaned : (routingTask child).filterMap IbEffect.cleaned = [] := by
  simp only [routingTask]
  cases routingInfo child <;> rfl

/-- And acknowledges the dirty bits. -/
theorem handleIb_cleaned (hw : w.KeepsDirtyType) (children : List Node) :
    (w.handleIb children).filterMap IbEffect.cleaned = w.dirtyBits children := by
  induction children with
  | nil => rfl
  | cons child children ih =>
      rw [HandlerWacore.handleIb, HandlerWacore.dirtyBits]
      rcases tag_cases child with
        hdirty | hrouting | hpreview | hoffline | ⟨hdirty, hrouting, hpreview, hoffline⟩
      · simp [hdirty, dirtyTask_cleaned hw, ih]
      · simp [hrouting, routingTask_cleaned, ih]
      · simp [hpreview, IbEffect.cleaned]
      · simp [hoffline, IbEffect.cleaned]
      · simp [hdirty, hrouting, hpreview, hoffline, ih]

/-! ## Honouring the children -/

/-- What a child is to cause, whatever stands beside it. -/
def HandlerWacore.childEffects (w : HandlerWacore σ κ) (child : Node) : List IbEffect :=
  if child.tag = "dirty" then w.dirtyTask child
  else if child.tag = "edge_routing" then routingTask child
  else if child.tag = "offline_sync_preview" then [.offlineSyncPreview (countOf child)]
  else if child.tag = "offline" then [.offlineSyncCompleted (countOf child)]
  else if child.tag = "history_sync" then (bytesOf child).toList.map .historySync
  else []

/-- An `<ib>` with these children. -/
def ibNode (attrs : Attrs) (children : List Node) : Node :=
  .mk "ib" attrs (some (.nodes children))

/-- In any order the children have the effects of each of them. -/
def HandlerWacore.HonoursChildren (w : HandlerWacore σ κ) (attrs : Attrs) (children : List Node) :
    Prop :=
  ∀ order, order.Perm children →
    (w.updateStreamIb (ibNode attrs order)).Perm (children.flatMap w.childEffects)

/-- The child ends the handling of its node. -/
def divertsNode (child : Node) : Bool :=
  child.tag = "history_sync" || child.tag = "offline_sync_preview" || child.tag = "offline"

/-- Neither of two children loses an effect to the other. -/
def HandlerWacore.Compatible (w : HandlerWacore σ κ) (a b : Node) : Prop :=
  (divertsNode a = true → w.childEffects b = []) ∧ (divertsNode b = true → w.childEffects a = [])

variable {attrs : Attrs} {children : List Node}

theorem HandlerWacore.Compatible.symm {a b : Node} (h : w.Compatible a b) : w.Compatible b a :=
  ⟨h.2, h.1⟩

/-! ## Without a history sync -/

omit [WacoreBinary] in
theorem child_ibNode (attrs : Attrs) (children : List Node) (tag : String) :
    (ibNode attrs children).child tag = children.find? (·.tag = tag) := rfl

theorem isHistorySync_ibNode (attrs : Attrs) (children : List Node) :
    isHistorySync (ibNode attrs children) =
      (children.find? (·.tag = "history_sync")).isSome := rfl

theorem updateStreamIb_of_no_history (h : children.find? (·.tag = "history_sync") = none) :
    w.updateStreamIb (ibNode attrs children) = w.handleIb children := by
  rw [HandlerWacore.updateStreamIb, isHistorySync_ibNode, h]
  rfl

theorem updateStreamIb_of_history (h : children.find? (·.tag = "history_sync") = some child) :
    w.updateStreamIb (ibNode attrs children) = (bytesOf child).toList.map .historySync := by
  rw [HandlerWacore.updateStreamIb, isHistorySync_ibNode, child_ibNode, h]
  rfl

/-- A child is handled and the loop goes on, or the child ends the loop. -/
theorem handleIb_cons (hne : child.tag ≠ "history_sync") (children : List Node) :
    (divertsNode child = false ∧
        w.handleIb (child :: children) = w.childEffects child ++ w.handleIb children) ∨
      (divertsNode child = true ∧ w.handleIb (child :: children) = w.childEffects child) := by
  rw [HandlerWacore.handleIb, HandlerWacore.childEffects, divertsNode]
  rcases tag_cases child with
    hdirty | hrouting | hpreview | hoffline | ⟨hdirty, hrouting, hpreview, hoffline⟩
  · exact .inl ⟨by simp [hdirty], by simp [hdirty]⟩
  · exact .inl ⟨by simp [hrouting], by simp [hrouting]⟩
  · exact .inr ⟨by simp [hpreview], by simp [hpreview]⟩
  · exact .inr ⟨by simp [hoffline], by simp [hoffline]⟩
  · exact .inl ⟨by simp [hne, hpreview, hoffline],
      by simp [hdirty, hrouting, hpreview, hoffline, hne]⟩

theorem childEffects_of_history (h : child.tag = "history_sync") :
    w.childEffects child = (bytesOf child).toList.map .historySync := by
  simp [HandlerWacore.childEffects, h]

/-- The loop gives each child its effects if none loses them to another. -/
theorem handleIb_of_compatible (hne : ∀ c ∈ children, c.tag ≠ "history_sync")
    (h : children.Pairwise w.Compatible) :
    w.handleIb children = children.flatMap w.childEffects := by
  induction children with
  | nil => rfl
  | cons child children ih =>
      obtain ⟨hhead, htail⟩ := List.pairwise_cons.mp h
      rw [List.flatMap_cons]
      rcases handleIb_cons (w := w) (hne child (.head _)) children with
        ⟨-, hcons⟩ | ⟨hdiverts, hcons⟩
      · rw [hcons, ih (fun c hc => hne c (.tail _ hc)) htail]
      · have hrest : children.flatMap w.childEffects = [] :=
          List.flatMap_eq_nil_iff.mpr fun c hc => (hhead c hc).1 hdiverts
        rw [hcons, hrest, List.append_nil]

/-! ## With one -/

theorem updateStreamIb_of_compatible (h : children.Pairwise w.Compatible) :
    w.updateStreamIb (ibNode attrs children) = children.flatMap w.childEffects := by
  cases hfind : children.find? (·.tag = "history_sync") with
  | none =>
      rw [updateStreamIb_of_no_history hfind]
      refine handleIb_of_compatible (fun c hc htag => ?_) h
      exact List.find?_eq_none.mp hfind c hc (by simp [htag])
  | some child =>
      obtain ⟨htag, before, after, rfl, -⟩ := List.find?_eq_some_iff_append.mp hfind
      have htag : child.tag = "history_sync" := by simpa using htag
      have hdiverts : divertsNode child = true := by simp [divertsNode, htag]
      obtain ⟨-, hafter, hbefore⟩ := List.pairwise_append.mp h
      have hnil : before.flatMap w.childEffects = [] :=
        List.flatMap_eq_nil_iff.mpr fun c hc => (hbefore c hc child (.head _)).2 hdiverts
      have hnil' : after.flatMap w.childEffects = [] :=
        List.flatMap_eq_nil_iff.mpr fun c hc =>
          ((List.pairwise_cons.mp hafter).1 c hc).1 hdiverts
      rw [updateStreamIb_of_history hfind, List.flatMap_append, List.flatMap_cons, hnil, hnil',
        childEffects_of_history htag, List.nil_append, List.append_nil]

/-- A child that ends the handling leaves room for no more than its own effects. -/
theorem length_updateStreamIb_of_diverts (attrs : Attrs) (children : List Node)
    (h : divertsNode child = true) :
    (w.updateStreamIb (ibNode attrs (child :: children))).length ≤
      (w.childEffects child).length := by
  cases hfind : (child :: children).find? (·.tag = "history_sync") with
  | none =>
      have hne : child.tag ≠ "history_sync" := fun htag =>
        List.find?_eq_none.mp hfind child (.head _) (by simp [htag])
      rw [updateStreamIb_of_no_history hfind]
      rcases handleIb_cons (w := w) hne children with ⟨hgoes, -⟩ | ⟨-, hcons⟩
      · rw [h] at hgoes
        cases hgoes
      · exact Nat.le_of_eq (congrArg List.length hcons)
  | some history =>
      rw [updateStreamIb_of_history hfind]
      by_cases htag : child.tag = "history_sync"
      · obtain rfl : child = history := by simpa [htag] using hfind
        exact Nat.le_of_eq (congrArg List.length (childEffects_of_history htag).symm)
      · have hone : (w.childEffects child).length = 1 := by
          have hcases : child.tag = "offline_sync_preview" ∨ child.tag = "offline" := by
            simpa [divertsNode, htag] using h
          rcases hcases with hpreview | hoffline
          · simp [HandlerWacore.childEffects, hpreview]
          · simp [HandlerWacore.childEffects, hoffline]
        rw [hone, List.length_map]
        cases bytesOf history <;> simp

/-- Beside a child that ends the handling nothing else may have an effect. -/
theorem childEffects_nil_of_honours {a b : Node} {rest : List Node}
    (h : w.HonoursChildren attrs children) (hperm : (a :: b :: rest).Perm children)
    (hdiverts : divertsNode a = true) : w.childEffects b = [] := by
  have hlen := ((h _ hperm).trans (hperm.flatMap_right w.childEffects).symm).length_eq
  have hle := length_updateStreamIb_of_diverts (w := w) attrs (b :: rest) hdiverts
  rw [hlen, List.flatMap_cons, List.flatMap_cons, List.length_append, List.length_append] at hle
  exact List.length_eq_zero_iff.mp (by omega)

/-- Every child of an `<ib>` is honoured in any order exactly if beside a
`<history_sync>`, an `<offline_sync_preview>` or an `<offline>` no other child has an
effect. -/
theorem honours_children_iff (w : HandlerWacore σ κ) (attrs : Attrs) (children : List Node) :
    w.HonoursChildren attrs children ↔ children.Pairwise w.Compatible := by
  constructor
  · intro h
    refine List.pairwise_iff_forall_sublist.mpr fun {a b} hsub => ?_
    obtain ⟨rest, hperm⟩ := hsub.exists_perm_append
    have hab : (a :: b :: rest).Perm children := hperm.symm
    have hba : (b :: a :: rest).Perm children := (List.Perm.swap a b rest).trans hab
    exact ⟨childEffects_nil_of_honours h hab, childEffects_nil_of_honours h hba⟩
  · intro h order hperm
    have horder : order.Pairwise w.Compatible :=
      (hperm.pairwise_iff fun hab => hab.symm).mpr h
    rw [updateStreamIb_of_compatible horder]
    exact hperm.flatMap_right w.childEffects

/-! ## An offline preview before a dirty notification -/

omit [WacoreBinary] in
/-- The dirty notification is not acknowledged. -/
theorem dirty_after_preview_lost :
    letI := plainWacore
    ¬ ∀ (w : HandlerWacore (List Bytes) (Option String)) attrs children,
      w.HonoursChildren attrs children := by
  let _ := plainWacore
  intro h
  have hperm := h onceHandlers []
    [.mk "offline_sync_preview" [("count", .string "3")] none,
      .mk "dirty" [("type", .string "account_sync")] none] _ (List.Perm.refl _)
  cases hperm.length_eq

end Waepic.Client
