import Waepic.Client.Confidentiality
import Waepic.Client.SenderKeys

/-!
# Receipts

A receipt names its messages in the `id` attribute or in the items of a
`<list>`.  `mark_as_read` builds a receipt for several messages, but only puts
the first id into it.  `handle_receipt` reads the ids of the first `<list>` if
there is one, and only otherwise the attribute.

So a read receipt names its messages exactly if it is for one
(`sendsReceiptFor_iff`), and a receipt is reported with every id that it carries
exactly if its first list has them all (`reportsCarried_iff`).
-/

namespace Waepic.Client

open Binary Connection

variable {ρ σ κ τ : Type}

/-! ## The client -/

/-- What `handle_receipt` uses of wacore.  `τ` is `ReceiptType`. -/
structure ReceiptDecoder (σ κ τ : Type) extends Decoder σ κ where
  /-- `ReceiptType::parse`. -/
  parseReceiptType : String → τ
  /-- `ReceiptType::Delivered`. -/
  delivered : τ

/-- Delivery or read receipt for one or more messages. -/
structure Receipt (τ : Type) where
  chat : Chat
  messageIds : List String
  receiptType : τ
  /-- In seconds. -/
  timestamp : Nat

/-- Build a read receipt.  The source reads the first id, so there has to be one. -/
def buildReadReceiptNode (toJid : Jid) (messageIds : List String) (h : messageIds ≠ [])
    (timestamp : Nat) : Node :=
  .mk "receipt"
    [("to", .jid toJid), ("type", .string "read"), ("id", .string (messageIds.head h)),
      ("t", .string (toString timestamp))]
    none

/-- Mark messages as read in a chat. -/
def markAsRead (chat : Chat) (messageIds : List String) : ClientM σ Unit :=
  if h : messageIds = [] then return ()
  else do
    let timestampMs ← now
    sendNode (buildReadReceiptNode chat.jid messageIds h (timestampMs / 1000))

section

variable [WacoreBinary]

/-- The ids of the items of a `<list>`. -/
def itemIds (list : Node) : List String :=
  ((list.children.getD []).filter (·.tag = "item")).filterMap (·.attrText "id")

/-- The ids that are read from a receipt. -/
def receiptIds (n : Node) : List String :=
  match n.child "list" with
  | some list => itemIds list
  | none => (n.attrText "id").toList

def handleReceipt (d : ReceiptDecoder σ κ τ) (n : Node) : Option (Receipt τ) :=
  match d.attrJid n "from" with
  | none => none
  | some fromJid => some
      { chat := .ofJid fromJid
        messageIds := receiptIds n
        receiptType := ((n.attrText "type").map d.parseReceiptType).getD d.delivered
        timestamp := ((n.attrText "t").bind parseU64).getD 0 }

end

variable [WacoreBinary] {d : ReceiptDecoder σ κ τ} {n : Node} {jid : Jid}

theorem handleReceipt_of_from (h : d.attrJid n "from" = some jid) :
    (handleReceipt d n).map (·.messageIds) = some (receiptIds n) := by
  simp [handleReceipt, h]

theorem handleReceipt_of_no_from (h : d.attrJid n "from" = none) :
    (handleReceipt d n).map (·.messageIds) = none := by
  simp [handleReceipt, h]

/-! ## The ids that a receipt carries -/

omit [WacoreBinary] in
theorem child_eq_head? (n : Node) (tag : String) :
    n.child tag = ((n.children.getD []).filter (·.tag = tag)).head? := by
  simp only [Node.child]
  cases n.children with
  | none => rfl
  | some children => exact (List.head?_filter ..).symm

/-- The ids of a node: the attribute, and the items of all lists. -/
def carriedIds (n : Node) : List String :=
  (n.attrText "id").toList ++
    ((n.children.getD []).filter (·.tag = "list")).flatMap itemIds

theorem carriedIds_of_no_list (h : n.child "list" = none) :
    carriedIds n = (n.attrText "id").toList := by
  rw [child_eq_head?, List.head?_eq_none_iff] at h
  rw [carriedIds, h, List.flatMap_nil, List.append_nil]

theorem itemIds_subset_carriedIds {list : Node} (h : n.child "list" = some list) :
    itemIds list ⊆ carriedIds n := by
  rw [child_eq_head?] at h
  intro id hid
  refine List.mem_append_right _ (List.mem_flatMap.mpr ⟨list, ?_, hid⟩)
  exact List.mem_of_head? h

/-! ## Reading a receipt -/

/-- What is reported of a node is every id that it carries, once. -/
structure ReportsCarried (d : ReceiptDecoder σ κ τ) (n : Node) : Prop where
  nodup : (((handleReceipt d n).map (·.messageIds)).getD []).Nodup
  mem_iff : ∀ id, id ∈ ((handleReceipt d n).map (·.messageIds)).getD [] ↔ id ∈ carriedIds n

/-- The first list holds every id of the node, once. -/
def ListsAll (n : Node) : Prop :=
  ∀ list, n.child "list" = some list → (itemIds list).Nodup ∧ carriedIds n ⊆ itemIds list

theorem listsAll_of_nil (h : carriedIds n = []) : ListsAll n := by
  intro list hlist
  have hnil : itemIds list = [] := by
    refine List.eq_nil_iff_forall_not_mem.mpr fun id hid => ?_
    have hmem := itemIds_subset_carriedIds hlist hid
    rw [h] at hmem
    cases hmem
  rw [hnil, h]
  exact ⟨List.nodup_nil, List.nil_subset _⟩

theorem receiptIds_iff (n : Node) :
    ((receiptIds n).Nodup ∧ ∀ id, id ∈ receiptIds n ↔ id ∈ carriedIds n) ↔ ListsAll n := by
  simp only [receiptIds, ListsAll]
  cases hchild : n.child "list" with
  | none =>
      rw [carriedIds_of_no_list hchild]
      have hnodup : (n.attrText "id").toList.Nodup := by cases n.attrText "id" <;> simp
      simp [hnodup]
  | some list =>
      constructor
      · rintro ⟨hnodup, hmem⟩ _ ⟨⟩
        exact ⟨hnodup, fun id => (hmem id).mpr⟩
      · intro h
        obtain ⟨hnodup, hsub⟩ := h list rfl
        refine ⟨hnodup, fun id => ⟨fun hid => ?_, fun hid => hsub hid⟩⟩
        exact itemIds_subset_carriedIds hchild hid

/-- Every id of a receipt is reported once exactly if the first list has them all,
and if the sender is known when there are any. -/
theorem reportsCarried_iff (d : ReceiptDecoder σ κ τ) (n : Node) :
    ReportsCarried d n ↔ (carriedIds n ≠ [] → (d.attrJid n "from").isSome) ∧ ListsAll n := by
  cases hfrom : d.attrJid n "from" with
  | none =>
      have hread := handleReceipt_of_no_from hfrom
      constructor
      · intro h
        have hnil : carriedIds n = [] := by
          refine List.eq_nil_iff_forall_not_mem.mpr fun id hid => ?_
          have hmem := (h.mem_iff id).mpr hid
          rw [hread] at hmem
          cases hmem
        exact ⟨fun hne => absurd hnil hne, listsAll_of_nil hnil⟩
      · rintro ⟨hnil, -⟩
        have hnil : carriedIds n = [] := by
          by_contra hne
          cases hnil hne
        constructor
        · rw [hread]
          exact List.nodup_nil
        · rw [hread, hnil]
          exact fun id => Iff.rfl
  | some fromJid =>
      have hread := handleReceipt_of_from hfrom
      have hiff := receiptIds_iff n
      constructor
      · intro h
        have hnodup := h.nodup
        have hmem := h.mem_iff
        rw [hread] at hnodup hmem
        exact ⟨fun _ => rfl, hiff.mp ⟨hnodup, hmem⟩⟩
      · rintro ⟨-, h⟩
        obtain ⟨hnodup, hmem⟩ := hiff.mpr h
        constructor
        · rw [hread]
          exact hnodup
        · rw [hread]
          exact hmem

/-! ## Sending a receipt -/

omit [WacoreBinary] in
theorem exec_markAsRead_nil (chat : Chat) (s : ClientState σ) :
    exec (markAsRead chat []) s = (.ok (), s) := rfl

omit [WacoreBinary] in
theorem exec_markAsRead {messageIds : List String} (h : messageIds ≠ []) (chat : Chat)
    (s : ClientState σ) :
    ∃ timestamp, (exec (markAsRead chat messageIds) s).2.handed =
      s.handed ++ [buildReadReceiptNode chat.jid messageIds h timestamp] := by
  refine ⟨s.clock s.readings / 1000, ?_⟩
  rw [markAsRead, dif_neg h, exec_bind_ok (exec_now s)]
  exact exec_sendNode_handed _ _

/-- The node as it is received: `to` is read as `from`. -/
def receivedNode : Node → Node
  | .mk tag attrs content =>
      .mk tag (attrs.map fun (key, value) => (if key = "to" then "from" else key, value)) content

/-- Marking the messages as read hands over a receipt with all of their ids, which
is read back as a receipt for these messages. -/
def SendsReceiptFor (d : ReceiptDecoder σ κ τ) (chat : Chat) (messageIds : List String)
    (s : ClientState ρ) : Prop :=
  ∃ n, (exec (markAsRead chat messageIds) s).2.handed = s.handed ++ [n] ∧
    messageIds ⊆ carriedIds n ∧
    (handleReceipt d (receivedNode n)).map (·.messageIds) = some messageIds

theorem handleReceipt_readReceipt (d : ReceiptDecoder σ κ τ) (toJid : Jid)
    {messageIds : List String} (h : messageIds ≠ []) (timestamp : Nat) :
    (handleReceipt d (receivedNode (buildReadReceiptNode toJid messageIds h timestamp))).map
      (·.messageIds) = some [messageIds.head h] :=
  rfl

theorem carriedIds_readReceipt (toJid : Jid) {messageIds : List String} (h : messageIds ≠ [])
    (timestamp : Nat) :
    carriedIds (buildReadReceiptNode toJid messageIds h timestamp) = [messageIds.head h] :=
  rfl

/-- A read receipt names its messages exactly if it is for one. -/
theorem sendsReceiptFor_iff (d : ReceiptDecoder σ κ τ) (chat : Chat) (messageIds : List String)
    (s : ClientState ρ) : SendsReceiptFor d chat messageIds s ↔ messageIds.length = 1 := by
  cases messageIds with
  | nil =>
      constructor
      · rintro ⟨n, hhanded, -⟩
        have hlen := congrArg List.length hhanded
        simp [exec_markAsRead_nil] at hlen
      · nofun
  | cons id ids =>
      obtain ⟨timestamp, hexec⟩ := exec_markAsRead (List.cons_ne_nil id ids) chat s
      constructor
      · rintro ⟨n, hhanded, -, hread⟩
        rw [hexec] at hhanded
        obtain rfl := List.singleton_inj.mp (List.append_cancel_left hhanded)
        rw [handleReceipt_readReceipt] at hread
        rw [← Option.some.inj hread]
        rfl
      · intro hlen
        obtain rfl := List.length_eq_zero_iff.mp (Nat.succ.inj hlen)
        refine ⟨_, hexec, ?_, handleReceipt_readReceipt ..⟩
        rw [carriedIds_readReceipt]
        exact List.Subset.refl _

/-- Receipts name every message exactly as follows: one that is sent, if it is for
one message; one that is received, if its first list has every id that it carries,
and if the sender is known when there are any. -/
theorem receipts_name_messages_iff (d : ReceiptDecoder σ κ τ) :
    (∀ chat messageIds, ∀ s : ClientState ρ,
      SendsReceiptFor d chat messageIds s ↔ messageIds.length = 1) ∧
    ∀ n, ReportsCarried d n ↔
      (carriedIds n ≠ [] → (d.attrJid n "from").isSome) ∧ ListsAll n :=
  ⟨sendsReceiptFor_iff d, reportsCarried_iff d⟩

/-! ## A receipt for two messages -/

def exampleReceiptDecoder : ReceiptDecoder (List SenderKeyName) (Option String) Bool :=
  { exampleDecoder with parseReceiptType := (· = "read"), delivered := false }

omit [WacoreBinary] in
/-- The second message is not marked as read. -/
theorem second_message_not_marked :
    letI := plainWacore
    ¬ ∀ (d : ReceiptDecoder (List SenderKeyName) (Option String) Bool) chat messageIds,
      messageIds ≠ [] → SendsReceiptFor d chat messageIds loggedIn := by
  let _ := plainWacore
  intro h
  obtain ⟨n, hhanded, -, hread⟩ :=
    h exampleReceiptDecoder (.user userJid) ["3EB0A", "3EB0B"] (List.cons_ne_nil _ _)
  obtain rfl := List.singleton_inj.mp hhanded
  cases hread

end Waepic.Client
