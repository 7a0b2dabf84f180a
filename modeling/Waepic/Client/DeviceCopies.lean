import Waepic.Client.Confidentiality
import Waepic.Client.PairSuccess
import Waepic.Library.Transition

/-!
# The two copies of the device

The session stores the device, and the client has it in memory.  The handshake,
`is_authorized` and a pairing by QR code read the session; the Signal adapter,
`send_message` and a pairing by code read the memory.

`load_or_create_device` and `run_post_connect_init` put the stored device in
memory, if there is one.  The second stage of a pairing by code saves the device
in memory.  A pair-success saves the paired device and leaves the memory as it
is: the client that paired is authorized, and may send once it has reloaded.

The keys of the copies agree from the first operation on that is no pairing by
QR code, and after every operation but a pair-success the copies agree on the JIDs
too (`device_copies_agree`).
-/

namespace Waepic.Client

open Binary Connection Transition

/-! ## Sending with an account -/

section Sending

variable {σ α β : Type}

/-- The operation does not fail for want of an account. -/
def NotLoggedOut (m : ClientM σ α) (s : ClientState σ) : Prop :=
  (exec m s).1 ≠ .error .notLoggedIn

theorem NotLoggedOut.bind {m : ClientM σ α} {f : α → ClientM σ β} {s : ClientState σ}
    (h : NotLoggedOut m s) (hf : ∀ a t, exec m s = (.ok a, t) → NotLoggedOut (f a) t) :
    NotLoggedOut (m >>= f) s := by
  simp only [NotLoggedOut] at h ⊢
  rw [exec_bind]
  rcases hm : exec m s with ⟨e | a, t⟩
  · rw [hm] at h
    intro herror
    cases herror
    exact h rfl
  · exact hf a t hm

theorem sendNode_notLoggedOut (n : Node) (s : ClientState σ) : NotLoggedOut (sendNode n) s := by
  have hget : exec get s = (.ok s, s) := rfl
  have hset : exec (set { s with handed := s.handed ++ [n] }) s =
    (.ok (), { s with handed := s.handed ++ [n] }) := rfl
  simp only [NotLoggedOut, sendNode]
  rw [exec_bind_ok hget, exec_bind_ok hset]
  cases s.sendResult s.handed.length with
  | ok _ =>
      intro h
      cases h
  | error e =>
      intro h
      cases h

theorem prepared_notLoggedOut (context : String) (result : Except String Node × σ)
    (s : ClientState σ) : NotLoggedOut (prepared context result) s := by
  simp only [NotLoggedOut]
  rw [exec_prepared]
  cases result.1 <;> exact nofun

theorem encryptMessage_notLoggedOut (wacore : Wacore σ) (jid : Jid) (msgId : String)
    (proto : WaMessage) {s : ClientState σ} (hpn : s.pn ≠ none) :
    NotLoggedOut (encryptMessage wacore jid msgId proto) s := by
  obtain ⟨pn, hpn⟩ := Option.ne_none_iff_exists'.mp hpn
  have hget : exec get s = (.ok s, s) := rfl
  have hjid : exec (okOr .notLoggedIn s.pn) s = (.ok pn, s) := by rw [hpn]; rfl
  simp only [NotLoggedOut, encryptMessage]
  rw [exec_bind_ok hget, exec_bind_ok hjid]
  split
  · cases hlid : s.lid with
    | none =>
        rw [exec_bind_error (exec_okOr_none _ _)]
        simp
    | some lid =>
        rw [exec_bind_ok (exec_okOr_some _ _)]
        exact prepared_notLoggedOut _ _ _
  · exact prepared_notLoggedOut _ _ _

/-- With an account, `send_message` does not fail with `NotLoggedIn`. -/
theorem sendMessage_notLoggedOut (wacore : Wacore σ) (chat : Chat) (msg : InputMessage)
    {s : ClientState σ} (hpn : s.pn ≠ none) : NotLoggedOut (sendMessage wacore chat msg) s := by
  obtain ⟨id, counter, readings, hid⟩ := exec_generateMessageId s
  have hrest (n : Node) (t : ClientState σ) : NotLoggedOut (do
      sendNode n
      let timestamp ← now
      return (⟨inputToProto msg, id, chat.jid, chat.jid, true, timestamp⟩ : SentMessage)) t := by
    refine .bind (sendNode_notLoggedOut n t) fun _ u _ => ?_
    rw [NotLoggedOut, exec_bind_ok (exec_now u)]
    exact nofun
  unfold NotLoggedOut sendMessage
  rw [exec_bind_ok hid]
  dsimp only
  split
  · exact NotLoggedOut.bind (by exact nofun) fun n t _ => hrest n t
  · exact NotLoggedOut.bind (encryptMessage_notLoggedOut wacore chat.jid id _ hpn)
      fun n t _ => hrest n t

end Sending

/-! ## The copies -/

structure DeviceCopies (ρ : Type) where
  session : PairSession ρ
  memory : PairingDevice ρ

/-- The operations; none of their storage operations fails. -/
inductive CopyOp (ρ : Type) where
  | loadOrCreateDevice (now : Int)
  | runPostConnectInit
  /-- `request_pairing` and its pair-success. -/
  | qrPairing (n : Node) (now : Int)
  /-- The second stage of a pairing by code. -/
  | pairCode (newAdvSecret : Bytes)
  /-- The pair-success of a pairing by code. -/
  | pairSuccess (n : Node) (now : Int)
  /-- `create` of the session, and `load_or_create_device`; `Device::new()` gives the device. -/
  | create (new : PairingDevice ρ) (now : Int)
  /-- `clear_device`, and `load_or_create_device`. -/
  | clearDevice (now : Int)

/-- Nothing fails. -/
def PairOutcomes.allOk (now : Int) : PairOutcomes := ⟨.ok (), .ok (), .ok (), now⟩

namespace DeviceCopies

variable {ρ : Type}

def setDevice (s : DeviceCopies ρ) (device : Option (PairingDevice ρ)) : DeviceCopies ρ :=
  { s with session := { s.session with device := device } }

/-- `load_or_create_device`. -/
def loadOrCreateDevice (w : PairWacore) (now : Int) (s : DeviceCopies ρ) : DeviceCopies ρ :=
  let device := s.session.device.getD s.memory
  { memory := device
    session :=
      if (s.session.signedPrekeys device.signedPreKeyId).isNone then
        { s.session with
          signedPrekeys := Function.update s.session.signedPrekeys device.signedPreKeyId
            (device.signedPreKeyRecord w now) }
      else s.session }

/-- What `run_post_connect_init` does to the device. -/
def runPostConnectInit (s : DeviceCopies ρ) : DeviceCopies ρ :=
  { s with memory := s.session.device.getD s.memory }

/-- The device of `handle_pair_code_notification` gets the new secret and is saved. -/
def rotateAdvSecret (newAdvSecret : Bytes) (s : DeviceCopies ρ) : DeviceCopies ρ :=
  let device := { s.memory with advSecretKey := newAdvSecret }
  { session := { s.session with device := some device }, memory := device }

end DeviceCopies

variable [WacoreBinary] {ρ : Type}

/-- An operation that returns `Ok`.  `clears` says whether the session has a
`clear_device` of its own. -/
inductive CopyStep (w : PairWacore) (clears : Bool) :
    DeviceCopies ρ → CopyOp ρ → DeviceCopies ρ → Prop where
  | loadOrCreateDevice {s : DeviceCopies ρ} {now : Int} :
      CopyStep w clears s (.loadOrCreateDevice now) (s.loadOrCreateDevice w now)
  | runPostConnectInit {s : DeviceCopies ρ} :
      CopyStep w clears s .runPostConnectInit s.runPostConnectInit
  | qrPairing {s : DeviceCopies ρ} {n : Node} {now : Int} {device : PairingDevice ρ}
      {session : PairSession ρ} :
      s.session.device = some device →
      pairSuccess w (.allOk now) device n s.session = (.ok (), session) →
      CopyStep w clears s (.qrPairing n now) { s with session := session }
  | pairCode {s : DeviceCopies ρ} {newAdvSecret : Bytes} :
      CopyStep w clears s (.pairCode newAdvSecret) (s.rotateAdvSecret newAdvSecret)
  | pairSuccess {s : DeviceCopies ρ} {n : Node} {now : Int} {session : PairSession ρ} :
      pairSuccess w (.allOk now) s.memory n s.session = (.ok (), session) →
      CopyStep w clears s (.pairSuccess n now) { s with session := session }
  | create {s : DeviceCopies ρ} {new : PairingDevice ρ} {now : Int} :
      CopyStep w clears s (.create new now)
        ((s.setDevice (s.session.device.or (some new))).loadOrCreateDevice w now)
  | clearDevice {s : DeviceCopies ρ} {now : Int} :
      CopyStep w clears s (.clearDevice now)
        ((s.setDevice (if clears then none else s.session.device)).loadOrCreateDevice w now)

/-- The runs of a client that connects with any session. -/
def deviceCopies (w : PairWacore) (clears : Bool) : System (DeviceCopies ρ) (CopyOp ρ) where
  init _ := True
  step := CopyStep w clears

/-! ## Agreement -/

/-- The devices agree on the keys, and on the registration id and the other fields that
no pairing touches. -/
def PairingDevice.SameKeys (d m : PairingDevice ρ) : Prop :=
  d.toDeviceState = m.toDeviceState ∧ d.others = m.others

namespace DeviceCopies

variable (s : DeviceCopies ρ)

/-- A stored device has the keys of the one in memory. -/
def KeysAgree : Prop := ∀ d, s.session.device = some d → d.SameKeys s.memory

/-- A stored device has the keys and the JIDs of the one in memory. -/
def Agree : Prop :=
  ∀ d, s.session.device = some d →
    d.SameKeys s.memory ∧ d.pn = s.memory.pn ∧ d.lid = s.memory.lid

/-- An authorized client may send. -/
def MaySend : Prop :=
  s.session.isAuthorized = true → ∀ {σ : Type} (wacore : Wacore σ) (chat : Chat)
    (msg : InputMessage) (c : ClientState σ), c.pn = s.memory.pn →
      NotLoggedOut (sendMessage wacore chat msg) c

/-- The session loads a device that agrees with the one in memory. -/
def OneValue : Prop := (∃ d, s.session.device = some d) ∧ s.Agree ∧ s.MaySend

end DeviceCopies

namespace CopyOp

/-- The operation ends a pairing with a pair-success. -/
def IsPairSuccess : CopyOp ρ → Prop
  | qrPairing _ _ | pairSuccess _ _ => True
  | _ => False

def IsQrPairing : CopyOp ρ → Prop
  | qrPairing _ _ => True
  | _ => False

/-- The pair-success of the operation pairs this device with this node: by QR code the
stored device, by code the one in memory. -/
inductive Pairs (s : DeviceCopies ρ) : CopyOp ρ → PairingDevice ρ → Node → Prop where
  | qrPairing {device : PairingDevice ρ} {n : Node} {now : Int} :
      s.session.device = some device → Pairs s (.qrPairing n now) device n
  | pairSuccess {n : Node} {now : Int} : Pairs s (.pairSuccess n now) s.memory n

/-- The operation only loads the stored device. -/
def Loads : CopyOp ρ → Prop
  | loadOrCreateDevice _ | runPostConnectInit => True
  | _ => False

/-- The operation leaves a device in a session that had `device`. -/
def LeavesDevice (device : Option (PairingDevice ρ)) : CopyOp ρ → Prop
  | loadOrCreateDevice _ | runPostConnectInit => device ≠ none
  | clearDevice _ => False
  | _ => True

end CopyOp

section Copies

variable {w : PairWacore} {clears : Bool} {s t : DeviceCopies ρ} {op : CopyOp ρ}

omit [WacoreBinary] in
@[simp] theorem loadOrCreateDevice_device (now : Int) :
    (s.loadOrCreateDevice w now).session.device = s.session.device := by
  unfold DeviceCopies.loadOrCreateDevice
  dsimp only
  split <;> rfl

omit [WacoreBinary] in
/-- Where the memory is what a load gives, the copies agree. -/
theorem agree_of_loaded (h : t.memory = t.session.device.getD s.memory) : t.Agree := by
  intro d hd
  rw [hd, Option.getD_some] at h
  rw [h]
  exact ⟨⟨rfl, rfl⟩, rfl, rfl⟩

omit [WacoreBinary] in
theorem loadOrCreateDevice_agree (now : Int) : (s.loadOrCreateDevice w now).Agree := by
  refine agree_of_loaded (s := s) ?_
  rw [loadOrCreateDevice_device]
  rfl

omit [WacoreBinary] in
theorem DeviceCopies.Agree.keysAgree (h : s.Agree) : s.KeysAgree := fun d hd => (h d hd).1

omit [WacoreBinary] in
/-- Copies with one account. -/
theorem DeviceCopies.Agree.maySend (h : s.Agree) : s.MaySend := by
  intro hauthorized σ wacore chat msg c hpn
  simp only [PairSession.isAuthorized] at hauthorized
  cases hd : s.session.device with
  | none =>
      rw [hd] at hauthorized
      cases hauthorized
  | some d =>
      rw [hd, Option.any_some, Option.isSome_iff_ne_none, (h d hd).2.1, ← hpn] at hauthorized
      exact sendMessage_notLoggedOut wacore chat msg hauthorized

/-- A pair-success that returns `Ok` stores the updated device. -/
theorem pairSuccess_stores {device : PairingDevice ρ} {n : Node} {now : Int}
    {before after : PairSession ρ}
    (h : pairSuccess w (.allOk now) device n before = (.ok (), after)) :
    after.device = some (device.updated w n) := by
  have hsigns : w.Signs device n := by
    by_contra hnot
    obtain ⟨e, he⟩ := pairSuccess_of_not_signs (o := .allOk now) (s := before) hnot
    cases he.symm.trans h
  have hsaved := (pairSuccess_of_saved (o := .allOk now) (s := before) hsigns rfl rfl).1
  rw [h] at hsaved
  exact hsaved

/-- Pairing changes no key. -/
theorem updated_sameKeys (w : PairWacore) (n : Node) (device : PairingDevice ρ) :
    (device.updated w n).SameKeys device := ⟨rfl, rfl⟩

/-- After every operation but a pair-success the copies agree. -/
theorem agree_of_step (hop : ¬ op.IsPairSuccess) (h : CopyStep w clears s op t) : t.Agree := by
  cases h with
  | loadOrCreateDevice | create | clearDevice => exact loadOrCreateDevice_agree _
  | runPostConnectInit => exact agree_of_loaded rfl
  | qrPairing _ _ | pairSuccess _ => exact absurd trivial hop
  | pairCode =>
      intro d hd
      cases hd
      exact ⟨⟨rfl, rfl⟩, rfl, rfl⟩

/-- A pairing by QR code keeps the agreement of the keys, and any other operation makes
it. -/
theorem keysAgree_of_step (h : CopyStep w clears s op t) (hkeys : op.IsQrPairing → s.KeysAgree) :
    t.KeysAgree := by
  by_cases hop : op.IsPairSuccess
  · cases h with
    | @qrPairing n _ device _ hdevice hpaired =>
        intro d hd
        cases (pairSuccess_stores hpaired).symm.trans hd
        exact (hkeys trivial device hdevice : (device.updated w n).SameKeys s.memory)
    | @pairSuccess n _ _ hpaired =>
        intro d hd
        cases (pairSuccess_stores hpaired).symm.trans hd
        exact updated_sameKeys w n s.memory
    | _ => exact hop.elim
  · exact (agree_of_step hop h).keysAgree

theorem leavesDevice_of_step (h : CopyStep w clears s op t)
    (hop : op.LeavesDevice s.session.device) : ∃ d, t.session.device = some d := by
  cases h with
  | loadOrCreateDevice =>
      rw [loadOrCreateDevice_device]
      exact Option.ne_none_iff_exists'.mp hop
  | runPostConnectInit => exact Option.ne_none_iff_exists'.mp hop
  | qrPairing _ hpaired | pairSuccess hpaired => exact ⟨_, pairSuccess_stores hpaired⟩
  | pairCode => exact ⟨_, rfl⟩
  | @create new _ =>
      rw [loadOrCreateDevice_device]
      show ∃ d, s.session.device.or (some new) = some d
      cases s.session.device with
      | none => exact ⟨new, rfl⟩
      | some d => exact ⟨d, rfl⟩
  | clearDevice => exact hop.elim

/-- A pair-success stores the paired device, and leaves the one in memory. -/
theorem stores_of_pairSuccess (hop : op.IsPairSuccess) (h : CopyStep w clears s op t) :
    ∃ device n, op.Pairs s device n ∧ t.session.device = some (device.updated w n) ∧
      t.memory = s.memory := by
  cases h with
  | qrPairing hdevice hpaired =>
      exact ⟨_, _, .qrPairing hdevice, pairSuccess_stores hpaired, rfl⟩
  | pairSuccess hpaired => exact ⟨_, _, .pairSuccess, pairSuccess_stores hpaired, rfl⟩
  | _ => exact hop.elim

/-- A load leaves what is stored, and puts it in memory if there is something. -/
theorem loads_of_step (hop : op.Loads) (h : CopyStep w clears s op t) :
    t.session.device = s.session.device ∧ t.memory = s.session.device.getD s.memory := by
  cases h with
  | loadOrCreateDevice => exact ⟨loadOrCreateDevice_device _, rfl⟩
  | runPostConnectInit => exact ⟨rfl, rfl⟩
  | _ => exact hop.elim

/-- In every run of operations that return `Ok`: the keys agree from the first operation
on that is no pairing by QR code; after every operation but a pair-success the copies
agree and an authorized client may send; a pair-success stores the paired device and leaves
the one in memory; a load leaves the stored device and puts it in memory, if there is one;
and the operations that leave a device do. -/
theorem device_copies_agree (w : PairWacore) (clears : Bool) (ops : List (CopyOp ρ))
    (s : DeviceCopies ρ) (hrun : (deviceCopies w clears).Run ops s) :
    ((∃ op ∈ ops, ¬ op.IsQrPairing) → s.KeysAgree) ∧
    ∀ op t, CopyStep w clears s op t →
      (op.LeavesDevice s.session.device → ∃ d, t.session.device = some d) ∧
      (¬ op.IsPairSuccess → t.Agree ∧ t.MaySend) ∧
      (op.IsPairSuccess → ∃ device n, op.Pairs s device n ∧
        t.session.device = some (device.updated w n) ∧ t.memory = s.memory) ∧
      (op.Loads →
        t.session.device = s.session.device ∧ t.memory = s.session.device.getD s.memory) := by
  constructor
  · refine hrun.history_invariant (I := fun ops s => (∃ op ∈ ops, ¬ op.IsQrPairing) → s.KeysAgree)
      ?_ ?_
    · rintro s - ⟨op, hop, -⟩
      cases hop
    · rintro ops s op t - ih hstep ⟨op', hop', hnot⟩
      refine keysAgree_of_step hstep fun hqr => ih ?_
      rcases List.mem_append.mp hop' with hbefore | hlast
      · exact ⟨op', hbefore, hnot⟩
      · cases List.mem_singleton.mp hlast
        exact absurd hqr hnot
  · intro op t hstep
    refine ⟨leavesDevice_of_step hstep, fun hop => ?_,
      fun hop => stores_of_pairSuccess hop hstep, fun hop => loads_of_step hop hstep⟩
    have hagree := agree_of_step hop hstep
    exact ⟨hagree, hagree.maySend⟩

end Copies

/-! ## After a pair-success -/

/-- A pair-success with a device identity and a JID. -/
def pairSuccessNode : Node :=
  .mk "iq" [("type", .string "set"), ("id", .string "1")]
    (some (.nodes [.mk "pair-success" []
      (some (.nodes [.mk "device-identity" [] (some (.bytes [1])),
        .mk "device" [("jid", .string "me@s.whatsapp.net")] none]))]))

/-- A client that has loaded an unpaired device. -/
def loadedCopies : DeviceCopies Unit where
  session := ⟨some unpairedDevice, fun _ => none, []⟩
  memory := unpairedDevice

omit [WacoreBinary] in
/-- The client is paired by QR code, and its keys agree. -/
theorem device_copies_agree_paired :
    letI := plainWacore
    ∃ (ops : List (CopyOp Unit)) (s : DeviceCopies Unit),
      (deviceCopies acceptingWacore true).Run ops s ∧
      s.session.isAuthorized = true ∧ s.KeysAgree := by
  let _ := plainWacore
  have h₀ : (deviceCopies acceptingWacore true).Run [] loadedCopies := System.Run.start trivial
  have h₁ := h₀.tail (show CopyStep _ _ _ (.loadOrCreateDevice 0) _ from .loadOrCreateDevice)
  have h₂ := h₁.tail (show CopyStep _ _ _ (.qrPairing pairSuccessNode 0) _ from .qrPairing rfl rfl)
  exact ⟨_, _, h₂, rfl, (device_copies_agree _ _ _ _ h₂).1 ⟨_, List.mem_cons_self, id⟩⟩

omit [WacoreBinary] in
/-- A paired client is authorized and may not send. -/
theorem authorized_not_logged_in :
    letI := plainWacore
    ¬ ∀ (ops : List (CopyOp Unit)) (s : DeviceCopies Unit),
      (deviceCopies acceptingWacore true).Run ops s → ops ≠ [] → s.OneValue := by
  let _ := plainWacore
  intro hall
  have h₀ : (deviceCopies acceptingWacore true).Run [] loadedCopies := System.Run.start trivial
  have h₁ := h₀.tail (show CopyStep _ _ _ (.qrPairing pairSuccessNode 0) _ from .qrPairing rfl rfl)
  have hmay := (hall _ _ h₁ (List.cons_ne_nil _ _)).2.2
  exact hmay rfl shiftWacore (.user userJid) ⟨some "hello", none⟩ { loggedIn with pn := none } rfl
    rfl

end Waepic.Client
