import Waepic.Client.DeviceCopies

/-!
# Who is logged in

`is_authorized`, `check_login_status` and `get_me` look for the account of the device that
the session stores, and agree (`isAuthorized_eq`, `getMe_eq`).

Of all that the operations on the two copies of the device do, they are told the accounts
only, and those are an automaton of their own: an account is written by a pair-success, read
into memory by a load, written back by the second stage of a pairing by code, and removed by
`clear_device` (`accounts_of_run`).

So a client that was paired and has loaded its device is logged in until the next
pair-success or `clear_device`; after `clear_device` nobody is, until a pair-success, or
until a second stage that stores the account of the device in memory again; and nobody but
who was paired ever is (`login_status_of_run`).
-/

namespace Waepic.Client

open Binary Transition

/-! ## What the client reports -/

inductive LoginStatus where
  | authorized (jid : Jid) (pushName : String)
  | notAuthorized
deriving DecidableEq, Repr

section Reports

variable {ρ : Type}

/-- `is_authorized`, for what `session.load` returns. -/
def isAuthorized : Except String (Option (PairingDevice ρ)) → Except ClientError Bool
  | .error e => .error (.internal ("failed to load device: " ++ e))
  | .ok (some d) => .ok d.pn.isSome
  | .ok none => .ok false

/-- `check_login_status`. -/
def checkLoginStatus : Except String (Option (PairingDevice ρ)) → Except ClientError LoginStatus
  | .error e => .error (.internal ("failed to load device: " ++ e))
  | .ok (some d) =>
      match d.pn with
      | some jid => .ok (.authorized jid d.pushName)
      | none => .ok .notAuthorized
  | .ok none => .ok .notAuthorized

/-- A chat, with the push name that is set if it is a user. -/
structure Me where
  chat : Chat
  pushName : Option String

def Me.of (chat : Jid → Chat) (jid : Jid) (pushName : String) : Me :=
  match chat jid with
  | .user jid => ⟨.user jid, some pushName⟩
  | chat => ⟨chat, none⟩

/-- `get_me`.  `chat` maps a JID by its server. -/
def getMe (chat : Jid → Chat) : Except String (Option (PairingDevice ρ)) → Except ClientError Me
  | .error e => .error (.internal ("failed to load device: " ++ e))
  | .ok (some d) =>
      match d.pn with
      | some jid => .ok (.of chat jid d.pushName)
      | none => .error .notLoggedIn
  | .ok none => .error .notLoggedIn

variable (loaded : Except String (Option (PairingDevice ρ)))

theorem isAuthorized_eq :
    isAuthorized loaded =
      (checkLoginStatus loaded).map fun status => decide (status ≠ .notAuthorized) := by
  rcases loaded with e | (_ | d)
  · rfl
  · rfl
  · simp only [isAuthorized, checkLoginStatus]
    cases d.pn <;> rfl

theorem getMe_eq (chat : Jid → Chat) :
    getMe chat loaded = (checkLoginStatus loaded).bind fun
      | .authorized jid pushName => .ok (.of chat jid pushName)
      | .notAuthorized => .error .notLoggedIn := by
  rcases loaded with e | (_ | d)
  · rfl
  · rfl
  · simp only [getMe, checkLoginStatus]
    cases d.pn <;> rfl

/-- The account of a device that may be stored. -/
def accountOf (device : Option (PairingDevice ρ)) : Option Jid := device.bind (·.pn)

variable {device : Option (PairingDevice ρ)}

theorem checkLoginStatus_authorized_iff {jid : Jid} :
    (∃ pushName, checkLoginStatus (.ok device) = .ok (.authorized jid pushName)) ↔
      accountOf device = some jid := by
  cases device with
  | none => exact iff_of_false nofun nofun
  | some d =>
      simp only [checkLoginStatus, accountOf, Option.bind_some]
      cases d.pn <;> simp

theorem checkLoginStatus_notAuthorized_iff :
    checkLoginStatus (.ok device) = .ok .notAuthorized ↔ accountOf device = none := by
  cases device with
  | none => exact iff_of_true rfl rfl
  | some d =>
      simp only [checkLoginStatus, accountOf, Option.bind_some]
      cases d.pn <;> simp

end Reports

/-! ## Accounts -/

structure Accounts where
  /-- The account of the stored device, if one is stored. -/
  stored : Option (Option Jid)
  memory : Option Jid

inductive AccountOp where
  /-- The stored device is loaded into memory. -/
  | load
  /-- A pair-success stores a paired device. -/
  | pair (jid : Jid)
  /-- The device in memory is stored. -/
  | save
  /-- A new device is stored if there is none, and loaded. -/
  | create
  /-- The stored device is removed. -/
  | clear
deriving DecidableEq, Repr

namespace Accounts

def load (a : Accounts) : Accounts := { a with memory := a.stored.getD a.memory }

def after (a : Accounts) : AccountOp → Accounts
  | .load => a.load
  | .pair jid => { a with stored := some (some jid) }
  | .save => { a with stored := some a.memory }
  | .create => { a with stored := a.stored.or (some none) }.load
  | .clear => { a with stored := none }

variable {a : Accounts} {ops : List AccountOp} {jid : Jid}

/-- A load puts the stored account in memory. -/
theorem load_of_stored (h : a.stored = some (some jid)) :
    a.load.stored = some (some jid) ∧ a.load.memory = some jid :=
  ⟨h, by rw [load, h]; rfl⟩

/-- Only a pair-success brings an account. -/
theorem known_of_foldl (ha : ∀ jid, a.stored = some (some jid) ∨ a.memory = some jid →
      a.stored = some (some jid)) :
    ∀ jid, (ops.foldl after a).stored = some (some jid) ∨ (ops.foldl after a).memory = some jid →
      a.stored = some (some jid) ∨ .pair jid ∈ ops := by
  refine List.foldlRecOn ops after (motive := fun b => ∀ jid,
    b.stored = some (some jid) ∨ b.memory = some jid → a.stored = some (some jid) ∨ .pair jid ∈ ops)
    (fun jid h => .inl (ha jid h)) ?_
  intro b ih op hop jid h
  have hload {c : Accounts} (hc : c.load.stored = some (some jid) ∨ c.load.memory = some jid) :
      c.stored = some (some jid) ∨ c.memory = some jid := by
    rcases hc with hc | hc
    · exact .inl hc
    · cases hstored : c.stored with
      | none =>
          rw [load, hstored] at hc
          exact .inr hc
      | some account =>
          rw [load, hstored] at hc
          exact .inl (congrArg some hc)
  cases op with
  | load => exact ih jid (hload h)
  | pair jid' =>
      rcases h with h | h
      · cases h
        exact .inr hop
      · exact ih jid (.inr h)
  | save =>
      rcases h with h | h
      · exact ih jid (.inr (Option.some.inj h))
      · exact ih jid (.inr h)
  | create =>
      rcases hload h with h | h
      · cases hstored : b.stored with
        | none =>
            rw [hstored] at h
            cases h
        | some account =>
            rw [hstored] at h
            exact ih jid (.inl (hstored.trans h))
      · exact ih jid (.inr h)
  | clear =>
      rcases h with h | h
      · cases h
      · exact ih jid (.inr h)

/-- Without a pair-success and a second stage nobody gets an account. -/
theorem none_of_foldl (ha : a.stored.join = none) (hpair : ∀ jid, .pair jid ∉ ops)
    (hsave : .save ∉ ops) : (ops.foldl after a).stored.join = none := by
  refine List.foldlRecOn ops after (motive := fun b => b.stored.join = none) ha ?_
  intro b hb op hop
  cases op with
  | load => exact hb
  | pair jid => exact absurd hop (hpair jid)
  | save => exact absurd hop hsave
  | create =>
      show (b.stored.or (some none)).join = none
      cases hstored : b.stored with
      | none => rfl
      | some account =>
          rw [hstored] at hb
          exact hb
  | clear => rfl

/-- A stored account stays until it is overwritten or removed. -/
theorem stored_of_foldl (ha : a.stored = some (some jid)) (hpair : ∀ jid, .pair jid ∉ ops)
    (hsave : .save ∉ ops) (hclear : .clear ∉ ops) :
    (ops.foldl after a).stored = some (some jid) := by
  refine List.foldlRecOn ops after (motive := fun b => b.stored = some (some jid)) ha ?_
  intro b hb op hop
  cases op with
  | load => exact hb
  | pair jid => exact absurd hop (hpair jid)
  | save => exact absurd hop hsave
  | create =>
      show b.stored.or (some none) = _
      rw [hb]
      rfl
  | clear => exact absurd hop hclear

/-- If it is in memory too, a second stage does not overwrite it. -/
theorem both_of_foldl (ha : a.stored = some (some jid) ∧ a.memory = some jid)
    (hpair : ∀ jid, .pair jid ∉ ops) (hclear : .clear ∉ ops) :
    (ops.foldl after a).stored = some (some jid) ∧ (ops.foldl after a).memory = some jid := by
  refine List.foldlRecOn ops after
    (motive := fun b => b.stored = some (some jid) ∧ b.memory = some jid) ha ?_
  rintro b ⟨hstored, hmemory⟩ op hop
  cases op with
  | load => exact load_of_stored hstored
  | pair jid => exact absurd hop (hpair jid)
  | save => exact ⟨congrArg some hmemory, hmemory⟩
  | create =>
      refine load_of_stored (a := { b with stored := b.stored.or (some none) }) ?_
      show b.stored.or (some none) = _
      rw [hstored]
      rfl
  | clear => exact absurd hop hclear

end Accounts

/-! ## The accounts of the copies -/

def DeviceCopies.accounts {ρ : Type} (s : DeviceCopies ρ) : Accounts where
  stored := s.session.device.map (·.pn)
  memory := s.memory.pn

/-- `Device::new()` has no account. -/
def CopyOp.MakesUnpaired {ρ : Type} : CopyOp ρ → Prop
  | create new _ => new.pn = none
  | _ => True

variable [WacoreBinary] {ρ : Type}

/-- What an operation does to the accounts. -/
def CopyOp.account (w : PairWacore) (clears : Bool) : CopyOp ρ → AccountOp
  | loadOrCreateDevice _ | runPostConnectInit => .load
  | qrPairing n _ | pairSuccess n _ => .pair ((w.deviceJid n "jid").getD w.defaultJid)
  | pairCode _ => .save
  | create _ _ => .create
  | clearDevice _ => if clears then .clear else .load

/-- The runs of a new client on a session with this account. -/
def clients (w : PairWacore) (clears : Bool) (account : Option Jid) :
    System (DeviceCopies ρ) (CopyOp ρ) where
  init s := accountOf s.session.device = account ∧ s.memory.pn = none
  step s op t := CopyStep w clears s op t ∧ op.MakesUnpaired

section Runs

variable {w : PairWacore} {clears : Bool} {account : Option Jid} {s t : DeviceCopies ρ}
  {op : CopyOp ρ} {ops : List (CopyOp ρ)}

omit [WacoreBinary] in
theorem loadOrCreateDevice_accounts (now : Int) :
    (s.loadOrCreateDevice w now).accounts = s.accounts.load := by
  rw [DeviceCopies.accounts, loadOrCreateDevice_device]
  show Accounts.mk _ (s.session.device.getD s.memory).pn = _
  cases hdevice : s.session.device <;> simp [DeviceCopies.accounts, Accounts.load, hdevice]

theorem accounts_of_step (h : CopyStep w clears s op t) (hop : op.MakesUnpaired) :
    t.accounts = s.accounts.after (op.account w clears) := by
  cases h with
  | loadOrCreateDevice => exact loadOrCreateDevice_accounts _
  | runPostConnectInit =>
      show Accounts.mk _ (s.session.device.getD s.memory).pn = s.accounts.load
      cases hdevice : s.session.device <;> simp [DeviceCopies.accounts, Accounts.load,
        DeviceCopies.runPostConnectInit, hdevice]
  | qrPairing _ hpaired | pairSuccess hpaired =>
      simp only [DeviceCopies.accounts, pairSuccess_stores hpaired]
      rfl
  | pairCode => rfl
  | @create new _ =>
      rw [loadOrCreateDevice_accounts]
      show Accounts.load ⟨(s.session.device.or (some new)).map (·.pn), s.memory.pn⟩ =
        Accounts.load ⟨(s.session.device.map (·.pn)).or (some none), s.memory.pn⟩
      have hnew : new.pn = none := hop
      cases s.session.device <;> simp [hnew]
  | clearDevice =>
      rw [loadOrCreateDevice_accounts]
      cases clears <;> rfl

/-- The accounts after a run are those of its operations. -/
theorem accounts_of_run (hrun : (clients w clears account).Run ops s) :
    ∃ s₀ : DeviceCopies ρ, (clients w clears account).init s₀ ∧
      s.accounts = (ops.map (CopyOp.account w clears)).foldl Accounts.after s₀.accounts := by
  refine hrun.history_invariant (I := fun ops s => ∃ s₀ : DeviceCopies ρ,
    (clients w clears account).init s₀ ∧
      s.accounts = (ops.map (CopyOp.account w clears)).foldl Accounts.after s₀.accounts) ?_ ?_
  · intro s hs
    exact ⟨s, hs, rfl⟩
  · rintro ops s op t - ⟨s₀, hinit, haccounts⟩ ⟨hstep, hop⟩
    refine ⟨s₀, hinit, ?_⟩
    rw [List.map_append, List.foldl_append, ← haccounts]
    exact accounts_of_step hstep hop

omit [WacoreBinary] in
theorem accounts_stored_join : s.accounts.stored.join = accountOf s.session.device := by
  rw [DeviceCopies.accounts, accountOf]
  cases s.session.device <;> rfl

/-- In every run of a new client: who is logged in was paired, or had the session before;
after a `clear_device` nobody is, without a pair-success or a second stage of a pairing by
code; a pair-success logs its JID in, until the next second stage, pair-success or
`clear_device`; and once the client has loaded its device, a second stage leaves it logged
in. -/
theorem login_status_of_run (hrun : (clients w clears account).Run ops s) :
    (∀ jid pushName, checkLoginStatus (.ok s.session.device) = .ok (.authorized jid pushName) →
      account = some jid ∨ .pair jid ∈ ops.map (CopyOp.account w clears)) ∧
    (∀ before after, ops.map (CopyOp.account w clears) = before ++ .clear :: after →
      (∀ jid, .pair jid ∉ after) → .save ∉ after →
      checkLoginStatus (.ok s.session.device) = .ok .notAuthorized) ∧
    (∀ jid before after, ops.map (CopyOp.account w clears) = before ++ .pair jid :: after →
      (∀ jid, .pair jid ∉ after) → .save ∉ after → .clear ∉ after →
      ∃ pushName, checkLoginStatus (.ok s.session.device) = .ok (.authorized jid pushName)) ∧
    (∀ jid before unloaded after,
      ops.map (CopyOp.account w clears) = before ++ .pair jid :: unloaded ++ .load :: after →
      (∀ jid, .pair jid ∉ unloaded ++ after) → .save ∉ unloaded → .clear ∉ unloaded ++ after →
      ∃ pushName, checkLoginStatus (.ok s.session.device) = .ok (.authorized jid pushName)) := by
  obtain ⟨s₀, ⟨haccount, hmemory⟩, haccounts⟩ := accounts_of_run hrun
  refine ⟨?_, ?_, ?_, ?_⟩
  · intro jid pushName hstatus
    have hjid := checkLoginStatus_authorized_iff.mp ⟨pushName, hstatus⟩
    rw [← accounts_stored_join, Option.join_eq_some_iff, haccounts] at hjid
    have hknown : ∀ jid, s₀.accounts.stored = some (some jid) ∨ s₀.accounts.memory = some jid →
        s₀.accounts.stored = some (some jid) := by
      rintro jid (h | h)
      · exact h
      · cases hmemory.symm.trans h
    rcases Accounts.known_of_foldl hknown jid (.inl hjid) with hstored | hpaired
    · rw [← haccount, ← accounts_stored_join, hstored]
      exact .inl rfl
    · exact .inr hpaired
  · intro before after hsplit hpair hsave
    rw [checkLoginStatus_notAuthorized_iff, ← accounts_stored_join, haccounts, hsplit,
      List.foldl_append, List.foldl_cons]
    exact Accounts.none_of_foldl rfl hpair hsave
  · intro jid before after hsplit hpair hsave hclear
    rw [checkLoginStatus_authorized_iff, ← accounts_stored_join, haccounts, hsplit,
      List.foldl_append, List.foldl_cons, Accounts.stored_of_foldl rfl hpair hsave hclear]
    rfl
  · intro jid before unloaded after hsplit hpair hsave hclear
    simp only [List.mem_append, not_or] at hpair hclear
    have hstored := Accounts.stored_of_foldl (a := (before.foldl Accounts.after s₀.accounts).after
      (.pair jid)) rfl (fun j => (hpair j).1) hsave hclear.1
    rw [checkLoginStatus_authorized_iff, ← accounts_stored_join, haccounts, hsplit,
      List.foldl_append, List.foldl_append, List.foldl_cons, List.foldl_cons]
    have hboth := Accounts.both_of_foldl (Accounts.load_of_stored hstored) (fun j => (hpair j).2)
      hclear.2
    exact congrArg Option.join hboth.1

end Runs

omit [WacoreBinary] in
/-- A client that was paired and has loaded its device stays logged in. -/
theorem login_status_of_run_paired :
    letI := plainWacore
    ∃ s : DeviceCopies Unit, (clients acceptingWacore true none).Run
        [.qrPairing pairSuccessNode 0, .loadOrCreateDevice 0, .pairCode []] s ∧
      ∃ pushName, checkLoginStatus (.ok s.session.device) =
        .ok (.authorized ⟨"me", "s.whatsapp.net", 0, 0, 0⟩ pushName) := by
  let _ := plainWacore
  have h0 : (clients acceptingWacore true none).Run [] loadedCopies := .start ⟨rfl, rfl⟩
  have h1 := h0.tail ⟨(show CopyStep _ _ _ (.qrPairing pairSuccessNode 0) _ from
    .qrPairing rfl rfl), trivial⟩
  have h2 := h1.tail ⟨(show CopyStep _ _ _ (.loadOrCreateDevice 0) _ from
    .loadOrCreateDevice), trivial⟩
  have h3 := h2.tail ⟨(show CopyStep _ _ _ (.pairCode []) _ from .pairCode), trivial⟩
  refine ⟨_, h3, (login_status_of_run h3).2.2.2 ⟨"me", "s.whatsapp.net", 0, 0, 0⟩ [] [] [.save] ?_
    (by simp) (by simp) (by simp)⟩
  rfl

end Waepic.Client
