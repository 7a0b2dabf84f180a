import Waepic.Client.Pairing
import Waepic.Library.Calls
import Waepic.Library.Transition

/-!
# Pair codes

`request_pair_code` stores what the second stage of a pairing by code needs, as
`WaitingForPhoneConfirmation`.  When the phone confirms the code,
`handle_pair_code_notification` takes that state, which leaves `Idle`, decrypts
the key of the phone, prepares a key bundle, rotates the secret of the device,
saves it, sends `companion_finish` and stores `Completed`.  Each of these steps
may fail, and between them other notifications and requests may run.

A notification that takes any state but `Idle` has lost it, whatever follows: it
returns without sending, or it stores `Completed` over what a newer request
stored meanwhile.
-/

namespace Waepic.Client

open Binary Connection Transition Calls

/-! ## The state -/

/-- A call of `request_pair_code`. -/
abbrev RequestId := Nat

/-- The fields of `WaitingForPhoneConfirmation`, and the call that stored it. -/
structure PhoneConfirmation where
  request : RequestId
  pairingRef : Bytes
  phoneJid : String
  pairCode : String
  ephemeralKeypair : KeyPair
deriving DecidableEq

inductive PairCodeState where
  | idle
  | waitingForPhoneConfirmation (p : PhoneConfirmation)
  | completed
deriving DecidableEq

/-- What the notifications and the requests share. -/
structure PairCodeData where
  state : PairCodeState
  /-- The `adv_secret_key` of the device in memory. -/
  advSecretKey : Bytes
  /-- That of the device in the session. -/
  savedAdvSecretKey : Option Bytes

instance : Rebase PairCodeState := .ofDecidableEq _

instance : Rebase Bytes := .ofDecidableEq _

instance : Rebase (Option Bytes) := .ofDecidableEq _

/-- Field by field. -/
instance : Rebase PairCodeData where
  rebase before after found :=
    ⟨rebase before.state after.state found.state,
      rebase before.advSecretKey after.advSecretKey found.advSecretKey,
      rebase before.savedAdvSecretKey after.savedAdvSecretKey found.savedAdvSecretKey⟩
  rebase_self _ _ := by simp
  rebase_same _ _ := by simp [Rebase.rebase_same]

/-! ## Requests -/

/-- What `request_pair_code` makes of a phone number. -/
def sanitizePhone (phoneNumber : String) : Except String String :=
  let sanitized := String.ofList (phoneNumber.toList.filter Char.isDigit)
  if sanitized.toList = [] then .error "phone number must contain at least one digit"
  else if sanitized.length < 7 then
    .error "phone number is too short (must be at least 7 digits)"
  else if sanitized.toList.head? = some '0' then
    .error "phone number must not start with 0 (use international format)"
  else .ok sanitized

/-- Where a request is. -/
inductive RequestStage where
  /-- It sent `companion_hello`. -/
  | asking (phoneJid pairCode : String) (ephemeralKeypair : KeyPair)
  | ended

/-! ## Notifications -/

/-- What wacore does for the second stage. -/
structure PairCodeUtils where
  decryptPrimaryEphemeralPub : Bytes → String → Except String Bytes
  /-- The wrapped bundle and the new secret. -/
  prepareKeyBundle : KeyPair → Bytes → Bytes → KeyPair → Except String (Bytes × Bytes)
  buildCompanionFinishIq : String → Bytes → Nat → Bytes → String → Node

/-- What a notification brings for the second stage. -/
structure PairCodeFields where
  primaryWrappedEphemeral : Bytes
  primaryIdentityPub : Bytes

def pairCodeFields (n : Node) : Option PairCodeFields :=
  (n.child "link_code_companion_reg").bind fun reg =>
    (((reg.child "link_code_pairing_wrapped_primary_ephemeral_pub").bind bytesOf).filter
      (·.length = 80)).bind fun primaryWrappedEphemeral =>
        (((reg.child "primary_identity_pub").bind bytesOf).filter (·.length = 32)).map fun
          primaryIdentityPub => ⟨primaryWrappedEphemeral, primaryIdentityPub⟩

/-- The key bundle for a phone that confirms, or the first error. -/
def PairCodeUtils.keyBundle (utils : PairCodeUtils) (p : PhoneConfirmation) (f : PairCodeFields)
    (identityKey : KeyPair) : Except String (Bytes × Bytes) := do
  let primaryEphemeralPub ←
    utils.decryptPrimaryEphemeralPub f.primaryWrappedEphemeral p.pairCode
  utils.prepareKeyBundle p.ephemeralKeypair primaryEphemeralPub f.primaryIdentityPub identityKey

/-- Where a call of `handle_pair_code_notification` is. -/
inductive NotificationStage where
  /-- It waits for the lock of the state. -/
  | locking (f : PairCodeFields)
  /-- It took the state. -/
  | taken (p : PhoneConfirmation) (f : PairCodeFields)
  | prepared (p : PhoneConfirmation) (wrappedBundle newAdvSecret : Bytes) (identityPub : Nat)
  /-- It has a clone of the device with this secret to save. -/
  | rotated (p : PhoneConfirmation) (wrappedBundle deviceSecret : Bytes) (identityPub : Nat)
  | saved (p : PhoneConfirmation) (wrappedBundle : Bytes) (identityPub : Nat)
  /-- It sent `companion_finish`. -/
  | finished (p : PhoneConfirmation)
  /-- It returned whether it sent it. -/
  | returned (handled : Bool)

/-- A call of `handle_pair_code_notification`. -/
abbrev NotificationCall := Calls.Call PairCodeData NotificationStage

/-- The client, as far as a pairing by code reaches. -/
structure PairCodeClient where
  shared : Shared PairCodeData NotificationStage
  identityKey : KeyPair
  requests : RequestId → Option RequestStage
  /-- The `companion_finish` nodes sent, and the states they were sent for. -/
  companionFinishes : List (PhoneConfirmation × Node)

inductive PairCodeAction where
  | request (r : RequestId) (phoneNumber code : String) (ephemeralKeypair : KeyPair)
  | helloFailed (r : RequestId)
  | helloAnswered (r : RequestId) (pairingRef : Bytes)
  | notify (c : Nat) (n : Node)
  | take (c : Nat)
  | prepare (c : Nat)
  | rotate (c : Nat)
  | save (c : Nat) (ok : Bool)
  | sendFinish (c : Nat) (reqId : String)
  | sendFailed (c : Nat)
  | complete (c : Nat)

namespace PairCodeClient

/-- A client before any pairing by code. -/
def new (identityKey : KeyPair) (advSecretKey : Bytes) (saved : Option Bytes) :
    PairCodeClient where
  shared := ⟨⟨.idle, advSecretKey, saved⟩, fun _ => none⟩
  identityKey := identityKey
  requests _ := none
  companionFinishes := []

/-- The call `c` goes on to a stage. -/
def move (s : PairCodeClient) (c : Nat) (stage : NotificationStage) (d : PairCodeData) :
    PairCodeClient :=
  { s with shared := s.shared.move c stage d }

def setRequest (s : PairCodeClient) (r : RequestId) (stage : RequestStage) : PairCodeClient :=
  { s with requests := Function.update s.requests r (some stage) }

/-- The request `r` stores the state. -/
def store (s : PairCodeClient) (p : PhoneConfirmation) : PairCodeClient :=
  { s.setRequest p.request .ended with
    shared := s.shared.intervene
      { s.shared.data with state := .waitingForPhoneConfirmation p } }

end PairCodeClient

inductive PairCodeStep (utils : PairCodeUtils) :
    PairCodeClient → PairCodeAction → PairCodeClient → Prop where
  | requestInvalid {s : PairCodeClient} {r : RequestId} {phoneNumber code : String}
      {keypair : KeyPair} {e : String} :
      s.requests r = none → sanitizePhone phoneNumber = .error e →
      PairCodeStep utils s (.request r phoneNumber code keypair) (s.setRequest r .ended)
  | request {s : PairCodeClient} {r : RequestId} {phoneNumber code phoneJid : String}
      {keypair : KeyPair} :
      s.requests r = none → sanitizePhone phoneNumber = .ok phoneJid →
      PairCodeStep utils s (.request r phoneNumber code keypair)
        (s.setRequest r (.asking phoneJid code keypair))
  | helloFailed {s : PairCodeClient} {r : RequestId} {phoneJid code : String}
      {keypair : KeyPair} :
      s.requests r = some (.asking phoneJid code keypair) →
      PairCodeStep utils s (.helloFailed r) (s.setRequest r .ended)
  | helloAnswered {s : PairCodeClient} {r : RequestId} {phoneJid code : String}
      {keypair : KeyPair} (pairingRef : Bytes) :
      s.requests r = some (.asking phoneJid code keypair) →
      PairCodeStep utils s (.helloAnswered r pairingRef)
        (s.store ⟨r, pairingRef, phoneJid, code, keypair⟩)
  | notifyInvalid {s : PairCodeClient} {c : Nat} {n : Node} :
      s.shared.calls c = none → pairCodeFields n = none →
      PairCodeStep utils s (.notify c n)
        { s with shared := s.shared.begin c (.returned false) }
  | notify {s : PairCodeClient} {c : Nat} {n : Node} {f : PairCodeFields} :
      s.shared.calls c = none → pairCodeFields n = some f →
      PairCodeStep utils s (.notify c n) { s with shared := s.shared.begin c (.locking f) }
  /-- `mem::take` of a state that waits. -/
  | take {s : PairCodeClient} {c : Nat} {call : NotificationCall}
      {f : PairCodeFields} {p : PhoneConfirmation} :
      s.shared.calls c = some call → call.stage = .locking f →
      s.shared.data.state = .waitingForPhoneConfirmation p →
      PairCodeStep utils s (.take c)
        (s.move c (.taken p f) { s.shared.data with state := .idle })
  /-- `mem::take` of any other. -/
  | takeOther {s : PairCodeClient} {c : Nat} {call : NotificationCall}
      {f : PairCodeFields} :
      s.shared.calls c = some call → call.stage = .locking f →
      (∀ p, s.shared.data.state ≠ .waitingForPhoneConfirmation p) →
      PairCodeStep utils s (.take c)
        (s.move c (.returned false) { s.shared.data with state := .idle })
  | prepareFailed {s : PairCodeClient} {c : Nat} {call : NotificationCall}
      {p : PhoneConfirmation} {f : PairCodeFields} {e : String} :
      s.shared.calls c = some call → call.stage = .taken p f →
      utils.keyBundle p f s.identityKey = .error e →
      PairCodeStep utils s (.prepare c) (s.move c (.returned false) s.shared.data)
  | prepare {s : PairCodeClient} {c : Nat} {call : NotificationCall}
      {p : PhoneConfirmation} {f : PairCodeFields} {wrappedBundle newAdvSecret : Bytes} :
      s.shared.calls c = some call → call.stage = .taken p f →
      utils.keyBundle p f s.identityKey = .ok (wrappedBundle, newAdvSecret) →
      PairCodeStep utils s (.prepare c)
        (s.move c (.prepared p wrappedBundle newAdvSecret s.identityKey.publicKey) s.shared.data)
  | rotate {s : PairCodeClient} {c : Nat} {call : NotificationCall}
      {p : PhoneConfirmation} {wrappedBundle newAdvSecret : Bytes} {identityPub : Nat} :
      s.shared.calls c = some call →
      call.stage = .prepared p wrappedBundle newAdvSecret identityPub →
      PairCodeStep utils s (.rotate c)
        (s.move c (.rotated p wrappedBundle newAdvSecret identityPub)
          { s.shared.data with advSecretKey := newAdvSecret })
  /-- A save that fails is logged. -/
  | save {s : PairCodeClient} {c : Nat} {call : NotificationCall}
      {p : PhoneConfirmation} {wrappedBundle deviceSecret : Bytes} {identityPub : Nat} {ok : Bool} :
      s.shared.calls c = some call →
      call.stage = .rotated p wrappedBundle deviceSecret identityPub →
      PairCodeStep utils s (.save c ok)
        (s.move c (.saved p wrappedBundle identityPub)
          (if ok then { s.shared.data with savedAdvSecretKey := some deviceSecret }
            else s.shared.data))
  | sendFinish {s : PairCodeClient} {c : Nat} {call : NotificationCall}
      {p : PhoneConfirmation} {wrappedBundle : Bytes} {identityPub : Nat} (reqId : String) :
      s.shared.calls c = some call → call.stage = .saved p wrappedBundle identityPub →
      PairCodeStep utils s (.sendFinish c reqId)
        { s.move c (.finished p) s.shared.data with
          companionFinishes := s.companionFinishes ++
            [(p, utils.buildCompanionFinishIq p.phoneJid wrappedBundle identityPub p.pairingRef
              reqId)] }
  | sendFailed {s : PairCodeClient} {c : Nat} {call : NotificationCall}
      {p : PhoneConfirmation} {wrappedBundle : Bytes} {identityPub : Nat} :
      s.shared.calls c = some call → call.stage = .saved p wrappedBundle identityPub →
      PairCodeStep utils s (.sendFailed c) (s.move c (.returned false) s.shared.data)
  | complete {s : PairCodeClient} {c : Nat} {call : NotificationCall}
      {p : PhoneConfirmation} :
      s.shared.calls c = some call → call.stage = .finished p →
      PairCodeStep utils s (.complete c)
        (s.move c (.returned true) { s.shared.data with state := .completed })

/-- The runs of a client that pairs by code. -/
def pairCodes (utils : PairCodeUtils) : System PairCodeClient PairCodeAction where
  init s := ∃ identityKey advSecretKey saved, s = .new identityKey advSecretKey saved
  step := PairCodeStep utils

/-! ## Surviving -/

/-- A step loses no state.  It stops waiting only if `companion_finish` was sent
for what it waited for; a call that returns without sending left the data as it
found them; and a call that completes leaves what a newer request stored. -/
structure Survives (s : PairCodeClient) (a : PairCodeAction) (t : PairCodeClient) : Prop where
  leaves : ∀ p, s.shared.data.state = .waitingForPhoneConfirmation p →
    (∀ q, t.shared.data.state ≠ .waitingForPhoneConfirmation q) →
    ∃ iq, (p, iq) ∈ s.companionFinishes
  unsent : ∀ c call, s.shared.stageOf c ≠ some (.returned false) →
    t.shared.calls c = some call → call.stage = .returned false → t.shared.data = call.found
  newer : ∀ c p q, a = .complete c → s.shared.stageOf c = some (.finished p) →
    s.shared.data.state = .waitingForPhoneConfirmation q → q.request ≠ p.request →
    t.shared.data.state = .waitingForPhoneConfirmation q

/-- No call takes a state but `Idle`. -/
def PairCodeClient.TakesIdle (s : PairCodeClient) : PairCodeAction → Prop
  | .take _ => s.shared.data.state = .idle
  | _ => True

variable {utils : PairCodeUtils} {s t : PairCodeClient} {a : PairCodeAction}

/-- What a step does to the state: nothing, or a request stores it, a call takes
it or a call completes it. -/
theorem state_cases (h : PairCodeStep utils s a t) :
    t.shared.data.state = s.shared.data.state ∨
    (∃ p, t.shared.data.state = .waitingForPhoneConfirmation p) ∨
    (∃ c, a = .take c ∧ t.shared.data.state = .idle) ∨
    ∃ c p, a = .complete c ∧ s.shared.stageOf c = some (.finished p) := by
  cases h with
  | helloAnswered pairingRef _ => exact .inr (.inl ⟨_, rfl⟩)
  | take _ _ _ => exact .inr (.inr (.inl ⟨_, rfl, rfl⟩))
  | takeOther _ _ _ => exact .inr (.inr (.inl ⟨_, rfl, rfl⟩))
  | complete hcall hstage =>
      have hfinished := (Shared.stageOf_of_calls hcall).trans (congrArg some hstage)
      exact .inr (.inr (.inr ⟨_, _, rfl, hfinished⟩))
  | save hcall hstage =>
      rename_i ok
      cases ok <;> exact .inl rfl
  | _ => exact .inl rfl

/-! ## Runs that take `Idle` only -/

/-- A call that is not past its take, or had nothing to take. -/
def NotificationStage.TookNothing (stage : NotificationStage) : Prop :=
  (∃ f, stage = .locking f) ∨ stage = .returned false

/-- No call took anything, and none changed anything. -/
structure PairCodeClient.Quiet (s : PairCodeClient) : Prop where
  clean : s.shared.Clean fun _ => True
  stages : s.shared.Stages NotificationStage.TookNothing

theorem PairCodeClient.Quiet.step (hs : s.Quiet) (hidle : s.TakesIdle a)
    (h : PairCodeStep utils s a t) : t.Quiet := by
  cases h with
  | requestInvalid _ _ | request _ _ | helloFailed _ => exact ⟨hs.clean, hs.stages⟩
  | helloAnswered pairingRef _ => exact ⟨hs.clean.intervene, hs.stages.intervene⟩
  | notifyInvalid _ _ => exact ⟨hs.clean.begin, hs.stages.begin (.inr rfl)⟩
  | notify _ _ => exact ⟨hs.clean.begin, hs.stages.begin (.inl ⟨_, rfl⟩)⟩
  | take _ _ hwaiting => cases hidle.symm.trans hwaiting
  | takeOther hcall _ _ =>
      have hdata : { s.shared.data with state := .idle } = s.shared.data := by
        rw [← show s.shared.data.state = .idle from hidle]
      refine ⟨hs.clean.move hcall fun _ => ?_, hs.stages.move hcall (.inr rfl)⟩
      rw [hdata]
      exact hs.clean _ _ hcall trivial
  | prepareFailed hcall hstage _ | prepare hcall hstage _ | rotate hcall hstage
  | save hcall hstage | sendFinish _ hcall hstage | sendFailed hcall hstage
  | complete hcall hstage =>
      rcases hs.stages.of_calls hcall with ⟨f, h⟩ | h <;> cases hstage.symm.trans h

theorem PairCodeClient.Quiet.survives (hs : s.Quiet) (hidle : s.TakesIdle a)
    (h : PairCodeStep utils s a t) : Survives s a t where
  leaves p hp hleft := by
    rcases state_cases h with hsame | ⟨q, hq⟩ | ⟨c, rfl, -⟩ | ⟨c, q, -, hfinished⟩
    · exact absurd (hsame.trans hp) (hleft p)
    · exact absurd hq (hleft q)
    · cases hp.symm.trans hidle
    · rcases hs.stages c _ hfinished with ⟨f, hf⟩ | hf <;> cases hf
  unsent c call _ hcall _ := ((hs.step hidle h).clean c call hcall trivial).symm
  newer c p q _ hfinished _ _ := by
    rcases hs.stages c _ hfinished with ⟨f, hf⟩ | hf <;> cases hf

theorem PairCodeClient.Quiet.of_run {as : List PairCodeAction}
    (h : ((pairCodes utils).restrict PairCodeClient.TakesIdle).Run as s) : s.Quiet := by
  have hinit : ∀ s, ((pairCodes utils).restrict PairCodeClient.TakesIdle).init s → s.Quiet := by
    rintro _ ⟨identityKey, advSecretKey, saved, rfl⟩
    exact ⟨fun _ _ h => (nomatch h), fun _ _ h => (nomatch h)⟩
  exact System.Run.invariant hinit (fun _ _ _ hs h => hs.step h.2 h.1) h

/-! ## Takes of other states -/

/-- The state that a call took. -/
def NotificationStage.confirmation : NotificationStage → Option PhoneConfirmation
  | taken p _ | prepared p _ _ _ | rotated p _ _ _ | saved p _ _ | finished p => some p
  | locking _ | returned _ => none

/-- What a request stored and is stored no more. -/
def PairCodeClient.Gone (s : PairCodeClient) (p : PhoneConfirmation) : Prop :=
  s.requests p.request = some .ended ∧
    ∀ q, s.shared.data.state = .waitingForPhoneConfirmation q → q.request ≠ p.request

/-- What was taken or sent is gone, and a call that took nothing changed nothing. -/
structure PairCodeClient.Tracked (s : PairCodeClient) : Prop where
  clean : s.shared.Clean fun stage => ∃ f, stage = .locking f
  stored : ∀ p, s.shared.data.state = .waitingForPhoneConfirmation p →
    s.requests p.request = some .ended
  held : s.shared.Stages fun stage => ∀ p, stage.confirmation = some p → s.Gone p
  sent : ∀ x ∈ s.companionFinishes, s.Gone x.1

/-- A request that ended stays so, and stores nothing. -/
theorem requests_ended_step {r : RequestId} (hr : s.requests r = some .ended)
    (h : PairCodeStep utils s a t) : t.requests r = some .ended := by
  have hset : ∀ r' stage, s.requests r' ≠ some .ended →
      (s.setRequest r' stage).requests r = some .ended := by
    intro r' stage hr'
    by_cases heq : r = r'
    · exact absurd (heq ▸ hr) hr'
    · exact (Function.update_of_ne heq ..).trans hr
  cases h with
  | requestInvalid hnone _ => exact hset _ _ (by simp [hnone])
  | request hnone _ => exact hset _ _ (by simp [hnone])
  | helloFailed hasking => exact hset _ _ (by simp [hasking])
  | helloAnswered pairingRef hasking => exact hset _ _ (by simp [hasking])
  | _ => exact hr

theorem PairCodeClient.Gone.step {p : PhoneConfirmation} (hp : s.Gone p)
    (h : PairCodeStep utils s a t) : t.Gone p := by
  refine ⟨requests_ended_step hp.1 h, ?_⟩
  cases h with
  | helloAnswered pairingRef hasking =>
      intro q hq heq
      cases hq
      have hended := hp.1
      rw [← heq] at hended
      cases hasking.symm.trans hended
  | take _ _ _ | takeOther _ _ _ | complete _ _ =>
      intro q hq
      cases hq
  | save hcall hstage =>
      rename_i ok
      cases ok <;> exact hp.2
  | _ => exact hp.2

/-- What a call holds is gone. -/
theorem PairCodeClient.Tracked.gone_of_held (hs : s.Tracked) {c : Nat}
    {call : NotificationCall} {stage : NotificationStage}
    {p : PhoneConfirmation} (hcall : s.shared.calls c = some call) (hstage : call.stage = stage)
    (hp : stage.confirmation = some p) : s.Gone p :=
  hs.held.of_calls hcall p (hstage ▸ hp)

theorem PairCodeClient.Tracked.held_step (hs : s.Tracked) (h : PairCodeStep utils s a t) :
    t.shared.Stages fun stage => ∀ p, stage.confirmation = some p → t.Gone p := by
  have hheld : s.shared.Stages fun stage => ∀ p, stage.confirmation = some p → t.Gone p :=
    hs.held.mono fun stage hstage p hp => (hstage p hp).step h
  have hstep := h
  cases h with
  | requestInvalid _ _ | request _ _ | helloFailed _ => exact hheld
  | helloAnswered pairingRef _ => exact hheld.intervene
  | notifyInvalid _ _ | notify _ _ =>
      refine hheld.begin ?_
      rintro p ⟨⟩
  | take hcall _ hwaiting =>
      refine hheld.move hcall fun p hp => ?_
      cases hp
      refine ⟨requests_ended_step (hs.stored _ hwaiting) hstep, ?_⟩
      rintro q ⟨⟩
  | takeOther hcall _ _ | prepareFailed hcall _ _ | sendFailed hcall _ | complete hcall _ =>
      refine hheld.move hcall ?_
      rintro p ⟨⟩
  | prepare hcall hstage _ | rotate hcall hstage | save hcall hstage
  | sendFinish _ hcall hstage =>
      refine hheld.move hcall fun p hp => ?_
      exact (hs.gone_of_held hcall hstage hp).step hstep

theorem PairCodeClient.Tracked.step (hs : s.Tracked) (h : PairCodeStep utils s a t) :
    t.Tracked where
  clean := by
    cases h with
    | requestInvalid _ _ | request _ _ | helloFailed _ => exact hs.clean
    | helloAnswered pairingRef _ => exact hs.clean.intervene
    | notifyInvalid _ _ | notify _ _ => exact hs.clean.begin
    | take hcall _ _ | takeOther hcall _ _ | prepareFailed hcall _ _ | prepare hcall _ _
    | rotate hcall _ | save hcall _ | sendFinish _ hcall _ | sendFailed hcall _
    | complete hcall _ => exact hs.clean.move hcall fun hlocking => nomatch hlocking
  stored p hp := by
    have hstep := h
    cases h with
    | helloAnswered pairingRef _ =>
        cases hp
        exact Function.update_self ..
    | take _ _ _ | takeOther _ _ _ | complete _ _ => cases hp
    | save hcall hstage =>
        rename_i ok
        cases ok <;> exact hs.stored p hp
    | _ => exact requests_ended_step (hs.stored p hp) hstep
  held := hs.held_step h
  sent x hx := by
    have hstep := h
    cases h with
    | sendFinish reqId hcall hstage =>
        rcases List.mem_append.mp hx with hx | hx
        · exact (hs.sent x hx).step hstep
        · rw [List.mem_singleton.mp hx]
          exact (hs.gone_of_held hcall hstage rfl).step hstep
    | _ => exact (hs.sent x hx).step hstep

theorem PairCodeClient.Tracked.of_run {as : List PairCodeAction}
    (h : (pairCodes utils).Run as s) : s.Tracked := by
  have hinit : ∀ s, (pairCodes utils).init s → s.Tracked := by
    rintro _ ⟨identityKey, advSecretKey, saved, rfl⟩
    exact ⟨fun _ _ h => (nomatch h), fun _ h => (nomatch h), fun _ _ h => (nomatch h),
      fun _ h => (nomatch h)⟩
  exact System.Run.invariant hinit (fun _ _ _ hs hstep => hs.step hstep) h

/-- What a take does: it leaves `Idle`, and a call that had nothing to take returns. -/
theorem take_cases {c : Nat} (h : PairCodeStep utils s (.take c) t) :
    ∃ call f stage, s.shared.calls c = some call ∧ call.stage = .locking f ∧
      t.shared = s.shared.move c stage { s.shared.data with state := .idle } ∧
      (stage = .returned false ∨ ∃ p, s.shared.data.state = .waitingForPhoneConfirmation p) := by
  cases h with
  | take hcall hstage hwaiting => exact ⟨_, _, _, hcall, hstage, rfl, .inr ⟨_, hwaiting⟩⟩
  | takeOther hcall hstage _ => exact ⟨_, _, _, hcall, hstage, rfl, .inl rfl⟩

/-- In every run a take survives exactly if it takes `Idle`. -/
theorem take_survives_iff {as : List PairCodeAction} (hrun : (pairCodes utils).Run as s) {c : Nat}
    (h : PairCodeStep utils s (.take c) t) :
    Survives s (.take c) t ↔ s.shared.data.state = .idle := by
  have hs := PairCodeClient.Tracked.of_run hrun
  obtain ⟨call, f, stage, hcall, hstage, ht, hreturned⟩ := take_cases h
  have hfound : call.found = s.shared.data := hs.clean c call hcall ⟨f, hstage⟩
  have hidle : t.shared.data.state = .idle := by rw [ht]; rfl
  have hself : t.shared.calls c = some ⟨stage, call.found⟩ := by
    rw [ht, Shared.move_calls_self hcall]
  constructor
  · intro hsurvives
    rcases hreturned with rfl | ⟨p, hp⟩
    · have hlocking : s.shared.stageOf c ≠ some (.returned false) := by
        rw [Shared.stageOf_of_calls hcall, hstage]
        nofun
      have hsame := hsurvives.unsent c _ hlocking hself rfl
      rw [hfound] at hsame
      rw [← hsame, hidle]
    · obtain ⟨iq, hiq⟩ := hsurvives.leaves p hp fun q hq => nomatch hidle.symm.trans hq
      exact absurd rfl ((hs.sent _ hiq).2 p hp)
  · intro hstate
    have hdata : t.shared.data = s.shared.data := by
      rw [ht, ← hstate]
      rfl
    refine ⟨fun p hp => (nomatch hstate.symm.trans hp),
      fun other call' hother hcall' hfalse => ?_, fun _ _ _ ha => (nomatch ha)⟩
    by_cases heq : other = c
    · rw [heq, hself] at hcall'
      cases hcall'
      rw [hdata, hfound]
    · have hunmoved : t.shared.stageOf other = s.shared.stageOf other := by
        rw [ht, Shared.move_stageOf_of_ne heq]
      rw [← hunmoved, Shared.stageOf_of_calls hcall', hfalse] at hother
      exact absurd rfl hother

/-! ## Every run -/

/-- While no call takes a state but `Idle`, a step survives exactly if it takes no other
either, in every run. -/
theorem pair_code_state_survives (utils : PairCodeUtils) {as : List PairCodeAction}
    {s t : PairCodeClient} {a : PairCodeAction}
    (hrun : ((pairCodes utils).restrict PairCodeClient.TakesIdle).Run as s)
    (hstep : (pairCodes utils).step s a t) : Survives s a t ↔ s.TakesIdle a := by
  constructor
  · intro hsurvives
    cases a with
    | take c => exact (take_survives_iff hrun.of_restrict hstep).mp hsurvives
    | _ => trivial
  · exact fun hidle => (PairCodeClient.Quiet.of_run hrun).survives hidle hstep

/-- The second stage without encryption. -/
def plainPairCodeUtils : PairCodeUtils where
  decryptPrimaryEphemeralPub b _ := .ok (b.drop 48)
  prepareKeyBundle _ _ _ _ := .ok ([1], [2])
  buildCompanionFinishIq _ _ _ _ reqId := .mk "iq" [("id", .string reqId)] none

/-- The notification of a phone that confirms. -/
def phoneConfirms : Node :=
  .mk "notification" [("type", .string "link_code_companion_reg")]
    (some (.nodes [.mk "link_code_companion_reg" []
      (some (.nodes
        [.mk "link_code_pairing_wrapped_primary_ephemeral_pub" []
            (some (.bytes (List.replicate 80 0))),
          .mk "primary_identity_pub" [] (some (.bytes (List.replicate 32 0)))]))]))

/-- A confirmation that nobody waits for. -/
theorem unexpected_confirmation_survives :
    ∃ as s t, ((pairCodes plainPairCodeUtils).restrict PairCodeClient.TakesIdle).Run as s ∧
      (pairCodes plainPairCodeUtils).step s (.take 0) t ∧ Survives s (.take 0) t := by
  have hstep : ∀ {as s}
      (_ : ((pairCodes plainPairCodeUtils).restrict PairCodeClient.TakesIdle).Run as s) (a) {t},
      PairCodeStep plainPairCodeUtils s a t → s.TakesIdle a →
      ((pairCodes plainPairCodeUtils).restrict PairCodeClient.TakesIdle).step s a t :=
    fun _ _ _ h hidle => ⟨h, hidle⟩
  have h0 := System.Run.start (show ((pairCodes plainPairCodeUtils).restrict
    PairCodeClient.TakesIdle).init (.new ⟨0, 0⟩ [] none) from ⟨_, _, _, rfl⟩)
  have h1 := h0.tail (hstep h0 (.notify 0 phoneConfirms) (.notify rfl rfl) trivial)
  have h2 := hstep h1 (.take 0) (.takeOther rfl rfl nofun) rfl
  exact ⟨_, _, _, h1, h2.1, (pair_code_state_survives plainPairCodeUtils h1 h2.1).mpr rfl⟩

/-- A confirmation that is not answered loses the state of the request. -/
theorem unanswered_confirmation_loses_state :
    ¬ ∀ (utils : PairCodeUtils) as s a t, (pairCodes utils).Run as s →
      PairCodeStep utils s a t → Survives s a t := by
  intro h
  have hstep : ∀ {as s} (_ : (pairCodes plainPairCodeUtils).Run as s) (a) {t},
      PairCodeStep plainPairCodeUtils s a t → (pairCodes plainPairCodeUtils).step s a t :=
    fun _ _ _ h => h
  have h0 := System.Run.start
    (show (pairCodes plainPairCodeUtils).init (.new ⟨0, 0⟩ [] none) from ⟨_, _, _, rfl⟩)
  have h1 := h0.tail (hstep h0 (.request 0 "1234567" "ABCD1234" ⟨1, 1⟩) (.request rfl rfl))
  have h2 := h1.tail (hstep h1 (.helloAnswered 0 [7]) (.helloAnswered [7] rfl))
  have h3 := h2.tail (hstep h2 (.notify 0 phoneConfirms) (.notify rfl rfl))
  have h4 := h3.tail (hstep h3 (.take 0) (.take rfl rfl rfl))
  have h5 := h4.tail (hstep h4 (.prepare 0) (.prepare rfl rfl rfl))
  have h6 := h5.tail (hstep h5 (.rotate 0) (.rotate rfl rfl))
  have h7 := h6.tail (hstep h6 (.save 0 true) (.save rfl rfl))
  have h8 := hstep h7 (.sendFailed 0) (.sendFailed rfl rfl)
  have hsame := (h _ _ _ _ _ h7 h8).unsent 0 _ nofun rfl rfl
  cases congrArg PairCodeData.state hsame

end Waepic.Client
