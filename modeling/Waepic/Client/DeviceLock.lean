import Waepic.Library.RwLock

/-!
# The device lock

The client keeps its `Device` behind one `async_lock::RwLock`.  `send_message`
holds a read guard while `prepare_dm_stanza` or `prepare_group_stanza` runs, and
most callbacks of the Signal store adapter, which those functions call, take a
read guard of their own.  Four tasks write: the post-connect initialisation, the
pair-code notification, the edge-routing child and the loading of the device.

A callback that reads under the outer guard waits behind a writer that arrived
in between, and the writer waits for the outer guard.  A send to a group loads its
sender key so (`groupSend`).  A direct message is prepared for no devices, and needs
no callback.
-/

namespace Waepic.Client

open Transition RwLock

/-- The callbacks of the five sub-adapters of the Signal store. -/
inductive StoreCallback where
  | loadSession
  | hasSession
  | storeSession
  | getIdentityKeyPair
  | getLocalRegistrationId
  | saveIdentity
  | isTrustedIdentity
  | getIdentity
  | getPreKey
  | savePreKey
  | removePreKey
  | getSignedPreKey
  | saveSignedPreKey
  | storeSenderKey
  | loadSenderKey
deriving DecidableEq, Repr

/-- What a callback does to the device lock. -/
def StoreCallback.program : StoreCallback → List LockOp
  | .loadSession => [.read, .releaseRead]
  | .hasSession => [.read, .releaseRead]
  | .storeSession => []
  | .getIdentityKeyPair => [.read, .releaseRead]
  | .getLocalRegistrationId => [.read, .releaseRead]
  -- through `get_identity`
  | .saveIdentity => [.read, .releaseRead]
  | .isTrustedIdentity => []
  | .getIdentity => [.read, .releaseRead]
  | .getPreKey => [.read, .releaseRead]
  | .savePreKey => [.read, .releaseRead]
  | .removePreKey => []
  | .getSignedPreKey => [.read, .releaseRead]
  | .saveSignedPreKey => []
  | .storeSenderKey => []
  | .loadSenderKey => [.read, .releaseRead]

/-- The tasks that take the device lock. -/
inductive DeviceTask where
  /-- `send_message` to a chat that is not a newsletter, with the callbacks that
  the stanza preparation makes. -/
  | sendMessage (callbacks : List StoreCallback)
  | runPostConnectInit
  | handlePairCodeNotification
  | handleEdgeRoutingChild
  | loadOrCreateDevice
  /-- A decryption: the callbacks run under no guard. -/
  | decrypt (callbacks : List StoreCallback)
  /-- A task that reads the device once, such as `logout` or a history receipt. -/
  | readDevice
deriving DecidableEq, Repr

def callbackProgram (callbacks : List StoreCallback) : List LockOp :=
  callbacks.flatMap StoreCallback.program

/-- What a task does to the device lock, up to where it returns early. -/
def DeviceTask.program : DeviceTask → List LockOp
  | .sendMessage callbacks => .read :: (callbackProgram callbacks ++ [.releaseRead])
  | .runPostConnectInit => [.write, .releaseWrite]
  -- the guard on the identity key is dropped before the secret is written
  | .handlePairCodeNotification => [.read, .releaseRead, .write, .releaseWrite]
  | .handleEdgeRoutingChild => [.write, .releaseWrite]
  | .loadOrCreateDevice => [.write, .releaseWrite]
  | .decrypt callbacks => callbackProgram callbacks
  | .readDevice => [.read, .releaseRead]

abbrev TaskId := Nat

/-- The runs of the device lock under any number of tasks. -/
def deviceLock : System (State TaskId) (Action TaskId) :=
  rwLock fun program => ∃ task : DeviceTask, task.program = program

/-! ## The programs are disciplined -/

theorem disciplined_callback_append (callback : StoreCallback) {r : Nat} {p : List LockOp}
    (h : Disciplined r false p) : Disciplined r false (callback.program ++ p) := by
  cases callback <;> simpa [StoreCallback.program, Disciplined] using h

theorem disciplined_callbackProgram_append (callbacks : List StoreCallback) {r : Nat}
    {p : List LockOp} (h : Disciplined r false p) :
    Disciplined r false (callbackProgram callbacks ++ p) := by
  induction callbacks with
  | nil => exact h
  | cons callback rest ih =>
      rw [callbackProgram, List.flatMap_cons, List.append_assoc]
      exact disciplined_callback_append callback ih

theorem DeviceTask.program_disciplined (task : DeviceTask) :
    Disciplined 0 false task.program := by
  cases task with
  | sendMessage callbacks =>
      exact ⟨rfl, disciplined_callbackProgram_append callbacks (by simp [Disciplined])⟩
  | decrypt callbacks =>
      rw [program, ← List.append_nil (callbackProgram callbacks)]
      exact disciplined_callbackProgram_append callbacks (by simp [Disciplined])
  | runPostConnectInit => simp [program, Disciplined]
  | handlePairCodeNotification => simp [program, Disciplined]
  | handleEdgeRoutingChild => simp [program, Disciplined]
  | loadOrCreateDevice => simp [program, Disciplined]
  | readDevice => simp [program, Disciplined]

/-! ## Deadlocks -/

/-- A send to a group, which loads its sender key and stores it. -/
def groupSend : DeviceTask := .sendMessage [.loadSenderKey, .storeSenderKey]

/-- A run in which every writer claims the device lock while no holder of a read
guard has a nested read ahead reaches no deadlock, and a next step that breaks
the condition leads to one. -/
theorem deviceLock_deadlock_free {as : List (Action TaskId)} {s : State TaskId}
    (hrun : (deviceLock.restrict NoClaimOverNestedRead).Run as s) :
    (∀ S, ¬ Deadlocked s S) ∧
    ∀ a t, deviceLock.step s a t → ¬ NoClaimOverNestedRead s a →
      ∃ bs u S, deviceLock.Steps t bs u ∧ Deadlocked u S := by
  constructor
  · exact no_deadlock (fun p ⟨task, hp⟩ => hp ▸ task.program_disciplined) hrun
  · intro a t hstep hguard
    cases a with
    | claim w =>
        simp only [NoClaimOverNestedRead, not_forall, not_not] at hguard
        obtain ⟨u, hnested⟩ := hguard
        obtain ⟨bs, v, hsteps, hdead⟩ := Step.claim_leads_to_deadlock hstep hnested
        exact ⟨bs, v, _, hsteps, hdead⟩
    | _ => exact absurd trivial hguard

/-- A message to a group is being encrypted, and the initialisation waits to write. -/
theorem groupSend_and_init_started {S : System (State TaskId) (Action TaskId)}
    (hinit : S.init ⟨[], .absent, fun _ => []⟩)
    (hstep : ∀ s a t, deviceLock.step s a t → NoClaimOverNestedRead s a → S.step s a t) :
    ∃ as s, S.Run as s ∧ s.readers = [0] ∧ s.writer = .absent ∧
      s.rest 0 = [.read, .releaseRead, .releaseRead] ∧ s.rest 1 = [.write, .releaseWrite] := by
  have h0 : S.Run [] _ := .start hinit
  have h1 := h0.tail (hstep _ (.spawn 0 groupSend.program) _
    (Step.spawn rfl ⟨_, rfl⟩) trivial)
  have h2 := h1.tail (hstep _ (.spawn 1 DeviceTask.runPostConnectInit.program) _
    (Step.spawn rfl ⟨_, rfl⟩) trivial)
  have h3 := h2.tail (hstep _ (.read 0) _ (Step.read rfl rfl) trivial)
  exact ⟨_, _, h3, rfl, rfl, rfl, rfl⟩

/-- The message is encrypted before the initialisation claims the lock. -/
theorem deviceLock_deadlock_free_groupSend :
    ∃ as s, (deviceLock.restrict NoClaimOverNestedRead).Run as s ∧ s.readers = [0] ∧
      s.rest 1 = [.write, .releaseWrite] ∧ ∀ S, ¬ Deadlocked s S := by
  obtain ⟨as, s, hrun, hreaders, -, -, hrest⟩ := groupSend_and_init_started
    (S := deviceLock.restrict NoClaimOverNestedRead) rfl fun _ _ _ h hg => ⟨h, hg⟩
  exact ⟨as, s, hrun, hreaders, hrest, (deviceLock_deadlock_free hrun).1⟩

/-- The initialisation claims the lock between the read of `send_message` to a group and
that of `load_sender_key`. -/
theorem deviceLock_deadlocks :
    ¬ ∀ as s, deviceLock.Run as s → ∀ S, ¬ Deadlocked s S := by
  intro h
  obtain ⟨as, s, hrun, hreaders, habsent, hgroup, hinit⟩ := groupSend_and_init_started
    (S := deviceLock) rfl fun _ _ _ hstep _ => hstep
  have hclaim : deviceLock.step s (.claim 1) { s with writer := .claimed 1 } :=
    Step.claim hinit habsent
  refine h _ _ (hrun.tail hclaim) {0, 1} ⟨⟨0, Or.inl rfl⟩, ?_⟩
  rintro t (rfl | rfl)
  · exact ⟨1, Or.inr rfl, by decide, .readerOnClaim hgroup rfl⟩
  · exact ⟨0, Or.inl rfl, by decide, .claimOnReader hinit rfl (by simp [hreaders])⟩

end Waepic.Client
