import Waepic.Connection.Runner
import Mathlib.Data.Finset.Card

/-!
# The waiter map

An entry of `iq_waiters` belongs to the call that registered it, under the id of
that call, and the call has received nothing yet (`WaiterInv`).  Only a frame
with the id, a cleanup and another registration of the id remove it: `send_iq`
itself has no step that does.  So an exit of `send_iq` that comes before its
response leaves the entry behind, and the map holds calls in flight only exactly
as long as every exit finds its entry gone (`keysInFlight_iff`).
-/

namespace Waepic.Connection

open Transition Binary

/-! ## What a step does to one call -/

/-- The action starts the call `d`, as `call`. -/
inductive Starts (s : ConnState) (d : CallId) (call : Call) : ConnAction → Prop where
  | node {node : Node} : call = .ofNode node → Starts s d call (.sendNode d node)
  | supplied {spec : IqSpec} {id : String} :
      spec.query.id = some id → call = .ofIq spec id → Starts s d call (.sendIq d spec)
  | generated {spec : IqSpec} :
      spec.query.id = none → call = .ofIq spec (iqIdOf s.iqIdCounter.toNat) →
      Starts s d call (.sendIq d spec)

theorem Starts.response {s : ConnState} {d : CallId} {call : Call} {a : ConnAction}
    (h : Starts s d call a) : call.response = .empty := by
  cases h with
  | node hcall => rw [hcall]; rfl
  | supplied _ hcall => rw [hcall]; rfl
  | generated _ hcall => rw [hcall]; rfl

/-- What one step may do to a call.  Only a step with `dropped` drops it. -/
inductive CallStep [WacoreBinary] (dropped : Prop) (call : Call) : Call → Prop where
  | same : CallStep dropped call call
  | register :
      call.stage = .created → CallStep dropped call { call with stage := .registered }
  | enqueue :
      call.stage = .registered ∨ call.stage = .created ∧ call.iq = none →
      CallStep dropped call { call with stage := .sending }
  | refused {e : ConnectionError} :
      call.stage = .registered ∨ call.stage = .created ∧ call.iq = none →
      CallStep dropped call (call.sendReturned (.error e))
  | answered {r : Result Unit} :
      call.stage = .sending → call.sendResult = .filled r →
      CallStep dropped call (call.sendReturned r)
  | abandoned :
      call.stage = .sending → call.sendResult = .closed →
      CallStep dropped call (call.sendReturned (.error .notConnected))
  | timedOut :
      call.stage = .sending → call.sendResult = .empty →
      CallStep dropped call (call.sendReturned (.error sendTimedOut))
  | responded {r : Result Node} :
      call.stage = .awaiting → call.response = .filled r →
      CallStep dropped call { call with stage := .returned (call.responded r) }
  | responseAbandoned :
      call.stage = .awaiting → call.response = .closed →
      CallStep dropped call { call with stage := .returned (.error .notConnected) }
  | responseTimedOut :
      call.stage = .awaiting → call.response = .empty →
      CallStep dropped call { call with stage := .returned (.error iqTimedOut) }
  | drop :
      dropped → call.stage.InFlight → CallStep dropped call { call with stage := .dropped }
  | fillSend (r : Result Unit) :
      CallStep dropped call { call with sendResult := call.sendResult.fill r }
  | closeSend : CallStep dropped call { call with sendResult := call.sendResult.close }
  | fillResponse (r : Result Node) :
      CallStep dropped call { call with response := call.response.fill r }
  | closeResponse : CallStep dropped call { call with response := call.response.close }

theorem Call.sendReturned_stage_ne_created (call : Call) (r : Result Unit) :
    (call.sendReturned r).stage ≠ .created := by
  cases hiq : call.iq <;> cases r <;> simp [Call.sendReturned, hiq]

section

variable [WacoreBinary] {dropped : Prop} {call call' : Call}

/-- A call keeps its id and its spec. -/
theorem CallStep.iq (h : CallStep dropped call call') : call'.iq = call.iq := by
  cases h <;> rfl

theorem CallStep.created (h : CallStep dropped call call') (hcreated : call'.stage = .created) :
    call.stage = .created := by
  cases h with
  | refused _ => exact absurd hcreated (call.sendReturned_stage_ne_created _)
  | answered _ _ => exact absurd hcreated (call.sendReturned_stage_ne_created _)
  | abandoned _ _ => exact absurd hcreated (call.sendReturned_stage_ne_created _)
  | timedOut _ _ => exact absurd hcreated (call.sendReturned_stage_ne_created _)
  | _ => first | exact hcreated | cases hcreated

end

/-- What a step may do to the response slot of the call `d`. -/
inductive ResponseEffect [WacoreBinary] (s : ConnState) (a : ConnAction) (d : CallId)
    (call call' : Call) : Prop where
  | kept : call'.response = call.response → ResponseEffect s a d call call'
  | resolved {n : Node} {id : String} :
      a = .frame n → (routeNode n).waiter = some id → s.waiters.lookup id = some d →
      call'.response = call.response.fill (.ok n) → ResponseEffect s a d call call'
  | drained :
      a = .cleanup → s.Waits d → call'.response = call.response.fill (.error .notConnected) →
      ResponseEffect s a d call call'
  | replaced {c : CallId} {id : String} :
      a = .register c id → c ≠ d → s.waiters.lookup id = some d →
      call'.response = call.response.close → ResponseEffect s a d call call'

/-- The call `d` is new, or it keeps its identity and its slot changes as told. -/
def CallCases [WacoreBinary] (s : ConnState) (a : ConnAction) (d : CallId) (call' : Call) : Prop :=
  (s.calls d = none ∧ Starts s d call' a) ∨
    ∃ call, s.calls d = some call ∧ CallStep (a = .drop d) call call' ∧
      ResponseEffect s a d call call'

section

variable [WacoreBinary] {s : ConnState} {a : ConnAction} {c d : CallId} {call call' : Call}

theorem CallCases.same (hd : s.calls d = some call) : CallCases s a d call :=
  Or.inr ⟨call, hd, .same, .kept rfl⟩

theorem CallCases.newCall (hd : (s.setCall c call).calls d = some call')
    (hfree : s.calls c = none) (hstarts : Starts s c call a) : CallCases s a d call' := by
  rcases eq_or_ne d c with rfl | hdc
  · rw [ConnState.setCall_calls_self] at hd
    exact Or.inl ⟨hfree, Option.some.inj hd ▸ hstarts⟩
  · exact .same (by simpa [hdc] using hd)

theorem CallCases.setCall {moved : Call} (hd : (s.setCall c moved).calls d = some call')
    (hcall : s.calls c = some call) (hmoved : CallStep (a = .drop c) call moved)
    (hresponse : moved.response = call.response) : CallCases s a d call' := by
  rcases eq_or_ne d c with rfl | hdc
  · rw [ConnState.setCall_calls_self] at hd
    cases hd
    exact Or.inr ⟨call, hcall, hmoved, .kept hresponse⟩
  · exact .same (by simpa [hdc] using hd)

theorem CallCases.map {f : Call → Call} (hd : (s.calls d).map f = some call')
    (hf : ∀ call, CallStep (a = .drop d) call (f call) ∧ (f call).response = call.response) :
    CallCases s a d call' := by
  obtain ⟨call, hcall, rfl⟩ := Option.map_eq_some_iff.mp hd
  exact Or.inr ⟨call, hcall, (hf call).1, .kept (hf call).2⟩

theorem CallCases.modifyCall {f : Call → Call} (hd : (s.modifyCall c f).calls d = some call')
    (hf : ∀ call, CallStep (a = .drop d) call (f call) ∧ (f call).response = call.response) :
    CallCases s a d call' := by
  rcases eq_or_ne d c with rfl | hdc
  · exact .map (by simpa using hd) hf
  · exact .same (by simpa [hdc] using hd)

variable {config : ConnectionConfig} {t : ConnState}

theorem ConnStep.call_cases (h : ConnStep config s a t) (hd : t.calls d = some call') :
    CallCases s a d call' := by
  cases h with
  | sendNode hfree _ => exact .newCall hd hfree (.node rfl)
  | sendIqSupplied hfree _ hid => exact .newCall hd hfree (.supplied hid rfl)
  | sendIqGenerated hfree _ hid => exact .newCall hd hfree (.generated hid rfl)
  | @register c call id hcall hcreated _ =>
      rcases eq_or_ne d c with rfl | hdc
      · rw [ConnState.setCall_calls_self] at hd
        cases hd
        exact Or.inr ⟨call, hcall, .register hcreated, .kept rfl⟩
      · rw [ConnState.setCall_calls_of_ne _ _ hdc, ConnState.insertWaiter_calls] at hd
        split at hd
        · next hl =>
            obtain ⟨calld, hcalld, rfl⟩ := Option.map_eq_some_iff.mp hd
            exact Or.inr ⟨calld, hcalld, .closeResponse, .replaced rfl hdc.symm hl rfl⟩
        · exact .same hd
  | enqueue hcall hstage _ => exact .setCall hd hcall (.enqueue hstage) rfl
  | enqueueClosed hcall hstage _ => exact .setCall hd hcall (.refused hstage) rfl
  | sendAnswered hcall hstage hfilled => exact .setCall hd hcall (.answered hstage hfilled) rfl
  | sendAbandoned hcall hstage hclosed => exact .setCall hd hcall (.abandoned hstage hclosed) rfl
  | sendTimeout hcall hstage hempty => exact .setCall hd hcall (.timedOut hstage hempty) rfl
  | responseAnswered hcall hstage hfilled =>
      exact .setCall hd hcall (.responded hstage hfilled) rfl
  | responseAbandoned hcall hstage hclosed =>
      exact .setCall hd hcall (.responseAbandoned hstage hclosed) rfl
  | responseTimeout hcall hstage hempty =>
      exact .setCall hd hcall (.responseTimedOut hstage hempty) rfl
  | drop hcall hlive => exact .setCall hd hcall (.drop rfl hlive) rfl
  | @frameIq n id _ hwaiter =>
      rw [ConnState.setPhase_calls, ConnState.resolveWaiter_calls] at hd
      split at hd
      · next hl =>
          obtain ⟨calld, hcalld, rfl⟩ := Option.map_eq_some_iff.mp hd
          exact Or.inr ⟨calld, hcalld, .fillResponse _, .resolved rfl hwaiter hl rfl⟩
      · exact .same hd
  | cleanup _ =>
      simp only [ConnState.drainWaiters] at hd
      split at hd
      · next hw =>
          obtain ⟨calld, hcalld, rfl⟩ := Option.map_eq_some_iff.mp hd
          exact Or.inr ⟨calld, hcalld, .fillResponse _, .drained rfl hw rfl⟩
      · exact .same hd
  | sendRefused _ => exact .modifyCall hd fun _ => ⟨.fillSend _, rfl⟩
  | transportAccepts _ => exact .modifyCall hd fun _ => ⟨.fillSend _, rfl⟩
  | transportFails _ => exact .modifyCall hd fun _ => ⟨.fillSend _, rfl⟩
  | abortSending _ => exact .modifyCall hd fun _ => ⟨.closeSend, rfl⟩
  | discard _ =>
      simp only [ConnState.dropCommands] at hd
      split at hd
      · exact .map hd fun _ => ⟨.closeSend, rfl⟩
      · exact .same hd
  | _ => exact .same hd

/-- A call does not vanish. -/
theorem ConnStep.calls_kept (h : ConnStep config s a t) (hd : s.calls d = some call) :
    ∃ call', t.calls d = some call' := by
  have hset : ∀ (c : CallId) (moved : Call), ∃ call', (s.setCall c moved).calls d = some call' := by
    intro c moved
    rcases eq_or_ne d c with rfl | hdc
    · exact ⟨moved, by simp⟩
    · exact ⟨call, by simpa [hdc] using hd⟩
  have hmodify : ∀ (c : CallId) (f : Call → Call),
      ∃ call', (s.modifyCall c f).calls d = some call' := by
    intro c f
    rcases eq_or_ne d c with rfl | hdc
    · exact ⟨f call, by simp [hd]⟩
    · exact ⟨call, by simpa [hdc] using hd⟩
  cases h with
  | @register c callc id _ _ _ =>
      rcases eq_or_ne d c with rfl | hdc
      · exact ⟨_, ConnState.setCall_calls_self ..⟩
      · rw [ConnState.setCall_calls_of_ne _ _ hdc, ConnState.insertWaiter_calls, hd]
        split <;> exact ⟨_, rfl⟩
  | frameIq _ _ =>
      rw [ConnState.setPhase_calls, ConnState.resolveWaiter_calls, hd]
      split <;> exact ⟨_, rfl⟩
  | cleanup _ =>
      simp only [ConnState.drainWaiters, hd]
      split <;> exact ⟨_, rfl⟩
  | discard _ =>
      simp only [ConnState.dropCommands, hd]
      split <;> exact ⟨_, rfl⟩
  | sendRefused _ => exact hmodify _ _
  | transportAccepts _ => exact hmodify _ _
  | transportFails _ => exact hmodify _ _
  | abortSending _ => exact hmodify _ _
  | disconnect _ _ => exact ⟨call, hd⟩
  | dropHandles _ => exact ⟨call, hd⟩
  | move _ => exact ⟨call, hd⟩
  | frameOther _ _ => exact ⟨call, hd⟩
  | takeNode _ _ => exact ⟨call, hd⟩
  | handOver _ => exact ⟨call, hd⟩
  | takeDisconnect _ _ => exact ⟨call, hd⟩
  | commandsClosed _ _ _ => exact ⟨call, hd⟩
  | abort _ => exact ⟨call, hd⟩
  | _ => exact hset _ _

/-- What a step makes of a call. -/
theorem ConnStep.call_step (h : ConnStep config s a t) (hd : s.calls d = some call) :
    ∃ call', t.calls d = some call' ∧ CallStep (a = .drop d) call call' ∧
      ResponseEffect s a d call call' := by
  obtain ⟨call', hcall'⟩ := h.calls_kept hd
  rcases h.call_cases hcall' with ⟨hnone, -⟩ | ⟨call₀, hcall₀, hmoves, heffect⟩
  · rw [hd] at hnone
    cases hnone
  · rw [hd] at hcall₀
    cases hcall₀
    exact ⟨call', hcall', hmoves, heffect⟩

/-! ## What a step does to one key -/

/-- The step changes the entry of `id`: it registers it, resolves it or drains
the map. -/
inductive Disturbs (id : String) : ConnAction → Prop where
  | register {c : CallId} : Disturbs id (.register c id)
  | frame {n : Node} : (routeNode n).waiter = some id → Disturbs id (.frame n)
  | cleanup : Disturbs id .cleanup

theorem ConnStep.lookup_kept {id : String} (h : ConnStep config s a t) (hid : ¬ Disturbs id a) :
    t.waiters.lookup id = s.waiters.lookup id := by
  cases h with
  | register _ _ _ =>
      rw [ConnState.setCall_waiters, ConnState.insertWaiter_lookup, if_neg]
      rintro rfl
      exact hid .register
  | frameIq _ hwaiter =>
      rw [ConnState.setPhase_waiters, ConnState.resolveWaiter_lookup, if_neg]
      rintro rfl
      exact hid (.frame hwaiter)
  | cleanup _ => exact absurd .cleanup hid
  | _ => rfl

theorem ConnStep.lookup_register {id : String} (h : ConnStep config s (.register c id) t) :
    t.waiters.lookup id = some c := by
  cases h with
  | register _ _ _ => rw [ConnState.setCall_waiters, ConnState.insertWaiter_lookup, if_pos rfl]

theorem ConnStep.lookup_frame {id : String} {n : Node} (h : ConnStep config s (.frame n) t)
    (hn : (routeNode n).waiter = some id) : t.waiters.lookup id = none := by
  cases h with
  | frameOther _ hwaiter =>
      rw [hn] at hwaiter
      cases hwaiter
  | frameIq _ hwaiter =>
      rw [hn] at hwaiter
      cases hwaiter
      rw [ConnState.setPhase_waiters, ConnState.resolveWaiter_lookup, if_pos rfl]

theorem ConnStep.lookup_cleanup (id : String) (h : ConnStep config s .cleanup t) :
    t.waiters.lookup id = none := by
  cases h with
  | cleanup _ => rfl

/-- A call registers under its own id, once, right after it started. -/
theorem ConnStep.register_inv {id : String} (h : ConnStep config s (.register c id) t) :
    ∃ call, s.calls c = some call ∧ call.stage = .created ∧ call.iqId = some id ∧
      t.calls c = some { call with stage := .registered } := by
  cases h with
  | register hcall hcreated hid =>
      exact ⟨_, hcall, hcreated, hid, ConnState.setCall_calls_self ..⟩

end

/-! ## Entries and calls -/

/-- What every reachable state satisfies. -/
structure WaiterInv (s : ConnState) : Prop where
  /-- An entry belongs to a call with its id that has received nothing. -/
  entry : ∀ id c, s.waiters.lookup id = some c →
    ∃ call, s.calls c = some call ∧ call.iqId = some id ∧ call.stage ≠ .created ∧
      call.response = .empty
  created : ∀ c call, s.calls c = some call → call.stage = .created → call.response = .empty

/-- What an entry says of its call. -/
theorem WaiterInv.entry_call {s : ConnState} (hinv : WaiterInv s) {id : String} {c : CallId}
    {call : Call} (hl : s.waiters.lookup id = some c) (hcall : s.calls c = some call) :
    call.iqId = some id ∧ call.stage ≠ .created ∧ call.response = .empty := by
  obtain ⟨call₀, hcall₀, hentry⟩ := hinv.entry id c hl
  rw [hcall] at hcall₀
  cases hcall₀
  exact hentry

/-- A call has one entry at most. -/
theorem WaiterInv.id_unique {s : ConnState} (hinv : WaiterInv s) {c : CallId} {id id' : String}
    (hl : s.waiters.lookup id = some c) (hl' : s.waiters.lookup id' = some c) : id = id' := by
  obtain ⟨call, hcall, hid, -⟩ := hinv.entry id c hl
  exact Option.some.inj (hid.symm.trans (hinv.entry_call hl' hcall).1)

variable [WacoreBinary] {config : ConnectionConfig}

/-- The entry of another id keeps its call through a step. -/
theorem WaiterInv.entry_kept {s t : ConnState} {a : ConnAction} (hinv : WaiterInv s)
    (h : ConnStep config s a t) {id : String} {c : CallId} (hl : s.waiters.lookup id = some c)
    (hid : ¬ Disturbs id a) :
    ∃ call, t.calls c = some call ∧ call.iqId = some id ∧ call.stage ≠ .created ∧
      call.response = .empty := by
  obtain ⟨call, hcall, hiq, hstage, hempty⟩ := hinv.entry id c hl
  obtain ⟨call', hcall', hmoves, heffect⟩ := h.call_step hcall
  refine ⟨call', hcall', by rw [Call.iqId, hmoves.iq]; exact hiq,
    fun hc => hstage (hmoves.created hc), ?_⟩
  cases heffect with
  | kept hresponse => rw [hresponse, hempty]
  | resolved ha hwaiter hl' _ =>
      cases hinv.id_unique hl hl'
      exact absurd (ha ▸ .frame hwaiter) hid
  | drained ha _ _ => exact absurd (ha ▸ .cleanup) hid
  | replaced ha _ hl' _ =>
      cases hinv.id_unique hl hl'
      exact absurd (ha ▸ .register) hid

/-- A call has a node because it had it before the step, or because the step is
the frame that brings it. -/
theorem ConnStep.received_cases {s t : ConnState} {a : ConnAction} (hinv : WaiterInv s)
    (h : ConnStep config s a t) {c : CallId} {call' : Call} {n : Node}
    (hcall' : t.calls c = some call') (hfilled : call'.response = .filled (.ok n)) :
    ∃ call, s.calls c = some call ∧ call'.iq = call.iq ∧
      (call.response = .filled (.ok n) ∨
        ∃ id, a = .frame n ∧ (routeNode n).waiter = some id ∧ call.iqId = some id ∧
          s.waiters.lookup id = some c) := by
  rcases h.call_cases hcall' with ⟨-, hstarts⟩ | ⟨call, hcall, hmoves, heffect⟩
  · rw [hstarts.response] at hfilled
    cases hfilled
  · refine ⟨call, hcall, hmoves.iq, ?_⟩
    -- the slot of a call with an entry is empty before the step
    cases heffect with
    | kept hresponse => exact Or.inl (hresponse ▸ hfilled)
    | @resolved m id ha hwaiter hl hresponse =>
        obtain ⟨hid, -, hempty⟩ := hinv.entry_call hl hcall
        rw [hresponse, hempty] at hfilled
        cases hfilled
        exact Or.inr ⟨id, ha, hwaiter, hid, hl⟩
    | drained _ hw hresponse =>
        obtain ⟨id, hl⟩ := (s.waits_iff c).mp hw
        rw [hresponse, (hinv.entry_call hl hcall).2.2] at hfilled
        cases hfilled
    | replaced _ _ hl hresponse =>
        rw [hresponse, (hinv.entry_call hl hcall).2.2] at hfilled
        cases hfilled

/-- Every step keeps the invariant. -/
theorem WaiterInv.step {s t : ConnState} {a : ConnAction} (hinv : WaiterInv s)
    (h : ConnStep config s a t) : WaiterInv t where
  entry := by
    intro id c hl
    by_cases hid : Disturbs id a
    · cases hid with
      | @register d =>
          have hd : d = c := Option.some.inj (h.lookup_register.symm.trans hl)
          subst hd
          obtain ⟨call, hcall, hcreated, hiq, hcall'⟩ := h.register_inv
          exact ⟨_, hcall', hiq, nofun, hinv.created d call hcall hcreated⟩
      | frame hn =>
          rw [h.lookup_frame hn] at hl
          cases hl
      | cleanup =>
          rw [h.lookup_cleanup] at hl
          cases hl
    · exact hinv.entry_kept h (h.lookup_kept hid ▸ hl) hid
  created := by
    intro c call' hcall' hcreated
    rcases h.call_cases hcall' with ⟨-, hstarts⟩ | ⟨call, hcall, hmoves, heffect⟩
    · exact hstarts.response
    · have hbefore := hmoves.created hcreated
      -- a call that has not registered has no entry
      have hnone : ∀ id, s.waiters.lookup id ≠ some c :=
        fun id hl => (hinv.entry_call hl hcall).2.1 hbefore
      cases heffect with
      | kept hresponse => rw [hresponse, hinv.created c call hcall hbefore]
      | resolved _ _ hl _ => exact absurd hl (hnone _)
      | drained _ hw _ =>
          obtain ⟨id, hl⟩ := (s.waits_iff c).mp hw
          exact absurd hl (hnone id)
      | replaced _ _ hl _ => exact absurd hl (hnone _)

omit [WacoreBinary] in
theorem waiterInv_new : WaiterInv .new :=
  ⟨fun id c hl => by simp [ConnState.new] at hl, fun c call hc => by cases hc⟩

theorem waiterInv_of_run {as : List ConnAction} {s : ConnState}
    (h : (connection config).Run as s) : WaiterInv s := by
  refine h.invariant ?_ (fun _ _ _ hinv hstep => hinv.step hstep)
  rintro s rfl
  exact waiterInv_new

/-! ## Keys of calls in flight -/

/-- Every key belongs to a call that has not ended. -/
def KeysInFlight (s : ConnState) : Prop :=
  ∀ id c, s.waiters.lookup id = some c → ∃ call, s.calls c = some call ∧ call.stage.InFlight

/-- A `send_iq` that ends before its response finds its entry gone. -/
def EntryGone (s : ConnState) : ConnAction → Prop
  | .enqueue c => s.runner.phase = .stopped → ¬ s.Waits c
  | .sendAnswered c =>
      ∀ call, s.calls c = some call → call.sendResult ≠ .filled (.ok ()) → ¬ s.Waits c
  | .sendTimeout c => ¬ s.Waits c
  | .responseTimeout c => ¬ s.Waits c
  | .drop c => ¬ s.Waits c
  | _ => True

omit [WacoreBinary] in
/-- No entry is new and no call that has one ended. -/
theorem KeysInFlight.mono {s t : ConnState} (h : KeysInFlight s)
    (hw : ∀ id c, t.waiters.lookup id = some c → s.waiters.lookup id = some c)
    (hc : ∀ c call, s.calls c = some call → ∃ call', t.calls c = some call' ∧
      call'.stage = call.stage) : KeysInFlight t := by
  intro id c hl
  obtain ⟨call, hcall, hlive⟩ := h id c (hw id c hl)
  obtain ⟨call', hcall', hstage⟩ := hc c call hcall
  exact ⟨call', hcall', hstage ▸ hlive⟩

omit [WacoreBinary] in
/-- A call that moves on in flight. -/
theorem KeysInFlight.setCall {s : ConnState} (h : KeysInFlight s) (c : CallId) {call : Call}
    (hlive : call.stage.InFlight) : KeysInFlight (s.setCall c call) := by
  intro id d hl
  rcases eq_or_ne d c with rfl | hdc
  · exact ⟨call, by simp, hlive⟩
  · simpa [hdc] using h id d hl

omit [WacoreBinary] in
/-- A call that ends keeps the property exactly when it has no entry. -/
theorem KeysInFlight.endCall {s : ConnState} (h : KeysInFlight s) (c : CallId) {call : Call}
    (hended : ¬ call.stage.InFlight) : KeysInFlight (s.setCall c call) ↔ ¬ s.Waits c := by
  rw [ConnState.waits_iff]
  constructor
  · rintro hkeys ⟨id, hl⟩
    obtain ⟨call', hcall', hlive⟩ := hkeys id c hl
    simp only [ConnState.setCall_calls_self, Option.some.injEq] at hcall'
    exact hended (hcall' ▸ hlive)
  · intro hgone id d hl
    have hdc : d ≠ c := by
      rintro rfl
      exact hgone ⟨id, hl⟩
    simpa [hdc] using h id d hl

omit [WacoreBinary] in
theorem KeysInFlight.sendFailed {s : ConnState} (h : KeysInFlight s) (c : CallId) (call : Call)
    (e : ConnectionError) :
    KeysInFlight (s.setCall c (call.sendReturned (.error e))) ↔ ¬ s.Waits c := by
  refine h.endCall c ?_
  cases hiq : call.iq <;> simp [Call.sendReturned, hiq, CallStage.InFlight]

omit [WacoreBinary] in
/-- A call that has received something has no entry. -/
theorem WaiterInv.not_waits {s : ConnState} (hinv : WaiterInv s) {c : CallId} {call : Call}
    (hcall : s.calls c = some call) (hresponse : call.response ≠ .empty) : ¬ s.Waits c := by
  rw [ConnState.waits_iff]
  rintro ⟨id, hl⟩
  exact hresponse (hinv.entry_call hl hcall).2.2

omit [WacoreBinary] in
/-- A call that is not an IQ has no entry. -/
theorem WaiterInv.not_waits_of_node {s : ConnState} (hinv : WaiterInv s) {c : CallId} {call : Call}
    (hcall : s.calls c = some call) (hiq : call.iq = none) : ¬ s.Waits c := by
  rw [ConnState.waits_iff]
  rintro ⟨id, hl⟩
  have hid := (hinv.entry_call hl hcall).1
  simp [Call.iqId, hiq] at hid

omit [WacoreBinary] in
theorem ConnState.modifyCall_stage (s : ConnState) (c : CallId) (f : Call → Call)
    (hf : ∀ call, (f call).stage = call.stage) (d : CallId) (call : Call)
    (hcall : s.calls d = some call) :
    ∃ call', (s.modifyCall c f).calls d = some call' ∧ call'.stage = call.stage := by
  rcases eq_or_ne d c with rfl | hdc
  · exact ⟨f call, by simp [hcall], hf call⟩
  · exact ⟨call, by simp [hdc, hcall], rfl⟩

/-- A step keeps the keys in flight exactly when the call it ends has no entry. -/
theorem KeysInFlight.step_iff {s t : ConnState} {a : ConnAction} (hinv : WaiterInv s)
    (hkeys : KeysInFlight s) (h : ConnStep config s a t) : KeysInFlight t ↔ EntryGone s a := by
  cases h with
  | sendNode _ _ => exact iff_of_true (hkeys.setCall _ trivial) trivial
  | sendIqSupplied _ _ _ => exact iff_of_true (hkeys.setCall _ trivial) trivial
  | sendIqGenerated _ _ _ => exact iff_of_true (hkeys.setCall _ trivial) trivial
  | @register c call id hcall hcreated _ =>
      refine iff_of_true ?_ trivial
      intro id' d hl
      rw [ConnState.setCall_waiters, ConnState.insertWaiter_lookup] at hl
      rcases eq_or_ne d c with rfl | hdc
      · exact ⟨_, ConnState.setCall_calls_self .., trivial⟩
      · rw [ConnState.setCall_calls_of_ne _ _ hdc, ConnState.insertWaiter_calls]
        split at hl
        · cases hl
          exact absurd rfl hdc
        · obtain ⟨calld, hd, hlive⟩ := hkeys id' d hl
          rw [hd]
          split
          · exact ⟨_, rfl, hlive⟩
          · exact ⟨calld, rfl, hlive⟩
  | enqueue _ _ hopen =>
      exact iff_of_true (hkeys.setCall _ trivial) fun hstopped => absurd hstopped hopen
  | enqueueClosed hcall _ hstopped =>
      rw [hkeys.sendFailed]
      exact ⟨fun h _ => h, fun h => h hstopped⟩
  | @sendAnswered c call r hcall _ hanswer =>
      rcases r with e | ⟨⟨⟩⟩
      · rw [hkeys.sendFailed]
        refine ⟨fun h _ _ _ => h, fun h => h call hcall ?_⟩
        rw [hanswer]
        nofun
      · -- an answer `Ok` ends a `send_node` only, and that has no entry
        have hgone : EntryGone s (.sendAnswered c) := by
          intro call' hcall' hne
          rw [hcall] at hcall'
          cases hcall'
          exact absurd hanswer hne
        refine iff_of_true ?_ hgone
        cases hiq : call.iq with
        | none =>
            refine (hkeys.endCall c ?_).mpr (hinv.not_waits_of_node hcall hiq)
            simp [Call.sendReturned, hiq, CallStage.InFlight]
        | some iq =>
            refine hkeys.setCall c ?_
            simp [Call.sendReturned, hiq, CallStage.InFlight]
  | sendAbandoned hcall _ hclosed =>
      rw [hkeys.sendFailed]
      refine ⟨fun h _ _ _ => h, fun h => h _ hcall ?_⟩
      rw [hclosed]
      nofun
  | sendTimeout _ _ _ => exact hkeys.sendFailed _ _ _
  | responseAnswered hcall _ hfilled =>
      refine iff_of_true ((hkeys.endCall _ id).mpr (hinv.not_waits hcall ?_)) trivial
      rw [hfilled]
      nofun
  | responseAbandoned hcall _ hclosed =>
      refine iff_of_true ((hkeys.endCall _ id).mpr (hinv.not_waits hcall ?_)) trivial
      rw [hclosed]
      nofun
  | responseTimeout _ _ _ => exact hkeys.endCall _ id
  | drop _ _ => exact hkeys.endCall _ id
  | frameIq _ _ =>
      refine iff_of_true (hkeys.mono (fun id c hl => ?_) fun c call hcall => ?_) trivial
      · rw [ConnState.setPhase_waiters, ConnState.resolveWaiter_lookup] at hl
        split at hl
        · cases hl
        · exact hl
      · rw [ConnState.setPhase_calls, ConnState.resolveWaiter_calls, hcall]
        split
        · exact ⟨_, rfl, rfl⟩
        · exact ⟨_, rfl, rfl⟩
  | cleanup _ =>
      refine iff_of_true (fun id c hl => ?_) trivial
      simp [ConnState.drainWaiters] at hl
  | sendRefused _ => exact iff_of_true (hkeys.mono (fun _ _ h => h)
      (s.modifyCall_stage _ _ fun _ => rfl)) trivial
  | transportAccepts _ => exact iff_of_true (hkeys.mono (fun _ _ h => h)
      (s.modifyCall_stage _ _ fun _ => rfl)) trivial
  | transportFails _ => exact iff_of_true (hkeys.mono (fun _ _ h => h)
      (s.modifyCall_stage _ _ fun _ => rfl)) trivial
  | abortSending _ => exact iff_of_true (hkeys.mono (fun _ _ h => h)
      (s.modifyCall_stage _ _ fun _ => rfl)) trivial
  | discard _ =>
      refine iff_of_true (hkeys.mono (fun _ _ h => h) fun c call hcall => ?_) trivial
      simp only [ConnState.dropCommands, hcall]
      split
      · exact ⟨_, rfl, rfl⟩
      · exact ⟨_, rfl, rfl⟩
  | _ =>
      exact iff_of_true (hkeys.mono (fun _ _ h => h) fun _ call hcall => ⟨call, hcall, rfl⟩) trivial

omit [WacoreBinary] in
/-- A map with keys in flight is no larger than the set of the calls in flight. -/
theorem KeysInFlight.length_le {s : ConnState} (hinv : WaiterInv s) (hkeys : KeysInFlight s)
    (live : Finset CallId)
    (hlive : ∀ c call, s.calls c = some call → call.stage.InFlight → c ∈ live) :
    s.waiters.keys.length ≤ live.card := by
  have hlookup : ∀ id ∈ s.waiters.keys.toFinset, ∃ c, s.waiters.lookup id = some c := by
    intro id hid
    have hkey : id ∈ s.waiters := AList.mem_keys.mpr (List.mem_toFinset.mp hid)
    exact Option.isSome_iff_exists.mp (AList.lookup_isSome.mpr hkey)
  rw [← List.toFinset_card_of_nodup s.waiters.keys_nodup]
  refine Finset.card_le_card_of_injOn (fun id => (s.waiters.lookup id).getD 0) ?_ ?_
  · intro id hid
    obtain ⟨c, hl⟩ := hlookup id hid
    obtain ⟨call, hcall, hflight⟩ := hkeys id c hl
    simpa [hl] using hlive c call hcall hflight
  · intro id hid id' hid' hsame
    obtain ⟨c, hl⟩ := hlookup id hid
    obtain ⟨c', hl'⟩ := hlookup id' hid'
    have hcc : c = c' := by simpa [hl, hl'] using hsame
    subst hcc
    exact hinv.id_unique hl hl'

theorem keysInFlight_of_run {as : List ConnAction} {s : ConnState}
    (h : ((connection config).restrict EntryGone).Run as s) : WaiterInv s ∧ KeysInFlight s := by
  refine h.invariant (I := fun s => WaiterInv s ∧ KeysInFlight s) ?_ ?_
  · rintro s rfl
    refine ⟨waiterInv_new, fun id c hl => ?_⟩
    simp [ConnState.new] at hl
  · rintro s a t ⟨hinv, hkeys⟩ ⟨hstep, hguard⟩
    exact ⟨hinv.step hstep, (hkeys.step_iff hinv hstep).mpr hguard⟩

/-- In a run in which every `send_iq` that ends before its response finds its
entry gone, every key belongs to a call in flight and there are no more keys
than such calls; a next step keeps this exactly when it meets the condition. -/
theorem keysInFlight_iff {as : List ConnAction} {s : ConnState}
    (hrun : ((connection config).restrict EntryGone).Run as s) :
    KeysInFlight s ∧
    (∀ live : Finset CallId,
      (∀ c call, s.calls c = some call → call.stage.InFlight → c ∈ live) →
      s.waiters.keys.length ≤ live.card) ∧
    ∀ a t, (connection config).step s a t → (KeysInFlight t ↔ EntryGone s a) := by
  obtain ⟨hinv, hkeys⟩ := keysInFlight_of_run hrun
  exact ⟨hkeys, hkeys.length_le hinv, fun _ _ hstep => hkeys.step_iff hinv hstep⟩

/-- A `send_iq` has registered its waiter and queued its request. -/
theorem queued_iq_run (config : ConnectionConfig) {S : System ConnState ConnAction}
    (hinit : S.init .new)
    (hstep : ∀ s a t, ConnStep config s a t → EntryGone s a → S.step s a t) :
    ∃ as s call, S.Run as s ∧ s.calls 0 = some call ∧ call.stage = .sending ∧
      call.sendResult = .empty ∧ s.waiters.lookup "waepic_0" = some 0 := by
  have h0 : S.Run [] .new := .start hinit
  have h1 := h0.tail (hstep _ (.sendIq 0 (pingSpec none)) _ (.sendIqGenerated rfl rfl rfl) trivial)
  have h2 := h1.tail (hstep _ (.register 0 "waepic_0") _ (.register rfl rfl rfl) trivial)
  have h3 := h2.tail (hstep _ (.enqueue 0) _ (.enqueue rfl (Or.inl rfl) nofun) nofun)
  exact ⟨_, _, _, h3, rfl, rfl, rfl, rfl⟩

omit [WacoreBinary] in
theorem keysInFlight_iff_queued_iq :
    letI := plainWacore
    ∃ as s, ((connection ⟨true⟩).restrict EntryGone).Run as s ∧
      s.waiters.lookup "waepic_0" = some 0 ∧ KeysInFlight s := by
  let _ := plainWacore
  obtain ⟨as, s, call, hrun, -, -, -, hl⟩ := queued_iq_run ⟨true⟩
    (S := (connection ⟨true⟩).restrict EntryGone) rfl fun _ _ _ h hg => ⟨h, hg⟩
  exact ⟨as, s, hrun, hl, (keysInFlight_iff hrun).1⟩

omit [WacoreBinary] in
/-- While the runner does not serve commands the send times out, and the entry
stays. -/
theorem keysInFlight_fails_after_timeout :
    ¬ ∀ (w : WacoreBinary) config as s, (@connection w config).Run as s → KeysInFlight s := by
  let _ := plainWacore
  intro h
  obtain ⟨as, s, call, hrun, hcall, hsending, hempty, hl⟩ := queued_iq_run ⟨true⟩
    (S := connection ⟨true⟩) rfl fun _ _ _ h _ => h
  have htimeout := hrun.tail (show ConnStep ⟨true⟩ s (.sendTimeout 0) _ from
    .sendTimeout hcall hsending hempty)
  obtain ⟨call', hcall', hlive⟩ := h plainWacore ⟨true⟩ _ _ htimeout "waepic_0" 0 hl
  simp only [ConnState.setCall_calls_self, Option.some.injEq] at hcall'
  rw [← hcall'] at hlive
  cases hiq : call.iq <;> simp [Call.sendReturned, hiq, CallStage.InFlight] at hlive

end Waepic.Connection
