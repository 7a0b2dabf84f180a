import Waepic.Connection.SendNode

/-!
# Responses

A response reaches the call whose waiter is in the map, so a call receives a
node exactly when the node is the first IQ with its id after the call registered,
and no cleanup and no other registration of the id came between
(`response_iff`).  A waiter is registered before the request is queued, and the
request outlives the connection: a cleanup that runs while it is queued drains
the waiter, and the response on the next connection finds none.
-/

namespace Waepic.Connection

open Transition Binary

variable [WacoreBinary] {config : ConnectionConfig}

/-! ## The entry of an id -/

/-- None of the actions changes the entry of `id`. -/
def Undisturbed (id : String) (as : List ConnAction) : Prop := ∀ a ∈ as, ¬ Disturbs id a

theorem Undisturbed.concat {id : String} {as : List ConnAction} {a : ConnAction}
    (h : Undisturbed id as) (ha : ¬ Disturbs id a) : Undisturbed id (as ++ [a]) := by
  intro b hb
  rcases List.mem_append.mp hb with hb | hb
  · exact h b hb
  · rw [List.mem_singleton.mp hb]
    exact ha

theorem lookup_kept_of_steps {s t : ConnState} {as : List ConnAction} {id : String}
    (h : (connection config).Steps s as t) (hid : Undisturbed id as) :
    t.waiters.lookup id = s.waiters.lookup id := by
  induction h with
  | refl => rfl
  | @tail t u as a _ hstep ih =>
      have ha : ¬ Disturbs id a := hid a (List.mem_append_right _ (List.mem_singleton_self a))
      rw [ConnStep.lookup_kept hstep ha]
      exact ih fun b hb => hid b (List.mem_append_left _ hb)

/-- An entry has been undisturbed since its registration. -/
theorem registered_of_lookup {as : List ConnAction} {s : ConnState}
    (h : (connection config).Run as s) {id : String} {c : CallId} :
    s.waiters.lookup id = some c →
      ∃ bs cs, as = bs ++ .register c id :: cs ∧ Undisturbed id cs := by
  refine h.history_invariant (I := fun as s => s.waiters.lookup id = some c →
    ∃ bs cs, as = bs ++ .register c id :: cs ∧ Undisturbed id cs) ?_ ?_
  · rintro s rfl hl
    simp [ConnState.new] at hl
  · intro as s a t _ ih hstep hl
    by_cases ha : Disturbs id a
    · cases ha with
      | register =>
          cases (ConnStep.lookup_register hstep).symm.trans hl
          exact ⟨as, [], rfl, List.forall_mem_nil _⟩
      | frame hn =>
          rw [ConnStep.lookup_frame hstep hn] at hl
          cases hl
      | cleanup =>
          rw [ConnStep.lookup_cleanup id hstep] at hl
          cases hl
    · obtain ⟨bs, cs, rfl, hcs⟩ := ih (ConnStep.lookup_kept hstep ha ▸ hl)
      exact ⟨bs, cs ++ [a], by simp, hcs.concat ha⟩

theorem lookup_of_registered {bs cs : List ConnAction} {s : ConnState} {id : String} {c : CallId}
    (h : (connection config).Run (bs ++ .register c id :: cs) s) (hcs : Undisturbed id cs) :
    s.waiters.lookup id = some c := by
  obtain ⟨_, t, _, hregister, hsteps⟩ := h.split_step
  rw [lookup_kept_of_steps hsteps hcs, ConnStep.lookup_register hregister]

/-! ## What a call receives -/

/-- A slot that has a response keeps it. -/
theorem ConnStep.response_kept {s t : ConnState} {a : ConnAction} {c : CallId} {call : Call}
    {r : Result Node} (h : ConnStep config s a t) (hcall : s.calls c = some call)
    (hfilled : call.response = .filled r) :
    ∃ call', t.calls c = some call' ∧ CallStep (a = .drop c) call call' ∧
      call'.response = .filled r := by
  obtain ⟨call', hcall', hmoves, heffect⟩ := h.call_step hcall
  refine ⟨call', hcall', hmoves, ?_⟩
  cases heffect with
  | kept hresponse => rw [hresponse, hfilled]
  | resolved _ _ _ hresponse => rw [hresponse, hfilled]; rfl
  | drained _ _ hresponse => rw [hresponse, hfilled]; rfl
  | replaced _ _ _ hresponse => rw [hresponse, hfilled]; rfl

/-- A frame with the id of an entry gives its node to the call. -/
theorem ConnStep.frame_response {s t : ConnState} {n : Node} {id : String} {c : CallId}
    (hinv : WaiterInv s) (h : ConnStep config s (.frame n) t)
    (hn : (routeNode n).waiter = some id) (hl : s.waiters.lookup id = some c) :
    ∃ call, s.calls c = some call ∧
      t.calls c = some { call with response := .filled (.ok n) } := by
  obtain ⟨call, hcall, -, -, hempty⟩ := hinv.entry id c hl
  cases h with
  | frameOther _ hwaiter =>
      rw [hn] at hwaiter
      cases hwaiter
  | frameIq _ hwaiter =>
      rw [hn] at hwaiter
      cases hwaiter
      refine ⟨call, hcall, ?_⟩
      rw [ConnState.setPhase_calls, ConnState.resolveWaiter_calls, if_pos hl, hcall]
      simp [hempty, Slot.fill]

/-- A call received `n` exactly when `n` is an IQ that came while the entry of its
registration was undisturbed. -/
theorem response_iff {as : List ConnAction} {s : ConnState} (h : (connection config).Run as s)
    {c : CallId} {call : Call} {id : String} (hcall : s.calls c = some call)
    (hid : call.iqId = some id) {n : Node} (hn : (routeNode n).waiter = some id) :
    call.response = .filled (.ok n) ↔
      ∃ bs cs ds, as = bs ++ .register c id :: cs ++ .frame n :: ds ∧ Undisturbed id cs := by
  constructor
  · revert call
    refine h.history_invariant (I := fun as s => ∀ {call : Call}, s.calls c = some call →
      call.iqId = some id → call.response = .filled (.ok n) →
      ∃ bs cs ds, as = bs ++ .register c id :: cs ++ .frame n :: ds ∧ Undisturbed id cs) ?_ ?_
    · rintro s rfl call hcall
      cases hcall
    · intro as s a t hrun ih hstep call' hcall' hid' hfilled
      obtain ⟨call, hcall, hiq, hcases⟩ :=
        ConnStep.received_cases (waiterInv_of_run hrun) hstep hcall' hfilled
      rw [Call.iqId, hiq] at hid'
      rcases hcases with hbefore | ⟨id', rfl, hwaiter, -, hl⟩
      · obtain ⟨bs, cs, ds, rfl, hcs⟩ := ih hcall hid' hbefore
        exact ⟨bs, cs, ds ++ [a], by simp, hcs⟩
      · rw [hn] at hwaiter
        cases hwaiter
        obtain ⟨bs, cs, rfl, hcs⟩ := registered_of_lookup hrun hl
        exact ⟨bs, cs, [], rfl, hcs⟩
  · rintro ⟨bs, cs, ds, rfl, hcs⟩
    obtain ⟨s₁, s₂, hrun, hframe, hsteps⟩ := h.split_step
    obtain ⟨call₁, -, hcall₂⟩ := ConnStep.frame_response (waiterInv_of_run hrun) hframe hn
      (lookup_of_registered hrun hcs)
    have hkept : ∃ call', s.calls c = some call' ∧ call'.response = .filled (.ok n) := by
      refine hsteps.preserves (I := fun s => ∃ call', s.calls c = some call' ∧
        call'.response = .filled (.ok n)) ?_ ⟨_, hcall₂, rfl⟩
      rintro u a v ⟨call', hcall', hfilled⟩ hstep
      obtain ⟨call'', hcall'', -, hfilled''⟩ := ConnStep.response_kept hstep hcall' hfilled
      exact ⟨call'', hcall'', hfilled''⟩
    obtain ⟨call', hcall', hfilled⟩ := hkept
    rw [hcall] at hcall'
    cases hcall'
    exact hfilled

/-! ## Resolution -/

/-- A `send_iq` that has its response is on the way to return it, or was dropped. -/
structure Call.Resolving (call : Call) (n : Node) : Prop where
  iq : call.iq ≠ none
  response : call.response = .filled (.ok n)
  stage :
    call.stage = .sending ∧ call.sendResult = .filled (.ok ()) ∨ call.stage = .awaiting ∨
      call.stage = .returned (call.responded (.ok n)) ∨ call.stage = .dropped

/-- Such a call returns the response and nothing else. -/
theorem Call.Resolving.step {dropped : Prop} {call call' : Call} {n : Node}
    (h : call.Resolving n) (hmoves : CallStep dropped call call') : call'.Resolving n := by
  obtain ⟨hiq, hresponse, hstage⟩ := h
  -- the answer of its send has not gone
  have hanswer : call.stage = .sending → call.sendResult = .filled (.ok ()) := by
    intro hs
    rcases hstage with ⟨-, hsent⟩ | hs' | hs' | hs'
    · exact hsent
    all_goals
      rw [hs] at hs'
      cases hs'
  cases hmoves with
  | same => exact ⟨hiq, hresponse, hstage⟩
  | register hs => simp [hs] at hstage
  | enqueue hs => rcases hs with hs | ⟨hs, -⟩ <;> simp [hs] at hstage
  | refused hs => rcases hs with hs | ⟨hs, -⟩ <;> simp [hs] at hstage
  | answered hs hfilled =>
      cases hfilled.symm.trans (hanswer hs)
      refine ⟨hiq, hresponse, Or.inr (Or.inl ?_)⟩
      obtain ⟨iq, hiq⟩ := Option.ne_none_iff_exists'.mp hiq
      simp [Call.sendReturned, hiq]
  | abandoned hs hclosed => cases hclosed.symm.trans (hanswer hs)
  | timedOut hs hempty => cases hempty.symm.trans (hanswer hs)
  | responded _ hfilled =>
      cases hfilled.symm.trans hresponse
      exact ⟨hiq, hresponse, Or.inr (Or.inr (Or.inl rfl))⟩
  | responseAbandoned _ hclosed => cases hclosed.symm.trans hresponse
  | responseTimedOut _ hempty => cases hempty.symm.trans hresponse
  | drop _ _ => exact ⟨hiq, hresponse, Or.inr (Or.inr (Or.inr rfl))⟩
  | fillSend r =>
      refine ⟨hiq, hresponse, hstage.imp_left fun hsending => ⟨hsending.1, ?_⟩⟩
      rw [hsending.2]
      rfl
  | closeSend =>
      refine ⟨hiq, hresponse, hstage.imp_left fun hsending => ⟨hsending.1, ?_⟩⟩
      rw [hsending.2]
      rfl
  | fillResponse r =>
      refine ⟨hiq, ?_, hstage⟩
      rw [hresponse]
      rfl
  | closeResponse =>
      refine ⟨hiq, ?_, hstage⟩
      rw [hresponse]
      rfl

/-- The call `c` has the response `n`, and if it has returned, then with what its
spec makes of `n`. -/
def ResolvedWith (s : ConnState) (c : CallId) (n : Node) : Prop :=
  ∃ call, s.calls c = some call ∧ call.response = .filled (.ok n) ∧
    ∀ r, call.stage = .returned r → r = call.responded (.ok n)

theorem Call.Resolving.resolvedWith {s : ConnState} {c : CallId} {call : Call} {n : Node}
    (h : call.Resolving n) (hcall : s.calls c = some call) : ResolvedWith s c n := by
  refine ⟨call, hcall, h.response, fun r hr => ?_⟩
  rcases h.stage with ⟨hs, -⟩ | hs | hs | hs <;> rw [hr] at hs <;> cases hs
  rfl

theorem Call.Resolving.steps {s t : ConnState} {as : List ConnAction} {c : CallId} {call : Call}
    {n : Node} (h : call.Resolving n) (hcall : s.calls c = some call)
    (hsteps : (connection config).Steps s as t) : ResolvedWith t c n := by
  have hall : ∃ call, t.calls c = some call ∧ call.Resolving n := by
    refine hsteps.preserves (I := fun t => ∃ call, t.calls c = some call ∧ call.Resolving n) ?_
      ⟨call, hcall, h⟩
    rintro u a v ⟨call, hcall, h⟩ hstep
    obtain ⟨call', hcall', hmoves, -⟩ := ConnStep.response_kept hstep hcall h.response
    exact ⟨call', hcall', h.step hmoves⟩
  obtain ⟨call', hcall', h'⟩ := hall
  exact h'.resolvedWith hcall'

/-- A result or error IQ with this id. -/
structure IsResponse (n : Node) (id : String) : Prop where
  tag : n.tag = "iq"
  type : n.attrText "type" = some "result" ∨ n.attrText "type" = some "error"
  id : n.attrText "id" = some id

theorem IsResponse.waiter {n : Node} {id : String} (h : IsResponse n id) :
    (routeNode n).waiter = some id := by
  refine routeNode_waiter_iff.mpr ⟨h.tag, ?_, h.id⟩
  rcases h.type with htype | htype <;> rw [htype] <;> decide

/-- A request that the transport accepted was answered with `Ok`. -/
theorem sendResult_of_accepted {as : List ConnAction} {s : ConnState}
    (h : (connection config).Run as s) {c : CallId} {call : Call} {k : Nat}
    (hcall : s.calls c = some call) (hwritten : (c, k) ∈ s.accepted) :
    call.sendResult = .filled (.ok ()) := by
  have hplace := sendPlace_of_run h c
  have haccepted : (s.sendView config c).accepted ≠ 0 :=
    (List.count_pos_iff.mpr (List.mem_map_of_mem (f := Prod.fst) hwritten)).ne'
  have hslot : (s.sendView config c).slot = call.sendResult := by simp [ConnState.sendView, hcall]
  rw [← hslot]
  generalize s.sendView config c = v at hplace haccepted
  cases hplace with
  | accepted _ => rfl
  | _ => exact absurd rfl haccepted

/-- A response on the connection on which the request was written, while the call
awaits, resolves the call for good exactly when it is the first IQ with the id
since the call registered, and no cleanup and no other registration of the id
came between. -/
theorem iq_response_iff {as : List ConnAction} {s t : ConnState}
    (hrun : (connection config).Run as s) {c : CallId} {call : Call} {id : String} {n : Node}
    (hcall : s.calls c = some call) (hid : call.iqId = some id)
    (hstage : call.stage = .sending ∨ call.stage = .awaiting)
    (hwritten : (c, s.runner.connection) ∈ s.accepted) (hn : IsResponse n id)
    (hstep : (connection config).step s (.frame n) t) :
    (∀ bs u, (connection config).Steps t bs u → ResolvedWith u c n) ↔
      ∃ bs cs ds, as ++ [.frame n] = bs ++ .register c id :: cs ++ .frame n :: ds ∧
        Undisturbed id cs := by
  obtain ⟨call', hcall'⟩ := ConnStep.calls_kept hstep hcall
  have hmoves : call'.iq = call.iq ∧ call'.stage = call.stage ∧
      call'.sendResult = call.sendResult := by
    cases hstep with
    | frameOther _ _ =>
        rw [show call' = call from Option.some.inj (hcall'.symm.trans hcall)]
        exact ⟨rfl, rfl, rfl⟩
    | frameIq _ _ =>
        rw [ConnState.setPhase_calls, ConnState.resolveWaiter_calls, hcall] at hcall'
        split at hcall' <;> cases hcall' <;> exact ⟨rfl, rfl, rfl⟩
  obtain ⟨hiq, hsame, hsend⟩ := hmoves
  have hid' : call'.iqId = some id := by rw [Call.iqId, hiq]; exact hid
  rw [← response_iff (hrun.tail hstep) hcall' hid' hn.waiter]
  constructor
  · intro hall
    obtain ⟨call₀, hcall₀, hfilled, -⟩ := hall [] t .refl
    rw [hcall'] at hcall₀
    cases hcall₀
    exact hfilled
  · intro hfilled bs u hsteps
    refine Call.Resolving.steps ⟨?_, hfilled, ?_⟩ hcall' hsteps
    · intro hnone
      rw [Call.iqId, hnone] at hid'
      cases hid'
    · rw [hsame, hsend, sendResult_of_accepted hrun hcall hwritten]
      rcases hstage with hs | hs
      · exact Or.inl ⟨hs, rfl⟩
      · exact Or.inr (Or.inl hs)

omit [WacoreBinary] in
theorem iq_response_iff_connected :
    letI := plainWacore
    ∃ as s, (connection ⟨true⟩).Run as s ∧ ∃ t, ConnStep ⟨true⟩ s (.frame (resultIq "waepic_0")) t ∧
      ∀ bs u, (connection ⟨true⟩).Steps t bs u → ResolvedWith u 0 (resultIq "waepic_0") := by
  let _ := plainWacore
  have h0 : (connection ⟨true⟩).Run [] .new := .start rfl
  have h1 := h0.tail (show ConnStep ⟨true⟩ _ (.move .top) _ from .move (.connect rfl rfl))
  have h2 := h1.tail (show ConnStep ⟨true⟩ _ (.move .connected) _ from .move (.connected rfl))
  have h3 := h2.tail (show ConnStep ⟨true⟩ _ (.sendIq 0 (pingSpec none)) _ from
    .sendIqGenerated rfl rfl rfl)
  have h4 := h3.tail (show ConnStep ⟨true⟩ _ (.register 0 "waepic_0") _ from .register rfl rfl rfl)
  have h5 := h4.tail (show ConnStep ⟨true⟩ _ (.enqueue 0) _ from .enqueue rfl (Or.inl rfl) nofun)
  have h6 := h5.tail (show ConnStep ⟨true⟩ _ (.takeNode 0) _ from .takeNode rfl rfl)
  have h7 := h6.tail (show ConnStep ⟨true⟩ _ (.handOver 0) _ from .handOver rfl)
  have h8 := h7.tail (show ConnStep ⟨true⟩ _ (.transportSent 0 (.ok ())) _ from
    .transportAccepts rfl)
  have h9 := h8.tail (show ConnStep ⟨true⟩ _ (.sendAnswered 0) _ from .sendAnswered rfl rfl rfl)
  refine ⟨_, _, h9, _, .frameIq rfl rfl, ?_⟩
  refine (iq_response_iff h9 rfl rfl (Or.inr rfl) (List.mem_cons_self ..)
    ⟨rfl, Or.inl rfl, rfl⟩ (.frameIq rfl rfl)).mpr ?_
  refine ⟨[_, _, _], [_, _, _, _, _], [], rfl, ?_⟩
  simp only [Undisturbed, List.forall_mem_cons]
  exact ⟨nofun, nofun, nofun, nofun, nofun, nofun⟩

omit [WacoreBinary] in
/-- A connection ends while the request waits in the queue; the request is
written on the next one, and its response finds no waiter. -/
theorem iq_response_lost_after_reconnect :
    ¬ ∀ (w : WacoreBinary) config as s c call id n t, (@connection w config).Run as s →
      s.calls c = some call → call.iqId = some id →
      call.stage = .sending ∨ call.stage = .awaiting →
      (c, s.runner.connection) ∈ s.accepted → IsResponse n id →
      (@connection w config).step s (.frame n) t → @ResolvedWith w t c n := by
  let _ := plainWacore
  intro h
  have h0 : (connection ⟨true⟩).Run [] .new := .start rfl
  have h1 := h0.tail (show ConnStep ⟨true⟩ _ (.move .top) _ from .move (.connect rfl rfl))
  have h2 := h1.tail (show ConnStep ⟨true⟩ _ (.move .connected) _ from .move (.connected rfl))
  have h3 := h2.tail (show ConnStep ⟨true⟩ _ (.sendIq 0 (pingSpec none)) _ from
    .sendIqGenerated rfl rfl rfl)
  have h4 := h3.tail (show ConnStep ⟨true⟩ _ (.register 0 "waepic_0") _ from .register rfl rfl rfl)
  have h5 := h4.tail (show ConnStep ⟨true⟩ _ (.enqueue 0) _ from .enqueue rfl (Or.inl rfl) nofun)
  have h6 := h5.tail (show ConnStep ⟨true⟩ _ (.move .transportClosed) _ from
    .move (.transportClosed (e := .notConnected) rfl))
  have h7 := h6.tail (show ConnStep ⟨true⟩ _ .cleanup _ from .cleanup rfl)
  have h8 := h7.tail (show ConnStep ⟨true⟩ _ (.move .ended) _ from .move (.endedError rfl))
  have h9 := h8.tail (show ConnStep ⟨true⟩ _ (.move .delayElapsed) _ from .move (.delayElapsed rfl))
  have h10 := h9.tail (show ConnStep ⟨true⟩ _ (.move .top) _ from .move (.connect rfl rfl))
  have h11 := h10.tail (show ConnStep ⟨true⟩ _ (.move .connected) _ from .move (.connected rfl))
  have h12 := h11.tail (show ConnStep ⟨true⟩ _ (.takeNode 0) _ from .takeNode rfl rfl)
  have h13 := h12.tail (show ConnStep ⟨true⟩ _ (.handOver 0) _ from .handOver rfl)
  have h14 := h13.tail (show ConnStep ⟨true⟩ _ (.transportSent 0 (.ok ())) _ from
    .transportAccepts rfl)
  obtain ⟨call, hcall, hfilled, -⟩ := h plainWacore ⟨true⟩ _ _ 0 _ "waepic_0"
    (resultIq "waepic_0") _ h14 rfl rfl (Or.inl rfl) (List.mem_cons_self ..)
    ⟨rfl, Or.inl rfl, rfl⟩ (.frameIq rfl rfl)
  have hdrained : call.response = .filled (.error .notConnected) := by
    cases hcall
    rfl
  rw [hdrained] at hfilled
  cases hfilled

end Waepic.Connection
