import Waepic.Connection.Waiters

/-!
# Correlation of responses

The ids of `next_iq_id` are numbered by a counter that every handle shares, so
until it wraps no two calls get one id, and none gets an id that a spec supplied
itself unless the spec imitates the form.  Under these conditions (`IdsDistinct`)
a registration replaces nothing, a frame answers one call at most, and what a
call receives carries its id.
-/

namespace Waepic.Connection

open Transition Binary

variable [WacoreBinary] {config : ConnectionConfig}

/-! ## Ids of a run -/

/-- The ids that the specs of a run supplied. -/
def suppliedIds (as : List ConnAction) : List String :=
  as.filterMap fun
    | .sendIq _ spec => spec.query.id
    | _ => none

/-- The calls of a run that took the next id. -/
def generatedCount (as : List ConnAction) : Nat :=
  as.countP fun
    | .sendIq _ spec => spec.query.id.isNone
    | _ => false

/-- The supplied ids are distinct and not of the generated form, and the counter
has not wrapped. -/
structure IdsDistinct (as : List ConnAction) : Prop where
  nodup : (suppliedIds as).Nodup
  supplied : ∀ id ∈ suppliedIds as, ∀ n, id ≠ iqIdOf n
  bounded : generatedCount as < 2 ^ 64

omit [WacoreBinary] in
theorem suppliedIds_append (as bs : List ConnAction) :
    suppliedIds (as ++ bs) = suppliedIds as ++ suppliedIds bs :=
  List.filterMap_append

omit [WacoreBinary] in
theorem generatedCount_append (as bs : List ConnAction) :
    generatedCount (as ++ bs) = generatedCount as + generatedCount bs :=
  List.countP_append

omit [WacoreBinary] in
theorem IdsDistinct.init {as bs : List ConnAction} (h : IdsDistinct (as ++ bs)) :
    IdsDistinct as where
  nodup := by
    have := h.nodup
    rw [suppliedIds_append] at this
    exact (List.nodup_append.mp this).1
  supplied := fun id hid =>
    h.supplied id (by rw [suppliedIds_append]; exact List.mem_append_left _ hid)
  bounded := by
    have := h.bounded
    rw [generatedCount_append] at this
    omega

omit [WacoreBinary] in
/-- The form of a generated id determines the counter. -/
theorem iqIdOf_inj {m n : Nat} (h : iqIdOf m = iqIdOf n) : m = n := by
  have hrepr : m.repr = n.repr := (String.append_right_inj _).mp h
  calc m = Nat.ofDigitChars 10 m.repr.toList 0 := by
        rw [Nat.toList_repr, Nat.ofDigitChars_ten_toDigits]
    _ = Nat.ofDigitChars 10 n.repr.toList 0 := by rw [hrepr]
    _ = n := by rw [Nat.toList_repr, Nat.ofDigitChars_ten_toDigits]

/-! ## Ids of calls -/

/-- Where the ids of the calls come from. -/
structure IdInv (as : List ConnAction) (s : ConnState) : Prop where
  counter : s.iqIdCounter.toNat = generatedCount as
  origin : ∀ c call id, s.calls c = some call → call.iqId = some id →
    id ∈ suppliedIds as ∨ ∃ n < generatedCount as, id = iqIdOf n
  distinct : ∀ c d call call' id, s.calls c = some call → s.calls d = some call' →
    call.iqId = some id → call'.iqId = some id → c = d

theorem ConnStep.counter_step {s t : ConnState} {a : ConnAction} (h : ConnStep config s a t)
    {as : List ConnAction} (hids : IdsDistinct (as ++ [a]))
    (hcounter : s.iqIdCounter.toNat = generatedCount as) :
    t.iqIdCounter.toNat = generatedCount (as ++ [a]) := by
  have hbound := hids.bounded
  rw [generatedCount_append] at hbound ⊢
  cases h with
  | sendIqSupplied _ _ hid => simpa [generatedCount, hid] using hcounter
  | @sendIqGenerated c spec _ _ hid =>
      have hone : generatedCount [.sendIq c spec] = 1 := by simp [generatedCount, hid]
      rw [hone] at hbound ⊢
      simp only [UInt64.toNat_add, hcounter]
      exact Nat.mod_eq_of_lt hbound
  | register _ _ _ => simpa [generatedCount] using hcounter
  | frameIq _ _ => simpa [generatedCount] using hcounter
  | _ => exact hcounter

/-- A step gives no id twice. -/
theorem IdInv.step {as : List ConnAction} {s t : ConnState} {a : ConnAction}
    (hinv : IdInv as s) (hids : IdsDistinct (as ++ [a])) (h : ConnStep config s a t) :
    IdInv (as ++ [a]) t := by
  -- the id of a call that starts is none of the ids so far
  have hnew : ∀ c call id, Starts s c call a → call.iqId = some id →
      (id ∈ suppliedIds [a] ∨ id = iqIdOf (generatedCount as) ∧ generatedCount [a] = 1) ∧
      id ∉ suppliedIds as ∧ ∀ n < generatedCount as, id ≠ iqIdOf n := by
    intro c call id hstarts hid
    have hnodup := hids.nodup
    rw [suppliedIds_append] at hnodup
    cases hstarts with
    | node hcall =>
        rw [hcall] at hid
        cases hid
    | @supplied spec id' hsupplied hcall =>
        rw [hcall] at hid
        have hsame : id' = id := Option.some.inj hid
        subst hsame
        have hmem : id' ∈ suppliedIds [.sendIq c spec] := by simp [suppliedIds, hsupplied]
        refine ⟨Or.inl hmem, fun hold => ?_, fun n _ => ?_⟩
        · exact (List.nodup_append.mp hnodup).2.2 id' hold id' hmem rfl
        · exact hids.supplied id' (by rw [suppliedIds_append]; exact List.mem_append_right _ hmem) n
    | @generated spec hnone hcall =>
        rw [hcall] at hid
        have hsame : iqIdOf s.iqIdCounter.toNat = id := Option.some.inj hid
        subst hsame
        rw [hinv.counter]
        refine ⟨Or.inr ⟨rfl, by simp [generatedCount, hnone]⟩, fun hold => ?_, fun n hn he => ?_⟩
        · have hmem : iqIdOf (generatedCount as) ∈ suppliedIds (as ++ [.sendIq c spec]) := by
            rw [suppliedIds_append]
            exact List.mem_append_left _ hold
          exact hids.supplied _ hmem _ rfl
        · exact absurd (iqIdOf_inj he) hn.ne'
  refine ⟨h.counter_step hids hinv.counter, fun c call id hc hid => ?_,
    fun c d call call' id hc hd hid hid' => ?_⟩
  · rw [suppliedIds_append, generatedCount_append]
    rcases h.call_cases hc with ⟨-, hstarts⟩ | ⟨call₀, hcall₀, hmoves, -⟩
    · rcases (hnew c call id hstarts hid).1 with hmem | ⟨he, hone⟩
      · exact Or.inl (List.mem_append_right _ hmem)
      · exact Or.inr ⟨_, by omega, he⟩
    · rw [Call.iqId, hmoves.iq] at hid
      rcases hinv.origin c call₀ id hcall₀ hid with hmem | ⟨n, hn, he⟩
      · exact Or.inl (List.mem_append_left _ hmem)
      · exact Or.inr ⟨n, by omega, he⟩
  · rcases h.call_cases hc with ⟨-, hstarts⟩ | ⟨call₀, hcall₀, hmoves, -⟩
    · rcases h.call_cases hd with ⟨-, hstarts'⟩ | ⟨call₁, hcall₁, hmoves₁, -⟩
      · cases hstarts <;> cases hstarts' <;> rfl
      · rw [Call.iqId, hmoves₁.iq] at hid'
        obtain ⟨-, hsup, hgen⟩ := hnew c call id hstarts hid
        rcases hinv.origin d call₁ id hcall₁ hid' with hmem | ⟨n, hn, he⟩
        · exact absurd hmem hsup
        · exact absurd he (hgen n hn)
    · rw [Call.iqId, hmoves.iq] at hid
      rcases h.call_cases hd with ⟨-, hstarts'⟩ | ⟨call₁, hcall₁, hmoves₁, -⟩
      · obtain ⟨-, hsup, hgen⟩ := hnew d call' id hstarts' hid'
        rcases hinv.origin c call₀ id hcall₀ hid with hmem | ⟨n, hn, he⟩
        · exact absurd hmem hsup
        · exact absurd he (hgen n hn)
      · rw [Call.iqId, hmoves₁.iq] at hid'
        exact hinv.distinct c d call₀ call₁ id hcall₀ hcall₁ hid hid'

theorem idInv_of_run {as : List ConnAction} {s : ConnState} (h : (connection config).Run as s) :
    IdsDistinct as → IdInv as s := by
  refine h.history_invariant (I := fun as s => IdsDistinct as → IdInv as s) ?_ ?_
  · rintro s rfl -
    exact ⟨rfl, fun c call id hc => (by cases hc), fun c d call call' id hc => (by cases hc)⟩
  · intro as s a t _ ih hstep hids
    exact (ih hids.init).step hids hstep

/-! ## Received nodes -/

/-- What a call received carries its id. -/
def ReceivedOwn (s : ConnState) : Prop :=
  ∀ c call n, s.calls c = some call → call.response = .filled (.ok n) →
    ∃ id, call.iqId = some id ∧ n.attrText "id" = some id

theorem ReceivedOwn.step {s t : ConnState} {a : ConnAction} (hinv : WaiterInv s)
    (hown : ReceivedOwn s) (h : ConnStep config s a t) : ReceivedOwn t := by
  intro c call' n hc hfilled
  obtain ⟨call, hcall, hiq, hcases⟩ := h.received_cases hinv hc hfilled
  rw [Call.iqId, hiq]
  rcases hcases with hbefore | ⟨id, -, hwaiter, hid, -⟩
  · exact hown c call n hcall hbefore
  · exact ⟨id, hid, routeNode_waiter_id hwaiter⟩

theorem receivedOwn_of_run {as : List ConnAction} {s : ConnState}
    (h : (connection config).Run as s) : ReceivedOwn s := by
  have hboth : WaiterInv s ∧ ReceivedOwn s := by
    refine h.invariant (I := fun s => WaiterInv s ∧ ReceivedOwn s) ?_ ?_
    · rintro s rfl
      exact ⟨waiterInv_new, fun c call n hc => (by cases hc)⟩
    · rintro s a t ⟨hinv, hown⟩ hstep
      exact ⟨hinv.step hstep, hown.step hinv hstep⟩
  exact hboth.2

/-! ## Correlation -/

/-- The step from `s` to `t` gives the call `c` its response. -/
def ReceivesNow (s t : ConnState) (c : CallId) : Prop :=
  (∃ call, s.calls c = some call ∧ call.response = .empty) ∧
    ∃ call' n, t.calls c = some call' ∧ call'.response = .filled (.ok n)

/-- A frame answers the call that waits for its id. -/
theorem ReceivesNow.lookup {s t : ConnState} {m : Node} {c : CallId}
    (h : ConnStep config s (.frame m) t) (hnow : ReceivesNow s t c) :
    ∃ id, (routeNode m).waiter = some id ∧ s.waiters.lookup id = some c := by
  obtain ⟨⟨call, hcall, hempty⟩, call', n, hcall', hfilled⟩ := hnow
  rcases h.call_cases hcall' with ⟨hnone, -⟩ | ⟨call₀, hcall₀, -, heffect⟩
  · rw [hcall] at hnone
    cases hnone
  · rw [hcall] at hcall₀
    cases hcall₀
    cases heffect with
    | kept hresponse =>
        rw [hresponse, hempty] at hfilled
        cases hfilled
    | resolved ha hwaiter hl _ =>
        cases ha
        exact ⟨_, hwaiter, hl⟩
    | drained ha _ _ => cases ha
    | replaced ha _ _ _ => cases ha

/-- In every run whose ids are distinct a registration replaces no entry, a
frame answers one call at most, and every node that a call received carries the
id of that call. -/
theorem iq_correlation {as : List ConnAction} {s : ConnState}
    (hrun : (connection config).Run as s) (hids : IdsDistinct as) :
    (∀ c id t, (connection config).step s (.register c id) t → s.waiters.lookup id = none) ∧
    (∀ n t, (connection config).step s (.frame n) t →
      ∀ c d, ReceivesNow s t c → ReceivesNow s t d → c = d) ∧
    ∀ c call n, s.calls c = some call → call.response = .filled (.ok n) →
      ∃ id, call.iqId = some id ∧ n.attrText "id" = some id := by
  have hinv := waiterInv_of_run hrun
  have hid := idInv_of_run hrun hids
  refine ⟨fun c id t hstep => ?_, fun n t hstep c d hc hd => ?_, receivedOwn_of_run hrun⟩
  · obtain ⟨call, hcall, hcreated, hiq, -⟩ := ConnStep.register_inv hstep
    refine Option.eq_none_iff_forall_not_mem.mpr fun d hl => ?_
    -- the entry would belong to a call with this id, which is the one that registers
    obtain ⟨call', hcall', hiq', hstage, -⟩ := hinv.entry id d hl
    have hcd := hid.distinct c d call call' id hcall hcall' hiq hiq'
    subst hcd
    rw [hcall] at hcall'
    cases hcall'
    exact hstage hcreated
  · obtain ⟨id, hwaiter, hl⟩ := hc.lookup hstep
    obtain ⟨id', hwaiter', hl'⟩ := hd.lookup hstep
    rw [hwaiter] at hwaiter'
    cases hwaiter'
    exact Option.some.inj (hl.symm.trans hl')

omit [WacoreBinary] in
theorem iq_correlation_two_calls :
    letI := plainWacore
    ∃ as s, (connection ⟨true⟩).Run as s ∧ IdsDistinct as ∧
      ∃ call, s.calls 1 = some call ∧ call.response = .filled (.ok (resultIq "s1")) ∧
        ∃ id, call.iqId = some id ∧ (resultIq "s1").attrText "id" = some id := by
  let _ := plainWacore
  have h0 : (connection ⟨true⟩).Run [] .new := .start rfl
  have h1 := h0.tail (show ConnStep ⟨true⟩ _ (.sendIq 0 (pingSpec none)) _ from
    .sendIqGenerated rfl rfl rfl)
  have h2 := h1.tail (show ConnStep ⟨true⟩ _ (.sendIq 1 (pingSpec (some "s1"))) _ from
    .sendIqSupplied rfl rfl rfl)
  have h3 := h2.tail (show ConnStep ⟨true⟩ _ (.register 0 "waepic_0") _ from .register rfl rfl rfl)
  have h4 := h3.tail (show ConnStep ⟨true⟩ _ (.register 1 "s1") _ from .register rfl rfl rfl)
  have h5 := h4.tail (show ConnStep ⟨true⟩ _ (.move .top) _ from .move (.connect rfl rfl))
  have h6 := h5.tail (show ConnStep ⟨true⟩ _ (.move .connected) _ from .move (.connected rfl))
  have h7 := h6.tail (show ConnStep ⟨true⟩ _ (.frame (resultIq "s1")) _ from .frameIq rfl rfl)
  have hids : IdsDistinct [.sendIq 0 (pingSpec none), .sendIq 1 (pingSpec (some "s1")),
      .register 0 "waepic_0", .register 1 "s1", .move .top, .move .connected,
      .frame (resultIq "s1")] := by
    refine ⟨by simp [suppliedIds, pingSpec], fun id hid n he => ?_,
      by simp [generatedCount, pingSpec]⟩
    have hs1 : id = "s1" := by simpa [suppliedIds, pingSpec] using hid
    rw [hs1] at he
    have hhead := congrArg (fun x => x.toList.head?) he
    simp [iqIdOf] at hhead
  exact ⟨_, _, h7, hids, _, rfl, rfl, (iq_correlation h7 hids).2.2 1 _ _ rfl rfl⟩

end Waepic.Connection
