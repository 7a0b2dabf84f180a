import Waepic.Connection.NoiseSocket
import Mathlib.Algebra.Group.Nat.Defs
import Mathlib.Data.List.Chain

/-!
# Nonce uniqueness

The write counter is the nonce of the cipher, so no two different frames may be
handed to the transport under one counter.  `NoncesUnique` says this of the
history of a socket.

The counter is advanced only after a send that succeeded.  A frame whose send
failed, or whose call was dropped, has left the socket as well, and the next
frame is encrypted under the same counter.  So the law holds of a history
exactly when every frame that follows such a send is a retry of the same
plaintext (`OnlyRetries`).

The proof reads the counter off the history (`Counted`): each frame's counter
is the successor of the one before it if that send succeeded, and equal to it
otherwise.
-/

namespace Waepic.Connection

open Transition

/-- No two different frames were encrypted under the same counter. -/
def NoncesUnique (handed : List Handed) : Prop :=
  ∀ a ∈ handed, ∀ b ∈ handed, a.counter = b.counter → a.framed = b.framed

/-- A frame handed over after a send that did not succeed carries the same
plaintext again.  The history is newest first. -/
def OnlyRetries (handed : List Handed) : Prop :=
  handed.IsChain fun later earlier =>
    earlier.outcome = .ok ∨ earlier.plaintext = later.plaintext

/-- `Counted counter handed`: the write counter is `counter` after the sends of
`handed`. -/
def Counted : UInt32 → List Handed → Prop
  | counter, [] => counter = 0
  | counter, frame :: older =>
      frame.counter ≠ u32Max ∧
        counter = (if frame.outcome = .ok then frame.counter + 1 else frame.counter) ∧
        Counted frame.counter older

/-! ## Counters along a history -/

/-- Below the maximum the counter does not wrap. -/
theorem lt_succ_of_ne_u32Max {counter : UInt32} (h : counter ≠ u32Max) :
    counter < counter + 1 := by
  have hne : counter.toNat ≠ 4294967295 := fun he => h (UInt32.toNat_inj.mp he)
  have hlt := counter.toNat_lt
  rw [UInt32.lt_iff_toNat_lt, UInt32.toNat_add]
  have h1 : (1 : UInt32).toNat = 1 := rfl
  omega

theorem Counted.head_lt {counter : UInt32} {frame : Handed} {older : List Handed}
    (h : Counted counter (frame :: older)) (hok : frame.outcome = .ok) :
    frame.counter < counter := by
  obtain ⟨hmax, hcounter, -⟩ := h
  rw [hcounter, if_pos hok]
  exact lt_succ_of_ne_u32Max hmax

theorem Counted.head_eq {counter : UInt32} {frame : Handed} {older : List Handed}
    (h : Counted counter (frame :: older)) (hok : frame.outcome ≠ .ok) :
    counter = frame.counter := by
  obtain ⟨-, hcounter, -⟩ := h
  rw [hcounter, if_neg hok]

theorem Counted.head_le {counter : UInt32} {frame : Handed} {older : List Handed}
    (h : Counted counter (frame :: older)) : frame.counter ≤ counter := by
  rcases eq_or_ne frame.outcome .ok with hok | hok
  · exact UInt32.le_of_lt (h.head_lt hok)
  · rw [h.head_eq hok]
    exact UInt32.le_refl _

/-- Every frame of the history was encrypted at or below the counter. -/
theorem Counted.counter_le {counter : UInt32} {handed : List Handed}
    (h : Counted counter handed) : ∀ frame ∈ handed, frame.counter ≤ counter := by
  induction handed generalizing counter with
  | nil => intro frame hmem; cases hmem
  | cons newest older ih =>
      intro frame hmem
      cases List.mem_cons.mp hmem with
      | inl he => rw [he]; exact h.head_le
      | inr hold => exact UInt32.le_trans (ih h.2.2 frame hold) h.head_le

/-- In a history of retries, one counter carried one plaintext. -/
theorem Counted.plaintext_eq {counter : UInt32} {handed : List Handed}
    (h : Counted counter handed) (hretry : OnlyRetries handed) :
    ∀ a ∈ handed, ∀ b ∈ handed, a.counter = b.counter → a.plaintext = b.plaintext := by
  induction handed generalizing counter with
  | nil => intro a ha; cases ha
  | cons newest older ih =>
      have hold := h.2.2
      have hsame := ih hold (List.isChain_cons.mp hretry).2
      -- the newest frame against an older one
      have hnewest : ∀ b ∈ older, newest.counter = b.counter →
          newest.plaintext = b.plaintext := by
        cases older with
        | nil => intro b hb; cases hb
        | cons previous rest =>
            intro b hb hcounter
            rcases eq_or_ne previous.outcome .ok with hok | hok
            · have hlt := hold.head_lt hok
              have hle : b.counter ≤ previous.counter := by
                cases List.mem_cons.mp hb with
                | inl he => rw [he]; exact UInt32.le_refl _
                | inr hrest => exact hold.2.2.counter_le b hrest
              rw [hcounter] at hlt
              exact absurd (UInt32.lt_of_lt_of_le hlt hle) (UInt32.lt_irrefl _)
            · have hprev : previous.plaintext = newest.plaintext :=
                ((List.isChain_cons_cons.mp hretry).1).resolve_left hok
              have heq : previous.counter = b.counter := by
                rw [← hcounter]; exact (hold.head_eq hok).symm
              exact hprev.symm.trans
                (hsame previous (List.mem_cons_self ..) b hb heq)
      intro a ha b hb hcounter
      cases List.mem_cons.mp ha with
      | inl hae =>
          cases List.mem_cons.mp hb with
          | inl hbe => rw [hae, hbe]
          | inr hb' => rw [hae]; exact hnewest b hb' (hae ▸ hcounter)
      | inr ha' =>
          cases List.mem_cons.mp hb with
          | inl hbe => rw [hbe]; exact (hnewest a ha' (hbe ▸ hcounter.symm)).symm
          | inr hb' => exact hsame a ha' b hb' hcounter

/-! ## The socket invariant -/

/-- What every reachable state of a socket satisfies. -/
structure SocketInv (wire : Wire) (s : SocketState) : Prop where
  /-- The write counter is the one the history gives. -/
  counted : Counted s.writeCounter s.handed
  /-- Every frame is the encryption of its plaintext under its counter. -/
  encrypted : ∀ frame ∈ s.handed,
    encryptAndFrame wire frame.counter frame.plaintext = .ok frame.framed
  /-- A call past the lock holds the guard. -/
  owner : ∀ c stage, s.calls c = some stage → stage.HoldsGuard → s.guard = some c
  /-- A call at its send has handed over the newest frame. -/
  newest : ∀ c, s.calls c = some .sending →
    ∃ frame older, s.handed = frame :: older ∧ frame.outcome = .pending

/-- The outcome of the newest frame decides the counter. -/
theorem Counted.record {counter : UInt32} {frame : Handed} {older : List Handed}
    (h : Counted counter (frame :: older)) (hpending : frame.outcome = .pending)
    (outcome : SendOutcome) :
    Counted (if outcome = .ok then counter + 1 else counter)
      (recordOutcome outcome (frame :: older)) := by
  have hcounter : counter = frame.counter :=
    h.head_eq (by rw [hpending]; decide)
  subst hcounter
  exact ⟨h.1, rfl, h.2.2⟩

theorem encrypted_recordOutcome {wire : Wire} {handed : List Handed} (outcome : SendOutcome)
    (h : ∀ frame ∈ handed, encryptAndFrame wire frame.counter frame.plaintext = .ok frame.framed) :
    ∀ frame ∈ recordOutcome outcome handed,
      encryptAndFrame wire frame.counter frame.plaintext = .ok frame.framed := by
  cases handed with
  | nil => intro frame hmem; cases hmem
  | cons newest older =>
      intro frame hmem
      cases List.mem_cons.mp hmem with
      | inl he => rw [he]; exact h newest (List.mem_cons_self ..)
      | inr hold => exact h frame (List.mem_cons_of_mem _ hold)

/-- Two calls past the lock are one call. -/
theorem SocketInv.holder_unique {wire : Wire} {s : SocketState} (hinv : SocketInv wire s)
    {c d : SenderId} {stage stage' : SendStage} (hc : s.calls c = some stage)
    (hcg : stage.HoldsGuard) (hd : s.calls d = some stage') (hdg : stage'.HoldsGuard) :
    c = d :=
  Option.some.inj ((hinv.owner c stage hc hcg).symm.trans (hinv.owner d stage' hd hdg))

/-- Once the call past the lock has left, no call holds the guard. -/
theorem SocketInv.no_holder {wire : Wire} {s : SocketState} (hinv : SocketInv wire s)
    {c : SenderId} {stage : SendStage} (hc : s.calls c = some stage) (hcg : stage.HoldsGuard)
    (d : SenderId) (stage' : SendStage)
    (hd : Function.update s.calls c none d = some stage') : ¬ stage'.HoldsGuard := by
  intro hguard
  rcases eq_or_ne d c with rfl | hdc
  · simp at hd
  · simp only [Function.update_of_ne hdc] at hd
    exact hdc (hinv.holder_unique hd hguard hc hcg)

/-- A call that leaves at its send records the outcome of the newest frame. -/
theorem SocketInv.leave_sending {wire : Wire} {s : SocketState} (hinv : SocketInv wire s)
    {c : SenderId} (hc : s.calls c = some .sending) (outcome : SendOutcome)
    (returned : SenderId → Option (Result Unit)) :
    SocketInv wire
      { s.leave c with
          writeCounter := if outcome = .ok then s.writeCounter + 1 else s.writeCounter
          handed := recordOutcome outcome s.handed
          returned := returned } := by
  have hnone := hinv.no_holder hc trivial
  obtain ⟨frame, older, hhanded, hpending⟩ := hinv.newest c hc
  refine ⟨?_, encrypted_recordOutcome outcome hinv.encrypted, ?_, ?_⟩
  · have hcounted := hinv.counted
    rw [hhanded] at hcounted
    show Counted _ (recordOutcome outcome s.handed)
    rw [hhanded]
    exact hcounted.record hpending outcome
  · intro d stage hd hguard
    exact absurd hguard (hnone d stage hd)
  · intro d hd
    exact absurd trivial (hnone d .sending hd)

/-- A call that leaves from under the lock changes no history. -/
theorem SocketInv.leave_locked {wire : Wire} {s : SocketState} (hinv : SocketInv wire s)
    {c : SenderId} {plaintext : Bytes} (hc : s.calls c = some (.locked plaintext))
    (r : Result Unit) : SocketInv wire (s.returnWith c r) := by
  have hnone := hinv.no_holder hc trivial
  refine ⟨hinv.counted, hinv.encrypted, ?_, ?_⟩
  · intro d stage hd hguard
    exact absurd hguard (hnone d stage hd)
  · intro d hd
    exact absurd trivial (hnone d .sending hd)

theorem SocketInv.new (wire : Wire) : SocketInv wire .new := by
  refine ⟨rfl, ?_, ?_, ?_⟩
  · intro frame hmem; cases hmem
  · intro c stage hc; cases hc
  · intro c hc; cases hc

/-- Every step keeps the invariant. -/
theorem SocketInv.step {wire : Wire} {s t : SocketState} {a : SocketAction}
    (hinv : SocketInv wire s) (h : SocketStep wire s a t) : SocketInv wire t := by
  cases h with
  | @call c plaintext hfree =>
      refine ⟨hinv.counted, hinv.encrypted, ?_, ?_⟩
      · intro d stage hd hguard
        rcases eq_or_ne d c with rfl | hdc
        · simp only [Function.update_self, Option.some.injEq] at hd
          subst hd
          exact absurd hguard id
        · simp only [Function.update_of_ne hdc] at hd
          exact hinv.owner d stage hd hguard
      · intro d hd
        rcases eq_or_ne d c with rfl | hdc
        · simp at hd
        · simp only [Function.update_of_ne hdc] at hd
          exact hinv.newest d hd
  | @lock c plaintext hwaiting hfree =>
      -- the mutex is free, so no call is past the lock
      have hnone : ∀ d stage, s.calls d = some stage → ¬ stage.HoldsGuard := by
        intro d stage hd hguard
        rw [hinv.owner d stage hd hguard] at hfree
        cases hfree
      refine ⟨hinv.counted, hinv.encrypted, ?_, ?_⟩
      · intro d stage hd hguard
        rcases eq_or_ne d c with rfl | hdc
        · rfl
        · simp only [Function.update_of_ne hdc] at hd
          exact absurd hguard (hnone d stage hd)
      · intro d hd
        rcases eq_or_ne d c with rfl | hdc
        · simp at hd
        · simp only [Function.update_of_ne hdc] at hd
          exact absurd trivial (hnone d .sending hd)
  | exhausted hc _ => exact hinv.leave_locked hc _
  | rejected hc _ _ => exact hinv.leave_locked hc _
  | @handOver c plaintext framed hc hmax henc =>
      refine ⟨⟨hmax, rfl, hinv.counted⟩, ?_, ?_, ?_⟩
      · intro frame hmem
        cases List.mem_cons.mp hmem with
        | inl he => rw [he]; exact henc
        | inr hold => exact hinv.encrypted frame hold
      · intro d stage hd hguard
        rcases eq_or_ne d c with rfl | hdc
        · exact hinv.owner d _ hc trivial
        · simp only [Function.update_of_ne hdc] at hd
          exact hinv.owner d stage hd hguard
      · intro d _
        exact ⟨_, _, rfl, rfl⟩
  | sent hc => exact hinv.leave_sending hc .ok _
  | sendFailed hc => exact hinv.leave_sending hc .failed _
  | @cancelWaiting c plaintext hc =>
      refine ⟨hinv.counted, hinv.encrypted, ?_, ?_⟩
      · intro d stage hd hguard
        rcases eq_or_ne d c with rfl | hdc
        · simp at hd
        · simp only [Function.update_of_ne hdc] at hd
          exact hinv.owner d stage hd hguard
      · intro d hd
        rcases eq_or_ne d c with rfl | hdc
        · simp at hd
        · simp only [Function.update_of_ne hdc] at hd
          exact hinv.newest d hd
  | cancelSending hc => exact hinv.leave_sending hc .cancelled s.returned

theorem socketInv_of_run {wire : Wire} {as : List SocketAction} {s : SocketState}
    (h : (noiseSocket wire).Run as s) : SocketInv wire s :=
  h.invariant (fun s hs => by rw [show s = .new from hs]; exact SocketInv.new wire)
    (fun _ _ _ hinv hstep => hinv.step hstep)

/-! ## A send that is given up -/

/-- A cipher that shifts every byte by the counter, under a three-byte
big-endian length that is refused from `2 ^ 24` bytes on. -/
def shiftWire : Wire where
  encryptInPlaceWithCounter counter plaintext := .ok (plaintext.map (· + counter.toUInt8))
  decryptInPlaceWithCounter counter ciphertext := .ok (ciphertext.map (· - counter.toUInt8))
  encodeFrame buffer :=
    if buffer.length < 2 ^ 24 then
      .ok (UInt8.ofNat (buffer.length / 65536) :: UInt8.ofNat (buffer.length / 256) ::
        UInt8.ofNat buffer.length :: buffer)
    else
      .error "frame too large"

theorem shiftWire_lawful : shiftWire.Lawful where
  decrypt_encrypt := by
    intro counter plaintext ciphertext h
    have hc : plaintext.map (· + counter.toUInt8) = ciphertext := Except.ok.inj h
    subst hc
    have hid : ((· - counter.toUInt8) ∘ (· + counter.toUInt8)) = (id : UInt8 → UInt8) := by
      funext b
      exact UInt8.add_sub_cancel b counter.toUInt8
    show Except.ok _ = Except.ok _
    rw [List.map_map, hid, List.map_id]
  drop_encodeFrame := by
    intro buffer framed h
    by_cases hlen : buffer.length < 2 ^ 24
    · have hf := Except.ok.inj ((if_pos hlen).symm.trans h)
      rw [← hf]
      rfl
    · have hf := (if_neg hlen).symm.trans h
      cases hf

/-- A call is dropped at its send, as `send_keepalive` drops it when the timer
wins, and the next call encrypts under the counter of the dropped one. -/
theorem send_after_dropped_send (wire : Wire) {p q f g : Bytes}
    (hp : encryptAndFrame wire 0 p = .ok f) (hq : encryptAndFrame wire 0 q = .ok g) :
    ∃ s, (noiseSocket wire).Run [.call 0 p, .lock 0, .handOver 0, .cancelSending 0,
        .call 1 q, .lock 1, .handOver 1] s ∧
      s.handed = [⟨0, q, g, .pending⟩, ⟨0, p, f, .cancelled⟩] := by
  have hmax : (0 : UInt32) ≠ u32Max := by decide
  have h0 : (noiseSocket wire).Run [] .new := .start rfl
  have h1 := h0.tail (show SocketStep wire _ (.call 0 p) _ from .call rfl)
  have h2 := h1.tail (show SocketStep wire _ (.lock 0) _ from .lock rfl rfl)
  have h3 := h2.tail (show SocketStep wire _ (.handOver 0) _ from
    .handOver rfl hmax hp)
  have h4 := h3.tail (show SocketStep wire _ (.cancelSending 0) _ from
    .cancelSending rfl)
  have h5 := h4.tail (show SocketStep wire _ (.call 1 q) _ from .call rfl)
  have h6 := h5.tail (show SocketStep wire _ (.lock 1) _ from .lock rfl rfl)
  have h7 := h6.tail (show SocketStep wire _ (.handOver 1) _ from
    .handOver rfl hmax hq)
  exact ⟨_, h7, rfl⟩

/-! ## When nonces are unique -/

/-- If no counter carried two frames, every frame after an unsuccessful send is
a retry. -/
theorem onlyRetries_of_noncesUnique {wire : Wire} (hwire : wire.Lawful) {counter : UInt32}
    {handed : List Handed} (hcounted : Counted counter handed)
    (hencrypted : ∀ frame ∈ handed,
      encryptAndFrame wire frame.counter frame.plaintext = .ok frame.framed)
    (hunique : NoncesUnique handed) : OnlyRetries handed := by
  induction handed generalizing counter with
  | nil => exact .nil
  | cons newest older ih =>
      have htail : OnlyRetries older :=
        ih hcounted.2.2 (fun f hf => hencrypted f (List.mem_cons_of_mem _ hf))
          (fun a ha b hb => hunique a (List.mem_cons_of_mem _ ha) b (List.mem_cons_of_mem _ hb))
      cases older with
      | nil => exact .singleton _
      | cons previous rest =>
          refine List.isChain_cons_cons.mpr ⟨?_, htail⟩
          rcases eq_or_ne previous.outcome .ok with hok | hok
          · exact Or.inl hok
          · have hmem : previous ∈ newest :: previous :: rest :=
              List.mem_cons_of_mem _ (List.mem_cons_self ..)
            have hcounter := hcounted.2.2.head_eq hok
            have hframed := hunique newest (List.mem_cons_self ..) previous hmem hcounter
            have hnew := hencrypted newest (List.mem_cons_self ..)
            have hprev := hencrypted previous hmem
            rw [hcounter, hframed] at hnew
            exact Or.inr (hwire.encryptAndFrame_inj hprev hnew)

/-- Nonces are unique along a run of a socket exactly when every frame handed
over after a send that failed or was dropped is a retry of the same plaintext. -/
theorem noncesUnique_iff_onlyRetries {wire : Wire} (hwire : wire.Lawful)
    {as : List SocketAction} {s : SocketState} (hrun : (noiseSocket wire).Run as s) :
    NoncesUnique s.handed ↔ OnlyRetries s.handed := by
  have hinv := socketInv_of_run hrun
  refine ⟨onlyRetries_of_noncesUnique hwire hinv.counted hinv.encrypted, ?_⟩
  intro hretry a ha b hb hcounter
  have hplain := hinv.counted.plaintext_eq hretry a ha b hb hcounter
  have haenc := hinv.encrypted a ha
  have hbenc := hinv.encrypted b hb
  rw [hcounter, hplain] at haenc
  exact Except.ok.inj (haenc.symm.trans hbenc)

theorem noncesUnique_iff_onlyRetries_retry :
    ∃ as s, (noiseSocket shiftWire).Run as s ∧ s.handed.length = 2 ∧ NoncesUnique s.handed := by
  obtain ⟨s, hrun, hhanded⟩ := send_after_dropped_send shiftWire
    (p := [7]) (q := [7]) rfl rfl
  refine ⟨_, s, hrun, by rw [hhanded]; rfl, ?_⟩
  refine (noncesUnique_iff_onlyRetries shiftWire_lawful hrun).mpr ?_
  rw [hhanded]
  exact List.isChain_cons_cons.mpr ⟨Or.inr rfl, .singleton _⟩

/-- A dropped keepalive and the message after it share a nonce. -/
theorem noncesUnique_fails_after_dropped_send :
    ¬ ∀ wire : Wire, wire.Lawful → ∀ as s, (noiseSocket wire).Run as s →
      NoncesUnique s.handed := by
  intro h
  obtain ⟨s, hrun, hhanded⟩ := send_after_dropped_send shiftWire
    (p := [7]) (q := [9]) rfl rfl
  have hunique := h shiftWire shiftWire_lawful _ s hrun
  rw [hhanded] at hunique
  have hsame := hunique _ (List.mem_cons_self ..) _
    (List.mem_cons_of_mem _ (List.mem_cons_self ..)) rfl
  exact absurd hsame (by decide)

end Waepic.Connection
