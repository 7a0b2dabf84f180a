import Waepic.Connection.Nonces

/-!
# The encrypted channel

A sender and a receiver with matching ciphers over a transport that delivers in
order, on which every send succeeds.  The sender is a `NoiseSocket` as in
`Nonces`; the receiver advances its read counter before it decrypts, also for a
frame that it then refuses.  The network may alter a ciphertext on the way; which
alterations it has is a parameter, and the cipher refuses them (`Wire.Rejects`).

The two counters are advanced by different rules and still agree: both number the
frames (`ChannelInv`).  So an altered frame is refused and every other one is
received as it was sent, and both ends are exhausted after the same number of
frames (`channel_reliable`).
-/

namespace Waepic.Connection

open Transition

/-! ## The receiver -/

/-- The receiving half of a socket. -/
structure ReadHalf where
  /-- `read_counter`. -/
  counter : UInt32
deriving DecidableEq, Repr

/-- `NoiseSocket::decrypt_frame`: the counter is advanced first. -/
def ReadHalf.decryptFrame (wire : Wire) (r : ReadHalf) (ciphertext : Bytes) :
    Result Bytes × ReadHalf :=
  if r.counter = u32Max then (.error (.decrypt "read counter exhausted"), r)
  else (Connection.decryptFrame wire r.counter ciphertext, ⟨r.counter + 1⟩)

/-- The cipher refuses what the network makes of a ciphertext. -/
def Wire.Rejects (wire : Wire) (alters : Bytes → Bytes → Prop) : Prop :=
  ∀ counter plaintext ciphertext altered,
    wire.encryptInPlaceWithCounter counter plaintext = .ok ciphertext →
      alters ciphertext altered →
        ∃ e, wire.decryptInPlaceWithCounter counter altered = .error e

theorem Wire.Rejects.decryptFrame {wire : Wire} {alters : Bytes → Bytes → Prop}
    (hreject : wire.Rejects alters) (hwire : wire.Lawful) {counter : UInt32}
    {plaintext framed altered : Bytes} (h : encryptAndFrame wire counter plaintext = .ok framed)
    (halters : alters (framed.drop 3) altered) :
    ∃ e, decryptFrame wire counter altered = .error e := by
  obtain ⟨buffer, henc, hframe⟩ := encryptAndFrame_ok_iff.mp h
  rw [hwire.drop_encodeFrame _ _ hframe] at halters
  obtain ⟨e, he⟩ := hreject _ _ _ _ henc halters
  exact ⟨.decrypt ("decrypt failed: " ++ e), by rw [Connection.decryptFrame, he]⟩

/-! ## The channel -/

/-- What the receiver made of a frame. -/
structure Delivery where
  /-- The network altered the frame. -/
  altered : Bool
  result : Result Bytes

structure ChannelState where
  sender : SocketState
  receiver : ReadHalf
  /-- What was delivered, oldest first. -/
  received : List Delivery

def ChannelState.new : ChannelState where
  sender := .new
  receiver := ⟨0⟩
  received := []

/-- The next frame of the transport: the first handed over and not delivered. -/
def ChannelState.nextFrame (s : ChannelState) : Option Handed :=
  s.sender.handed.reverse[s.received.length]?

def ChannelState.receive (wire : Wire) (s : ChannelState) (altered : Bool) (ciphertext : Bytes) :
    ChannelState :=
  let r := s.receiver.decryptFrame wire ciphertext
  { s with receiver := r.2, received := s.received ++ [⟨altered, r.1⟩] }

/-- The action is no failure of a send, nor is a call dropped at its send. -/
def SendSucceeds : SocketAction → Prop
  | .sendFailed _ _ | .cancelSending _ => False
  | _ => True

inductive ChannelAction where
  | send (a : SocketAction)
  | deliver
  | alter (ciphertext : Bytes)
deriving DecidableEq, Repr

/-- A frame is a three-byte length and the ciphertext. -/
inductive ChannelStep (wire : Wire) (alters : Bytes → Bytes → Prop) :
    ChannelState → ChannelAction → ChannelState → Prop where
  | send {s : ChannelState} {a : SocketAction} {sender : SocketState} :
      SocketStep wire s.sender a sender → SendSucceeds a →
      ChannelStep wire alters s (.send a) { s with sender := sender }
  | deliver {s : ChannelState} {frame : Handed} :
      s.nextFrame = some frame →
      ChannelStep wire alters s .deliver (s.receive wire false (frame.framed.drop 3))
  | alter {s : ChannelState} {frame : Handed} {ciphertext : Bytes} :
      s.nextFrame = some frame → alters (frame.framed.drop 3) ciphertext →
      ChannelStep wire alters s (.alter ciphertext) (s.receive wire true ciphertext)

/-- The runs of a sender and a receiver. -/
def channel (wire : Wire) (alters : Bytes → Bytes → Prop) :
    System ChannelState ChannelAction where
  init s := s = .new
  step := ChannelStep wire alters

/-! ## Counters number the frames -/

theorem toNat_succ_of_ne_u32Max {counter : UInt32} (h : counter ≠ u32Max) :
    (counter + 1).toNat = counter.toNat + 1 := by
  have hne : counter.toNat ≠ 4294967295 := fun he => h (UInt32.toNat_inj.mp he)
  have hlt := counter.toNat_lt
  rw [UInt32.toNat_add]
  have h1 : (1 : UInt32).toNat = 1 := rfl
  omega

theorem eq_u32Max_iff {counter : UInt32} {n : Nat} (h : counter.toNat = n) :
    counter = u32Max ↔ n = 2 ^ 32 - 1 := by
  rw [← h, ← UInt32.toNat_inj]
  exact Iff.rfl

/-- The counter is the number of the sends that succeeded. -/
theorem Counted.toNat_eq {counter : UInt32} {handed : List Handed} (h : Counted counter handed) :
    counter.toNat = handed.countP fun frame => frame.outcome = .ok := by
  induction handed generalizing counter with
  | nil => rw [show counter = 0 from h]; rfl
  | cons newest older ih =>
      obtain ⟨hmax, hcounter, hold⟩ := h
      have hcount := ih hold
      by_cases hok : newest.outcome = .ok
      · rw [hcounter, if_pos hok, toNat_succ_of_ne_u32Max hmax, hcount,
          List.countP_cons_of_pos (by simpa using hok)]
      · rw [hcounter, if_neg hok, hcount, List.countP_cons_of_neg (by simpa using hok)]

theorem countP_eq_length_of_ok {handed : List Handed}
    (hok : ∀ frame ∈ handed, frame.outcome = .ok) :
    (handed.countP fun frame => frame.outcome = .ok) = handed.length :=
  List.countP_eq_length.mpr fun frame hmem => by simpa using hok frame hmem

/-- A frame's counter is its place in the history, and not the last counter. -/
theorem Counted.counter_getElem? {counter : UInt32} {handed : List Handed}
    (h : Counted counter handed) (hok : ∀ frame ∈ handed.tail, frame.outcome = .ok) {i : Nat}
    {frame : Handed} (hi : handed.reverse[i]? = some frame) :
    frame.counter.toNat = i ∧ frame.counter ≠ u32Max := by
  induction handed generalizing counter with
  | nil => cases hi
  | cons newest older ih =>
      obtain ⟨hmax, -, hold⟩ := h
      rw [List.reverse_cons] at hi
      rcases lt_or_ge i older.reverse.length with hlt | hge
      · rw [List.getElem?_append_left hlt] at hi
        exact ih hold (fun f hmem => hok f (List.mem_of_mem_tail hmem)) hi
      · rw [List.getElem?_append_right hge] at hi
        obtain ⟨hzero, hnewest⟩ := List.getElem?_eq_some_iff.mp hi
        rw [List.length_singleton, List.length_reverse] at hzero
        rw [List.length_reverse] at hge
        simp only [List.getElem_singleton] at hnewest
        subst hnewest
        have hcount : newest.counter.toNat = older.length :=
          hold.toNat_eq.trans (countP_eq_length_of_ok hok)
        refine ⟨?_, hmax⟩
        omega

/-- No more frames than counters. -/
theorem Counted.length_le {counter : UInt32} {handed : List Handed} (h : Counted counter handed)
    (hok : ∀ frame ∈ handed.tail, frame.outcome = .ok) : handed.length ≤ 2 ^ 32 - 1 := by
  cases handed with
  | nil => exact Nat.zero_le _
  | cons newest older =>
      obtain ⟨hmax, -, hold⟩ := h
      have hcount : newest.counter.toNat = older.length :=
        hold.toNat_eq.trans (countP_eq_length_of_ok hok)
      have hne : newest.counter.toNat ≠ 2 ^ 32 - 1 := fun he => hmax ((eq_u32Max_iff rfl).mpr he)
      have hlt := newest.counter.toNat_lt
      rw [List.length_cons]
      omega

/-! ## Sends in order -/

/-- Every send succeeded, the newest one perhaps still to come. -/
structure SendsInOrder (s : SocketState) : Prop where
  older : ∀ frame ∈ s.handed.tail, frame.outcome = .ok
  newest : ∀ frame ∈ s.handed.head?, frame.outcome = .ok ∨ ∃ c, s.calls c = some .sending

theorem SendsInOrder.new : SendsInOrder .new where
  older := by intro frame hmem; cases hmem
  newest := by intro frame hmem; cases hmem

/-- With no call at its send every frame of the history is sent. -/
theorem SendsInOrder.all_ok {s : SocketState} (h : SendsInOrder s)
    (hnone : ∀ c, s.calls c ≠ some .sending) : ∀ frame ∈ s.handed, frame.outcome = .ok := by
  obtain ⟨holder, hnewest⟩ := h
  cases hhanded : s.handed with
  | nil => intro frame hmem; cases hmem
  | cons newest older =>
      rw [hhanded] at holder hnewest
      intro frame hmem
      cases List.mem_cons.mp hmem with
      | inl he =>
          rw [he]
          exact (hnewest newest rfl).resolve_right fun ⟨c, hc⟩ => hnone c hc
      | inr hold => exact holder frame hold

/-- A call elsewhere than at its send may move on. -/
theorem SendsInOrder.update {s t : SocketState} (h : SendsInOrder s) {c : SenderId}
    {stage : Option SendStage} (hc : s.calls c ≠ some .sending)
    (hcalls : t.calls = Function.update s.calls c stage) (hhanded : t.handed = s.handed) :
    SendsInOrder t where
  older := by rw [hhanded]; exact h.older
  newest := by
    rw [hhanded, hcalls]
    intro frame hmem
    cases h.newest frame hmem with
    | inl hok => exact Or.inl hok
    | inr hsending =>
        obtain ⟨d, hd⟩ := hsending
        have hdc : d ≠ c := by
          rintro rfl
          exact hc hd
        exact Or.inr ⟨d, by rw [Function.update_of_ne hdc, hd]⟩

/-- A call that holds the lock is the only one past it. -/
theorem SocketInv.not_sending {wire : Wire} {s : SocketState} (hinv : SocketInv wire s)
    {c : SenderId} {plaintext : Bytes} (hc : s.calls c = some (.locked plaintext)) (d : SenderId) :
    s.calls d ≠ some .sending := by
  intro hd
  have hcd := hinv.holder_unique hc trivial hd trivial
  rw [hcd, hd] at hc
  cases hc

theorem SendsInOrder.step {wire : Wire} {s t : SocketState} {a : SocketAction}
    (hinv : SocketInv wire s) (h : SendsInOrder s) (hstep : SocketStep wire s a t)
    (hsucceeds : SendSucceeds a) : SendsInOrder t := by
  cases hstep with
  | call hc => exact h.update (by rw [hc]; simp) rfl rfl
  | lock hc _ => exact h.update (by rw [hc]; simp) rfl rfl
  | exhausted hc _ => exact h.update (by rw [hc]; simp) rfl rfl
  | rejected hc _ _ => exact h.update (by rw [hc]; simp) rfl rfl
  | cancelWaiting hc => exact h.update (by rw [hc]; simp) rfl rfl
  | @handOver c plaintext framed hc _ _ =>
      refine ⟨h.all_ok (hinv.not_sending hc), ?_⟩
      intro frame _
      exact Or.inr ⟨c, Function.update_self ..⟩
  | @sent c hc =>
      obtain ⟨frame, older, hhanded, -⟩ := hinv.newest c hc
      have holder := h.older
      rw [hhanded] at holder
      refine ⟨?_, ?_⟩
      · show ∀ frame ∈ (recordOutcome .ok s.handed).tail, _
        rw [hhanded]
        exact holder
      · show ∀ frame ∈ (recordOutcome .ok s.handed).head?, _
        rw [hhanded]
        intro newest hnewest
        cases hnewest
        exact Or.inl rfl
  | sendFailed _ => exact hsucceeds.elim
  | cancelSending _ => exact hsucceeds.elim

/-! ## Payloads -/

/-- The payloads that reached the transport, oldest first. -/
def SocketState.transmitted (s : SocketState) : List Bytes :=
  (s.handed.map fun frame => frame.plaintext).reverse

@[simp] theorem SocketState.length_transmitted (s : SocketState) :
    s.transmitted.length = s.handed.length := by
  rw [transmitted, List.length_reverse, List.length_map]

theorem map_plaintext_recordOutcome (outcome : SendOutcome) (handed : List Handed) :
    (recordOutcome outcome handed).map (fun frame => frame.plaintext) =
      handed.map fun frame => frame.plaintext := by
  cases handed with
  | nil => rfl
  | cons newest older => rfl

/-- A step of the sender only adds a payload. -/
theorem SocketStep.transmitted_grows {wire : Wire} {s t : SocketState} {a : SocketAction}
    (h : SocketStep wire s a t) : ∃ more, t.transmitted = s.transmitted ++ more := by
  have hrecord : ∀ (outcome : SendOutcome) (u : SocketState),
      u.handed = recordOutcome outcome s.handed → u.transmitted = s.transmitted ++ [] := by
    intro outcome u hu
    rw [SocketState.transmitted, hu, map_plaintext_recordOutcome, List.append_nil]
    rfl
  cases h with
  | call _ => exact ⟨[], (List.append_nil _).symm⟩
  | lock _ _ => exact ⟨[], (List.append_nil _).symm⟩
  | exhausted _ _ => exact ⟨[], (List.append_nil _).symm⟩
  | rejected _ _ _ => exact ⟨[], (List.append_nil _).symm⟩
  | cancelWaiting _ => exact ⟨[], (List.append_nil _).symm⟩
  | @handOver c plaintext framed _ _ _ =>
      refine ⟨[plaintext], ?_⟩
      simp [SocketState.transmitted]
  | sent _ => exact ⟨[], hrecord .ok _ rfl⟩
  | sendFailed _ => exact ⟨[], hrecord .failed _ rfl⟩
  | cancelSending _ => exact ⟨[], hrecord .cancelled _ rfl⟩

theorem SocketState.transmitted_getElem? {s : SocketState} {i : Nat} {frame : Handed}
    (h : s.handed.reverse[i]? = some frame) : s.transmitted[i]? = some frame.plaintext := by
  rw [transmitted, ← List.map_reverse, List.getElem?_map, h]
  rfl

/-! ## The invariant of the channel -/

/-- An altered frame is an error, any other its payload. -/
def Delivery.Faithful (d : Delivery) (payload : Bytes) : Prop :=
  if d.altered then ∃ e, d.result = .error e else d.result = .ok payload

/-- What every reachable state of a channel satisfies. -/
structure ChannelInv (wire : Wire) (s : ChannelState) : Prop where
  socket : SocketInv wire s.sender
  inOrder : SendsInOrder s.sender
  /-- The read counter numbers the frames received. -/
  counted : s.receiver.counter.toNat = s.received.length
  received_le : s.received.length ≤ s.sender.handed.length
  faithful : List.Forall₂ Delivery.Faithful s.received
    (s.sender.transmitted.take s.received.length)

theorem ChannelInv.new (wire : Wire) : ChannelInv wire .new where
  socket := .new wire
  inOrder := .new
  counted := rfl
  received_le := Nat.le_refl _
  faithful := .nil

theorem ChannelInv.send {wire : Wire} {s : ChannelState} {a : SocketAction}
    {sender : SocketState} (hinv : ChannelInv wire s) (h : SocketStep wire s.sender a sender)
    (hsucceeds : SendSucceeds a) : ChannelInv wire { s with sender := sender } := by
  obtain ⟨more, hmore⟩ := h.transmitted_grows
  have hle : s.received.length ≤ s.sender.transmitted.length := by
    rw [SocketState.length_transmitted]
    exact hinv.received_le
  refine ⟨hinv.socket.step h, hinv.inOrder.step hinv.socket h hsucceeds, hinv.counted, ?_, ?_⟩
  · have hlength := congrArg List.length hmore
    rw [List.length_append, SocketState.length_transmitted] at hlength
    exact hle.trans (hlength ▸ Nat.le_add_right _ _)
  · show List.Forall₂ _ s.received (sender.transmitted.take s.received.length)
    rw [hmore, List.take_append_of_le_length hle]
    exact hinv.faithful

/-- The next frame is received under the counter it was sent with. -/
theorem ChannelInv.receive {wire : Wire} {s : ChannelState} {frame : Handed} {altered : Bool}
    {ciphertext : Bytes} (hinv : ChannelInv wire s) (hnext : s.nextFrame = some frame)
    (hfaithful : (⟨altered, decryptFrame wire frame.counter ciphertext⟩ : Delivery).Faithful
      frame.plaintext) : ChannelInv wire (s.receive wire altered ciphertext) := by
  have hlt : s.received.length < s.sender.handed.length := by
    have hlen := (List.getElem?_eq_some_iff.mp hnext).1
    rwa [List.length_reverse] at hlen
  obtain ⟨hplace, hmax⟩ := hinv.socket.counted.counter_getElem? hinv.inOrder.older hnext
  have hcounter : s.receiver.counter = frame.counter :=
    UInt32.toNat_inj.mp (hinv.counted.trans hplace.symm)
  have hdecrypt : s.receiver.decryptFrame wire ciphertext =
      (decryptFrame wire frame.counter ciphertext, ⟨frame.counter + 1⟩) := by
    rw [ReadHalf.decryptFrame, hcounter, if_neg hmax]
  rw [ChannelState.receive, hdecrypt]
  refine ⟨hinv.socket, hinv.inOrder, ?_, ?_, ?_⟩
  · show (frame.counter + 1).toNat = (s.received ++ [_]).length
    rw [toNat_succ_of_ne_u32Max hmax, hplace, List.length_append, List.length_singleton]
  · show (s.received ++ [_]).length ≤ s.sender.handed.length
    rw [List.length_append, List.length_singleton]
    exact hlt
  · show List.Forall₂ _ (s.received ++ [_])
      (s.sender.transmitted.take (s.received ++ [_]).length)
    have hpayload := SocketState.transmitted_getElem? hnext
    rw [List.length_append, List.length_singleton, List.take_add_one, hpayload]
    exact List.rel_append hinv.faithful (.cons hfaithful .nil)

theorem ChannelInv.step {wire : Wire} {alters : Bytes → Bytes → Prop} (hwire : wire.Lawful)
    (hreject : wire.Rejects alters) {s t : ChannelState} {a : ChannelAction}
    (hinv : ChannelInv wire s) (h : ChannelStep wire alters s a t) : ChannelInv wire t := by
  have hencrypted : ∀ frame, s.nextFrame = some frame →
      encryptAndFrame wire frame.counter frame.plaintext = .ok frame.framed :=
    fun frame hnext =>
      hinv.socket.encrypted frame (List.mem_reverse.mp (List.mem_of_getElem? hnext))
  cases h with
  | send hstep hsucceeds => exact hinv.send hstep hsucceeds
  | @deliver frame hnext =>
      refine hinv.receive hnext ?_
      show decryptFrame wire frame.counter (frame.framed.drop 3) = .ok frame.plaintext
      exact hwire.decryptFrame_encryptAndFrame (hencrypted frame hnext)
  | @alter frame ciphertext hnext halters =>
      refine hinv.receive hnext ?_
      show ∃ e, decryptFrame wire frame.counter ciphertext = .error e
      exact hreject.decryptFrame hwire (hencrypted frame hnext) halters

theorem channelInv_of_run {wire : Wire} {alters : Bytes → Bytes → Prop} (hwire : wire.Lawful)
    (hreject : wire.Rejects alters) {as : List ChannelAction} {s : ChannelState}
    (h : (channel wire alters).Run as s) : ChannelInv wire s :=
  h.invariant (fun s hs => by rw [show s = .new from hs]; exact ChannelInv.new wire)
    (fun _ _ _ hinv hstep => hinv.step hwire hreject hstep)

/-! ## Exhaustion -/

/-- The receiver refuses to count further. -/
theorem ReadHalf.decryptFrame_exhausted_iff {wire : Wire} {r : ReadHalf} {ciphertext : Bytes} :
    (r.decryptFrame wire ciphertext).1 = .error (.decrypt "read counter exhausted") ↔
      r.counter = u32Max := by
  constructor
  · intro h
    by_contra hne
    rw [ReadHalf.decryptFrame, if_neg hne, Connection.decryptFrame] at h
    split at h
    · next e _ =>
        have htext := ConnectionError.decrypt.inj (Except.error.inj h)
        have hchars := congrArg String.toList htext
        rw [String.toList_append] at hchars
        cases hchars
    · cases h
  · intro h
    rw [ReadHalf.decryptFrame, if_pos h]

/-- A call that holds the lock is refused exactly at the last counter. -/
theorem exhausted_iff {wire : Wire} {s : SocketState} {c : SenderId} {plaintext : Bytes}
    (hc : s.calls c = some (.locked plaintext)) :
    (∃ t, SocketStep wire s (.exhausted c) t) ↔ s.writeCounter = u32Max := by
  constructor
  · rintro ⟨t, hstep⟩
    cases hstep with
    | exhausted _ hmax => exact hmax
  · intro hmax
    exact ⟨_, .exhausted hc hmax⟩

/-- A call that holds the lock is refused after as many frames as there are
counters. -/
theorem ChannelInv.exhausted_iff {wire : Wire} {s : ChannelState} (hinv : ChannelInv wire s)
    {c : SenderId} {plaintext : Bytes} (hc : s.sender.calls c = some (.locked plaintext)) :
    (∃ t, SocketStep wire s.sender (.exhausted c) t) ↔
      s.sender.transmitted.length = 2 ^ 32 - 1 := by
  have hsent := hinv.inOrder.all_ok (hinv.socket.not_sending hc)
  have hcount := hinv.socket.counted.toNat_eq.trans (countP_eq_length_of_ok hsent)
  rw [Connection.exhausted_iff hc, eq_u32Max_iff hcount, SocketState.length_transmitted]

/-- In every run the receiver errs exactly on the altered frames and has the
payload of every other one, in order.  The write counter is the number of frames
sent and the read counter the number received, and no more are transmitted than
there are counters.  Both ends refuse the next frame after `2 ^ 32 - 1` frames,
and not before. -/
theorem channel_reliable {wire : Wire} {alters : Bytes → Bytes → Prop} (hwire : wire.Lawful)
    (hreject : wire.Rejects alters) {as : List ChannelAction} {s : ChannelState}
    (hrun : (channel wire alters).Run as s) :
    List.Forall₂ Delivery.Faithful s.received
        (s.sender.transmitted.take s.received.length) ∧
      s.sender.writeCounter.toNat =
        s.sender.handed.countP (fun frame => frame.outcome = .ok) ∧
      s.receiver.counter.toNat = s.received.length ∧
      s.sender.transmitted.length ≤ 2 ^ 32 - 1 ∧
      (∀ c plaintext, s.sender.calls c = some (.locked plaintext) →
        ((∃ t, SocketStep wire s.sender (.exhausted c) t) ↔
          s.sender.transmitted.length = 2 ^ 32 - 1)) ∧
      (∀ ciphertext, (s.receiver.decryptFrame wire ciphertext).1 =
          .error (.decrypt "read counter exhausted") ↔ s.received.length = 2 ^ 32 - 1) := by
  have hinv := channelInv_of_run hwire hreject hrun
  refine ⟨hinv.faithful, hinv.socket.counted.toNat_eq, hinv.counted, ?_, ?_, ?_⟩
  · rw [SocketState.length_transmitted]
    exact hinv.socket.counted.length_le hinv.inOrder.older
  · intro c plaintext hc
    exact hinv.exhausted_iff hc
  · intro ciphertext
    rw [ReadHalf.decryptFrame_exhausted_iff, eq_u32Max_iff hinv.counted]

/-- `shiftWire` with a tag before the ciphertext. -/
def taggedWire : Wire where
  encryptInPlaceWithCounter counter plaintext := .ok (0 :: plaintext.map (· + counter.toUInt8))
  decryptInPlaceWithCounter counter ciphertext :=
    match ciphertext with
    | 0 :: body => shiftWire.decryptInPlaceWithCounter counter body
    | _ => .error "tag mismatch"
  encodeFrame := shiftWire.encodeFrame

theorem taggedWire_lawful : taggedWire.Lawful where
  decrypt_encrypt := by
    intro counter plaintext ciphertext h
    have hc : 0 :: plaintext.map (· + counter.toUInt8) = ciphertext := Except.ok.inj h
    subst hc
    exact shiftWire_lawful.decrypt_encrypt counter plaintext _ rfl
  drop_encodeFrame := shiftWire_lawful.drop_encodeFrame

/-- The network destroys the tag. -/
def AltersTag (_ altered : Bytes) : Prop := altered.head? = some 1

theorem taggedWire_rejects : taggedWire.Rejects AltersTag := by
  intro counter plaintext ciphertext altered _ halters
  cases altered with
  | nil => cases halters
  | cons tag body =>
      have htag : tag = 1 := Option.some.inj halters
      subst htag
      exact ⟨"tag mismatch", rfl⟩

/-- Two frames are sent and the second one is altered. -/
theorem channel_reliable_altered :
    ∃ as s, (channel taggedWire AltersTag).Run as s ∧
      s.received.map (fun d => d.altered) = [false, true] ∧
      s.sender.transmitted = [[7], [9]] ∧
      List.Forall₂ Delivery.Faithful s.received
        (s.sender.transmitted.take s.received.length) := by
  have hmax : ∀ c : UInt32, c = 0 ∨ c = 1 → c ≠ u32Max := by
    rintro c (rfl | rfl) <;> decide
  have h0 : (channel taggedWire AltersTag).Run [] .new := .start rfl
  have h1 := h0.tail (show ChannelStep _ _ _ (.send (.call 0 [7])) _ from .send (.call rfl) trivial)
  have h2 := h1.tail (show ChannelStep _ _ _ (.send (.lock 0)) _ from .send (.lock rfl rfl) trivial)
  have h3 := h2.tail (show ChannelStep _ _ _ (.send (.handOver 0)) _ from
    .send (.handOver rfl (hmax _ (Or.inl rfl)) rfl) trivial)
  have h4 := h3.tail (show ChannelStep _ _ _ .deliver _ from .deliver rfl)
  have h5 := h4.tail (show ChannelStep _ _ _ (.send (.sent 0)) _ from .send (.sent rfl) trivial)
  have h6 := h5.tail (show ChannelStep _ _ _ (.send (.call 1 [9])) _ from .send (.call rfl) trivial)
  have h7 := h6.tail (show ChannelStep _ _ _ (.send (.lock 1)) _ from .send (.lock rfl rfl) trivial)
  have h8 := h7.tail (show ChannelStep _ _ _ (.send (.handOver 1)) _ from
    .send (.handOver rfl (hmax _ (Or.inr rfl)) rfl) trivial)
  have h9 := h8.tail (show ChannelStep _ _ _ (.send (.sent 1)) _ from .send (.sent rfl) trivial)
  have h10 := h9.tail (show ChannelStep _ _ _ (.alter [1]) _ from .alter rfl rfl)
  exact ⟨_, _, h10, rfl, rfl, (channel_reliable taggedWire_lawful taggedWire_rejects h10).1⟩

end Waepic.Connection
