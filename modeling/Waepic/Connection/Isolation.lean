import Waepic.Connection.Lifecycle

/-!
# Isolation of connections

What a connection sends after its handshake is what its own socket encrypted,
from counter 0 on, and what its socket decrypts are the frames of its own events
(`Secured`).  `is_connected` is set only while the mutexes hold the transport and
the socket of one connection.

The invariant says of every phase which locals and mutexes hold the values of the
current attempt (`LifecyclePhase.Holds`).  All steps of the runner touch the
transport and the socket of the current attempt only (`LifecycleInv.current`).
-/

namespace Waepic.Connection

open Transition Binary Framing

/-! ## One connection -/

/-- The chunks among the events. -/
def chunksOf (events : List TransportEvent) : List Bytes :=
  events.filterMap fun e =>
    match e with
    | .dataReceived data => some data
    | _ => none

/-- What a handshake has handed to its transport, newest first. -/
inductive HandshakeSent (x : XxHandshake) : List Bytes → Prop where
  | start : HandshakeSent x []
  | hello {hello : Bytes} : clientHelloFrame x = .ok hello → HandshakeSent x [hello]
  | finish {hello finish : Bytes} {respFrame : Payload} :
      clientHelloFrame x = .ok hello → clientFinishFrame x respFrame = .ok finish →
      HandshakeSent x [finish, hello]

/-- A connection after its handshake. -/
structure Secured (x : XxHandshake) (link : Link) (socket : NoiseSocket) : Prop where
  /-- The socket has the keys of this handshake. -/
  derived : ∃ respFrame,
    finishHandshake x respFrame = .ok (socket.writeCipher, socket.readCipher)
  /-- It has encrypted under the counters from 0 on. -/
  counted : ∃ as, (noiseSocket socket.writeCipher).Run as socket.write
  /-- After the handshake the transport got what the socket encrypted. -/
  sent : ∃ handshake, HandshakeSent x handshake ∧ handshake.length = 2 ∧
    link.sent = socket.write.handed.map (fun frame => frame.framed) ++ handshake
  /-- The read counter is the number of frames, from 0 to its maximum. -/
  numbered : socket.read.counter.toNat = min socket.decrypted.length (2 ^ 32 - 1)
  /-- The frames decrypted are those of the chunks received. -/
  received : ∃ rest,
    (chunksOf link.received).flatten = frameCode.encodeAll socket.decrypted ++ rest

/-- The state of a connection: its handshake is not over, or it is secured. -/
def Isolated (x : XxHandshake) (link : Link) : Option NoiseSocket → Prop
  | none => HandshakeSent x link.sent ∧ link.received = []
  | some socket => Secured x link socket

theorem chunksOf_append (events : List TransportEvent) (e : TransportEvent) :
    chunksOf (events ++ [e]) = chunksOf events ++ chunksOf [e] :=
  List.filterMap_append ..

theorem Isolated.of_eq {x : XxHandshake} {link link' : Link} {socket : Option NoiseSocket}
    (h : Isolated x link socket) (hsent : link'.sent = link.sent)
    (hreceived : link'.received = link.received) : Isolated x link' socket := by
  cases socket with
  | none => exact ⟨hsent ▸ h.1, hreceived.trans h.2⟩
  | some socket =>
      obtain ⟨hderived, hcounted, hframes, hnumbered, hdecrypted⟩ := h
      exact ⟨hderived, hcounted, hsent ▸ hframes, hnumbered, hreceived ▸ hdecrypted⟩

/-- The socket that a handshake ends with. -/
theorem Secured.new {x : XxHandshake} {link : Link} {respFrame : Payload} {ciphers : Wire × Wire}
    (hderived : finishHandshake x respFrame = .ok ciphers) (hsent : HandshakeSent x link.sent)
    (htwo : link.sent.length = 2) (hreceived : link.received = []) :
    Secured x link (.new ciphers.1 ciphers.2) where
  derived := ⟨respFrame, hderived⟩
  counted := ⟨[], .start rfl⟩
  sent := ⟨link.sent, hsent, htwo, rfl⟩
  numbered := rfl
  received := ⟨[], by rw [hreceived]; rfl⟩

theorem ReadHalf.decryptFrame_counter (wire : Wire) {r : ReadHalf} (ciphertext : Bytes) {n : Nat}
    (h : r.counter.toNat = min n (2 ^ 32 - 1)) :
    (r.decryptFrame wire ciphertext).2.counter.toNat = min (n + 1) (2 ^ 32 - 1) := by
  by_cases hmax : r.counter = u32Max
  · have hn := (eq_u32Max_iff h).mp hmax
    rw [ReadHalf.decryptFrame, if_pos hmax, h]
    omega
  · have hn : min n (2 ^ 32 - 1) ≠ 2 ^ 32 - 1 := fun he => hmax ((eq_u32Max_iff h).mpr he)
    rw [ReadHalf.decryptFrame, if_neg hmax]
    show (r.counter + 1).toNat = _
    rw [toNat_succ_of_ne_u32Max hmax, h]
    omega

/-- A step of the socket that hands nothing over. -/
theorem SocketStep.framed_eq {wire : Wire} {s t : SocketState} {a : SocketAction}
    (h : SocketStep wire s a t) (ha : ∀ c, a ≠ .handOver c) :
    t.handed.map (fun frame => frame.framed) = s.handed.map fun frame => frame.framed := by
  have hrecord : ∀ outcome, (recordOutcome outcome s.handed).map (fun frame => frame.framed) =
      s.handed.map fun frame => frame.framed := by
    intro outcome
    cases s.handed with
    | nil => rfl
    | cons newest older => rfl
  cases h with
  | call _ => rfl
  | lock _ _ => rfl
  | exhausted _ _ => rfl
  | rejected _ _ _ => rfl
  | cancelWaiting _ => rfl
  | @handOver c _ _ _ _ _ => exact absurd rfl (ha c)
  | sent _ => exact hrecord .ok
  | sendFailed _ => exact hrecord .failed
  | cancelSending _ => exact hrecord .cancelled

/-- The socket moves on, and the transport gets what it hands over. -/
theorem Secured.step {x : XxHandshake} {link link' : Link} {socket : NoiseSocket}
    {a : SocketAction} {write : SocketState} {more : List Bytes} (h : Secured x link socket)
    (hstep : SocketStep socket.writeCipher socket.write a write)
    (hframed : write.handed.map (fun frame => frame.framed) =
      more ++ socket.write.handed.map fun frame => frame.framed)
    (hsent : link'.sent = more ++ link.sent) (hreceived : link'.received = link.received) :
    Secured x link' { socket with write := write } := by
  obtain ⟨hderived, ⟨as, hrun⟩, ⟨handshake, hhandshake, htwo, hlink⟩, hnumbered, hdecrypted⟩ := h
  refine ⟨hderived, ⟨as ++ [a], hrun.tail hstep⟩, ⟨handshake, hhandshake, htwo, ?_⟩, hnumbered,
    hreceived ▸ hdecrypted⟩
  rw [hsent, hlink, ← List.append_assoc, ← hframed]

/-! ## The invariant -/

namespace LifecycleState

variable {State : Type} (s : LifecycleState State)

/-- The handshake of the current attempt has sent `n` frames. -/
def Handshakes (n : Nat) : Prop :=
  s.sockets s.attempt = none ∧ (s.links s.attempt).sent.length = n

/-- Of the bytes received on the current connection, all but `buffer` are decrypted
or about to be. -/
def Buffers (buffer : Bytes) : Prop :=
  ∃ socket, s.sockets s.attempt = some socket ∧
    (chunksOf (s.links s.attempt).received).flatten =
      frameCode.encodeAll socket.decrypted ++ buffer

/-- `is_connected` is set while the mutexes hold the current connection. -/
def FlagHolds : Prop :=
  s.isConnected = true → s.transport = some s.attempt ∧ s.noiseSocket = some s.attempt ∧
    ∃ socket, s.sockets s.attempt = some socket

variable {s} in
theorem FlagHolds.of_disconnected (hconnected : s.isConnected = false) : s.FlagHolds := by
  intro h
  cases hconnected.symm.trans h

end LifecycleState

/-- What is stored before this. -/
def SharedValue.StoredBefore {State : Type} (s : LifecycleState State) : SharedValue → Prop
  | .transport => True
  | .noiseSocket => s.transport = some s.attempt
  | .transportEvents => s.transport = some s.attempt ∧ s.noiseSocket = some s.attempt
  | .isConnected => s.transport = some s.attempt ∧ s.noiseSocket = some s.attempt ∧
      s.transportEvents = some s.attempt

def ConnectStage.Holds {State : Type} (s : LifecycleState State) : ConnectStage State → Prop
  | .creating => s.Handshakes 0
  | .created t e => s.Handshakes 0 ∧ t = s.attempt ∧ e = s.attempt
  | .hello t e => s.Handshakes 0 ∧ t = s.attempt ∧ e = s.attempt
  | .receiving t e _ => s.Handshakes 1 ∧ t = s.attempt ∧ e = s.attempt
  | .responding t e _ => s.Handshakes 1 ∧ t = s.attempt ∧ e = s.attempt
  | .storing t j e next =>
      s.Buffers [] ∧ t = s.attempt ∧ j = s.attempt ∧ e = s.attempt ∧ next.StoredBefore s

def StartStage.Holds {State : Type} (s : LifecycleState State) : StartStage → Prop
  | .transport => True
  | .noiseSocket t => t = s.attempt
  | .transportEvents t j => t = s.attempt ∧ j = s.attempt

/-- The locals are those of the current attempt. -/
def LifecyclePhase.Holds {decoder : FrameDecoder} (s : LifecycleState decoder.State) :
    LifecyclePhase decoder.State → Prop
  | .top | .connectFailed | .cleaning _ _ | .ending _ | .delaying => s.isConnected = false
  | .connecting stage => s.isConnected = false ∧ stage.Holds s
  | .starting stage => s.isConnected = true ∧ s.transportEvents = some s.attempt ∧
      s.Buffers [] ∧ stage.Holds s
  | .looping l _ => s.Buffers (decoder.buffered l.decoder) ∧ l.transport = s.attempt ∧
      l.noiseSocket = s.attempt ∧ l.transportEvents = s.attempt
  | .leaving _ | .stopped => True

/-- Every connection is isolated, whatever the runner does next. -/
structure WorldInv {State : Type} (handshake : Nat → XxHandshake) (s : LifecycleState State) :
    Prop where
  /-- Later attempts have not begun. -/
  fresh : ∀ k, s.attempt < k → s.sockets k = none ∧ (s.links k).sent = []
  isolated : ∀ k, Isolated (handshake k) (s.links k) (s.sockets k)
  flag : s.FlagHolds

/-- What every reachable state satisfies. -/
structure LifecycleInv {decoder : FrameDecoder} (handshake : Nat → XxHandshake)
    (s : LifecycleState decoder.State) : Prop extends WorldInv handshake s where
  phase : s.phase.Holds s

theorem WorldInv.new {State : Type} (handshake : Nat → XxHandshake) :
    WorldInv handshake (.new : LifecycleState State) where
  fresh _ _ := ⟨rfl, rfl⟩
  isolated _ := ⟨.start, rfl⟩
  flag h := by cases h

section Steps

variable {decoder : FrameDecoder} {handshake : Nat → XxHandshake}
  {s t : LifecycleState decoder.State}

/-! ## Steps of the network -/

theorem LifecycleState.modifyLink_links {k j : Nat} {f : Link → Link} :
    (s.modifyLink k f).links j = if j = k then f (s.links k) else s.links j := by
  by_cases h : j = k
  · rw [if_pos h, h]
    exact Function.update_self ..
  · rw [if_neg h]
    exact Function.update_of_ne h ..

/-- A change that neither sends nor receives. -/
structure Link.Silent (f : Link → Link) : Prop where
  sent : ∀ link, (f link).sent = link.sent
  received : ∀ link, (f link).received = link.received

theorem Link.Silent.sent_eq {f : Link → Link} (hf : Link.Silent f) (k j : Nat) :
    ((s.modifyLink k f).links j).sent = (s.links j).sent := by
  rw [LifecycleState.modifyLink_links]
  split
  · next h => rw [hf.sent, h]
  · rfl

theorem Link.Silent.received_eq {f : Link → Link} (hf : Link.Silent f) (k j : Nat) :
    ((s.modifyLink k f).links j).received = (s.links j).received := by
  rw [LifecycleState.modifyLink_links]
  split
  · next h => rw [hf.received, h]
  · rfl

theorem WorldInv.modifyLink {k : Nat} {f : Link → Link} (hinv : WorldInv handshake s)
    (hf : Link.Silent f) : WorldInv handshake (s.modifyLink k f) where
  fresh j hj := ⟨(hinv.fresh j hj).1, (hf.sent_eq k j).trans (hinv.fresh j hj).2⟩
  isolated j := (hinv.isolated j).of_eq (hf.sent_eq k j) (hf.received_eq k j)
  flag := hinv.flag

theorem LifecycleState.Handshakes.modifyLink {n k : Nat} {f : Link → Link} (h : s.Handshakes n)
    (hf : Link.Silent f) : (s.modifyLink k f).Handshakes n :=
  ⟨h.1, (congrArg List.length (hf.sent_eq k s.attempt)).trans h.2⟩

theorem LifecycleState.Buffers.modifyLink {buffer : Bytes} {k : Nat} {f : Link → Link}
    (h : s.Buffers buffer) (hf : Link.Silent f) : (s.modifyLink k f).Buffers buffer := by
  obtain ⟨socket, hsocket, hchunks⟩ := h
  refine ⟨socket, hsocket, ?_⟩
  rw [show (s.modifyLink k f).attempt = s.attempt from rfl, hf.received_eq k s.attempt]
  exact hchunks

theorem LifecyclePhase.Holds.modifyLink {phase : LifecyclePhase decoder.State} {k : Nat}
    {f : Link → Link} (h : phase.Holds s) (hf : Link.Silent f) :
    phase.Holds (s.modifyLink k f) := by
  cases phase with
  | top => exact h
  | connectFailed => exact h
  | delaying => exact h
  | cleaning r stage => exact h
  | ending r => exact h
  | leaving r => trivial
  | stopped => trivial
  | looping l stage => exact ⟨h.1.modifyLink hf, h.2⟩
  | starting stage =>
      obtain ⟨hconnected, hevents, hbuffers, hstage⟩ := h
      refine ⟨hconnected, hevents, hbuffers.modifyLink hf, ?_⟩
      cases stage <;> exact hstage
  | connecting stage =>
      obtain ⟨hconnected, hstage⟩ := h
      refine ⟨hconnected, ?_⟩
      cases stage with
      | creating => exact LifecycleState.Handshakes.modifyLink hstage hf
      | created t e => exact ⟨hstage.1.modifyLink hf, hstage.2⟩
      | hello t e => exact ⟨hstage.1.modifyLink hf, hstage.2⟩
      | receiving t e d => exact ⟨hstage.1.modifyLink hf, hstage.2⟩
      | responding t e respFrame => exact ⟨hstage.1.modifyLink hf, hstage.2⟩
      | storing t j e next =>
          obtain ⟨hbuffers, ht, hj, he, hstored⟩ := hstage
          refine ⟨hbuffers.modifyLink hf, ht, hj, he, ?_⟩
          cases next <;> exact hstored

theorem LifecycleInv.modifyLink {k : Nat} {f : Link → Link} (hinv : LifecycleInv handshake s)
    (hf : Link.Silent f) : LifecycleInv handshake (s.modifyLink k f) :=
  ⟨hinv.toWorldInv.modifyLink hf, hinv.phase.modifyLink hf⟩

theorem LifecycleInv.take (hinv : LifecycleInv handshake s) (k : Nat)
    (rest : List TransportEvent) : LifecycleInv handshake (s.take k rest) :=
  hinv.modifyLink ⟨fun _ => rfl, fun _ => rfl⟩

/-! ## Steps of the runner -/

theorem LifecycleInv.phase_eq {phase : LifecyclePhase decoder.State}
    (hinv : LifecycleInv handshake s) (h : s.phase = phase) : phase.Holds s :=
  h ▸ hinv.phase

/-- What holds in a phase is no fact about `s.phase`. -/
theorem LifecyclePhase.Holds.setPhase {phase : LifecyclePhase decoder.State} (h : phase.Holds s)
    (phase' : LifecyclePhase decoder.State) : phase.Holds (s.setPhase phase') := by
  cases phase with
  | connecting stage =>
      refine ⟨h.1, ?_⟩
      cases stage with
      | storing t j e next =>
          obtain ⟨-, hbuffers, ht, hj, he, hstored⟩ := h
          refine ⟨hbuffers, ht, hj, he, ?_⟩
          cases next <;> exact hstored
      | _ => exact h.2
  | starting stage =>
      refine ⟨h.1, h.2.1, h.2.2.1, ?_⟩
      cases stage <;> exact h.2.2.2
  | _ => exact h

theorem WorldInv.enter {phase : LifecyclePhase decoder.State} (hworld : WorldInv handshake s)
    (hphase : phase.Holds s) : LifecycleInv handshake (s.setPhase phase) :=
  ⟨⟨hworld.fresh, hworld.isolated, hworld.flag⟩, hphase.setPhase phase⟩

theorem WorldInv.retryOrStop (hworld : WorldInv handshake s) (hconnected : s.isConnected = false)
    (config : ConnectionConfig) : LifecycleInv handshake (s.retryOrStop config) := by
  refine hworld.enter ?_
  split
  · trivial
  · exact hconnected

/-- A step that touches the transport and the socket of the current attempt only. -/
theorem WorldInv.current (hworld : WorldInv handshake s) (hattempt : t.attempt = s.attempt)
    (hlinks : ∀ k, k ≠ s.attempt → t.links k = s.links k)
    (hsockets : ∀ k, k ≠ s.attempt → t.sockets k = s.sockets k)
    (hisolated : Isolated (handshake s.attempt) (t.links s.attempt) (t.sockets s.attempt))
    (hflag : t.FlagHolds) : WorldInv handshake t where
  fresh k hk := by
    rw [hattempt] at hk
    rw [hlinks k hk.ne', hsockets k hk.ne']
    exact hworld.fresh k hk
  isolated k := by
    by_cases h : k = s.attempt
    · rw [h]
      exact hisolated
    · rw [hlinks k h, hsockets k h]
      exact hworld.isolated k
  flag := hflag

/-- A frame of the handshake is sent. -/
theorem WorldInv.handOver {framed : Bytes} (hworld : WorldInv handshake s)
    (hsocket : s.sockets s.attempt = none) (hconnected : s.isConnected = false)
    (hsent : HandshakeSent (handshake s.attempt) (framed :: (s.links s.attempt).sent)) :
    WorldInv handshake (s.handOver s.attempt framed) := by
  have hisolated := hworld.isolated s.attempt
  rw [hsocket] at hisolated
  refine hworld.current rfl ?_ (fun _ _ => rfl) ?_ (.of_disconnected hconnected)
  · intro k hk
    exact Function.update_of_ne hk ..
  · show Isolated _ ((s.handOver s.attempt framed).links s.attempt) (s.sockets s.attempt)
    rw [hsocket, LifecycleState.handOver, LifecycleState.modifyLink_links, if_pos rfl]
    exact ⟨hsent, hisolated.2⟩

theorem HandshakeSent.push_hello {x : XxHandshake} {framed : Bytes} {sent : List Bytes}
    (hlength : sent.length = 0) (hframed : clientHelloFrame x = .ok framed) :
    HandshakeSent x (framed :: sent) := by
  rw [List.length_eq_zero_iff.mp hlength]
  exact .hello hframed

theorem HandshakeSent.push_finish {x : XxHandshake} {framed : Bytes} {sent : List Bytes}
    {respFrame : Payload} (hsent : HandshakeSent x sent) (hlength : sent.length = 1)
    (hframed : clientFinishFrame x respFrame = .ok framed) :
    HandshakeSent x (framed :: sent) := by
  cases hsent with
  | start => cases hlength
  | hello hhello => exact .finish hhello hframed
  | finish _ _ => cases hlength

/-- Before the handshake ends only its own frames are sent. -/
theorem WorldInv.handshakeSent (hworld : WorldInv handshake s) {n : Nat}
    (h : s.Handshakes n) : HandshakeSent (handshake s.attempt) (s.links s.attempt).sent := by
  have hisolated := hworld.isolated s.attempt
  rw [h.1] at hisolated
  exact hisolated.1

/-- The handshake ends with the socket of this attempt. -/
theorem WorldInv.finished {framed : Bytes} {respFrame : Payload} {ciphers : Wire × Wire}
    (hworld : WorldInv handshake s) (hshake : s.Handshakes 1) (hconnected : s.isConnected = false)
    (hframed : clientFinishFrame (handshake s.attempt) respFrame = .ok framed)
    (hderived : finishHandshake (handshake s.attempt) respFrame = .ok ciphers) :
    WorldInv handshake
      ((s.handOver s.attempt framed).setSocket s.attempt (.new ciphers.1 ciphers.2)) := by
  have hsent := (hworld.handshakeSent hshake).push_finish hshake.2 hframed
  have hover := hworld.handOver hshake.1 hconnected hsent
  have hlink := hover.isolated s.attempt
  have hlength : ((s.handOver s.attempt framed).links s.attempt).sent.length = 2 := by
    rw [LifecycleState.handOver, LifecycleState.modifyLink_links, if_pos rfl]
    exact congrArg (· + 1) hshake.2
  rw [show (s.handOver s.attempt framed).sockets s.attempt = none from hshake.1] at hlink
  refine hover.current rfl (fun _ _ => rfl) ?_ ?_ (.of_disconnected hconnected)
  · intro k hk
    exact Function.update_of_ne hk ..
  · have hsocket : ((s.handOver s.attempt framed).setSocket s.attempt
        (.new ciphers.1 ciphers.2)).sockets s.attempt = some (.new ciphers.1 ciphers.2) :=
      Function.update_self ..
    exact hsocket ▸ Secured.new hderived hlink.1 hlength hlink.2

theorem WorldInv.finished_buffers (hworld : WorldInv handshake s) (hshake : s.Handshakes 1)
    (framed : Bytes) (ciphers : Wire × Wire) :
    ((s.handOver s.attempt framed).setSocket s.attempt (.new ciphers.1 ciphers.2)).Buffers [] := by
  have hlink := hworld.isolated s.attempt
  rw [hshake.1] at hlink
  refine ⟨.new ciphers.1 ciphers.2, Function.update_self .., ?_⟩
  show (chunksOf ((s.handOver s.attempt framed).links s.attempt).received).flatten = _
  rw [LifecycleState.handOver, LifecycleState.modifyLink_links, if_pos rfl, hlink.2]
  rfl

/-! ## Steps of the read loop -/

/-- The current connection moves on. -/
theorem WorldInv.advance {buffer : Bytes} {socket : NoiseSocket} (hworld : WorldInv handshake s)
    (hattempt : t.attempt = s.attempt)
    (hlinks : ∀ k, k ≠ s.attempt → t.links k = s.links k)
    (hsockets : t.sockets = Function.update s.sockets s.attempt (some socket))
    (hsecured : Secured (handshake s.attempt) (t.links s.attempt) socket)
    (hbuffers : (chunksOf (t.links s.attempt).received).flatten =
      frameCode.encodeAll socket.decrypted ++ buffer)
    (htransport : t.transport = s.transport) (hnoise : t.noiseSocket = s.noiseSocket)
    (hconnected : t.isConnected = s.isConnected) :
    WorldInv handshake t ∧ t.Buffers buffer := by
  have hsocket : t.sockets s.attempt = some socket := by
    rw [hsockets, Function.update_self]
  refine ⟨hworld.current hattempt hlinks ?_ ?_ ?_, socket, ?_, ?_⟩
  · intro k hk
    rw [hsockets, Function.update_of_ne hk]
  · rw [hsocket]
    exact hsecured
  · intro h
    obtain ⟨ht, hj, -⟩ := hworld.flag (hconnected.symm.trans h)
    rw [hattempt]
    exact ⟨htransport.trans ht, hnoise.trans hj, socket, hsocket⟩
  · rw [hattempt, hsocket]
  · rw [hattempt]
    exact hbuffers

theorem WorldInv.secured {socket : NoiseSocket} (hworld : WorldInv handshake s)
    (hsocket : s.sockets s.attempt = some socket) :
    Secured (handshake s.attempt) (s.links s.attempt) socket := by
  have hisolated := hworld.isolated s.attempt
  rwa [hsocket] at hisolated

/-- An event is taken, and its chunk buffered. -/
theorem WorldInv.receive {buffer : Bytes} (hworld : WorldInv handshake s)
    (hbuffers : s.Buffers buffer) (e : TransportEvent) (rest : List TransportEvent) :
    WorldInv handshake (s.receive s.attempt e rest) ∧
      (s.receive s.attempt e rest).Buffers (buffer ++ (chunksOf [e]).flatten) := by
  obtain ⟨socket, hsocket, hchunks⟩ := hbuffers
  obtain ⟨hderived, hcounted, hsent, hnumbered, -⟩ := hworld.secured hsocket
  have hlink : (s.receive s.attempt e rest).links s.attempt =
      { s.links s.attempt with
          pending := rest, received := (s.links s.attempt).received ++ [e] } :=
    LifecycleState.modifyLink_links.trans (if_pos rfl)
  have hreceived : (chunksOf ((s.receive s.attempt e rest).links s.attempt).received).flatten =
      frameCode.encodeAll socket.decrypted ++ (buffer ++ (chunksOf [e]).flatten) := by
    rw [hlink, chunksOf_append, List.flatten_append, hchunks, List.append_assoc]
  refine hworld.advance rfl ?_ ?_ ⟨hderived, hcounted, ?_, hnumbered, _, hreceived⟩ hreceived
    rfl rfl rfl
  · intro k hk
    exact Function.update_of_ne hk ..
  · exact (Function.update_eq_self_iff.mpr hsocket.symm).symm
  · rw [hlink]
    exact hsent

/-- A frame of the buffer is decrypted. -/
theorem WorldInv.decrypt {buffer : Bytes} {frame : Payload} {socket : NoiseSocket}
    (hworld : WorldInv handshake s) (hbuffers : s.Buffers (frameCode.encode frame ++ buffer))
    (hsocket : s.sockets s.attempt = some socket) :
    WorldInv handshake (s.setSocket s.attempt (socket.decryptFrame frame).2) ∧
      (s.setSocket s.attempt (socket.decryptFrame frame).2).Buffers buffer := by
  obtain ⟨socket', hsocket', hchunks⟩ := hbuffers
  cases hsocket.symm.trans hsocket'
  obtain ⟨hderived, hcounted, hsent, hnumbered, -⟩ := hworld.secured hsocket
  have hreceived : (chunksOf (s.links s.attempt).received).flatten =
      frameCode.encodeAll (socket.decrypted ++ [frame]) ++ buffer := by
    rw [hchunks, Code.encodeAll_append, List.append_assoc, Code.encodeAll_cons, Code.encodeAll_nil,
      List.append_nil]
  have hcounter := ReadHalf.decryptFrame_counter socket.readCipher frame.1 hnumbered
  refine hworld.advance rfl (fun _ _ => rfl) rfl
    ⟨hderived, hcounted, hsent, ?_, _, hreceived⟩ hreceived rfl rfl rfl
  show _ = min (socket.decrypted ++ [frame]).length _
  rw [List.length_append]
  exact hcounter

/-- The socket encrypts, and the transport gets what it hands over. -/
theorem WorldInv.encrypt {buffer : Bytes} {socket : NoiseSocket} {a : SocketAction}
    {write : SocketState} {link : Link} (more : List Bytes) (hworld : WorldInv handshake s)
    (hbuffers : s.Buffers buffer) (hsocket : s.sockets s.attempt = some socket)
    (hstep : SocketStep socket.writeCipher socket.write a write)
    (hframed : write.handed.map (fun frame => frame.framed) =
      more ++ socket.write.handed.map fun frame => frame.framed)
    (hattempt : t.attempt = s.attempt)
    (hlinks : t.links = Function.update s.links s.attempt link)
    (hsockets : t.sockets =
      Function.update s.sockets s.attempt (some { socket with write := write }))
    (hsent : link.sent = more ++ (s.links s.attempt).sent)
    (hreceived : link.received = (s.links s.attempt).received)
    (htransport : t.transport = s.transport) (hnoise : t.noiseSocket = s.noiseSocket)
    (hconnected : t.isConnected = s.isConnected) :
    WorldInv handshake t ∧ t.Buffers buffer := by
  obtain ⟨socket', hsocket', hchunks⟩ := hbuffers
  cases hsocket.symm.trans hsocket'
  have hlink : t.links s.attempt = link := by
    rw [hlinks, Function.update_self]
  refine hworld.advance hattempt ?_ hsockets ?_ ?_ htransport hnoise hconnected
  · intro k hk
    rw [hlinks, Function.update_of_ne hk]
  · rw [hlink]
    exact (hworld.secured hsocket).step hstep hframed hsent hreceived
  · rw [hlink, hreceived]
    exact hchunks

/-- The loop goes on with the same locals. -/
theorem LifecycleInv.stay {l : ReadLocals decoder.State} {stage : LoopStage}
    (hinv : LifecycleInv handshake s) (hphase : s.phase = .looping l stage)
    (stage' : LoopStage) : LifecycleInv handshake (s.setPhase (.looping l stage')) := by
  have hlocals := hinv.phase_eq hphase
  exact hinv.enter hlocals

/-! ## Every step -/

theorem LifecycleInv.connectOnce (hinv : LifecycleInv handshake s)
    (h : ConnectOnceStep decoder (handshake s.attempt) s t) : LifecycleInv handshake t := by
  have hworld := hinv.toWorldInv
  cases h with
  | createFailed hphase => exact hworld.enter (hinv.phase_eq hphase).1
  | created hphase =>
      obtain ⟨hconnected, hstage⟩ := hinv.phase_eq hphase
      exact hworld.enter ⟨hconnected, hstage, rfl, rfl⟩
  | @firstEvent t e event rest hphase _ _ =>
      have htaken := hinv.take e rest
      have hstage := htaken.phase_eq hphase
      exact htaken.enter hstage
  | @firstDisconnected t e rest hphase _ =>
      have htaken := hinv.take e rest
      exact htaken.enter (htaken.phase_eq hphase).1
  | firstClosed hphase _ _ => exact hworld.enter (hinv.phase_eq hphase).1
  | helloFailed hphase _ => exact hworld.enter (hinv.phase_eq hphase).1
  | helloRefused hphase hframed _ =>
      obtain ⟨hconnected, hshake, rfl, rfl⟩ := hinv.phase_eq hphase
      have hsent := HandshakeSent.push_hello hshake.2 hframed
      exact (hworld.handOver hshake.1 hconnected hsent).enter hconnected
  | @helloSent t e framed hphase hframed _ =>
      obtain ⟨hconnected, hshake, rfl, rfl⟩ := hinv.phase_eq hphase
      have hsent := HandshakeSent.push_hello hshake.2 hframed
      refine (hworld.handOver hshake.1 hconnected hsent).enter
        ⟨hconnected, ⟨hshake.1, ?_⟩, rfl, rfl⟩
      show ((s.handOver s.attempt framed).links s.attempt).sent.length = 1
      rw [LifecycleState.handOver, LifecycleState.modifyLink_links, if_pos rfl]
      exact congrArg (· + 1) hshake.2
  | @handshakeChunk t e d data rest hphase _ _ =>
      have htaken := hinv.take e rest
      have hstage := htaken.phase_eq hphase
      exact htaken.enter hstage
  | @handshakeFrame t e d d' data rest respFrame hphase _ _ =>
      have htaken := hinv.take e rest
      have hstage := htaken.phase_eq hphase
      exact htaken.enter hstage
  | handshakeConnected _ _ => exact hinv.take _ _
  | @handshakeDisconnected t e d rest hphase _ =>
      have htaken := hinv.take e rest
      exact htaken.enter (htaken.phase_eq hphase).1
  | handshakeTimeout hphase _ => exact hworld.enter (hinv.phase_eq hphase).1
  | finishFailed hphase _ => exact hworld.enter (hinv.phase_eq hphase).1
  | finishRefused hphase hframed _ =>
      obtain ⟨hconnected, hshake, rfl, rfl⟩ := hinv.phase_eq hphase
      have hsent := (hworld.handshakeSent hshake).push_finish hshake.2 hframed
      exact (hworld.handOver hshake.1 hconnected hsent).enter hconnected
  | finished hphase hframed hderived =>
      obtain ⟨hconnected, hshake, rfl, rfl⟩ := hinv.phase_eq hphase
      exact (hworld.finished hshake hconnected hframed hderived).enter
        ⟨hconnected, hworld.finished_buffers hshake _ _, rfl, rfl, rfl, trivial⟩
  | storeTransport hphase =>
      obtain ⟨hconnected, hbuffers, rfl, rfl, rfl, -⟩ := hinv.phase_eq hphase
      exact ⟨⟨hworld.fresh, hworld.isolated, .of_disconnected hconnected⟩, hconnected,
        hbuffers, rfl, rfl, rfl, rfl⟩
  | storeNoiseSocket hphase =>
      obtain ⟨hconnected, hbuffers, rfl, rfl, rfl, ht⟩ := hinv.phase_eq hphase
      exact ⟨⟨hworld.fresh, hworld.isolated, .of_disconnected hconnected⟩, hconnected,
        hbuffers, rfl, rfl, rfl, ht, rfl⟩
  | storeTransportEvents hphase =>
      obtain ⟨hconnected, hbuffers, rfl, rfl, rfl, ht, hj⟩ := hinv.phase_eq hphase
      exact ⟨⟨hworld.fresh, hworld.isolated, .of_disconnected hconnected⟩, hconnected,
        hbuffers, rfl, rfl, rfl, ht, hj, rfl⟩
  | storeIsConnected hphase =>
      obtain ⟨-, hbuffers, rfl, rfl, rfl, ht, hj, he⟩ := hinv.phase_eq hphase
      obtain ⟨socket, hsocket, hchunks⟩ := hbuffers
      exact ⟨⟨hworld.fresh, hworld.isolated, fun _ => ⟨ht, hj, socket, hsocket⟩⟩, rfl, he,
        ⟨socket, hsocket, hchunks⟩, trivial⟩

theorem LifecycleInv.readLoop [WacoreBinary] {codec : NodeCodec}
    (hinv : LifecycleInv handshake s) (h : ReadLoopStep codec decoder s t) :
    LifecycleInv handshake t := by
  have hworld := hinv.toWorldInv
  cases h with
  | loadTransport hphase =>
      obtain ⟨hconnected, hevents, hbuffers, -⟩ := hinv.phase_eq hphase
      have ht := (hworld.flag hconnected).1
      refine hworld.enter ?_
      rw [ht]
      exact ⟨hconnected, hevents, hbuffers, rfl⟩
  | loadNoiseSocket hphase =>
      obtain ⟨hconnected, hevents, hbuffers, rfl⟩ := hinv.phase_eq hphase
      have hj := (hworld.flag hconnected).2.1
      refine hworld.enter ?_
      rw [hj]
      exact ⟨hconnected, hevents, hbuffers, rfl, rfl⟩
  | takeTransportEvents hphase =>
      obtain ⟨hconnected, hevents, hbuffers, rfl, rfl⟩ := hinv.phase_eq hphase
      refine ⟨⟨hworld.fresh, hworld.isolated, hworld.flag⟩, ?_⟩
      rw [hevents]
      refine ⟨?_, rfl, rfl, rfl⟩
      rw [decoder.buffered_new]
      exact hbuffers
  | data hphase _ =>
      obtain ⟨hbuffers, ht, hj, he⟩ := hinv.phase_eq hphase
      rw [he]
      obtain ⟨hworld', hbuffers'⟩ := hworld.receive hbuffers _ _
      refine hworld'.enter ⟨?_, ht, hj, rfl⟩
      rw [decoder.buffered_feed]
      simpa [chunksOf] using hbuffers'
  | reconnected hphase _ =>
      obtain ⟨hbuffers, ht, hj, he⟩ := hinv.phase_eq hphase
      rw [he]
      obtain ⟨hworld', hbuffers'⟩ := hworld.receive hbuffers _ _
      refine ⟨hworld', ?_⟩
      rw [show (s.receive s.attempt _ _).phase = s.phase from rfl, hphase]
      exact ⟨by simpa [chunksOf] using hbuffers', ht, hj, he⟩
  | disconnected hphase _ =>
      obtain ⟨hbuffers, -, -, he⟩ := hinv.phase_eq hphase
      rw [he]
      exact (hworld.receive hbuffers _ _).1.enter trivial
  | closed _ _ _ => exact hworld.enter trivial
  | disconnect _ => exact hworld.enter trivial
  | command hphase => exact hinv.stay hphase _
  | keepalive hphase => exact hinv.stay hphase _
  | drained hphase _ => exact hinv.stay hphase _
  | frameRefused hphase hframe hsocket _ =>
      obtain ⟨hbuffers, ht, hj, he⟩ := hinv.phase_eq hphase
      rw [hj] at hsocket ⊢
      rw [decoder.decodeFrame_some hframe] at hbuffers
      obtain ⟨hworld', hbuffers'⟩ := hworld.decrypt hbuffers hsocket
      exact hworld'.enter ⟨hbuffers', ht, rfl, he⟩
  | frame hphase hframe hsocket _ _ =>
      obtain ⟨hbuffers, ht, hj, he⟩ := hinv.phase_eq hphase
      rw [hj] at hsocket ⊢
      rw [decoder.decodeFrame_some hframe] at hbuffers
      obtain ⟨hworld', hbuffers'⟩ := hworld.decrypt hbuffers hsocket
      exact ⟨⟨hworld'.fresh, hworld'.isolated, hworld'.flag⟩, hbuffers', ht, rfl, he⟩
  | routed hphase => exact hinv.stay hphase _
  | marshalFailed hphase _ => exact hinv.stay hphase _
  | call hphase _ hsocket hstep =>
      obtain ⟨hbuffers, ht, hj, he⟩ := hinv.phase_eq hphase
      rw [hj] at hsocket ⊢
      have hframed := hstep.framed_eq (fun c => by simp)
      obtain ⟨hworld', hbuffers'⟩ := hworld.encrypt [] hbuffers hsocket hstep hframed
        (t := s.setSocket s.attempt _) rfl (Function.update_eq_self ..).symm rfl rfl rfl
        rfl rfl rfl
      exact hworld'.enter ⟨hbuffers', ht, hj, he⟩
  | @encrypt l kind socket c a write hphase hsocket hallows hstep =>
      obtain ⟨hbuffers, ht, hj, he⟩ := hinv.phase_eq hphase
      rw [hj] at hsocket ⊢
      have hframed := hstep.framed_eq (by rintro d rfl; exact hallows)
      obtain ⟨hworld', hbuffers'⟩ := hworld.encrypt [] hbuffers hsocket hstep hframed
        (t := s.setSocket s.attempt _) rfl (Function.update_eq_self ..).symm rfl rfl rfl
        rfl rfl rfl
      refine ⟨hworld', ?_⟩
      rw [show (s.setSocket s.attempt _).phase = s.phase from rfl, hphase]
      exact ⟨hbuffers', ht, hj, he⟩
  | @handOver l kind socket c write frame older hphase hsocket hstep hhanded =>
      obtain ⟨hbuffers, ht, hj, he⟩ := hinv.phase_eq hphase
      rw [hj] at hsocket ⊢
      rw [ht]
      have hframed : write.handed.map (fun frame => frame.framed) =
          [frame.framed] ++ socket.write.handed.map fun frame => frame.framed := by
        cases hstep with
        | handOver _ _ _ =>
            cases hhanded
            rfl
      obtain ⟨hworld', hbuffers'⟩ := hworld.encrypt [frame.framed] hbuffers hsocket hstep hframed
        (t := (s.setSocket s.attempt _).handOver s.attempt frame.framed)
        rfl rfl rfl rfl rfl rfl rfl rfl
      refine ⟨hworld', ?_⟩
      rw [show ((s.setSocket s.attempt _).handOver s.attempt _).phase = s.phase from rfl, hphase]
      exact ⟨hbuffers', ht, hj, he⟩
  | returned hphase _ _ => exact hinv.stay hphase _

theorem LifecycleInv.cleanup (hinv : LifecycleInv handshake s) (h : CleanupStep s t) :
    LifecycleInv handshake t := by
  have hworld := hinv.toWorldInv
  cases h with
  | left _ =>
      exact ⟨⟨hworld.fresh, hworld.isolated, fun h => by cases h⟩, rfl⟩
  | drainWaiters hphase =>
      have hconnected := hinv.phase_eq hphase
      exact hworld.enter hconnected
  | clearTransport hphase | clearNoiseSocket hphase | clearTransportEvents hphase =>
      have hconnected : s.isConnected = false := hinv.phase_eq hphase
      exact ⟨⟨hworld.fresh, hworld.isolated, .of_disconnected hconnected⟩, hconnected⟩

theorem LifecycleInv.step [WacoreBinary] {config : ConnectionConfig} {codec : NodeCodec}
    {a : LifecycleAction} (hinv : LifecycleInv handshake s)
    (h : LifecycleStep config codec decoder handshake s a t) : LifecycleInv handshake t := by
  have hworld := hinv.toWorldInv
  cases h with
  | arrive _ _ => exact hinv.modifyLink ⟨fun _ => rfl, fun _ => rfl⟩
  | close _ => exact hinv.modifyLink ⟨fun _ => rfl, fun _ => rfl⟩
  | loggedOut _ _ => exact hworld.enter trivial
  | connect hphase _ =>
      have hconnected : s.isConnected = false := hinv.phase_eq hphase
      have hfresh := hworld.fresh (s.attempt + 1) (Nat.lt_succ_self _)
      refine ⟨⟨?_, hworld.isolated, .of_disconnected hconnected⟩, hconnected, hfresh.1, ?_⟩
      · intro k hk
        exact hworld.fresh k (Nat.lt_of_succ_lt hk)
      · exact congrArg List.length hfresh.2
  | connectOnce h => exact hinv.connectOnce h
  | connectFailed hphase => exact hworld.retryOrStop (hinv.phase_eq hphase) config
  | readLoop h => exact hinv.readLoop h
  | cleanup h => exact hinv.cleanup h
  | endedOk _ => exact hworld.enter trivial
  | endedError hphase => exact hworld.retryOrStop (hinv.phase_eq hphase) config
  | delayElapsed hphase =>
      have hconnected := hinv.phase_eq hphase
      exact hworld.enter hconnected
  | abort => exact hworld.enter trivial

end Steps

theorem lifecycleInv_of_run [WacoreBinary] {config : ConnectionConfig} {codec : NodeCodec}
    {decoder : FrameDecoder} {handshake : Nat → XxHandshake} {as : List LifecycleAction}
    {s : LifecycleState decoder.State}
    (h : (lifecycle config codec decoder handshake).Run as s) : LifecycleInv handshake s :=
  h.invariant (fun s hs => by rw [show s = .new from hs]; exact ⟨.new handshake, rfl⟩)
    (fun _ _ _ hinv hstep => hinv.step hstep)

/-- In every run each connection is isolated: until its handshake ends its
transport gets handshake frames only, and from then on what the socket of that
handshake encrypts, from counter 0; the frames that socket decrypts are those of
the chunks received on its own channel, from their first byte.  The flag is set
only while both mutexes hold one connection, whose socket exists. -/
theorem connections_isolated [WacoreBinary] {config : ConnectionConfig} {codec : NodeCodec}
    {decoder : FrameDecoder} {handshake : Nat → XxHandshake} {as : List LifecycleAction}
    {s : LifecycleState decoder.State}
    (hrun : (lifecycle config codec decoder handshake).Run as s) :
    (∀ k, Isolated (handshake k) (s.links k) (s.sockets k)) ∧
      (s.isConnected = true → ∃ k socket, s.transport = some k ∧ s.noiseSocket = some k ∧
        s.sockets k = some socket) := by
  have hinv := lifecycleInv_of_run hrun
  refine ⟨hinv.isolated, ?_⟩
  intro hconnected
  obtain ⟨htransport, hnoise, socket, hsocket⟩ := hinv.flag hconnected
  exact ⟨s.attempt, socket, htransport, hnoise, hsocket⟩

/-- Every node is one byte, and no byte string is a node. -/
def oneByteCodec : NodeCodec where
  marshal _ := .ok [5]
  unpack _ := .error "unpack failed"

/-- The first attempt gets no transport; on the second connection a keepalive is
sent. -/
theorem connections_isolated_second :
    ∃ (as : List LifecycleAction) (s : LifecycleState Bytes),
      (@lifecycle plainWacore ⟨true⟩ oneByteCodec bufferDecoder fun _ => plainHandshake).Run as s ∧
        s.isConnected = true ∧ (s.links 2).sent.length = 3 ∧
        (∀ k, Isolated plainHandshake (s.links k) (s.sockets k)) ∧
        ∃ k socket, s.transport = some k ∧ s.noiseSocket = some k ∧ s.sockets k = some socket := by
  let _ := plainWacore
  let S := lifecycle ⟨true⟩ oneByteCodec bufferDecoder fun _ => plainHandshake
  have hmax : (0 : UInt32) ≠ u32Max := by decide
  obtain ⟨d, hframe, -⟩ := Decoder.decodeFrame_of_buffered (D := bufferDecoder)
    (show bufferDecoder.buffered (bufferDecoder.feed [] (frameCode.encode (bytePayload 1))) =
      frameCode.encode (bytePayload 1) ++ [] from (List.append_nil _).symm)
  have h0 : S.Run [] .new := .start rfl
  have h1 := h0.tail (show S.step _ .run _ from .connect rfl rfl)
  have h2 := h1.tail (show S.step _ .run _ from .connectOnce (.createFailed rfl))
  have h3 := h2.tail (show S.step _ .run _ from .connectFailed rfl)
  have h4 := h3.tail (show S.step _ .run _ from .delayElapsed rfl)
  have h5 := h4.tail (show S.step _ .run _ from .connect rfl rfl)
  have h6 := h5.tail (show S.step _ .run _ from .connectOnce (.created rfl))
  have h7 := h6.tail (show S.step _ (.arrive 2 .connected) _ from .arrive (Nat.le_refl _) rfl)
  have h8 := h7.tail (show S.step _ .run _ from .connectOnce (.firstEvent rfl rfl (by simp)))
  have h9 := h8.tail (show S.step _ .run _ from .connectOnce (.helloSent rfl rfl rfl))
  have h10 := h9.tail (show S.step _ (.arrive 2 (.dataReceived (frameCode.encode (bytePayload 1))))
    _ from .arrive (Nat.le_refl _) rfl)
  have h11 := h10.tail (show S.step _ .run _ from .connectOnce (.handshakeFrame rfl rfl hframe))
  have h12 := h11.tail (show S.step _ .run _ from .connectOnce (.finished rfl rfl rfl))
  have h13 := h12.tail (show S.step _ .run _ from .connectOnce (.storeTransport rfl))
  have h14 := h13.tail (show S.step _ .run _ from .connectOnce (.storeNoiseSocket rfl))
  have h15 := h14.tail (show S.step _ .run _ from .connectOnce (.storeTransportEvents rfl))
  have h16 := h15.tail (show S.step _ .run _ from .connectOnce (.storeIsConnected rfl))
  have h17 := h16.tail (show S.step _ .run _ from .readLoop (.loadTransport rfl))
  have h18 := h17.tail (show S.step _ .run _ from .readLoop (.loadNoiseSocket rfl))
  have h19 := h18.tail (show S.step _ .run _ from .readLoop (.takeTransportEvents rfl))
  have h20 := h19.tail (show S.step _ .run _ from .readLoop (.keepalive rfl))
  have h21 := h20.tail (show S.step _ .run _ from
    .readLoop (.call (c := 0) rfl rfl rfl (.call rfl)))
  have h22 := h21.tail (show S.step _ .run _ from
    .readLoop (.encrypt rfl rfl (a := .lock 0) rfl (.lock rfl rfl)))
  have h23 := h22.tail (show S.step _ .run _ from
    .readLoop (.handOver rfl rfl (.handOver rfl hmax rfl) rfl))
  have hisolated := connections_isolated h23
  exact ⟨_, _, h23, rfl, rfl, hisolated.1, hisolated.2 rfl⟩

end Waepic.Connection
