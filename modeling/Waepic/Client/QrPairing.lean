import Waepic.Client.PairSuccess
import Waepic.Library.Transition

/-!
# QR pairing

`request_pairing` spawns `run_qr_pairing`, which sends the events of the pairing
stream.  The task waits for a pair-device that has refs, and then shows the code
of each ref until its deadline: 60 seconds for the first, 20 for the others.

Past the refs every exit sends a verdict, `Success` or `Error`.  Before them a
`Disconnected`, a closed channel and an overflow make the task return an error,
which `request_pairing` logs: the stream ends without a verdict
(`qr_pairing_verdict_iff`).
-/

namespace Waepic.Client

open Transition Binary Connection

/-! ## Events and inputs -/

inductive QrError where
  | notConnected
  | notLoggedIn
  | internal (message : String)
  | qrExpired
  /-- An error of `handle_pair_success`. -/
  | pairing (e : PairSuccessError)

inductive PairEvent where
  | qrCode (code : String) (timeout : Nat)
  | success
  | error (e : QrError)

/-- `Success` and `Error` end the stream. -/
def PairEvent.isVerdict : PairEvent → Bool
  | .qrCode _ _ => false
  | .success | .error _ => true

/-- `RecvError` of a broadcast receiver. -/
inductive RecvError where
  | overflowed (n : Nat)
  | closed

/-- What wacore makes the codes of. -/
structure QrWacore (ρ : Type) extends PairWacore where
  ClientType : Type
  /-- `companion_web_client_type_for_props`, of the device properties. -/
  clientType : ρ → ClientType
  /-- `PairUtils::make_qr_data`. -/
  makeQrData : DeviceState → String → ClientType → String

/-- Where the task waits. -/
inductive QrPhase where
  /-- At `raw_rx.recv` of the first loop. -/
  | waiting
  /-- At `is_already_paired`, before the code `i`. -/
  | next (i : Nat) (code : String) (rest : List String)
  /-- At the `select` below the code `i`. -/
  | showing (i : Nat) (rest : List String)
  | returned (r : Except QrError Unit)

/-- The task, with the session and the flag that it shares. -/
structure QrTask (ρ : Type) where
  device : PairingDevice ρ
  phase : QrPhase
  session : PairSession ρ
  postPairReconnect : Bool
  /-- The stream is dropped. -/
  dropped : Bool
  /-- What the stream receives. -/
  events : List PairEvent

inductive QrInput (ρ : Type) where
  /-- `raw_rx.recv` returns; what the task awaits after it ends with the outcomes. -/
  | recv (r : Except RecvError RawEvent) (outcomes : PairOutcomes)
  | deadline
  /-- `session.load` of `is_already_paired` returns. -/
  | loaded (ok : Bool)
  /-- Others leave the session so. -/
  | stored (session : PairSession ρ)
  | dropStream

variable [WacoreBinary] {ρ : Type}

/-! ## The task -/

/-- `timeout_secs` of the code `i`. -/
def timeoutSecs (i : Nat) : Nat := if i = 0 then 60 else 20

/-- The codes of the refs. -/
def QrWacore.codes (w : QrWacore ρ) (device : PairingDevice ρ) (refs : List String) :
    List String :=
  refs.map fun r => w.makeQrData device.toDeviceState r (w.clientType device.others)

namespace QrTask

/-- `tx.send`. -/
def send (s : QrTask ρ) (e : PairEvent) : QrTask ρ :=
  if s.dropped then s else { s with events := s.events ++ [e] }

def finish (s : QrTask ρ) (r : Except QrError Unit) : QrTask ρ := { s with phase := .returned r }

/-- The head of the loop over the codes. -/
def nextCode (s : QrTask ρ) (i : Nat) : List String → QrTask ρ
  | [] => (s.send (.error .qrExpired)).finish (.ok ())
  | code :: rest => { s with phase := .next i code rest }

/-- The acknowledgement of a pair-device; its error is logged. -/
def acknowledge (s : QrTask ρ) (o : PairOutcomes) (n : Node) : QrTask ρ :=
  match n.attrText "id" with
  | none => s
  | some id =>
      if o.sendNode.isOk then
        { s with session := { s.session with sent := s.session.sent ++ [ackNode id] } }
      else s

/-- The first loop. -/
def onWaiting (w : QrWacore ρ) (s : QrTask ρ) (o : PairOutcomes) :
    Except RecvError RawEvent → QrTask ρ
  | .ok (.node n) =>
      if isPairDeviceNode n then
        match extractPairDeviceRefs n with
        | none => s.acknowledge o n
        | some refs => (s.acknowledge o n).nextCode 0 (w.codes s.device refs)
      else s
  | .ok .disconnected | .error _ => s.finish (.error .notConnected)
  | .ok .connected | .ok (.error _) => s

/-- `is_already_paired`, and the code if it is not. -/
def showCode (s : QrTask ρ) (i : Nat) (code : String) (rest : List String) (ok : Bool) :
    QrTask ρ :=
  if ok && s.session.isAuthorized then (s.send .success).finish (.ok ())
  else if s.dropped then s.finish (.ok ())
  else { s.send (.qrCode code (timeoutSecs i)) with phase := .showing i rest }

/-- The `select` loop, at an event. -/
def onShowing (w : QrWacore ρ) (s : QrTask ρ) (o : PairOutcomes) :
    Except RecvError RawEvent → QrTask ρ
  | .ok (.node n) =>
      if isPairSuccessNode n then
        match pairSuccess w.toPairWacore o s.device n s.session with
        | (.ok (), session) =>
            ({ s with session, postPairReconnect := true }.send .success).finish (.ok ())
        | (.error e, session) =>
            -- The flag is set before the handler and cleared after its error.
            ({ s with session, postPairReconnect := false }.send (.error (.pairing e))).finish
              (.ok ())
      else s
  | .ok .disconnected | .error _ => (s.send (.error .notConnected)).finish (.ok ())
  | .ok .connected | .ok (.error _) => s

/-- `run_qr_pairing`, from one input to the next. -/
def step (w : QrWacore ρ) (s : QrTask ρ) : QrInput ρ → Option (QrTask ρ)
  | .recv r o =>
      match s.phase with
      | .waiting => some (s.onWaiting w o r)
      | .showing _ _ => some (s.onShowing w o r)
      | _ => none
  | .deadline =>
      match s.phase with
      | .showing i rest => some (s.nextCode (i + 1) rest)
      | _ => none
  | .loaded ok =>
      match s.phase with
      | .next i code rest => some (s.showCode i code rest ok)
      | _ => none
  | .stored session => some { s with session }
  | .dropStream => some { s with dropped := true }

/-- The task has returned. -/
def ended (s : QrTask ρ) : Bool :=
  match s.phase with
  | .returned _ => true
  | _ => false

end QrTask

/-- `request_pairing`, with what the session loads and whether the client has a
sender of events. -/
def requestPairing (loaded : Except String (Option (PairingDevice ρ))) (hasSender : Bool)
    (session : PairSession ρ) (postPairReconnect : Bool) : Except QrError (QrTask ρ) :=
  match loaded with
  | .error e => .error (.internal ("failed to load device: " ++ e))
  | .ok none => .error .notLoggedIn
  | .ok (some device) =>
      if hasSender then .ok ⟨device, .waiting, session, postPairReconnect, false, []⟩
      else .error .notConnected

/-- The runs of the task that a `request_pairing` spawns. -/
def qrPairing (w : QrWacore ρ) : System (QrTask ρ) (QrInput ρ) where
  init s := ∃ loaded hasSender session postPairReconnect,
    requestPairing loaded hasSender session postPairReconnect = .ok s
  step s a t := s.step w a = some t

/-! ## What the task sends -/

section Sent

variable {w : QrWacore ρ} {o : PairOutcomes} {s : QrTask ρ}

omit [WacoreBinary] in
theorem send_session (s : QrTask ρ) (e : PairEvent) : (s.send e).session = s.session := by
  simp only [QrTask.send]
  split <;> rfl

omit [WacoreBinary] in
theorem nextCode_session (s : QrTask ρ) (i : Nat) (codes : List String) :
    (s.nextCode i codes).session = s.session := by
  cases codes with
  | nil => exact send_session s _
  | cons code rest => rfl

theorem acknowledge_sent (s : QrTask ρ) (n : Node) (hsend : o.sendNode.isOk = true) :
    (s.acknowledge o n).session.sent =
      s.session.sent ++ ((n.attrText "id").map ackNode).toList := by
  simp only [QrTask.acknowledge]
  cases n.attrText "id" <;> simp [hsend]

/-- The first loop sends what a task that waits for a pair-device sends. -/
theorem onWaiting_sent (hsend : o.sendNode.isOk = true) (n : Node) :
    (s.onWaiting w o (.ok (.node n))).session.sent = s.session.sent ++
      (PairingTask.qrWaiting s.device.toDeviceState).sends w.toPairUtils n := by
  rw [QrTask.onWaiting, PairingTask.sends_qrWaiting]
  split
  · split
    · exact acknowledge_sent s n hsend
    · rw [nextCode_session, acknowledge_sent s n hsend]
  · exact (List.append_nil _).symm

/-- The `select` loop sends what a task that shows codes sends. -/
theorem onShowing_sent (hsend : o.sendNode.isOk = true) (n : Node) (refs : List String) :
    (s.onShowing w o (.ok (.node n))).session.sent = s.session.sent ++
      (PairingTask.qrShowing s.device.toDeviceState refs).sends w.toPairUtils n := by
  have hsent : (pairSuccess w.toPairWacore o s.device n s.session).2.sent = s.session.sent ++
      (handlePairSuccess w.toPairUtils s.device.toDeviceState n).toOption.toList := by
    unfold pairSuccess
    split
    · next hsigned => simp [hsigned, Except.toOption]
    · next hsigned =>
        split
        · next hfails => rw [hfails] at hsend; cases hsend
        · rw [hsigned]
          dsimp only
          split
          · rfl
          · split <;> rfl
  rw [QrTask.onShowing, PairingTask.sends_qrShowing]
  split
  · split
    all_goals
      next heq =>
        rw [heq] at hsent
        rw [← hsent]
        exact congrArg PairSession.sent (send_session _ _)
  · exact (List.append_nil _).symm

end Sent

/-! ## What the server sent -/

namespace QrInput

/-- The refs of a pair-device. -/
def refs : QrInput ρ → Option (List String)
  | .recv (.ok (.node n)) _ => if isPairDeviceNode n then extractPairDeviceRefs n else none
  | _ => none

/-- A `Disconnected`, a closed channel or an overflow. -/
def isLost : QrInput ρ → Bool
  | .recv (.ok .disconnected) _ | .recv (.error _) _ => true
  | _ => false

def isDeadline : QrInput ρ → Bool
  | .deadline => true
  | _ => false

end QrInput

/-- The refs of the first pair-device that has some. -/
def serverRefs (as : List (QrInput ρ)) : List String := (as.findSome? QrInput.refs).getD []

/-- The connection is lost before there are refs. -/
def lostBeforeRefs (as : List (QrInput ρ)) : Bool :=
  (as.takeWhile fun a => a.refs.isNone).any QrInput.isLost

/-- The events that show the codes. -/
def qrCodes (codes : List String) : List PairEvent :=
  codes.mapIdx fun i code => .qrCode code (timeoutSecs i)

/-- The stream has the codes of a prefix of the refs, and then one verdict exactly
if the task has returned; once every code had its deadline it has. -/
def EndsWithVerdict (w : QrWacore ρ) (as : List (QrInput ρ)) (s : QrTask ρ) : Prop :=
  (∃ shown, shown <+: w.codes s.device (serverRefs as) ∧
    if s.ended then ∃ v, v.isVerdict = true ∧ s.events = qrCodes shown ++ [v]
    else s.events = qrCodes shown) ∧
  (serverRefs as ≠ [] → (serverRefs as).length ≤ as.countP QrInput.isDeadline → s.ended = true)

section Verdict

variable {w : QrWacore ρ} {as : List (QrInput ρ)} {s t : QrTask ρ} {a : QrInput ρ}

omit [WacoreBinary] in
/-- A pair-device with refs has one. -/
theorem extractPairDeviceRefs_ne_nil {n : Node} {refs : List String}
    (h : extractPairDeviceRefs n = some refs) : refs ≠ [] := by
  rw [extractPairDeviceRefs, Option.bind_eq_some_iff] at h
  obtain ⟨pairDevice, -, h⟩ := h
  dsimp only at h
  split at h
  · cases h
  · next hempty =>
      cases h
      simpa using hempty

theorem refs_of_isLost (h : a.isLost = true) : a.refs = none := by
  simp only [QrInput.isLost] at h
  split at h <;> first | rfl | cases h

theorem lostBeforeRefs_concat : lostBeforeRefs (as ++ [a]) =
    (lostBeforeRefs as || ((as.findSome? QrInput.refs).isNone && a.isLost)) := by
  simp only [lostBeforeRefs]
  induction as with
  | nil =>
      cases hlost : a.isLost with
      | true => simp [refs_of_isLost hlost, hlost]
      | false => cases hrefs : a.refs <;> simp [hrefs, hlost]
  | cons b as ih =>
      cases hrefs : b.refs with
      | none => simp [hrefs, ih, Bool.or_assoc]
      | some refs => simp [hrefs]

/-- There are refs, and of their codes `shown` is before `rest`. -/
structure Shows (w : QrWacore ρ) (as : List (QrInput ρ)) (device : PairingDevice ρ)
    (shown rest : List String) : Prop where
  found : as.findSome? QrInput.refs ≠ none
  notLost : lostBeforeRefs as = false
  codes : w.codes device (serverRefs as) = shown ++ rest

theorem Shows.concat {device : PairingDevice ρ} {shown rest : List String}
    (h : Shows w as device shown rest) (a : QrInput ρ) :
    Shows w (as ++ [a]) device shown rest := by
  obtain ⟨refs, hrefs⟩ := Option.ne_none_iff_exists'.mp h.found
  have hsame : (as ++ [a]).findSome? QrInput.refs = as.findSome? QrInput.refs := by
    rw [List.findSome?_append, hrefs]
    rfl
  refine ⟨by rw [hsame]; exact h.found, ?_, ?_⟩
  · rw [lostBeforeRefs_concat, h.notLost, hrefs]
    rfl
  · rw [serverRefs, hsame]
    exact h.codes

/-- What the inputs of a task say of it, while its stream is not dropped. -/
inductive QrInv (w : QrWacore ρ) (as : List (QrInput ρ)) (s : QrTask ρ) : Prop where
  | waiting :
      s.phase = .waiting → as.findSome? QrInput.refs = none → lostBeforeRefs as = false →
      as.countP QrInput.isDeadline = 0 → s.events = [] → QrInv w as s
  | next {i : Nat} {code : String} {rest shown : List String} :
      s.phase = .next i code rest → Shows w as s.device shown (code :: rest) →
      shown.length = i → as.countP QrInput.isDeadline = i → s.events = qrCodes shown →
      QrInv w as s
  | showing {i : Nat} {rest shown : List String} :
      s.phase = .showing i rest → Shows w as s.device shown rest →
      shown.length = i + 1 → as.countP QrInput.isDeadline = i → s.events = qrCodes shown →
      QrInv w as s
  | lost {r : Except QrError Unit} :
      s.phase = .returned r → lostBeforeRefs as = true → s.events = [] → QrInv w as s
  | ended {r : Except QrError Unit} {shown rest : List String} {v : PairEvent} :
      s.phase = .returned r → Shows w as s.device shown rest → v.isVerdict = true →
      s.events = qrCodes shown ++ [v] → QrInv w as s

omit [WacoreBinary] in
theorem qrCodes_concat (shown : List String) (code : String) :
    qrCodes (shown ++ [code]) = qrCodes shown ++ [.qrCode code (timeoutSecs shown.length)] :=
  List.mapIdx_concat

omit [WacoreBinary] in
theorem send_events (e : PairEvent) (h : s.dropped = false) :
    (s.send e).events = s.events ++ [e] := by
  rw [QrTask.send, h]
  rfl

omit [WacoreBinary] in
theorem send_device (e : PairEvent) : (s.send e).device = s.device := by
  simp only [QrTask.send]
  split <;> rfl

/-- A task that sends a verdict and returns. -/
theorem QrInv.verdict {shown rest : List String} {v : PairEvent} {r : Except QrError Unit}
    (hshows : Shows w as s.device shown rest) (hevents : s.events = qrCodes shown)
    (hopen : s.dropped = false) (hv : v.isVerdict = true) :
    QrInv w as ((s.send v).finish r) := by
  have hshows' : Shows w as ((s.send v).finish r).device shown rest :=
    (send_device (s := s) v).symm ▸ hshows
  have hevents' : ((s.send v).finish r).events = qrCodes shown ++ [v] :=
    hevents ▸ send_events v hopen
  exact .ended rfl hshows' hv hevents'

/-- The head of the loop, with the codes that are left. -/
theorem QrInv.nextCode {shown rest : List String} {i : Nat}
    (hshows : Shows w as s.device shown rest) (hlength : shown.length = i)
    (hcount : as.countP QrInput.isDeadline = i) (hevents : s.events = qrCodes shown)
    (hopen : s.dropped = false) : QrInv w as (s.nextCode i rest) := by
  cases rest with
  | nil => exact .verdict hshows hevents hopen rfl
  | cons code rest => exact .next rfl hshows hlength hcount hevents

/-- The invariant is about the phase, the device and the events. -/
theorem QrInv.congr (h : QrInv w as s) (hphase : t.phase = s.phase) (hdevice : t.device = s.device)
    (hevents : t.events = s.events) : QrInv w as t := by
  cases h with
  | waiting hp hnone hlost hcount he =>
      exact .waiting (hphase.trans hp) hnone hlost hcount (hevents.trans he)
  | next hp hshows hlength hcount he =>
      exact .next (hphase.trans hp) (hdevice ▸ hshows) hlength hcount (hevents.trans he)
  | showing hp hshows hlength hcount he =>
      exact .showing (hphase.trans hp) (hdevice ▸ hshows) hlength hcount (hevents.trans he)
  | lost hp hlost he => exact .lost (hphase.trans hp) hlost (hevents.trans he)
  | ended hp hshows hv he =>
      exact .ended (hphase.trans hp) (hdevice ▸ hshows) hv (hevents.trans he)

/-- An input that brings no refs, loses nothing and is no deadline. -/
theorem QrInv.concat (h : QrInv w as s) (hrefs : a.refs = none) (hlost : a.isLost = false)
    (hdeadline : a.isDeadline = false) : QrInv w (as ++ [a]) s := by
  have hcount : (as ++ [a]).countP QrInput.isDeadline = as.countP QrInput.isDeadline := by
    simp [hdeadline]
  have hlost' : lostBeforeRefs (as ++ [a]) = lostBeforeRefs as := by
    simp [lostBeforeRefs_concat, hlost]
  cases h with
  | waiting hp hnone hl hc he =>
      have hnone' : (as ++ [a]).findSome? QrInput.refs = none := by
        simp [List.findSome?_append, hnone, hrefs]
      exact .waiting hp hnone' (hlost'.trans hl) (hcount.trans hc) he
  | next hp hshows hlength hc he =>
      exact .next hp (hshows.concat a) hlength (hcount.trans hc) he
  | showing hp hshows hlength hc he =>
      exact .showing hp (hshows.concat a) hlength (hcount.trans hc) he
  | lost hp hl he => exact .lost hp (hlost'.trans hl) he
  | ended hp hshows hv he => exact .ended hp (hshows.concat a) hv he

theorem acknowledge_same (s : QrTask ρ) (o : PairOutcomes) (n : Node) :
    (s.acknowledge o n).phase = s.phase ∧ (s.acknowledge o n).device = s.device ∧
      (s.acknowledge o n).events = s.events ∧ (s.acknowledge o n).dropped = s.dropped := by
  simp only [QrTask.acknowledge]
  split
  · exact ⟨rfl, rfl, rfl, rfl⟩
  · split <;> exact ⟨rfl, rfl, rfl, rfl⟩

/-- The first refs start the loop over the codes. -/
theorem QrInv.start {refs : List String} (hrefs : a.refs = some refs)
    (hnone : as.findSome? QrInput.refs = none) (hlost : lostBeforeRefs as = false)
    (hcount : as.countP QrInput.isDeadline = 0) (hevents : s.events = [])
    (hopen : s.dropped = false) :
    QrInv w (as ++ [a]) (s.nextCode 0 (w.codes s.device refs)) := by
  have hfound : (as ++ [a]).findSome? QrInput.refs = some refs := by
    simp [List.findSome?_append, hnone, hrefs]
  have hnotLost : a.isLost = false := by
    cases h : a.isLost with
    | true => rw [refs_of_isLost h] at hrefs; cases hrefs
    | false => rfl
  have hnotDeadline : a.isDeadline = false := by
    cases a with
    | deadline => cases hrefs
    | _ => rfl
  have hshows : Shows w (as ++ [a]) s.device [] (w.codes s.device refs) :=
    { found := by simp [hfound]
      notLost := by simp [lostBeforeRefs_concat, hlost, hnotLost]
      codes := by rw [serverRefs, hfound]; rfl }
  exact .nextCode hshows rfl (by simp [hcount, hnotDeadline]) hevents hopen

/-- The first loop starts the codes or returns with an error. -/
theorem QrInv.onWaiting (hphase : s.phase = .waiting) (hnone : as.findSome? QrInput.refs = none)
    (hlost : lostBeforeRefs as = false) (hcount : as.countP QrInput.isDeadline = 0)
    (hevents : s.events = []) (hopen : s.dropped = false) (r : Except RecvError RawEvent)
    (o : PairOutcomes) : QrInv w (as ++ [.recv r o]) (s.onWaiting w o r) := by
  have h : QrInv w as s := .waiting hphase hnone hlost hcount hevents
  have hgone : ∀ r : Except RecvError RawEvent, (QrInput.recv (ρ := ρ) r o).isLost = true →
      QrInv w (as ++ [.recv r o]) (s.finish (.error .notConnected)) := by
    intro r hr
    exact .lost rfl (by simp [lostBeforeRefs_concat, hnone, hr]) hevents
  cases r with
  | error e => exact hgone _ rfl
  | ok event =>
      cases event with
      | disconnected => exact hgone _ rfl
      | connected => exact h.concat rfl rfl rfl
      | error text => exact h.concat rfl rfl rfl
      | node n =>
          have hrefs : (QrInput.recv (ρ := ρ) (.ok (.node n)) o).refs =
            if isPairDeviceNode n then extractPairDeviceRefs n else none := rfl
          obtain ⟨hp, hd, he, ho⟩ := acknowledge_same s o n
          rw [QrTask.onWaiting]
          split
          · next hdevice =>
              rw [if_pos hdevice] at hrefs
              split
              · next hextract => exact (h.congr hp hd he).concat (hrefs.trans hextract) rfl rfl
              · next refs hextract =>
                  rw [← hd]
                  exact .start (hrefs.trans hextract) hnone hlost hcount (he.trans hevents)
                    (ho.trans hopen)
          · next hdevice =>
              rw [if_neg hdevice] at hrefs
              exact h.concat hrefs rfl rfl

/-- The `select` loop goes on or returns with a verdict. -/
theorem QrInv.onShowing {i : Nat} {rest shown : List String} (hphase : s.phase = .showing i rest)
    (hshows : Shows w as s.device shown rest) (hlength : shown.length = i + 1)
    (hcount : as.countP QrInput.isDeadline = i) (hevents : s.events = qrCodes shown)
    (hopen : s.dropped = false) (r : Except RecvError RawEvent) (o : PairOutcomes) :
    QrInv w (as ++ [.recv r o]) (s.onShowing w o r) := by
  have hshows' := hshows.concat (.recv r o)
  have hstays : QrInv w (as ++ [.recv r o]) s := by
    refine .showing hphase hshows' hlength ?_ hevents
    simp [hcount, QrInput.isDeadline]
  cases r with
  | error e => exact .verdict hshows' hevents hopen rfl
  | ok event =>
      cases event with
      | disconnected => exact .verdict hshows' hevents hopen rfl
      | connected => exact hstays
      | error text => exact hstays
      | node n =>
          rw [QrTask.onShowing]
          split
          · split
            · exact .verdict (by exact hshows') hevents hopen rfl
            · exact .verdict (by exact hshows') hevents hopen rfl
          · exact hstays

/-- `is_already_paired` returns a verdict, or the code is shown. -/
theorem QrInv.showCode {i : Nat} {code : String} {rest shown : List String}
    (hshows : Shows w as s.device shown (code :: rest)) (hlength : shown.length = i)
    (hcount : as.countP QrInput.isDeadline = i) (hevents : s.events = qrCodes shown)
    (hopen : s.dropped = false) (ok : Bool) : QrInv w as (s.showCode i code rest ok) := by
  rw [QrTask.showCode, hopen]
  split
  · exact .verdict hshows hevents hopen rfl
  · have hsent : (s.send (.qrCode code (timeoutSecs i))).events = qrCodes (shown ++ [code]) := by
      rw [send_events _ hopen, hevents, qrCodes_concat, hlength]
    have hshows' : Shows w as (s.send (.qrCode code (timeoutSecs i))).device (shown ++ [code])
        rest := by
      rw [send_device]
      exact ⟨hshows.found, hshows.notLost, by simp [hshows.codes]⟩
    exact .showing rfl hshows' (by simp [hlength]) hcount hsent

theorem QrInv.init (h : (qrPairing w).init s) : QrInv w [] s := by
  obtain ⟨loaded, hasSender, session, flag, h⟩ := h
  simp only [requestPairing] at h
  split at h
  · cases h
  · cases h
  · split at h
    · cases h
      exact .waiting rfl rfl rfl rfl rfl
    · cases h

section Dropped

omit [WacoreBinary]

@[simp] theorem send_dropped (s : QrTask ρ) (e : PairEvent) : (s.send e).dropped = s.dropped := by
  simp only [QrTask.send]
  split <;> rfl

@[simp] theorem finish_dropped (s : QrTask ρ) (r : Except QrError Unit) :
    (s.finish r).dropped = s.dropped := rfl

@[simp] theorem nextCode_dropped (s : QrTask ρ) (i : Nat) (codes : List String) :
    (s.nextCode i codes).dropped = s.dropped := by
  cases codes with
  | nil => exact send_dropped s _
  | cons code rest => rfl

@[simp] theorem showCode_dropped (s : QrTask ρ) (i : Nat) (code : String) (rest : List String)
    (ok : Bool) : (s.showCode i code rest ok).dropped = s.dropped := by
  simp only [QrTask.showCode]
  split
  · exact send_dropped s _
  · split
    · rfl
    · exact send_dropped s _

end Dropped

theorem onWaiting_dropped (s : QrTask ρ) (o : PairOutcomes) (r : Except RecvError RawEvent) :
    (s.onWaiting w o r).dropped = s.dropped := by
  simp only [QrTask.onWaiting]
  split
  · split
    · split <;> simp [acknowledge_same]
    · rfl
  all_goals rfl

theorem onShowing_dropped (s : QrTask ρ) (o : PairOutcomes) (r : Except RecvError RawEvent) :
    (s.onShowing w o r).dropped = s.dropped := by
  simp only [QrTask.onShowing]
  split
  · split
    · split <;> simp
    · rfl
  all_goals simp

/-- A stream that is dropped stays dropped. -/
theorem open_of_step (h : s.step w a = some t) (hopen : t.dropped = false) :
    s.dropped = false := by
  cases a with
  | stored session => cases h; exact hopen
  | dropStream => cases h; cases hopen
  | recv r o =>
      rw [QrTask.step] at h
      split at h
      · cases h
        exact (onWaiting_dropped s o r).symm.trans hopen
      · cases h
        exact (onShowing_dropped s o r).symm.trans hopen
      · cases h
  | deadline =>
      rw [QrTask.step] at h
      split at h
      · cases h
        exact (nextCode_dropped ..).symm.trans hopen
      · cases h
  | loaded ok =>
      rw [QrTask.step] at h
      split at h
      · cases h
        exact (showCode_dropped ..).symm.trans hopen
      · cases h

theorem QrInv.step (h : QrInv w as s) (hstep : s.step w a = some t) (hopen' : t.dropped = false) :
    QrInv w (as ++ [a]) t := by
  have hopen : s.dropped = false := open_of_step hstep hopen'
  cases a with
  | stored session =>
      cases hstep
      have h' : QrInv w as { s with session } := h.congr rfl rfl rfl
      exact h'.concat rfl rfl rfl
  | dropStream =>
      cases hstep
      cases hopen'
  | recv r o =>
      cases h with
      | waiting hp hnone hlost hcount he =>
          rw [QrTask.step, hp] at hstep
          cases hstep
          exact .onWaiting hp hnone hlost hcount he hopen r o
      | showing hp hshows hlength hcount he =>
          rw [QrTask.step, hp] at hstep
          cases hstep
          exact .onShowing hp hshows hlength hcount he hopen r o
      | next hp | lost hp | ended hp => rw [QrTask.step, hp] at hstep; cases hstep
  | deadline =>
      cases h with
      | showing hp hshows hlength hcount he =>
          rw [QrTask.step, hp] at hstep
          cases hstep
          exact .nextCode (hshows.concat _) hlength (by simp [hcount, QrInput.isDeadline]) he hopen
      | waiting hp | next hp | lost hp | ended hp => rw [QrTask.step, hp] at hstep; cases hstep
  | loaded ok =>
      cases h with
      | next hp hshows hlength hcount he =>
          rw [QrTask.step, hp] at hstep
          cases hstep
          exact .showCode (hshows.concat _) hlength (by simp [hcount, QrInput.isDeadline]) he hopen ok
      | waiting hp | showing hp | lost hp | ended hp => rw [QrTask.step, hp] at hstep; cases hstep
/-- The inputs of a run say how its stream is. -/
theorem QrInv.run (h : (qrPairing w).Run as s) (hopen : s.dropped = false) : QrInv w as s := by
  refine h.history_invariant (I := fun as s => s.dropped = false → QrInv w as s) ?_ ?_ hopen
  · intro s hinit _
    exact .init hinit
  · intro as s a t _ ih hstep hopen'
    exact (ih (open_of_step hstep hopen')).step hstep hopen'

/-- A stream that is not dropped ends with a verdict exactly if the connection is
not lost before there are refs. -/
theorem qr_pairing_verdict_iff (w : QrWacore ρ) (as : List (QrInput ρ)) (s : QrTask ρ)
    (hrun : (qrPairing w).Run as s) (hopen : s.dropped = false) :
    EndsWithVerdict w as s ↔ lostBeforeRefs as = false := by
  have hnil : as.findSome? QrInput.refs = none → serverRefs as = [] := by
    intro hnone
    rw [serverRefs, hnone]
    rfl
  have hbound : ∀ {shown rest}, Shows w as s.device shown rest →
      shown.length + rest.length = (serverRefs as).length := by
    intro shown rest hshows
    rw [← List.length_append, ← hshows.codes, QrWacore.codes, List.length_map]
  cases QrInv.run hrun hopen with
  | waiting hp hnone hlost hcount he =>
      refine iff_of_true ⟨⟨[], List.nil_prefix, ?_⟩, ?_⟩ hlost
      · simpa [QrTask.ended, hp, qrCodes] using he
      · intro hrefs
        exact absurd (hnil hnone) hrefs
  | @next i code rest shown hp hshows hlength hcount he =>
      refine iff_of_true ⟨⟨shown, ⟨_, hshows.codes.symm⟩, ?_⟩, ?_⟩ hshows.notLost
      · simpa [QrTask.ended, hp] using he
      · intro _ hle
        have hlength' := hbound hshows
        rw [List.length_cons] at hlength'
        omega
  | @showing i rest shown hp hshows hlength hcount he =>
      refine iff_of_true ⟨⟨shown, ⟨_, hshows.codes.symm⟩, ?_⟩, ?_⟩ hshows.notLost
      · simpa [QrTask.ended, hp] using he
      · intro _ hle
        have hlength' := hbound hshows
        omega
  | lost hp hlost he =>
      refine iff_of_false ?_ (by simp [hlost])
      rintro ⟨⟨shown, -, hverdict⟩, -⟩
      simp [QrTask.ended, hp, he] at hverdict
  | @ended r shown rest v hp hshows hv he =>
      have hended : s.ended = true := by simp [QrTask.ended, hp]
      refine iff_of_true ⟨⟨shown, ⟨_, hshows.codes.symm⟩, ?_⟩, fun _ _ => hended⟩ hshows.notLost
      rw [if_pos hended]
      exact ⟨v, hv, he⟩

end Verdict

/-- wacore whose codes are the refs. -/
def plainQrWacore : QrWacore Unit where
  toPairWacore := acceptingWacore
  ClientType := Unit
  clientType _ := ()
  makeQrData _ r _ := r

/-- A pair-device with one ref. -/
def pairDeviceIq : Node :=
  .mk "iq" [("type", .string "set"), ("id", .string "1")]
    (some (.nodes [.mk "pair-device" []
      (some (.nodes [.mk "ref" [] (some (.bytes []))]))]))

/-- The task of an unpaired device. -/
def unpairedTask : QrTask Unit :=
  ⟨unpairedDevice, .waiting, ⟨some unpairedDevice, fun _ => none, []⟩, false, false, []⟩

/-- Nothing fails. -/
def noFailures : PairOutcomes := ⟨.ok (), .ok (), .ok (), 0⟩

omit [WacoreBinary] in
/-- One code is shown and expires. -/
theorem qr_pairing_verdict_expired :
    letI := plainWacore
    ∃ s, (qrPairing plainQrWacore).Run
        [.recv (.ok (.node pairDeviceIq)) noFailures, .loaded true, .deadline] s ∧
      s.events = [.qrCode "" 60, .error .qrExpired] ∧
      EndsWithVerdict plainQrWacore
        [.recv (.ok (.node pairDeviceIq)) noFailures, .loaded true, .deadline] s := by
  let _ := plainWacore
  have h0 : (qrPairing plainQrWacore).Run [] unpairedTask :=
    .start ⟨.ok (some unpairedDevice), true, _, _, rfl⟩
  have hstep : ∀ {as s} (_ : (qrPairing plainQrWacore).Run as s) (a) {t},
      s.step plainQrWacore a = some t → (qrPairing plainQrWacore).step s a t := fun _ _ _ h => h
  have h1 := h0.tail (hstep h0 (.recv (.ok (.node pairDeviceIq)) noFailures) rfl)
  have h2 := h1.tail (hstep h1 (.loaded true) rfl)
  have h3 := h2.tail (hstep h2 .deadline rfl)
  exact ⟨_, h3, rfl, (qr_pairing_verdict_iff _ _ _ h3 rfl).mpr rfl⟩

omit [WacoreBinary] in
/-- A connection that is lost before the pair-device ends the stream in silence. -/
theorem qr_pairing_silent :
    letI := plainWacore
    ¬ ∀ (w : QrWacore Unit) (as : List (QrInput Unit)) (s : QrTask Unit),
      (qrPairing w).Run as s → s.dropped = false → EndsWithVerdict w as s := by
  let _ := plainWacore
  intro hall
  have h0 : (qrPairing plainQrWacore).Run [] unpairedTask :=
    .start ⟨.ok (some unpairedDevice), true, _, _, rfl⟩
  have hstep : (qrPairing plainQrWacore).step unpairedTask
      (.recv (.ok .disconnected) noFailures) (unpairedTask.finish (.error .notConnected)) := rfl
  have h1 := h0.tail hstep
  obtain ⟨⟨shown, -, v, -, hevents⟩, -⟩ := hall _ _ _ h1 rfl
  have hlength := congrArg List.length hevents
  rw [List.length_append] at hlength
  cases hlength

end Waepic.Client
