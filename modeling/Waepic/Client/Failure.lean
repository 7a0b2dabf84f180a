import Waepic.Connection.Reconnect
import Mathlib.Algebra.Group.Int.Defs

/-!
# Failures and logouts

`process_incoming_frame` marks the runner as logged out for a node with tag
`failure`, whatever it contains.  `handle_failure` turns a `<failure>` or
`<stream:error>` into an update, from the tag, the children and the numeric
code.  The two agree on what a logout is for every node without a code, for a
`<failure>` with a logout code, and for a `<stream:error>` with another code or
a `<conflict>` (`stops_iff_logsOut`).
-/

namespace Waepic.Client

open Transition Binary Connection

/-! ## Numbers in attributes -/

/-- A non-empty string of ASCII digits. -/
def parseDigits (cs : List Char) : Option Nat :=
  if cs ≠ [] ∧ cs.all Char.isDigit then
    some (cs.foldl (fun n c => 10 * n + (c.toNat - '0'.toNat)) 0)
  else none

/-- `str::parse::<i32>`. -/
def parseI32 (s : String) : Option Int :=
  match s.toList with
  | '-' :: cs => ((parseDigits cs).filter (· ≤ 2 ^ 31)).map fun n => -(n : Int)
  | '+' :: cs => ((parseDigits cs).filter (· < 2 ^ 31)).map Int.ofNat
  | cs => ((parseDigits cs).filter (· < 2 ^ 31)).map Int.ofNat

/-- `str::parse::<u64>`. -/
def parseU64 (s : String) : Option Nat :=
  match s.toList with
  | '+' :: cs => (parseDigits cs).filter (· < 2 ^ 64)
  | cs => (parseDigits cs).filter (· < 2 ^ 64)

example : parseI32 "-2147483648" = some (-2147483648) := by decide
example : parseI32 "2147483648" = none := by decide

/-! ## The update of a failure -/

/-- Reason for a connection failure. -/
inductive ConnectFailureReason where
  | generic
  | loggedOut
  | tempBanned
  | accountLocked
  | unknownLogout
  | clientOutdated
  | badUserAgent
  | catExpired
  | catInvalid
  | notFound
  | clientUnknown
  | internalServerError
  | experimental
  | serviceUnavailable
  | unknown (code : Int)
deriving DecidableEq, Repr

namespace ConnectFailureReason

def fromI32 (code : Int) : ConnectFailureReason :=
  match code with
  | 400 => generic
  | 401 => loggedOut
  | 402 => tempBanned
  | 403 => accountLocked
  | 405 => clientOutdated
  | 406 => unknownLogout
  | 409 => badUserAgent
  | 413 => catExpired
  | 414 => catInvalid
  | 415 => notFound
  | 418 => clientUnknown
  | 500 => internalServerError
  | 501 => experimental
  | 503 => serviceUnavailable
  | _ => unknown code

def isLoggedOut : ConnectFailureReason → Bool
  | loggedOut | accountLocked | unknownLogout => true
  | _ => false

end ConnectFailureReason

/-- The updates that `handle_failure` produces. -/
inductive FailureUpdate where
  | streamReplaced
  | temporaryBan (code : Int) (expire : Nat)
  | clientOutdated
  | connectFailure (reason : ConnectFailureReason) (message : String)
  | streamError (code : String)
  | loggedOut
deriving DecidableEq, Repr

/-- The update says that the device was logged out. -/
def FailureUpdate.logsOut : FailureUpdate → Bool
  | .loggedOut => true
  | .connectFailure reason _ => reason.isLoggedOut
  | _ => false

variable [WacoreBinary]

/-- The numeric code of a node. -/
def errorCode (n : Node) : Option Int := (n.attrText "code").bind parseI32

/-- Process an incoming `<failure>` or `<stream:error>` node.  What text a node
has is wacore's `content_as_string`. -/
def handleFailure (contentAsString : Node → Option String) (n : Node) : FailureUpdate :=
  if n.tag = "stream:error" ∧ (n.child "conflict").isSome then .streamReplaced
  else
    match errorCode n with
    | some code =>
        if code = 402 then
          .temporaryBan code (((n.attrText "expire").bind parseU64).getD 0)
        else if code = 405 then .clientOutdated
        else
          .connectFailure (.fromI32 code) (((n.child "text").bind contentAsString).getD "")
    | none =>
        if n.tag = "stream:error" then .streamError ((n.attrText "code").getD "") else .loggedOut

/-! ## What counts as a logout -/

/-- The codes of a logout. -/
def IsLogoutCode (code : Int) : Prop := code = 401 ∨ code = 403 ∨ code = 406

instance (code : Int) : Decidable (IsLogoutCode code) :=
  inferInstanceAs (Decidable (_ ∨ _ ∨ _))

omit [WacoreBinary] in
theorem isLoggedOut_fromI32 (code : Int) :
    (ConnectFailureReason.fromI32 code).isLoggedOut = true ↔ IsLogoutCode code := by
  unfold ConnectFailureReason.fromI32 IsLogoutCode
  split <;> simp_all [ConnectFailureReason.isLoggedOut]

/-- The update of a code: the codes of a ban and of an old client are no logout. -/
theorem handleFailure_logsOut_of_code {contentAsString : Node → Option String} {n : Node}
    {code : Int} (hcode : errorCode n = some code)
    (hconflict : ¬ (n.tag = "stream:error" ∧ (n.child "conflict").isSome)) :
    (handleFailure contentAsString n).logsOut = true ↔ IsLogoutCode code := by
  simp only [handleFailure]
  rw [if_neg hconflict, hcode]
  dsimp only
  split
  · next h => subst h; exact iff_of_false nofun (by decide)
  · split
    · next h => subst h; exact iff_of_false nofun (by decide)
    · exact isLoggedOut_fromI32 code

theorem handleFailure_logsOut_of_no_code {contentAsString : Node → Option String} {n : Node}
    (hcode : errorCode n = none)
    (hconflict : ¬ (n.tag = "stream:error" ∧ (n.child "conflict").isSome)) :
    (handleFailure contentAsString n).logsOut = true ↔ n.tag ≠ "stream:error" := by
  simp only [handleFailure]
  rw [if_neg hconflict, hcode]
  dsimp only
  split
  · next h => exact iff_of_false nofun (not_not_intro h)
  · next h => exact iff_of_true rfl h

/-- The runner and `handle_failure` judge a node the same way: it has no code, or
it is a `<failure>` exactly if its code is one of a logout, or it is a
`<stream:error>` with a `<conflict>`. -/
def SameVerdict (n : Node) : Prop :=
  ∀ code, errorCode n = some code →
    (n.tag = "failure" ↔ IsLogoutCode code) ∨
      (n.tag = "stream:error" ∧ (n.child "conflict").isSome)

/-- The tag decides as the code does exactly under this condition. -/
theorem sameVerdict_iff {contentAsString : Node → Option String} {n : Node}
    (htag : n.tag = "failure" ∨ n.tag = "stream:error") :
    (n.tag = "failure" ↔ (handleFailure contentAsString n).logsOut = true) ↔ SameVerdict n := by
  by_cases hconflict : n.tag = "stream:error" ∧ (n.child "conflict").isSome
  · have hlogs : (handleFailure contentAsString n).logsOut = false := by
      rw [handleFailure, if_pos hconflict]; rfl
    have hfailure : n.tag ≠ "failure" := by rw [hconflict.1]; decide
    refine iff_of_true ?_ (fun _ _ => Or.inr hconflict)
    rw [hlogs]
    exact iff_of_false hfailure Bool.false_ne_true
  · cases hcode : errorCode n with
    | none =>
        rw [handleFailure_logsOut_of_no_code hcode hconflict]
        refine iff_of_true ?_ (fun code h => by rw [hcode] at h; cases h)
        rcases htag with htag | htag <;> simp [htag]
    | some code =>
        rw [handleFailure_logsOut_of_code hcode hconflict]
        refine ⟨fun h c hc => ?_, fun h => (h code hcode).resolve_right hconflict⟩
        rw [hcode] at hc
        cases hc
        exact Or.inl h

/-! ## The effect on the runner -/

variable {config : ConnectionConfig}

/-- The runner may enter `connect_once` again. -/
def CanReconnect (config : ConnectionConfig) (s : ConnState) : Prop :=
  (connection config).CanReach (fun t => t.runner.phase = .connecting) s

/-- In `read_loop`, a runner that is logged out does not connect again. -/
theorem not_canReconnect {s : ConnState} (hseeks : s.runner.phase.seeksConnection = false)
    (hout : s.runner.loggedOut = true) : ¬ CanReconnect config s := by
  rintro ⟨bs, u, hsteps, hconnecting⟩
  have hleaves : Leaves s.runner.connection u.runner :=
    hsteps.preserves (I := fun u => Leaves s.runner.connection u.runner)
      (fun u a v h (hstep : ConnStep config u a v) => h.flow hstep.flow) ⟨hout, hseeks, rfl⟩
  have hseeks := hleaves.seeks
  rw [hconnecting] at hseeks
  cases hseeks

/-- A runner bound for an attempt begins it. -/
theorem canReconnect_of_willAttempt {s : ConnState} (h : s.runner.willAttempt config = true) :
    CanReconnect config s := by
  obtain ⟨bs, u, hsteps, hidle, hin⟩ := canReach_top h
  have htop : (connection config).step u (.move .top) _ := .move (.connect hidle hin)
  exact ⟨_, _, hsteps.append (.single htop), rfl⟩

/-- While a frame is processed, a runner that may retry connects again if the
transport closes next. -/
theorem canReconnect_of_mayRetry {s : ConnState} {n : Node}
    (hphase : s.runner.phase = .acking n ∨ s.runner.phase = .routing n)
    (hretry : s.runner.mayRetry config = true) : CanReconnect config s := by
  have hrouting : ∀ {u : ConnState}, u.runner.phase = .routing n →
      u.runner.mayRetry config = true → CanReconnect config u := by
    intro u hphase hretry
    refine .of_step (a := .move .routed) (.move (.routed hphase)) ?_
    refine .of_step (a := .move .transportClosed)
      (.move (.transportClosed (e := .socket "disconnected") rfl)) ?_
    exact canReconnect_of_willAttempt hretry
  rcases hphase with hphase | hphase
  · exact .of_step (a := .move .acked) (.move (.acked hphase)) (hrouting rfl hretry)
  · exact hrouting hphase hretry

/-- A frame stops a runner that could connect again exactly when it is a
`<failure>`. -/
theorem stops_iff_failure (hauto : config.autoReconnect = true) {s t : ConnState} {n : Node}
    (hable : CanReconnect config s) (hstep : (connection config).step s (.frame n) t) :
    ¬ CanReconnect config t ↔ n.tag = "failure" := by
  obtain ⟨hreading, hloop, -, hout⟩ := ConnStep.frame_runner hstep
  have hin : s.runner.loggedOut = false := by
    refine Bool.eq_false_of_not_eq_true fun hout => ?_
    exact not_canReconnect (by rw [hreading]; rfl) hout hable
  rw [hin, Bool.false_or] at hout
  constructor
  · intro hstops
    by_contra hn
    refine hstops (canReconnect_of_mayRetry (n := n) ?_ ?_)
    · cases hstep with
      | frameOther _ _ =>
          dsimp only
          split
          · exact Or.inl rfl
          · exact Or.inr rfl
      | frameIq _ _ => exact Or.inr rfl
    · simp [Runner.mayRetry, hauto, hout, hn]
  · intro hn
    exact not_canReconnect (Phase.not_seeks_of_inReadLoop hloop) (by rw [hout, hn]; rfl)

/-- For a `<failure>` or `<stream:error>` that a runner processes that could
connect again, the runner stops because of the node exactly when `handle_failure`
takes it for a logout, if and only if the node gets the same verdict from both. -/
theorem stops_iff_logsOut (hauto : config.autoReconnect = true)
    (contentAsString : Node → Option String) {s t : ConnState} {n : Node}
    (htag : n.tag = "failure" ∨ n.tag = "stream:error") (hable : CanReconnect config s)
    (hstep : (connection config).step s (.frame n) t) :
    (¬ CanReconnect config t ↔ (handleFailure contentAsString n).logsOut = true) ↔
      SameVerdict n := by
  rw [stops_iff_failure hauto hable hstep]
  exact sameVerdict_iff htag

/-- A connected runner with `auto_reconnect` receives a node that is no IQ. -/
theorem connected_frame (config : ConnectionConfig) (n : Node)
    (hauto : config.autoReconnect = true) (hn : n.tag ≠ "iq") :
    ∃ as s t, (connection config).Run as s ∧ CanReconnect config s ∧
      (connection config).step s (.frame n) t := by
  obtain ⟨s, hrun, hreading, hin⟩ := connected_run config
  refine ⟨_, s, _, hrun, ?_, .frameOther hreading ?_⟩
  · refine .of_step (a := .move .transportClosed)
      (.move (.transportClosed (e := .socket "disconnected") hreading)) ?_
    exact canReconnect_of_willAttempt (by simp [Runner.willAttempt, Runner.mayRetry, hauto, hin])
  · rw [routeNode_of_not_iq hn]

omit [WacoreBinary] in
theorem stops_iff_logsOut_loggedOut :
    letI := plainWacore
    ∃ s t, (connection ⟨true⟩).step s (.frame (failureNode "401")) t ∧
      (¬ CanReconnect ⟨true⟩ t ↔
        (handleFailure (fun _ => none) (failureNode "401")).logsOut = true) := by
  let _ := plainWacore
  obtain ⟨as, s, t, -, hable, hstep⟩ :=
    connected_frame ⟨true⟩ (failureNode "401") rfl (by decide)
  refine ⟨s, t, hstep, (stops_iff_logsOut rfl _ (Or.inl rfl) hable hstep).mpr ?_⟩
  intro code hcode
  have hcode' : errorCode (failureNode "401") = some 401 := by decide
  obtain rfl := Option.some.inj (hcode'.symm.trans hcode)
  exact Or.inl (iff_of_true rfl (Or.inl rfl))

omit [WacoreBinary] in
/-- A `<failure>` with the code of an unavailable service stops the runner. -/
theorem stops_on_transient_failure :
    letI := plainWacore
    ∃ as s t, (connection ⟨true⟩).Run as s ∧ CanReconnect ⟨true⟩ s ∧
      (connection ⟨true⟩).step s (.frame (failureNode "503")) t ∧
      ¬ (¬ CanReconnect ⟨true⟩ t ↔
        (handleFailure (fun _ => none) (failureNode "503")).logsOut = true) := by
  let _ := plainWacore
  obtain ⟨as, s, t, hrun, hable, hstep⟩ :=
    connected_frame ⟨true⟩ (failureNode "503") rfl (by decide)
  refine ⟨as, s, t, hrun, hable, hstep, fun h => ?_⟩
  have hstops := (stops_iff_failure rfl hable hstep).mpr rfl
  exact absurd (h.mp hstops) (by decide)

end Waepic.Client
