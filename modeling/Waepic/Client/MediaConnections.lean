import Waepic.Client.DownloadPolicy
import Waepic.Library.Transition
import Mathlib.Logic.Function.Basic

/-!
# Downloads that share the media connection

The clones of a client share the cached media connection.  A `download`, or a
`download_to_writer`, looks at it under the read lock, and awaits its IQ and its requests
without a lock.  So any number of them are under way at a time: one may store its connection
over a newer one, and one that was refused may clear a connection that it has never used.

What a call returns does not depend on this.  It is what the call returns alone, on the cache
as it was when the call looked at it (`download_as_alone`): what is settled of one download
holds of each of many.

A connection is stored once, by the download that fetched it, and only then used.  So when
a download was refused and has invalidated the cache, the connection that refused it is not
served again, whatever the others store (`refused_not_served`).

Connections are told apart by the number of the response that they came with.  The IQs, the
clock, the servers and the writers are those of `Round`, for each call its own.
-/

namespace Waepic.Client

open Transition Connection

/-! ## The cache and the downloads -/

/-- A call of `download` or of `download_to_writer`. -/
abbrev DownloadId := Nat

/-- What a call gives: the media, or the number of bytes that it wrote. -/
inductive Downloaded where
  | media (data : Bytes)
  | written (bytesWritten : Nat)
deriving DecidableEq

def HostsEnd.map {α β : Type} (f : α → β) : HostsEnd α → HostsEnd β
  | .returned r => .returned (r.map f)
  | .retryWithFreshAuth lastErr => .retryWithFreshAuth lastErr
  | .finished lastErr => .finished lastErr

/-- The connection of a response to a `MediaConnSpec`. -/
def MediaConn.ofResponse (response : MediaConnResponse) (fetchedAt : Nat) : MediaConn where
  auth := response.auth
  ttl := response.ttl
  authTtl := response.authTtl
  hosts := response.hosts
  fetchedAt := fetchedAt

structure IssuedConn where
  serial : Nat
  conn : MediaConn

/-- How far a download is. -/
inductive DownloadStage where
  /-- At `media_conn.read().await`. -/
  | checking (attempt : Nat) (forceRefresh : Bool) (lastErr : Option String)
  /-- At the IQ of `refresh_media_conn`. -/
  | fetching (attempt : Nat) (lastErr : Option String)
  /-- At `media_conn.write().await` of `refresh_media_conn`. -/
  | storing (attempt : Nat) (lastErr : Option String) (issued : IssuedConn)
  /-- It has a connection, and sends its requests. -/
  | trying (attempt : Nat) (lastErr : Option String) (issued : IssuedConn)
  /-- At `media_conn.write().await` of `invalidate_media_conn`. -/
  | invalidating (attempt : Nat) (lastErr : Option String) (issued : IssuedConn)
  | returned (r : Except ClientError Downloaded)
  | dropped

/-- The connection that the download has. -/
def DownloadStage.serial : DownloadStage → Option Nat
  | .storing _ _ issued | .trying _ _ issued | .invalidating _ _ issued => some issued.serial
  | _ => none

def DownloadStage.inFlight : DownloadStage → Bool
  | .returned _ | .dropped => false
  | _ => true

structure MediaCache where
  mediaConn : Option IssuedConn
  /-- The number of responses. -/
  issued : Nat
  /-- The connections that refused a download which has then invalidated the cache. -/
  refused : List Nat
  downloads : DownloadId → Option DownloadStage

def MediaCache.new : MediaCache where
  mediaConn := none
  issued := 0
  refused := []
  downloads _ := none

namespace MediaCache

def setStage (s : MediaCache) (d : DownloadId) (stage : DownloadStage) : MediaCache :=
  { s with downloads := Function.update s.downloads d (some stage) }

/-- The connection that is used without an IQ. -/
def cached {μ : Type} (s : MediaCache) (round : Round μ) (force : Bool) : Option IssuedConn :=
  s.mediaConn.filter fun issued => !force && !issued.conn.isExpired round.checkedAt

/-- The response to the IQ of `d`. -/
def issue (s : MediaCache) (d : DownloadId) (attempt : Nat) (lastErr : Option String)
    (conn : MediaConn) : MediaCache :=
  { s.setStage d (.storing attempt lastErr ⟨s.issued, conn⟩) with issued := s.issued + 1 }

/-- The end of `refresh_media_conn`. -/
def store (s : MediaCache) (d : DownloadId) (attempt : Nat) (lastErr : Option String)
    (issued : IssuedConn) : MediaCache :=
  { s.setStage d (.trying attempt lastErr issued) with mediaConn := some issued }

/-- `invalidate_media_conn`, after which the next attempt begins. -/
def invalidate (s : MediaCache) (d : DownloadId) (attempt : Nat) (lastErr : Option String)
    (issued : IssuedConn) : MediaCache :=
  { s.setStage d (.checking (attempt + 1) true lastErr) with
      mediaConn := none, refused := issued.serial :: s.refused }

end MediaCache

/-- The calls, with what the clock, the servers and the writers do in their attempts. -/
structure DownloadCalls (δ μ : Type) where
  utils : DownloadUtils δ μ
  downloadable : DownloadId → δ
  rounds : DownloadId → Nat → Round μ
  /-- The writer of a `download_to_writer`. -/
  writer : DownloadId → Option Writer

namespace DownloadCalls

variable {δ μ : Type}

/-- How the requests of an attempt end. -/
def hosts (w : DownloadCalls δ μ) (d : DownloadId) (attempt : Nat) (ts : List (Try μ))
    (lastErr : Option String) : HostsEnd Downloaded :=
  match w.writer d with
  | none => (downloadHosts w.utils attempt ts lastErr ⟨none, []⟩).1.map .media
  | some writer =>
      (downloadToWriterHosts w.utils attempt ts lastErr writer ⟨none, []⟩).1.map .written

/-- What the call returns after its loop. -/
def failed (w : DownloadCalls δ μ) (d : DownloadId) (lastErr : Option String) : ClientError :=
  match w.writer d with
  | none => downloadFailed lastErr
  | some _ => downloadToWriterFailed lastErr

end DownloadCalls

/-! ## Steps -/

inductive MediaAction where
  | start (d : DownloadId)
  | check (d : DownloadId)
  | respond (d : DownloadId)
  | store (d : DownloadId)
  | request (d : DownloadId)
  | invalidate (d : DownloadId)
  | drop (d : DownloadId)
deriving DecidableEq, Repr

variable {δ μ : Type} {w : DownloadCalls δ μ}

/-- The requests of an attempt touch nothing that is shared: they are one step. -/
inductive MediaStep (w : DownloadCalls δ μ) : MediaCache → MediaAction → MediaCache → Prop where
  | start {s : MediaCache} {d : DownloadId} :
      s.downloads d = none → MediaStep w s (.start d) (s.setStage d (.checking 0 false none))
  | cached {s : MediaCache} {d : DownloadId} {attempt : Nat} {force : Bool}
      {lastErr : Option String} {issued : IssuedConn} :
      s.downloads d = some (.checking attempt force lastErr) →
      s.cached (w.rounds d attempt) force = some issued →
      MediaStep w s (.check d) (s.setStage d (.trying attempt lastErr issued))
  | missed {s : MediaCache} {d : DownloadId} {attempt : Nat} {force : Bool}
      {lastErr : Option String} :
      s.downloads d = some (.checking attempt force lastErr) →
      s.cached (w.rounds d attempt) force = none →
      MediaStep w s (.check d) (s.setStage d (.fetching attempt lastErr))
  | iqFailed {s : MediaCache} {d : DownloadId} {attempt : Nat} {lastErr : Option String}
      {e : String} :
      s.downloads d = some (.fetching attempt lastErr) →
      (w.rounds d attempt).mediaConnIq = .error e →
      MediaStep w s (.respond d)
        (s.setStage d (.returned (.error (.internal ("media conn IQ failed: " ++ e)))))
  | responded {s : MediaCache} {d : DownloadId} {attempt : Nat} {lastErr : Option String}
      {response : MediaConnResponse} :
      s.downloads d = some (.fetching attempt lastErr) →
      (w.rounds d attempt).mediaConnIq = .ok response →
      MediaStep w s (.respond d)
        (s.issue d attempt lastErr (.ofResponse response (w.rounds d attempt).fetchedAt))
  | stored {s : MediaCache} {d : DownloadId} {attempt : Nat} {lastErr : Option String}
      {issued : IssuedConn} :
      s.downloads d = some (.storing attempt lastErr issued) →
      MediaStep w s (.store d) (s.store d attempt lastErr issued)
  | prepareFailed {s : MediaCache} {d : DownloadId} {attempt : Nat} {lastErr : Option String}
      {issued : IssuedConn} {e : String} :
      s.downloads d = some (.trying attempt lastErr issued) →
      w.utils.prepareDownloadRequests (w.downloadable d) (.ofConn issued.conn) = .error e →
      MediaStep w s (.request d)
        (s.setStage d (.returned (.error (.internal ("failed to prepare download URLs: " ++ e)))))
  | requested {s : MediaCache} {d : DownloadId} {attempt : Nat} {lastErr : Option String}
      {issued : IssuedConn} {requests : List (DownloadRequest μ)} :
      s.downloads d = some (.trying attempt lastErr issued) →
      w.utils.prepareDownloadRequests (w.downloadable d) (.ofConn issued.conn) = .ok requests →
      MediaStep w s (.request d)
        (s.setStage d
          (match w.hosts d attempt ((w.rounds d attempt).tries requests) lastErr with
          | .returned r => .returned r
          | .retryWithFreshAuth lastErr => .invalidating attempt lastErr issued
          | .finished lastErr => .returned (.error (w.failed d lastErr))))
  | invalidated {s : MediaCache} {d : DownloadId} {attempt : Nat} {lastErr : Option String}
      {issued : IssuedConn} :
      s.downloads d = some (.invalidating attempt lastErr issued) →
      MediaStep w s (.invalidate d) (s.invalidate d attempt lastErr issued)
  | dropped {s : MediaCache} {d : DownloadId} {stage : DownloadStage} :
      s.downloads d = some stage → stage.inFlight = true →
      MediaStep w s (.drop d) (s.setStage d .dropped)

/-- The runs of downloads on the clones of a client. -/
def mediaCache (w : DownloadCalls δ μ) : System MediaCache MediaAction where
  init s := s = .new
  step := MediaStep w

/-! ## A download by itself -/

/-- How an attempt ends depends on no cache. -/
theorem downloadHosts_state (utils : DownloadUtils δ μ) (attempt : Nat) (ts : List (Try μ))
    (lastErr : Option String) (s t : MediaState μ) :
    (downloadHosts utils attempt ts lastErr s).1 =
      (downloadHosts utils attempt ts lastErr t).1 := by
  induction ts generalizing lastErr s t with
  | nil => rfl
  | cons try' ts ih =>
      rw [downloadHosts, downloadHosts]
      rcases executeDownloadRequest utils try'.request try'.answer with (_ | _ | e) | data
      · dsimp only
        split <;> rfl
      · dsimp only
        split <;> rfl
      · exact ih (some e) _ _
      · rfl

/-- Nor does it depend on the writer's content. -/
theorem downloadToWriterHosts_state (utils : DownloadUtils δ μ) (attempt : Nat) (ts : List (Try μ))
    (lastErr : Option String) (writer writer' : Writer) (s t : MediaState μ) :
    (downloadToWriterHosts utils attempt ts lastErr writer s).1 =
      (downloadToWriterHosts utils attempt ts lastErr writer' t).1 := by
  induction ts generalizing lastErr writer writer' s t with
  | nil => rfl
  | cons try' ts ih =>
      rw [downloadToWriterHosts, downloadToWriterHosts]
      cases try'.seek with
      | error e => rfl
      | ok _ =>
          dsimp only [streamingDownloadToWriter]
          rcases try'.streamed utils with ⟨written, (_ | _ | e) | n⟩
          · dsimp only
            split <;> rfl
          · dsimp only
            split <;> rfl
          · exact ih (some e) _ _ _ _
          · rfl

/-- Only the first attempt asks for a refresh. -/
theorem downloadHosts_retry {utils : DownloadUtils δ μ} {attempt : Nat} {ts : List (Try μ)}
    {lastErr lastErr' : Option String} {s : MediaState μ}
    (h : (downloadHosts utils attempt ts lastErr s).1 = .retryWithFreshAuth lastErr') :
    attempt = 0 := by
  have hafter := downloadHosts_after utils attempt ts lastErr s
  generalize firstDecisive utils ts = first at hafter
  rw [h] at hafter
  cases hafter with
  | refresh e _ h0 => exact h0

theorem downloadToWriterHosts_retry {utils : DownloadUtils δ μ} {attempt : Nat}
    {ts : List (Try μ)} {lastErr lastErr' : Option String} {writer : Writer} {s : MediaState μ}
    (h : (downloadToWriterHosts utils attempt ts lastErr writer s).1 =
      .retryWithFreshAuth lastErr') :
    attempt = 0 := by
  induction ts generalizing lastErr writer s with
  | nil => cases h
  | cons try' ts ih =>
      rw [downloadToWriterHosts] at h
      cases hseek : try'.seek with
      | error e =>
          rw [hseek] at h
          cases h
      | ok _ =>
          rw [hseek] at h
          dsimp only [streamingDownloadToWriter] at h
          rcases hstreamed : try'.streamed utils with ⟨written, (_ | _ | e) | n⟩
          all_goals
            rw [hstreamed] at h
            dsimp only at h
          · by_contra hne
            rw [if_neg hne] at h
            cases h
          · by_contra hne
            rw [if_neg hne] at h
            cases h
          · exact ih h
          · cases h

/-- Attempts that force their refresh depend on no cache. -/
theorem downloadAttempts_forced (utils : DownloadUtils δ μ) (rounds : Nat → Round μ)
    (downloadable : δ) (attempts : List Nat) (lastErr : Option String) (s t : MediaState μ) :
    (downloadAttempts utils rounds downloadable attempts true lastErr s).1 =
      (downloadAttempts utils rounds downloadable attempts true lastErr t).1 := by
  induction attempts generalizing lastErr s t with
  | nil => rfl
  | cons attempt attempts ih =>
      have hsame : (s.prepareRequests utils (rounds attempt) downloadable true).1 =
          (t.prepareRequests utils (rounds attempt) downloadable true).1 :=
        (prepareRequests_forced s _).trans (prepareRequests_forced t _).symm
      rw [downloadAttempts, downloadAttempts]
      rcases hprepared : s.prepareRequests utils (rounds attempt) downloadable true with ⟨r, s'⟩
      rcases hprepared' : t.prepareRequests utils (rounds attempt) downloadable true with ⟨r', t'⟩
      rw [hprepared, hprepared'] at hsame
      cases (show r = r' from hsame)
      cases r with
      | error e => rfl
      | ok requests =>
          have hhosts := downloadHosts_state utils attempt ((rounds attempt).tries requests)
            lastErr s' t'
          dsimp only
          generalize downloadHosts utils attempt ((rounds attempt).tries requests) lastErr s' =
            ended at hhosts ⊢
          generalize downloadHosts utils attempt ((rounds attempt).tries requests) lastErr t' =
            ended' at hhosts ⊢
          obtain ⟨exit, s''⟩ := ended
          obtain ⟨exit', t''⟩ := ended'
          cases (show exit = exit' from hhosts)
          cases exit with
          | returned r => rfl
          | retryWithFreshAuth lastErr' => exact ih lastErr' s'' t''
          | finished lastErr' => rfl

theorem downloadToWriterAttempts_forced (utils : DownloadUtils δ μ) (rounds : Nat → Round μ)
    (downloadable : δ) (attempts : List Nat) (lastErr : Option String) (writer writer' : Writer)
    (s t : MediaState μ) :
    (downloadToWriterAttempts utils rounds downloadable attempts true lastErr writer s).1 =
      (downloadToWriterAttempts utils rounds downloadable attempts true lastErr writer' t).1 := by
  induction attempts generalizing lastErr writer writer' s t with
  | nil => rfl
  | cons attempt attempts ih =>
      have hsame : (s.prepareRequests utils (rounds attempt) downloadable true).1 =
          (t.prepareRequests utils (rounds attempt) downloadable true).1 :=
        (prepareRequests_forced s _).trans (prepareRequests_forced t _).symm
      rw [downloadToWriterAttempts, downloadToWriterAttempts]
      rcases hprepared : s.prepareRequests utils (rounds attempt) downloadable true with ⟨r, s'⟩
      rcases hprepared' : t.prepareRequests utils (rounds attempt) downloadable true with ⟨r', t'⟩
      rw [hprepared, hprepared'] at hsame
      cases (show r = r' from hsame)
      cases r with
      | error e => rfl
      | ok requests =>
          have hhosts := downloadToWriterHosts_state utils attempt ((rounds attempt).tries requests)
            lastErr writer writer' s' t'
          dsimp only
          generalize downloadToWriterHosts utils attempt ((rounds attempt).tries requests) lastErr
            writer s' = ended at hhosts ⊢
          generalize downloadToWriterHosts utils attempt ((rounds attempt).tries requests) lastErr
            writer' t' = ended' at hhosts ⊢
          obtain ⟨exit, u, s''⟩ := ended
          obtain ⟨exit', u', t''⟩ := ended'
          cases (show exit = exit' from hhosts)
          cases exit with
          | returned r => rfl
          | retryWithFreshAuth lastErr' => exact ih lastErr' u u' s'' t''
          | finished lastErr' => rfl

namespace DownloadCalls

/-- What the attempts of the call return in this state. -/
def attempts (w : DownloadCalls δ μ) (d : DownloadId) (attempts : List Nat) (force : Bool)
    (lastErr : Option String) (s : MediaState μ) : Except ClientError Downloaded :=
  match w.writer d with
  | none =>
      (downloadAttempts w.utils (w.rounds d) (w.downloadable d) attempts force lastErr s).1.map
        .media
  | some writer =>
      (downloadToWriterAttempts w.utils (w.rounds d) (w.downloadable d) attempts force lastErr
        writer s).1.map .written

/-- What `download`, or `download_to_writer`, returns on this cache. -/
def alone (w : DownloadCalls δ μ) (d : DownloadId) (mediaConn : Option MediaConn) :
    Except ClientError Downloaded :=
  match w.writer d with
  | none => (download w.utils (w.rounds d) (w.downloadable d) ⟨mediaConn, []⟩).1.map .media
  | some writer =>
      (downloadToWriter w.utils (w.rounds d) (w.downloadable d) writer ⟨mediaConn, []⟩).1.map
        .written

/-- What the attempts from this one on return, if they fetch. -/
def forced (w : DownloadCalls δ μ) (d : DownloadId) (attempt : Nat) (lastErr : Option String) :
    Except ClientError Downloaded :=
  w.attempts d ((List.range (MEDIA_AUTH_REFRESH_RETRY_ATTEMPTS + 1)).drop attempt) true lastErr
    ⟨none, []⟩

/-- Only the first attempt asks for a refresh. -/
theorem hosts_retry {d : DownloadId} {attempt : Nat} {ts : List (Try μ)}
    {lastErr lastErr' : Option String}
    (h : w.hosts d attempt ts lastErr = .retryWithFreshAuth lastErr') : attempt = 0 := by
  have hmap {α : Type} {f : α → Downloaded} {ended : HostsEnd α}
      (h : ended.map f = .retryWithFreshAuth lastErr') : ended = .retryWithFreshAuth lastErr' := by
    cases ended <;> cases h
    rfl
  unfold hosts at h
  split at h
  · exact downloadHosts_retry (hmap h)
  · exact downloadToWriterHosts_retry (hmap h)

/-- What the attempts from this one on return, once its requests are prepared. -/
def requested (w : DownloadCalls δ μ) (d : DownloadId) (attempt : Nat)
    (lastErr : Option String) :
    Except ClientError (List (DownloadRequest μ)) → Except ClientError Downloaded
  | .error e => .error e
  | .ok requests =>
      match w.hosts d attempt ((w.rounds d attempt).tries requests) lastErr with
      | .returned r => r
      | .retryWithFreshAuth lastErr => w.forced d (attempt + 1) lastErr
      | .finished lastErr => .error (w.failed d lastErr)

/-- The requests for a connection. -/
def prepared (w : DownloadCalls δ μ) (d : DownloadId) (conn : MediaConn) :
    Except ClientError (List (DownloadRequest μ)) :=
  match w.utils.prepareDownloadRequests (w.downloadable d) (.ofConn conn) with
  | .error e => .error (.internal ("failed to prepare download URLs: " ++ e))
  | .ok requests => .ok requests

/-- What the attempts from this one on return, with this connection. -/
def tried (w : DownloadCalls δ μ) (d : DownloadId) (attempt : Nat) (lastErr : Option String)
    (conn : MediaConn) : Except ClientError Downloaded :=
  w.requested d attempt lastErr (w.prepared d conn)

/-- What the attempts from this one on return, after their IQ. -/
def responded (w : DownloadCalls δ μ) (d : DownloadId) (attempt : Nat)
    (lastErr : Option String) : Except ClientError Downloaded :=
  match (w.rounds d attempt).mediaConnIq with
  | .error e => .error (.internal ("media conn IQ failed: " ++ e))
  | .ok response =>
      w.tried d attempt lastErr (.ofResponse response (w.rounds d attempt).fetchedAt)

/-- The attempts from this one on. -/
theorem attempts_eq (w : DownloadCalls δ μ) (d : DownloadId) (attempt : Nat) (force : Bool)
    (lastErr : Option String) (s : MediaState μ) :
    w.attempts d
        (attempt :: (List.range (MEDIA_AUTH_REFRESH_RETRY_ATTEMPTS + 1)).drop (attempt + 1))
        force lastErr s =
      w.requested d attempt lastErr
        (s.prepareRequests w.utils (w.rounds d attempt) (w.downloadable d) force).1 := by
  cases hwriter : w.writer d with
  | none =>
      simp only [attempts, hwriter, downloadAttempts]
      rcases s.prepareRequests w.utils (w.rounds d attempt) (w.downloadable d) force with
        ⟨e | requests, t⟩
      · rfl
      · simp only [requested, hosts, hwriter]
        rw [downloadHosts_state w.utils attempt ((w.rounds d attempt).tries requests) lastErr
          ⟨none, []⟩ t]
        rcases downloadHosts w.utils attempt ((w.rounds d attempt).tries requests) lastErr t with
          ⟨_ | lastErr' | lastErr', u⟩
        · rfl
        · simp only [HostsEnd.map, forced, attempts, hwriter]
          rw [downloadAttempts_forced _ _ _ _ lastErr' u ⟨none, []⟩]
        · simp only [HostsEnd.map, failed, hwriter]
          rfl
  | some writer =>
      simp only [attempts, hwriter, downloadToWriterAttempts]
      rcases s.prepareRequests w.utils (w.rounds d attempt) (w.downloadable d) force with
        ⟨e | requests, t⟩
      · rfl
      · simp only [requested, hosts, hwriter]
        rw [downloadToWriterHosts_state w.utils attempt ((w.rounds d attempt).tries requests)
          lastErr writer writer ⟨none, []⟩ t]
        rcases downloadToWriterHosts w.utils attempt ((w.rounds d attempt).tries requests) lastErr
          writer t with ⟨_ | lastErr' | lastErr', writer', u⟩
        · rfl
        · simp only [HostsEnd.map, forced, attempts, hwriter]
          rw [downloadToWriterAttempts_forced _ _ _ _ lastErr' writer' writer u ⟨none, []⟩]
        · simp only [HostsEnd.map, failed, hwriter]
          rfl

/-- An attempt uses the cached connection, or the one of its response. -/
theorem requested_prepareRequests (w : DownloadCalls δ μ) (d : DownloadId) (attempt : Nat)
    (force : Bool) (lastErr : Option String) (s : MediaState μ) :
    w.requested d attempt lastErr
        (s.prepareRequests w.utils (w.rounds d attempt) (w.downloadable d) force).1 =
      match s.cached (w.rounds d attempt) force with
      | some conn => w.tried d attempt lastErr conn
      | none => w.responded d attempt lastErr := by
  have hprepared (conn : MediaConn) (t : MediaState μ) :
      (match w.utils.prepareDownloadRequests (w.downloadable d) (.ofConn conn) with
        | .error e =>
            ((.error (.internal ("failed to prepare download URLs: " ++ e)), t) :
              Except ClientError (List (DownloadRequest μ)) × MediaState μ)
        | .ok requests => (.ok requests, t)).1 = w.prepared d conn := by
    rw [prepared]
    split <;> rfl
  rw [MediaState.prepareRequests, MediaState.refreshMediaConn]
  cases s.cached (w.rounds d attempt) force with
  | some conn => exact congrArg (w.requested d attempt lastErr) (hprepared conn s)
  | none =>
      rw [responded]
      cases (w.rounds d attempt).mediaConnIq with
      | error e => rfl
      | ok response =>
          exact congrArg (w.requested d attempt lastErr)
            (hprepared (.ofResponse response (w.rounds d attempt).fetchedAt) _)

theorem alone_eq_attempts (w : DownloadCalls δ μ) (d : DownloadId)
    (mediaConn : Option MediaConn) :
    w.alone d mediaConn =
      w.attempts d (List.range (MEDIA_AUTH_REFRESH_RETRY_ATTEMPTS + 1)) false none
        ⟨mediaConn, []⟩ := by
  rw [alone, attempts]
  cases w.writer d <;> rfl

/-- The first look at the cache decides what the call returns. -/
theorem alone_eq (w : DownloadCalls δ μ) (d : DownloadId) (s : MediaCache) :
    w.alone d (s.mediaConn.map (·.conn)) =
      match s.cached (w.rounds d 0) false with
      | some issued => w.tried d 0 none issued.conn
      | none => w.responded d 0 none := by
  rw [alone_eq_attempts]
  refine (w.attempts_eq d 0 false none ⟨s.mediaConn.map fun issued => issued.conn, []⟩).trans ?_
  rw [requested_prepareRequests]
  simp only [MediaState.cached, MediaCache.cached]
  cases s.mediaConn with
  | none => rfl
  | some issued =>
      rw [Option.map_some, Option.filter_some, Option.filter_some]
      cases !false && !issued.conn.isExpired (w.rounds d 0).checkedAt <;> rfl

/-- An attempt that fetches. -/
theorem forced_eq (w : DownloadCalls δ μ) (d : DownloadId) {attempt : Nat} (h : attempt < 2)
    (lastErr : Option String) : w.forced d attempt lastErr = w.responded d attempt lastErr := by
  have hdrop : (List.range (MEDIA_AUTH_REFRESH_RETRY_ATTEMPTS + 1)).drop attempt =
      attempt :: (List.range (MEDIA_AUTH_REFRESH_RETRY_ATTEMPTS + 1)).drop (attempt + 1) := by
    rcases (show attempt = 0 ∨ attempt = 1 by omega) with rfl | rfl <;> rfl
  rw [forced, hdrop, attempts_eq, requested_prepareRequests, cached_forced]

end DownloadCalls

/-! ## Downloads do not disturb each other -/

/-- The call looked at a cache on which it would return `r` alone. -/
def DownloadCalls.Looked (w : DownloadCalls δ μ) (as : List MediaAction) (d : DownloadId)
    (r : Except ClientError Downloaded) : Prop :=
  ∃ before s after, as = before ++ .check d :: after ∧ (mediaCache w).Run before s ∧
    s.downloads d = some (.checking 0 false none) ∧ r = w.alone d (s.mediaConn.map (·.conn))

/-- What the download is going to return, once it has looked at the cache. -/
def DownloadStage.Fits (w : DownloadCalls δ μ) (as : List MediaAction) (d : DownloadId) :
    DownloadStage → Prop
  | .checking attempt force lastErr =>
      attempt = 0 ∧ force = false ∧ lastErr = none ∨
        attempt = 1 ∧ force = true ∧ w.Looked as d (w.responded d 1 lastErr)
  | .fetching attempt lastErr => w.Looked as d (w.responded d attempt lastErr)
  | .storing attempt lastErr issued | .trying attempt lastErr issued =>
      w.Looked as d (w.tried d attempt lastErr issued.conn)
  | .invalidating attempt lastErr _ => attempt = 0 ∧ w.Looked as d (w.responded d 1 lastErr)
  | .returned r => w.Looked as d r
  | .dropped => True

theorem DownloadCalls.Looked.append {as : List MediaAction} {d : DownloadId}
    {r : Except ClientError Downloaded} (h : w.Looked as d r) (a : MediaAction) :
    w.Looked (as ++ [a]) d r := by
  obtain ⟨before, s, after, rfl, hrest⟩ := h
  exact ⟨before, s, after ++ [a], by rw [List.append_assoc]; rfl, hrest⟩

theorem DownloadStage.Fits.append {as : List MediaAction} {d : DownloadId}
    {stage : DownloadStage} (h : stage.Fits w as d) (a : MediaAction) :
    stage.Fits w (as ++ [a]) d := by
  cases stage with
  | checking attempt force lastErr =>
      rcases h with hfirst | ⟨hattempt, hforce, hlooked⟩
      · exact .inl hfirst
      · exact .inr ⟨hattempt, hforce, hlooked.append a⟩
  | invalidating attempt lastErr issued => exact ⟨h.1, h.2.append a⟩
  | fetching _ _ | storing _ _ _ | trying _ _ _ | returned _ =>
      exact DownloadCalls.Looked.append h a
  | dropped => trivial

variable {s t : MediaCache} {as : List MediaAction} {a : MediaAction} {d : DownloadId}
  {stage : DownloadStage}

theorem fits_update (hs : ∀ d stage, s.downloads d = some stage → stage.Fits w as d)
    (hdownloads : t.downloads = Function.update s.downloads d (some stage))
    (hstage : stage.Fits w (as ++ [a]) d) :
    ∀ d stage, t.downloads d = some stage → stage.Fits w (as ++ [a]) d := by
  intro d' stage' h'
  rw [hdownloads] at h'
  by_cases hd : d' = d
  · cases hd
    rw [Function.update_self] at h'
    cases h'
    exact hstage
  · rw [Function.update_of_ne hd] at h'
    exact (hs d' stage' h').append a

/-- The look at the cache: the first one decides, and the second finds nothing to use. -/
theorem MediaStep.checked (hrun : (mediaCache w).Run as s) {attempt : Nat} {force : Bool}
    {lastErr : Option String} (hd : s.downloads d = some (.checking attempt force lastErr))
    (hfits : (DownloadStage.checking attempt force lastErr).Fits w as d) :
    w.Looked (as ++ [.check d]) d
      (match s.cached (w.rounds d attempt) force with
        | some issued => w.tried d attempt lastErr issued.conn
        | none => w.responded d attempt lastErr) := by
  rcases hfits with ⟨rfl, rfl, rfl⟩ | ⟨rfl, rfl, hlooked⟩
  · exact ⟨as, s, [], rfl, hrun, hd, (w.alone_eq d s).symm⟩
  · have hmissed : s.cached (w.rounds d 1) true = none := by
      simp [MediaCache.cached]
    rw [hmissed]
    exact hlooked.append _

theorem MediaStep.fits (h : MediaStep w s a t) (hrun : (mediaCache w).Run as s)
    (hs : ∀ d stage, s.downloads d = some stage → stage.Fits w as d) :
    ∀ d stage, t.downloads d = some stage → stage.Fits w (as ++ [a]) d := by
  cases h with
  | start hd => exact fits_update hs rfl (.inl ⟨rfl, rfl, rfl⟩)
  | cached hd hcached =>
      have hlooked := MediaStep.checked hrun hd (hs _ _ hd)
      rw [hcached] at hlooked
      exact fits_update hs rfl hlooked
  | missed hd hcached =>
      have hlooked := MediaStep.checked hrun hd (hs _ _ hd)
      rw [hcached] at hlooked
      exact fits_update hs rfl hlooked
  | iqFailed hd hiq =>
      have hlooked : w.Looked as _ (w.responded _ _ _) := hs _ _ hd
      rw [DownloadCalls.responded, hiq] at hlooked
      exact fits_update hs rfl (hlooked.append _)
  | responded hd hiq =>
      have hlooked : w.Looked as _ (w.responded _ _ _) := hs _ _ hd
      rw [DownloadCalls.responded, hiq] at hlooked
      exact fits_update hs rfl (hlooked.append _)
  | stored hd => exact fits_update hs rfl ((hs _ _ hd).append _)
  | prepareFailed hd hprepare =>
      have hlooked : w.Looked as _ (w.tried _ _ _ _) := hs _ _ hd
      rw [DownloadCalls.tried, DownloadCalls.prepared, hprepare] at hlooked
      exact fits_update hs rfl (hlooked.append _)
  | requested hd hprepare =>
      have hlooked : w.Looked as _ (w.tried _ _ _ _) := hs _ _ hd
      rw [DownloadCalls.tried, DownloadCalls.prepared, hprepare] at hlooked
      refine fits_update hs rfl ?_
      simp only [DownloadCalls.requested] at hlooked
      split
      · next r hended =>
          rw [hended] at hlooked
          exact hlooked.append _
      · next lastErr' hended =>
          cases DownloadCalls.hosts_retry hended
          rw [hended] at hlooked
          refine ⟨rfl, ?_⟩
          rw [← w.forced_eq _ (by decide : 1 < 2)]
          exact hlooked.append _
      · next lastErr' hended =>
          rw [hended] at hlooked
          exact hlooked.append _
  | invalidated hd =>
      obtain ⟨rfl, hlooked⟩ := hs _ _ hd
      exact fits_update hs rfl (.inr ⟨rfl, rfl, hlooked.append _⟩)
  | dropped hd _ => exact fits_update hs rfl trivial

theorem fits_of_run (hrun : (mediaCache w).Run as s) :
    ∀ d stage, s.downloads d = some stage → stage.Fits w as d := by
  refine hrun.history_invariant
    (I := fun as s => ∀ d stage, s.downloads d = some stage → stage.Fits w as d) ?_ ?_
  · intro s hs d stage hd
    cases (show s = .new from hs)
    cases hd
  · intro as s a t hrun hs hstep
    exact MediaStep.fits hstep hrun hs

/-- Whatever other calls do to the cache meanwhile: a `download`, or a `download_to_writer`,
that has returned gives what it gives alone on the cache at which it first looked. -/
theorem download_as_alone (w : DownloadCalls δ μ) (hrun : (mediaCache w).Run as s)
    {r : Except ClientError Downloaded} (hd : s.downloads d = some (.returned r)) :
    ∃ before u after, as = before ++ .check d :: after ∧ (mediaCache w).Run before u ∧
      u.downloads d = some (.checking 0 false none) ∧
      r = w.alone d (u.mediaConn.map (·.conn)) :=
  fits_of_run hrun d _ hd

/-- Each call gets the media from the first host, with a fresh connection only.  The second one
is a `download_to_writer`. -/
def exampleCalls : DownloadCalls Unit Unit where
  utils := markedUtils
  downloadable _ := ()
  rounds _ := servedFresh
  writer d := if d = 1 then some .empty else none

theorem MediaCache.cached_of_fresh {round : Round μ} {i : IssuedConn}
    (hconn : s.mediaConn = some i) (hnow : round.checkedAt = 0) :
    s.cached round false = some i := by
  simp [MediaCache.cached, MediaConn.isExpired, hconn, hnow]

/-- Two calls are refused with one connection; the second one invalidates the cache when the
first has already stored another. -/
theorem run_refused_twice :
    ∃ as s, (mediaCache exampleCalls).Run as s ∧
      s.downloads 0 = some (.returned (.ok (.media [7]))) ∧ s.mediaConn = none ∧
      s.refused = [0, 0] := by
  have h0 : (mediaCache exampleCalls).Run [] .new := .start rfl
  have h1 := h0.tail (show MediaStep _ _ (.start 0) _ from .start rfl)
  have h2 := h1.tail (show MediaStep _ _ (.start 1) _ from .start rfl)
  have h3 := h2.tail (show MediaStep _ _ (.check 0) _ from .missed rfl rfl)
  have h4 := h3.tail (show MediaStep _ _ (.respond 0) _ from .responded rfl rfl)
  have h5 := h4.tail (show MediaStep _ _ (.store 0) _ from .stored rfl)
  have h6 := h5.tail (show MediaStep _ _ (.check 1) _ from
    .cached rfl (MediaCache.cached_of_fresh rfl rfl))
  have h7 := h6.tail (show MediaStep _ _ (.request 0) _ from .requested rfl rfl)
  have h8 := h7.tail (show MediaStep _ _ (.request 1) _ from .requested rfl rfl)
  have h9 := h8.tail (show MediaStep _ _ (.invalidate 0) _ from .invalidated rfl)
  have h10 := h9.tail (show MediaStep _ _ (.check 0) _ from .missed rfl rfl)
  have h11 := h10.tail (show MediaStep _ _ (.respond 0) _ from .responded rfl rfl)
  have h12 := h11.tail (show MediaStep _ _ (.store 0) _ from .stored rfl)
  have h13 := h12.tail (show MediaStep _ _ (.invalidate 1) _ from .invalidated rfl)
  have h14 := h13.tail (show MediaStep _ _ (.request 0) _ from .requested rfl rfl)
  exact ⟨_, _, h14, rfl, rfl, rfl⟩

theorem download_as_alone_refused :
    ∃ as s, (mediaCache exampleCalls).Run as s ∧
      s.downloads 0 = some (.returned (.ok (.media [7]))) ∧
      ∃ before u after, as = before ++ .check 0 :: after ∧
        (mediaCache exampleCalls).Run before u ∧
        u.downloads 0 = some (.checking 0 false none) ∧
        .ok (.media [7]) = exampleCalls.alone 0 (u.mediaConn.map (·.conn)) := by
  obtain ⟨as, s, hrun, hd, -⟩ := run_refused_twice
  exact ⟨as, s, hrun, hd, download_as_alone exampleCalls hrun hd⟩

/-! ## What was refused is not served -/

/-- No other download is about to store this connection. -/
def MediaCache.Usable (s : MediaCache) (d : DownloadId) (c : Nat) : Prop :=
  c < s.issued ∧ ∀ d' attempt lastErr i, d' ≠ d →
    s.downloads d' = some (.storing attempt lastErr i) → i.serial ≠ c

/-- The cached connection has refused no download, and one that is about to be stored has
been used by none. -/
structure CacheInv (s : MediaCache) : Prop where
  cached : ∀ i, s.mediaConn = some i → i.serial ∉ s.refused
  cachedUsable : ∀ i d, s.mediaConn = some i → s.Usable d i.serial
  refusedUsable : ∀ c d, c ∈ s.refused → s.Usable d c
  heldUsable : ∀ d stage c, s.downloads d = some stage → stage.serial = some c → s.Usable d c

/-- A download moves on with a connection that it may use. -/
theorem CacheInv.setStage (hs : CacheInv s) (hstoring : ∀ attempt lastErr i,
      stage ≠ .storing attempt lastErr i)
    (husable : ∀ c, stage.serial = some c → s.Usable d c) : CacheInv (s.setStage d stage) := by
  have hkept (c : Nat) (d' : DownloadId) (h : s.Usable d' c) :
      (s.setStage d stage).Usable d' c := by
    refine ⟨h.1, fun d'' attempt lastErr i hne hd'' => ?_⟩
    by_cases hd : d'' = d
    · cases hd
      rw [show (s.setStage d stage).downloads d = some stage from Function.update_self ..] at hd''
      exact absurd (Option.some.inj hd'') (hstoring attempt lastErr i)
    · rw [show (s.setStage d stage).downloads d'' = s.downloads d'' from
        Function.update_of_ne hd ..] at hd''
      exact h.2 d'' attempt lastErr i hne hd''
  refine ⟨hs.cached, fun i d' hi => hkept _ d' (hs.cachedUsable i d' hi),
    fun c d' hc => hkept c d' (hs.refusedUsable c d' hc), fun d' stage' c hd' hserial => ?_⟩
  by_cases hd : d' = d
  · cases hd
    rw [show (s.setStage d stage).downloads d = some stage from Function.update_self ..] at hd'
    cases hd'
    exact hkept c d (husable c hserial)
  · rw [show (s.setStage d stage).downloads d' = s.downloads d' from
      Function.update_of_ne hd ..] at hd'
    exact hkept c d' (hs.heldUsable d' stage' c hd' hserial)

theorem MediaCache.setStage_self : (s.setStage d stage).downloads d = some stage :=
  Function.update_self ..

/-- A connection of a download that is not about to store it may be used by all. -/
theorem MediaCache.Usable.all {c : Nat} (h : s.Usable d c)
    (hstoring : ∀ attempt lastErr i, s.downloads d ≠ some (.storing attempt lastErr i))
    (d' : DownloadId) : s.Usable d' c := by
  refine ⟨h.1, fun d'' attempt lastErr i _ hd'' => ?_⟩
  have hne : d'' ≠ d := by
    rintro rfl
    exact hstoring attempt lastErr i hd''
  exact h.2 d'' attempt lastErr i hne hd''

theorem CacheInv.issue (hs : CacheInv s) (attempt : Nat) (lastErr : Option String)
    (conn : MediaConn) : CacheInv (s.issue d attempt lastErr conn) := by
  have hkept (c : Nat) (d' : DownloadId) (h : s.Usable d' c) :
      (s.issue d attempt lastErr conn).Usable d' c := by
    refine ⟨Nat.lt_succ_of_lt h.1, fun d'' attempt' lastErr' i hne hd'' => ?_⟩
    by_cases hd : d'' = d
    · cases hd
      rw [show (s.issue d attempt lastErr conn).downloads d =
        some (.storing attempt lastErr ⟨s.issued, conn⟩) from Function.update_self ..] at hd''
      cases hd''
      exact Nat.ne_of_gt h.1
    · rw [show (s.issue d attempt lastErr conn).downloads d'' = s.downloads d'' from
        Function.update_of_ne hd ..] at hd''
      exact h.2 d'' attempt' lastErr' i hne hd''
  refine ⟨hs.cached, fun i d' hi => hkept _ d' (hs.cachedUsable i d' hi),
    fun c d' hc => hkept c d' (hs.refusedUsable c d' hc), fun d' stage' c hd' hserial => ?_⟩
  by_cases hd : d' = d
  · cases hd
    rw [show (s.issue d attempt lastErr conn).downloads d =
      some (.storing attempt lastErr ⟨s.issued, conn⟩) from Function.update_self ..] at hd'
    cases hd'
    cases hserial
    refine ⟨Nat.lt_succ_self _, fun d'' attempt' lastErr' i hne hd'' => ?_⟩
    rw [show (s.issue d attempt lastErr conn).downloads d'' = s.downloads d'' from
      Function.update_of_ne hne ..] at hd''
    exact Nat.ne_of_lt (hs.heldUsable d'' _ _ hd'' rfl).1
  · rw [show (s.issue d attempt lastErr conn).downloads d' = s.downloads d' from
      Function.update_of_ne hd ..] at hd'
    exact hkept c d' (hs.heldUsable d' stage' c hd' hserial)

theorem CacheInv.store (hs : CacheInv s) {attempt : Nat} {lastErr : Option String}
    {issued : IssuedConn} (hd : s.downloads d = some (.storing attempt lastErr issued)) :
    CacheInv (s.store d attempt lastErr issued) := by
  have htrying : CacheInv (s.setStage d (.trying attempt lastErr issued)) :=
    hs.setStage (by simp) fun c hserial => hs.heldUsable d _ c hd hserial
  have hfresh : issued.serial ∉ s.refused := fun hrefused =>
    (hs.refusedUsable _ (d + 1) hrefused).2 d attempt lastErr issued (Nat.ne_of_lt d.lt_succ_self)
      hd rfl
  have hall := MediaCache.Usable.all (htrying.heldUsable d _ _ MediaCache.setStage_self rfl)
    (by simp [MediaCache.setStage_self])
  refine ⟨?_, ?_, htrying.refusedUsable, htrying.heldUsable⟩
  · rintro i ⟨⟩
    exact hfresh
  · rintro i d' ⟨⟩
    exact hall d'

theorem CacheInv.invalidate (hs : CacheInv s) {attempt : Nat} {lastErr : Option String}
    {issued : IssuedConn} (hd : s.downloads d = some (.invalidating attempt lastErr issued)) :
    CacheInv (s.invalidate d attempt lastErr issued) := by
  have hchecking : CacheInv (s.setStage d (.checking (attempt + 1) true lastErr)) :=
    hs.setStage (by simp) fun c hserial => by cases hserial
  have hall (d' : DownloadId) : (s.setStage d (.checking (attempt + 1) true lastErr)).Usable d'
      issued.serial := by
    obtain ⟨hissued, hothers⟩ := MediaCache.Usable.all (hs.heldUsable d _ _ hd rfl)
      (by simp [hd]) d
    have husable : (s.setStage d (.checking (attempt + 1) true lastErr)).Usable d
        issued.serial := by
      refine ⟨hissued, fun d'' attempt' lastErr' i hne hd'' => ?_⟩
      rw [show (s.setStage d _).downloads d'' = s.downloads d'' from
        Function.update_of_ne hne ..] at hd''
      exact hothers d'' attempt' lastErr' i hne hd''
    exact husable.all (by simp [MediaCache.setStage_self]) d'
  refine ⟨?_, ?_, ?_, hchecking.heldUsable⟩
  · rintro i ⟨⟩
  · rintro i d' ⟨⟩
  · intro c d' hc
    rcases List.mem_cons.mp hc with rfl | hc
    · exact hall d'
    · exact hchecking.refusedUsable c d' hc

/-- What is used without an IQ is in the cache. -/
theorem MediaCache.mediaConn_of_cached {round : Round μ} {force : Bool} {i : IssuedConn}
    (h : s.cached round force = some i) : s.mediaConn = some i :=
  (Option.filter_eq_some_iff.mp h).1

theorem MediaStep.cacheInv (h : MediaStep w s a t) (hs : CacheInv s) : CacheInv t := by
  cases h with
  | start _ | missed _ _ | iqFailed _ _ | prepareFailed _ _ | dropped _ _ =>
      exact hs.setStage (by simp) fun c hserial => by cases hserial
  | cached _ hcached =>
      refine hs.setStage (by simp) fun c hserial => ?_
      cases hserial
      exact hs.cachedUsable _ _ (MediaCache.mediaConn_of_cached hcached)
  | responded _ _ => exact hs.issue _ _ _
  | stored hd => exact hs.store hd
  | requested hd _ =>
      refine hs.setStage ?_ ?_
      · intro attempt' lastErr' i
        split <;> simp
      · intro c hserial
        refine hs.heldUsable _ _ c hd ?_
        split at hserial
        · cases hserial
        · exact hserial
        · cases hserial
  | invalidated hd => exact hs.invalidate hd

theorem cacheInv_of_run (hrun : (mediaCache w).Run as s) : CacheInv s := by
  refine hrun.invariant (I := CacheInv) ?_
    fun _ _ _ hs (hstep : MediaStep w _ _ _) => hstep.cacheInv hs
  intro s hs
  cases (show s = .new from hs)
  refine ⟨?_, ?_, ?_, ?_⟩
  · intro i hi
    cases hi
  · intro i d hi
    cases hi
  · intro c d hc
    cases hc
  · intro d stage c hd
    cases hd

/-- A download takes up no connection that was refused. -/
theorem MediaStep.takes (h : MediaStep w s a t) (hs : CacheInv s) {c : Nat} (hc : c ∈ s.refused)
    (hd : t.downloads d = some stage) (hserial : stage.serial = some c) :
    ∃ stage', s.downloads d = some stage' ∧ stage'.serial = some c := by
  -- the download that moves, and the connection that it then has
  have hmoved {d' : DownloadId} {stage' : DownloadStage}
      (hdownloads : t.downloads = Function.update s.downloads d' (some stage'))
      (hkept : stage'.serial = some c → ∃ stage'', s.downloads d' = some stage'' ∧
        stage''.serial = some c) :
      ∃ stage', s.downloads d = some stage' ∧ stage'.serial = some c := by
    rw [hdownloads] at hd
    by_cases hne : d = d'
    · cases hne
      rw [Function.update_self] at hd
      cases hd
      exact hkept hserial
    · rw [Function.update_of_ne hne] at hd
      exact ⟨stage, hd, hserial⟩
  cases h with
  | start _ | missed _ _ | iqFailed _ _ | prepareFailed _ _ | dropped _ _ | invalidated _ =>
      exact hmoved rfl fun hserial => by cases hserial
  | cached _ hcached =>
      refine hmoved rfl fun hserial => ?_
      cases hserial
      exact absurd hc (hs.cached _ (MediaCache.mediaConn_of_cached hcached))
  | responded _ _ =>
      refine hmoved rfl fun hserial => ?_
      cases hserial
      exact absurd (hs.refusedUsable _ 0 hc).1 (Nat.lt_irrefl _)
  | stored hheld => exact hmoved rfl fun hserial => ⟨_, hheld, hserial⟩
  | requested hheld _ =>
      refine hmoved rfl fun hserial => ⟨_, hheld, ?_⟩
      split at hserial
      · cases hserial
      · exact hserial
      · cases hserial

theorem MediaStep.refused_mono (h : MediaStep w s a t) {c : Nat} (hc : c ∈ s.refused) :
    c ∈ t.refused := by
  cases h with
  | invalidated _ => exact List.mem_cons_of_mem _ hc
  | _ => exact hc

/-- When a download was refused with a connection and has invalidated the cache, the cache
never has this connection again, and no download takes it up that did not have it then. -/
theorem refused_not_served (hrun : (mediaCache w).Run as s) {c : Nat} (hc : c ∈ s.refused) :
    ∀ bs t, (mediaCache w).Steps s bs t →
      (∀ i, t.mediaConn = some i → i.serial ≠ c) ∧
        ∀ d stage, t.downloads d = some stage → stage.serial = some c →
          ∃ stage', s.downloads d = some stage' ∧ stage'.serial = some c := by
  intro bs t hsteps
  have hkept : CacheInv t ∧ c ∈ t.refused ∧ ∀ d stage, t.downloads d = some stage →
      stage.serial = some c → ∃ stage', s.downloads d = some stage' ∧ stage'.serial = some c := by
    refine hsteps.preserves (I := fun t => CacheInv t ∧ c ∈ t.refused ∧ ∀ d stage,
      t.downloads d = some stage → stage.serial = some c →
        ∃ stage', s.downloads d = some stage' ∧ stage'.serial = some c) ?_ ?_
    · rintro u a v ⟨hinv, hrefused, htaken⟩ (hstep : MediaStep w u a v)
      refine ⟨hstep.cacheInv hinv, hstep.refused_mono hrefused, fun d stage hd hserial => ?_⟩
      obtain ⟨stage', hd', hserial'⟩ := hstep.takes hinv hrefused hd hserial
      exact htaken d stage' hd' hserial'
    · exact ⟨cacheInv_of_run hrun, hc, fun d stage hd hserial => ⟨stage, hd, hserial⟩⟩
  refine ⟨?_, hkept.2.2⟩
  rintro i hi rfl
  exact hkept.1.cached i hi hkept.2.1

theorem refused_not_served_twice :
    ∃ as s, (mediaCache exampleCalls).Run as s ∧ s.refused = [0, 0] ∧
      ∀ bs t, (mediaCache exampleCalls).Steps s bs t →
        ∀ i, t.mediaConn = some i → i.serial ≠ 0 := by
  obtain ⟨as, s, hrun, -, -, hrefused⟩ := run_refused_twice
  refine ⟨as, s, hrun, hrefused, fun bs t hsteps => ?_⟩
  exact (refused_not_served hrun (c := 0) (by simp [hrefused]) bs t hsteps).1

end Waepic.Client
