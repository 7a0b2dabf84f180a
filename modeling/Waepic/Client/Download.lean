import Waepic.Client.Messages
import Mathlib.Algebra.Group.Nat.Defs

/-!
# Downloading media

`download` gives the media in memory and `download_to_writer` streams it to a
writer.  Each is a loop over at most two attempts: an attempt takes a media
connection, from the cache or by an IQ, prepares a request for each of its hosts
and sends them in their order.  An answer of 401, 403, 404 or 410 in the first
attempt invalidates the connection and starts the second one; in the second it
ends the call.  After any other failure the next host is asked.

The requests that are prepared and the cryptography are wacore's
(`DownloadUtils`).  What the server, the clock and the writer do in an attempt is
a `Round`.  A seek may fail, and so may a write.
-/

namespace Waepic.Client

open Connection

/-- Number of retry attempts after a media auth error (401/403). -/
def MEDIA_AUTH_REFRESH_RETRY_ATTEMPTS : Nat := 1

structure MediaConnHost where
  hostname : String
deriving DecidableEq

/-- The response to a `MediaConnSpec`. -/
structure MediaConnResponse where
  auth : String
  ttl : UInt64
  authTtl : Option UInt64
  hosts : List MediaConnHost

/-- Cached media connection with TTL-aware expiry. -/
structure MediaConn where
  auth : String
  ttl : UInt64
  authTtl : Option UInt64
  hosts : List MediaConnHost
  /-- In nanoseconds, as the clock. -/
  fetchedAt : Nat

namespace MediaConn

/-- `is_expired`, when the clock reads `now`. -/
def isExpired (conn : MediaConn) (now : Nat) : Bool :=
  let effectiveTtl := conn.authTtl.elim conn.ttl fun authTtl => min conn.ttl authTtl
  effectiveTtl.toNat * 10 ^ 9 < now - conn.fetchedAt

end MediaConn

/-- wacore's `MediaConnection`. -/
structure CoreMediaConnection where
  hosts : List String
  auth : String

def CoreMediaConnection.ofConn (conn : MediaConn) : CoreMediaConnection where
  hosts := conn.hosts.map (·.hostname)
  auth := conn.auth

inductive MediaDecryption (μ : Type) where
  | encrypted (mediaKey : Bytes) (mediaType : μ)
  | plaintext (fileSha256 : Bytes)

/-- A request, over the type of media types. -/
structure DownloadRequest (μ : Type) where
  url : String
  decryption : MediaDecryption μ

/-- wacore's `DownloadUtils`, over the types of downloadables and of media types.
A stream gives what it writes before it ends, and how it ends. -/
structure DownloadUtils (δ μ : Type) where
  prepareDownloadRequests : δ → CoreMediaConnection → Except String (List (DownloadRequest μ))
  verifyAndDecrypt : Bytes → Bytes → μ → Except String Bytes
  decryptStreamToWriter : Bytes → Bytes → μ → Bytes × Except String Nat
  copyAndValidatePlaintextToWriter : Bytes → Bytes → Bytes × Except String Nat

/-- What comes back for a GET. -/
inductive HttpAnswer where
  /-- `send` fails. -/
  | failed (e : String)
  | response (status : UInt16) (bytes : Except String Bytes)

inductive DownloadRequestError where
  | auth
  | notFound
  | other (e : String)

def isMediaAuthError (statusCode : UInt16) : Bool := statusCode = 401 || statusCode = 403

/-! ## The media connection -/

/-- What the server, the clock and the writer do during an attempt. -/
structure Round (μ : Type) where
  /-- The clock, when the cached connection is looked at. -/
  checkedAt : Nat
  mediaConnIq : Except String MediaConnResponse
  /-- The clock, after the response to the IQ. -/
  fetchedAt : Nat
  /-- What comes back for a request, by its position among those prepared. -/
  http : Nat → DownloadRequest μ → HttpAnswer
  /-- How the seek before a request ends. -/
  seek : Nat → Except String Unit
  /-- If the writer does not take the whole stream of a request: how many bytes it takes,
  and the error of the next write. -/
  write : Nat → Option (Nat × String)

inductive MediaEvent (μ : Type) where
  /-- The IQ of a refresh, and its response. -/
  | fetch (force : Bool) (response : Except String MediaConnResponse)
  | invalidate
  | request (request : DownloadRequest μ)

structure MediaState (μ : Type) where
  mediaConn : Option MediaConn
  /-- What was done, oldest first. -/
  trace : List (MediaEvent μ)

variable {δ μ : Type}

namespace MediaState

def emit (s : MediaState μ) (event : MediaEvent μ) : MediaState μ :=
  { s with trace := s.trace ++ [event] }

/-- The connection that is used without an IQ. -/
def cached (s : MediaState μ) (round : Round μ) (force : Bool) : Option MediaConn :=
  s.mediaConn.filter fun conn => !force && !conn.isExpired round.checkedAt

/-- Get or fetch a fresh media connection, using cached value when valid. -/
def refreshMediaConn (s : MediaState μ) (round : Round μ) (force : Bool) :
    Except ClientError MediaConn × MediaState μ :=
  match s.cached round force with
  | some conn => (.ok conn, s)
  | none =>
      let s := s.emit (.fetch force round.mediaConnIq)
      match round.mediaConnIq with
      | .error e => (.error (.internal ("media conn IQ failed: " ++ e)), s)
      | .ok response =>
          let newConn : MediaConn := {
            auth := response.auth
            ttl := response.ttl
            authTtl := response.authTtl
            hosts := response.hosts
            fetchedAt := round.fetchedAt }
          (.ok newConn, { s with mediaConn := some newConn })

/-- Invalidate the cached media connection to force a fresh IQ on next use. -/
def invalidateMediaConn (s : MediaState μ) : MediaState μ :=
  { s.emit .invalidate with mediaConn := none }

/-- Prepare download requests from a downloadable with optional media conn refresh. -/
def prepareRequests (s : MediaState μ) (utils : DownloadUtils δ μ) (round : Round μ)
    (downloadable : δ) (forceRefresh : Bool) :
    Except ClientError (List (DownloadRequest μ)) × MediaState μ :=
  match s.refreshMediaConn round forceRefresh with
  | (.error e, s) => (.error e, s)
  | (.ok mediaConn, s) =>
      match utils.prepareDownloadRequests downloadable (.ofConn mediaConn) with
      | .error e => (.error (.internal ("failed to prepare download URLs: " ++ e)), s)
      | .ok requests => (.ok requests, s)

end MediaState

/-- A request, and what happens if it is sent. -/
structure Try (μ : Type) where
  request : DownloadRequest μ
  answer : HttpAnswer
  seek : Except String Unit
  write : Option (Nat × String)

def Round.tries (round : Round μ) (requests : List (DownloadRequest μ)) : List (Try μ) :=
  requests.mapIdx fun i request => ⟨request, round.http i request, round.seek i, round.write i⟩

/-- How the loop over the requests of an attempt ends. -/
inductive HostsEnd (α : Type) where
  | returned (r : Except ClientError α)
  /-- `break`, with `retry_with_fresh_auth`. -/
  | retryWithFreshAuth (lastErr : Option String)
  | finished (lastErr : Option String)

/-! ## In memory -/

/-- Execute a single HTTP download request and decrypt the response. -/
def executeDownloadRequest (utils : DownloadUtils δ μ) (request : DownloadRequest μ) :
    HttpAnswer → Except DownloadRequestError Bytes
  | .failed e => .error (.other e)
  | .response status bytes =>
      if 300 ≤ status then
        if isMediaAuthError status then .error .auth
        else if status = 404 ∨ status = 410 then .error .notFound
        else .error (.other ("download failed with HTTP status: " ++ toString status))
      else
        match bytes with
        | .error e => .error (.other e)
        | .ok bytes =>
            match request.decryption with
            | .encrypted mediaKey mediaType =>
                match utils.verifyAndDecrypt bytes mediaKey mediaType with
                | .ok data => .ok data
                | .error e => .error (.other e)
            | .plaintext fileSha256 =>
                match utils.copyAndValidatePlaintextToWriter bytes fileSha256 with
                | (output, .ok _) => .ok output
                | (_, .error e) => .error (.other e)

/-- The requests of an attempt of `download`. -/
def downloadHosts (utils : DownloadUtils δ μ) (attempt : Nat) :
    List (Try μ) → Option String → MediaState μ → HostsEnd Bytes × MediaState μ
  | [], lastErr, s => (.finished lastErr, s)
  | t :: ts, lastErr, s =>
      let s := s.emit (.request t.request)
      match executeDownloadRequest utils t.request t.answer with
      | .ok data => (.returned (.ok data), s)
      | .error .auth | .error .notFound =>
          if attempt = 0 then (.retryWithFreshAuth lastErr, s.invalidateMediaConn)
          else (.returned (.error (.internal "media download auth failed after retry")), s)
      | .error (.other e) => downloadHosts utils attempt ts (some e) s

/-- What `download` returns after its loop. -/
def downloadFailed : Option String → ClientError
  | some e => .internal e
  | none => .internal "failed to download from all available media hosts"

/-- The attempts of `download`. -/
def downloadAttempts (utils : DownloadUtils δ μ) (rounds : Nat → Round μ) (downloadable : δ) :
    List Nat → Bool → Option String → MediaState μ → Except ClientError Bytes × MediaState μ
  | [], _, lastErr, s => (.error (downloadFailed lastErr), s)
  | attempt :: attempts, forceRefresh, lastErr, s =>
      match s.prepareRequests utils (rounds attempt) downloadable forceRefresh with
      | (.error e, s) => (.error e, s)
      | (.ok requests, s) =>
          match downloadHosts utils attempt ((rounds attempt).tries requests) lastErr s with
          | (.returned r, s) => (r, s)
          | (.retryWithFreshAuth lastErr, s) =>
              downloadAttempts utils rounds downloadable attempts true lastErr s
          | (.finished lastErr, s) => (.error (downloadFailed lastErr), s)

/-- Download and decrypt media from WhatsApp's CDN into memory. -/
def download (utils : DownloadUtils δ μ) (rounds : Nat → Round μ) (downloadable : δ)
    (s : MediaState μ) : Except ClientError Bytes × MediaState μ :=
  downloadAttempts utils rounds downloadable
    (List.range (MEDIA_AUTH_REFRESH_RETRY_ATTEMPTS + 1)) false none s

/-! ## To a writer -/

/-- A `Write + Seek`, with its position. -/
structure Writer where
  content : Bytes
  position : Nat

namespace Writer

def empty : Writer := ⟨[], 0⟩

/-- `seek(SeekFrom::Start(0))`. -/
def seekStart (writer : Writer) : Writer := { writer with position := 0 }

/-- Write over what is at the position; a gap before it is filled with zeros. -/
def write (writer : Writer) (bytes : Bytes) : Writer where
  content :=
    writer.content.take writer.position ++
      List.replicate (writer.position - writer.content.length) 0 ++ bytes ++
        writer.content.drop (writer.position + bytes.length)
  position := writer.position + bytes.length

end Writer

/-- What a stream writes for an answer, and how the request ends. -/
def streamAnswer (utils : DownloadUtils δ μ) (request : DownloadRequest μ) :
    HttpAnswer → Bytes × Except DownloadRequestError Nat
  | .failed e => ([], .error (.other e))
  | .response status bytes =>
      if 300 ≤ status then
        if isMediaAuthError status then ([], .error .auth)
        else if status = 404 ∨ status = 410 then ([], .error .notFound)
        else ([], .error (.other ("stream download failed with HTTP status: " ++ toString status)))
      else
        match bytes with
        | .error e => ([], .error (.other e))
        | .ok bytes =>
            match request.decryption with
            | .encrypted mediaKey mediaType =>
                match utils.decryptStreamToWriter bytes mediaKey mediaType with
                | (written, .ok n) => (written, .ok n)
                | (written, .error e) => (written, .error (.other e))
            | .plaintext fileSha256 =>
                match utils.copyAndValidatePlaintextToWriter bytes fileSha256 with
                | (written, .ok n) => (written, .ok n)
                | (written, .error e) => (written, .error (.other e))

/-- What the writer takes of a stream, and how the request ends: a write that fails ends
it. -/
def Try.streamed (utils : DownloadUtils δ μ) (t : Try μ) :
    Bytes × Except DownloadRequestError Nat :=
  let (written, result) := streamAnswer utils t.request t.answer
  match t.write with
  | none => (written, result)
  | some (room, e) =>
      if room < written.length then (written.take room, .error (.other e)) else (written, result)

/-- Download a single request and stream-decrypt to the writer. -/
def streamingDownloadToWriter (utils : DownloadUtils δ μ) (t : Try μ) (writer : Writer) :
    Except DownloadRequestError Nat × Writer :=
  let (written, result) := t.streamed utils
  (result, writer.write written)

/-- The requests of an attempt of `download_to_writer`. -/
def downloadToWriterHosts (utils : DownloadUtils δ μ) (attempt : Nat) :
    List (Try μ) → Option String → Writer → MediaState μ → HostsEnd Nat × Writer × MediaState μ
  | [], lastErr, writer, s => (.finished lastErr, writer, s)
  | t :: ts, lastErr, writer, s =>
      match t.seek with
      | .error e => (.returned (.error (.internal ("seek failed: " ++ e))), writer, s)
      | .ok () =>
          let s := s.emit (.request t.request)
          match streamingDownloadToWriter utils t writer.seekStart with
          | (.ok bytesWritten, writer) => (.returned (.ok bytesWritten), writer, s)
          | (.error .auth, writer) | (.error .notFound, writer) =>
              if attempt = 0 then (.retryWithFreshAuth lastErr, writer, s.invalidateMediaConn)
              else
                (.returned (.error (.internal "media stream download auth failed after retry")),
                  writer, s)
          | (.error (.other e), writer) => downloadToWriterHosts utils attempt ts (some e) writer s

/-- What `download_to_writer` returns after its loop. -/
def downloadToWriterFailed : Option String → ClientError
  | some e => .internal e
  | none => .internal "failed to stream-download from all available media hosts"

/-- The attempts of `download_to_writer`. -/
def downloadToWriterAttempts (utils : DownloadUtils δ μ) (rounds : Nat → Round μ)
    (downloadable : δ) : List Nat → Bool → Option String → Writer → MediaState μ →
    Except ClientError Nat × Writer × MediaState μ
  | [], _, lastErr, writer, s => (.error (downloadToWriterFailed lastErr), writer, s)
  | attempt :: attempts, forceRefresh, lastErr, writer, s =>
      match s.prepareRequests utils (rounds attempt) downloadable forceRefresh with
      | (.error e, s) => (.error e, writer, s)
      | (.ok requests, s) =>
          match downloadToWriterHosts utils attempt ((rounds attempt).tries requests) lastErr
            writer s with
          | (.returned r, writer, s) => (r, writer, s)
          | (.retryWithFreshAuth lastErr, writer, s) =>
              downloadToWriterAttempts utils rounds downloadable attempts true lastErr writer s
          | (.finished lastErr, writer, s) => (.error (downloadToWriterFailed lastErr), writer, s)

/-- Download and decrypt media, streaming to a writer. -/
def downloadToWriter (utils : DownloadUtils δ μ) (rounds : Nat → Round μ) (downloadable : δ)
    (writer : Writer) (s : MediaState μ) : Except ClientError Nat × Writer × MediaState μ :=
  downloadToWriterAttempts utils rounds downloadable
    (List.range (MEDIA_AUTH_REFRESH_RETRY_ATTEMPTS + 1)) false none writer s

end Waepic.Client
