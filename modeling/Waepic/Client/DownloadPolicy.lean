import Mathlib.Algebra.Ring.Nat
import Mathlib.Tactic.Common
import Waepic.Client.Download
import Waepic.Library.Retry

/-!
# The retry policy of downloads

`download` and `download_to_writer` repeat one loop.  If the two ways to decrypt
accept the same inputs and the writer does not fail, they do the same with the media
connection and send the same requests, and one returns `Ok` if the other does
(`downloads_same_policy`).  A call fetches at most two connections, one of them
forced, and sends no more requests than the connections have hosts.

The tries of a call are those of `Retry.tries` (`downloadTries`): the hosts of a
connection are tried until one answers with anything but another failure, and a
401, 403, 404 or 410 starts a second round with a fresh connection.  The answer
that ends the round in use decides, no host after it is asked, and a connection is
fetched by force only for a second round (`download_ok_iff`).
-/

namespace Waepic.Client

open Connection

variable {δ μ α β : Type}

/-! ## Kinds of results -/

/-- Results that the loops treat alike. -/
inductive SameKind : Except DownloadRequestError α → Except DownloadRequestError β → Prop where
  | ok (a : α) (b : β) : SameKind (.ok a) (.ok b)
  | auth : SameKind (.error .auth) (.error .auth)
  | notFound : SameKind (.error .notFound) (.error .notFound)
  | other (e e' : String) : SameKind (.error (.other e)) (.error (.other e'))

/-- `verify_and_decrypt` and `decrypt_stream_to_writer` accept the same inputs. -/
def DownloadUtils.DecryptAlike (utils : DownloadUtils δ μ) : Prop :=
  ∀ bytes mediaKey mediaType, (utils.verifyAndDecrypt bytes mediaKey mediaType).isOk =
    (utils.decryptStreamToWriter bytes mediaKey mediaType).2.isOk

/-- There is at most one request for each host. -/
def DownloadUtils.OnePerHost (utils : DownloadUtils δ μ) : Prop :=
  ∀ downloadable conn requests, utils.prepareDownloadRequests downloadable conn = .ok requests →
    requests.length ≤ conn.hosts.length

/-- The writer does not fail: no seek does, and it takes every write. -/
structure Round.WriterWorks (round : Round μ) : Prop where
  seek : ∀ i, round.seek i = .ok ()
  write : ∀ i, round.write i = none

/-- A request has one kind of result in memory and to a writer. -/
theorem executeDownloadRequest_sameKind {utils : DownloadUtils δ μ}
    (hdecrypt : utils.DecryptAlike) (request : DownloadRequest μ) (answer : HttpAnswer) :
    SameKind (executeDownloadRequest utils request answer)
      (streamAnswer utils request answer).2 := by
  cases answer with
  | failed e => exact .other e e
  | response status bytes =>
      unfold executeDownloadRequest streamAnswer
      dsimp only
      split_ifs
      · exact .auth
      · exact .notFound
      · exact .other _ _
      · cases bytes with
        | error e => exact .other e e
        | ok bytes =>
            cases request.decryption with
            | encrypted mediaKey mediaType =>
                have hsame := hdecrypt bytes mediaKey mediaType
                dsimp only
                rcases hstream : utils.decryptStreamToWriter bytes mediaKey mediaType with
                  ⟨written, e' | n⟩ <;>
                rcases hdata : utils.verifyAndDecrypt bytes mediaKey mediaType with e | data <;>
                rw [hstream, hdata] at hsame
                · exact .other e e'
                · cases hsame
                · cases hsame
                · exact .ok data n
            | plaintext fileSha256 =>
                dsimp only
                rcases utils.copyAndValidatePlaintextToWriter bytes fileSha256 with
                  ⟨written, e | n⟩
                · exact .other e e
                · exact .ok written n

/-! ## The two loops -/

/-- Exits that the attempts treat alike. -/
inductive HostsEnd.SameExit : HostsEnd α → HostsEnd β → Prop where
  | returned {r : Except ClientError α} {r' : Except ClientError β} (hok : r.isOk = r'.isOk) :
      SameExit (.returned r) (.returned r')
  | retryWithFreshAuth (lastErr lastErr' : Option String) :
      SameExit (.retryWithFreshAuth lastErr) (.retryWithFreshAuth lastErr')
  | finished (lastErr lastErr' : Option String) :
      SameExit (.finished lastErr) (.finished lastErr')

section Policy

variable {utils : DownloadUtils δ μ} {rounds : Nat → Round μ}

/-- The loops over the requests of an attempt. -/
theorem hosts_same_policy (hdecrypt : utils.DecryptAlike) (attempt : Nat) {ts : List (Try μ)}
    (hwriter : ∀ t ∈ ts, t.seek = .ok () ∧ t.write = none) (lastErr lastErr' : Option String)
    (writer : Writer) (s : MediaState μ) :
    (downloadHosts utils attempt ts lastErr s).1.SameExit
        (downloadToWriterHosts utils attempt ts lastErr' writer s).1 ∧
      (downloadHosts utils attempt ts lastErr s).2 =
        (downloadToWriterHosts utils attempt ts lastErr' writer s).2.2 := by
  induction ts generalizing lastErr lastErr' writer s with
  | nil => exact ⟨.finished lastErr lastErr', rfl⟩
  | cons t ts ih =>
      have hkind := executeDownloadRequest_sameKind hdecrypt t.request t.answer
      obtain ⟨hseek, hwrite⟩ := hwriter t List.mem_cons_self
      rw [downloadHosts, downloadToWriterHosts, hseek]
      dsimp only [streamingDownloadToWriter]
      rw [Try.streamed, hwrite]
      dsimp only
      generalize executeDownloadRequest utils t.request t.answer = r at hkind ⊢
      generalize streamAnswer utils t.request t.answer = streamed at hkind ⊢
      obtain ⟨written, r'⟩ := streamed
      cases hkind with
      | ok data n => exact ⟨.returned rfl, rfl⟩
      | auth =>
          dsimp only
          split
          · exact ⟨.retryWithFreshAuth _ _, rfl⟩
          · exact ⟨.returned rfl, rfl⟩
      | notFound =>
          dsimp only
          split
          · exact ⟨.retryWithFreshAuth _ _, rfl⟩
          · exact ⟨.returned rfl, rfl⟩
      | other e e' => exact ih (fun u hu => hwriter u (.tail t hu)) _ _ _ _

/-- The writer does not fail in any try. -/
theorem Round.WriterWorks.tries {round : Round μ} (h : round.WriterWorks)
    (requests : List (DownloadRequest μ)) :
    ∀ t ∈ round.tries requests, t.seek = .ok () ∧ t.write = none := by
  intro t ht
  obtain ⟨i, hi, rfl⟩ := List.mem_mapIdx.mp ht
  exact ⟨h.seek i, h.write i⟩

/-- The loops over the attempts. -/
theorem attempts_same_policy (hdecrypt : utils.DecryptAlike)
    (hwriter : ∀ attempt, (rounds attempt).WriterWorks) (downloadable : δ)
    (attempts : List Nat) (forceRefresh : Bool) (lastErr lastErr' : Option String)
    (writer : Writer) (s : MediaState μ) :
    (downloadAttempts utils rounds downloadable attempts forceRefresh lastErr s).1.isOk =
        (downloadToWriterAttempts utils rounds downloadable attempts forceRefresh lastErr' writer
          s).1.isOk ∧
      (downloadAttempts utils rounds downloadable attempts forceRefresh lastErr s).2 =
        (downloadToWriterAttempts utils rounds downloadable attempts forceRefresh lastErr' writer
          s).2.2 := by
  induction attempts generalizing forceRefresh lastErr lastErr' writer s with
  | nil => exact ⟨rfl, rfl⟩
  | cons attempt attempts ih =>
      rw [downloadAttempts, downloadToWriterAttempts]
      rcases s.prepareRequests utils (rounds attempt) downloadable forceRefresh with
        ⟨e | requests, s⟩
      · exact ⟨rfl, rfl⟩
      dsimp only
      obtain ⟨hexit, hstate⟩ := hosts_same_policy hdecrypt attempt
        ((hwriter attempt).tries requests) lastErr lastErr' writer s
      generalize downloadHosts utils attempt ((rounds attempt).tries requests) lastErr s = m
        at hexit hstate ⊢
      generalize downloadToWriterHosts utils attempt ((rounds attempt).tries requests) lastErr'
        writer s = w at hexit hstate ⊢
      obtain ⟨exit, s₁⟩ := m
      obtain ⟨exit', writer', s₂⟩ := w
      cases hstate
      cases hexit with
      | returned hok => exact ⟨hok, rfl⟩
      | retryWithFreshAuth => exact ih _ _ _ _ _
      | finished => exact ⟨rfl, rfl⟩

end Policy

/-! ## How much is done -/

namespace MediaEvent

def isFetch : MediaEvent μ → Bool
  | .fetch _ _ => true
  | _ => false

def isForcedFetch : MediaEvent μ → Bool
  | .fetch force _ => force
  | _ => false

def isRequest : MediaEvent μ → Bool
  | .request _ => true
  | _ => false

def request? : MediaEvent μ → Option (DownloadRequest μ)
  | .request r => some r
  | _ => none

/-- The number of hosts that a fetch brings. -/
def hosts : MediaEvent μ → Nat
  | .fetch _ (.ok response) => response.hosts.length
  | _ => 0

end MediaEvent

/-- At most `n` fetches, at most `forced` of them forced, and no more requests than
`hosts` and the hosts that the fetches bring. -/
structure Bounded (events : List (MediaEvent μ)) (n forced hosts : Nat) : Prop where
  fetches : events.countP (·.isFetch) ≤ n
  forced : events.countP (·.isForcedFetch) ≤ forced
  requests : events.countP (·.isRequest) ≤ hosts + (events.map (·.hosts)).sum

theorem Bounded.append {events events' : List (MediaEvent μ)}
    {n n' forced forced' hosts hosts' : Nat} (h : Bounded events n forced hosts)
    (h' : Bounded events' n' forced' hosts') :
    Bounded (events ++ events') (n + n') (forced + forced') (hosts + hosts') where
  fetches := by
    rw [List.countP_append]
    exact Nat.add_le_add h.fetches h'.fetches
  forced := by
    rw [List.countP_append]
    exact Nat.add_le_add h.forced h'.forced
  requests := by
    have hrequests := h.requests
    have hrequests' := h'.requests
    rw [List.countP_append, List.map_append, List.sum_append]
    omega

theorem Bounded.mono {events : List (MediaEvent μ)} {n n' forced forced' hosts hosts' : Nat}
    (h : Bounded events n forced hosts) (hn : n ≤ n') (hforced : forced ≤ forced')
    (hhosts : hosts ≤ hosts') : Bounded events n' forced' hosts' :=
  ⟨Nat.le_trans h.fetches hn, Nat.le_trans h.forced hforced,
    Nat.le_trans h.requests (Nat.add_le_add_right hhosts _)⟩

theorem Bounded.nil {n forced hosts : Nat} : Bounded ([] : List (MediaEvent μ)) n forced hosts :=
  ⟨Nat.zero_le _, Nat.zero_le _, Nat.zero_le _⟩

theorem Bounded.invalidate {n forced hosts : Nat} :
    Bounded [MediaEvent.invalidate (μ := μ)] n forced hosts :=
  ⟨Nat.zero_le _, Nat.zero_le _, Nat.zero_le _⟩

theorem Bounded.request {events : List (MediaEvent μ)} {n forced hosts : Nat}
    (h : Bounded events n forced hosts) (request : DownloadRequest μ) :
    Bounded (.request request :: events) n forced (hosts + 1) where
  fetches := by
    rw [List.countP_cons_of_neg (by simp [MediaEvent.isFetch])]
    exact h.fetches
  forced := by
    rw [List.countP_cons_of_neg (by simp [MediaEvent.isForcedFetch])]
    exact h.forced
  requests := by
    have hrequests := h.requests
    rw [List.countP_cons_of_pos rfl, List.map_cons, List.sum_cons]
    omega

section Bounds

variable {utils : DownloadUtils δ μ} {rounds : Nat → Round μ} {downloadable : δ}

/-- What a try does to the loop: it returns the media, it asks for fresh
authentication, or the next request is tried. -/
theorem downloadHosts_cons (utils : DownloadUtils δ μ) (attempt : Nat) (t : Try μ)
    (ts : List (Try μ)) (lastErr : Option String) (s : MediaState μ) :
    (∃ data, executeDownloadRequest utils t.request t.answer = .ok data ∧
      downloadHosts utils attempt (t :: ts) lastErr s =
        (.returned (.ok data), s.emit (.request t.request))) ∨
    (∃ e, executeDownloadRequest utils t.request t.answer = .error e ∧
      (e = .auth ∨ e = .notFound) ∧
      downloadHosts utils attempt (t :: ts) lastErr s =
        if attempt = 0 then
          (.retryWithFreshAuth lastErr, (s.emit (.request t.request)).invalidateMediaConn)
        else
          (.returned (.error (.internal "media download auth failed after retry")),
            s.emit (.request t.request))) ∨
    ∃ e, executeDownloadRequest utils t.request t.answer = .error (.other e) ∧
      downloadHosts utils attempt (t :: ts) lastErr s =
        downloadHosts utils attempt ts (some e) (s.emit (.request t.request)) := by
  rw [downloadHosts]
  rcases executeDownloadRequest utils t.request t.answer with (_ | _ | e) | data
  · exact .inr (.inl ⟨_, rfl, .inl rfl, rfl⟩)
  · exact .inr (.inl ⟨_, rfl, .inr rfl, rfl⟩)
  · exact .inr (.inr ⟨e, rfl, rfl⟩)
  · exact .inl ⟨data, rfl, rfl⟩

/-- An attempt sends a request for each try at most, and fetches nothing. -/
theorem downloadHosts_bounded (utils : DownloadUtils δ μ) (attempt : Nat) (ts : List (Try μ))
    (lastErr : Option String) (s : MediaState μ) : ∃ events,
      (downloadHosts utils attempt ts lastErr s).2.trace = s.trace ++ events ∧
        Bounded events 0 0 ts.length := by
  induction ts generalizing lastErr s with
  | nil => exact ⟨[], (List.append_nil _).symm, .nil⟩
  | cons t ts ih =>
      have hlast : ∃ events, (s.emit (.request t.request)).trace = s.trace ++ events ∧
          Bounded events 0 0 (ts.length + 1) := ⟨[_], rfl, Bounded.nil.request t.request⟩
      rcases downloadHosts_cons utils attempt t ts lastErr s with
        ⟨data, -, heq⟩ | ⟨e, -, -, heq⟩ | ⟨e, -, heq⟩
      · rw [heq]
        exact hlast
      · rw [heq]
        split
        · exact ⟨_, List.append_assoc _ _ _, Bounded.invalidate.request t.request⟩
        · exact hlast
      · obtain ⟨events, htrace, hevents⟩ := ih (some e) (s.emit (.request t.request))
        rw [heq, htrace]
        exact ⟨_, List.append_assoc _ _ _, hevents.request t.request⟩

/-- A refresh uses the cached connection, or fetches one. -/
theorem refreshMediaConn_cases (s : MediaState μ) (round : Round μ) (force : Bool) :
    (∃ conn, s.cached round force = some conn ∧ s.refreshMediaConn round force = (.ok conn, s)) ∨
      s.cached round force = none ∧
        (s.refreshMediaConn round force).2.trace =
          s.trace ++ [.fetch force round.mediaConnIq] ∧
        ∀ conn, (s.refreshMediaConn round force).1 = .ok conn →
          ∃ response, round.mediaConnIq = .ok response ∧ conn.hosts = response.hosts := by
  simp only [MediaState.refreshMediaConn]
  cases s.cached round force with
  | some conn => exact .inl ⟨conn, rfl, rfl⟩
  | none =>
      refine .inr ⟨rfl, ?_⟩
      dsimp only
      cases round.mediaConnIq with
      | error e => exact ⟨rfl, fun conn h => by cases h⟩
      | ok response =>
          refine ⟨rfl, fun conn h => ⟨response, rfl, ?_⟩⟩
          cases h
          rfl

theorem prepareRequests_state (s : MediaState μ) (round : Round μ) (forceRefresh : Bool) :
    (s.prepareRequests utils round downloadable forceRefresh).2 =
      (s.refreshMediaConn round forceRefresh).2 := by
  simp only [MediaState.prepareRequests]
  rcases s.refreshMediaConn round forceRefresh with ⟨e | conn, u⟩
  · rfl
  · dsimp only
    cases utils.prepareDownloadRequests downloadable (.ofConn conn) <;> rfl

theorem prepareRequests_ok {s : MediaState μ} {round : Round μ} {forceRefresh : Bool}
    {requests : List (DownloadRequest μ)}
    (h : (s.prepareRequests utils round downloadable forceRefresh).1 = .ok requests) :
    ∃ conn, (s.refreshMediaConn round forceRefresh).1 = .ok conn ∧
      utils.prepareDownloadRequests downloadable (.ofConn conn) = .ok requests := by
  simp only [MediaState.prepareRequests] at h
  rcases hrefresh : s.refreshMediaConn round forceRefresh with ⟨e | conn, u⟩ <;>
    rw [hrefresh] at h
  · cases h
  · refine ⟨conn, rfl, ?_⟩
    dsimp only at h
    cases hprepared : utils.prepareDownloadRequests downloadable (.ofConn conn) with
    | error e =>
        rw [hprepared] at h
        cases h
    | ok prepared =>
        rw [hprepared] at h
        cases h
        rfl

/-- The requests are at most as many as the hosts of the cached connection, or of
the one that is fetched. -/
theorem prepareRequests_bounded (hrequests : utils.OnePerHost) (downloadable : δ)
    (round : Round μ) (forceRefresh : Bool) (s : MediaState μ) : ∃ events,
      (s.prepareRequests utils round downloadable forceRefresh).2.trace = s.trace ++ events ∧
        Bounded events (1 - (s.cached round forceRefresh).toList.length) forceRefresh.toNat 0 ∧
        ∀ requests, (s.prepareRequests utils round downloadable forceRefresh).1 = .ok requests →
          ∀ later, Bounded later 0 0 requests.length →
            Bounded (events ++ later) (1 - (s.cached round forceRefresh).toList.length)
              forceRefresh.toNat ((s.cached round forceRefresh).elim 0 (·.hosts.length)) := by
  rw [prepareRequests_state]
  have hlength : ∀ requests,
      (s.prepareRequests utils round downloadable forceRefresh).1 = .ok requests →
      ∃ conn, (s.refreshMediaConn round forceRefresh).1 = .ok conn ∧
        requests.length ≤ conn.hosts.length := by
    intro requests h
    obtain ⟨conn, hconn, hprepared⟩ := prepareRequests_ok h
    have hle := hrequests _ _ _ hprepared
    rw [CoreMediaConnection.ofConn, List.length_map] at hle
    exact ⟨conn, hconn, hle⟩
  rcases refreshMediaConn_cases s round forceRefresh with ⟨conn, hcached, hrefresh⟩ |
    ⟨hcached, htrace, hfetched⟩
  · refine ⟨[], ?_, .nil, fun requests h later hlater => ?_⟩
    · rw [hrefresh, List.append_nil]
    · obtain ⟨conn', hconn, hle⟩ := hlength requests h
      rw [hrefresh] at hconn
      cases hconn
      rw [hcached]
      exact hlater.mono (Nat.zero_le _) (Nat.zero_le _) hle
  · have hforced : [MediaEvent.fetch (μ := μ) forceRefresh round.mediaConnIq].countP
        (·.isForcedFetch) ≤ forceRefresh.toNat := by
      cases forceRefresh <;> exact Nat.le_refl _
    rw [hcached]
    refine ⟨_, htrace, ⟨Nat.le_refl 1, hforced, Nat.zero_le _⟩, fun requests h later hlater => ?_⟩
    obtain ⟨conn', hconn, hle⟩ := hlength requests h
    obtain ⟨response, hresponse, hhosts⟩ := hfetched conn' hconn
    have hlater' := hlater.requests
    refine ⟨?_, ?_, ?_⟩
    · rw [List.countP_append]
      exact Nat.add_le_add (Nat.le_refl 1) hlater.fetches
    · rw [List.countP_append]
      exact Nat.add_le_add hforced hlater.forced
    · have hcount : [MediaEvent.fetch (μ := μ) forceRefresh round.mediaConnIq].countP
          (·.isRequest) = 0 := rfl
      have hsum : ([MediaEvent.fetch (μ := μ) forceRefresh round.mediaConnIq].map
          (·.hosts)).sum = response.hosts.length := by
        rw [hresponse]
        rfl
      rw [List.countP_append, List.map_append, List.sum_append, hcount, hsum, ← hhosts]
      omega

/-- An attempt, and the attempts that follow it with a forced refresh. -/
theorem downloadAttempts_bounded_cons (hrequests : utils.OnePerHost) {attempts : List Nat}
    {n forced : Nat}
    (hrest : ∀ lastErr s, ∃ events,
      (downloadAttempts utils rounds downloadable attempts true lastErr s).2.trace =
        s.trace ++ events ∧ Bounded events n forced 0)
    (attempt : Nat) (forceRefresh : Bool) (lastErr : Option String) (s : MediaState μ) :
    ∃ events,
      (downloadAttempts utils rounds downloadable (attempt :: attempts) forceRefresh lastErr
        s).2.trace = s.trace ++ events ∧
        Bounded events (1 - (s.cached (rounds attempt) forceRefresh).toList.length + n)
          (forceRefresh.toNat + forced)
          ((s.cached (rounds attempt) forceRefresh).elim 0 (·.hosts.length)) := by
  obtain ⟨prepared, htrace, hprepared, hsent⟩ :=
    prepareRequests_bounded hrequests downloadable (rounds attempt) forceRefresh s
  rw [downloadAttempts]
  generalize s.prepareRequests utils (rounds attempt) downloadable forceRefresh = prepare
    at htrace hsent ⊢
  obtain ⟨e | requests, u⟩ := prepare
  · exact ⟨prepared, htrace, hprepared.mono (Nat.le_add_right _ _) (Nat.le_add_right _ _)
      (Nat.zero_le _)⟩
  dsimp only at htrace hsent ⊢
  obtain ⟨sent, hsentTrace, hsentBounded⟩ :=
    downloadHosts_bounded utils attempt ((rounds attempt).tries requests) lastErr u
  rw [Round.tries, List.length_mapIdx] at hsentBounded
  have hround := hsent requests rfl sent hsentBounded
  rw [htrace, List.append_assoc] at hsentTrace
  generalize downloadHosts utils attempt ((rounds attempt).tries requests) lastErr u = ended
    at hsentTrace ⊢
  have hended : ∃ events, ended.2.trace = s.trace ++ events ∧ Bounded events
      (1 - (s.cached (rounds attempt) forceRefresh).toList.length + n)
      (forceRefresh.toNat + forced)
      ((s.cached (rounds attempt) forceRefresh).elim 0 (·.hosts.length)) :=
    ⟨_, hsentTrace, hround.mono (Nat.le_add_right _ _) (Nat.le_add_right _ _) (Nat.le_refl _)⟩
  obtain ⟨r | lastErr' | lastErr', v⟩ := ended
  · exact hended
  · obtain ⟨rest, hrestTrace, hrestBounded⟩ := hrest lastErr' v
    rw [hrestTrace, hsentTrace, List.append_assoc]
    exact ⟨_, rfl, hround.append hrestBounded⟩
  · exact hended

/-- A forced refresh does not use the cached connection. -/
theorem cached_forced (s : MediaState μ) (round : Round μ) : s.cached round true = none := by
  simp [MediaState.cached]

/-- Attempts that force their refresh. -/
theorem downloadAttempts_forced_bounded (hrequests : utils.OnePerHost) (attempts : List Nat)
    (lastErr : Option String) (s : MediaState μ) : ∃ events,
      (downloadAttempts utils rounds downloadable attempts true lastErr s).2.trace =
        s.trace ++ events ∧ Bounded events attempts.length attempts.length 0 := by
  induction attempts generalizing lastErr s with
  | nil => exact ⟨[], (List.append_nil _).symm, .nil⟩
  | cons attempt attempts ih =>
      obtain ⟨events, htrace, hevents⟩ :=
        downloadAttempts_bounded_cons hrequests ih attempt true lastErr s
      rw [cached_forced] at hevents
      refine ⟨events, htrace, hevents.mono ?_ ?_ (Nat.le_refl 0)⟩
      · simp [Nat.add_comm]
      · simp [Nat.add_comm]

/-- A call of `download` fetches at most once if it uses the cached connection, and
else at most twice. -/
theorem download_bounded (hrequests : utils.OnePerHost) (rounds : Nat → Round μ)
    (downloadable : δ) (s : MediaState μ) : ∃ events,
    (download utils rounds downloadable s).2.trace = s.trace ++ events ∧
      Bounded events (2 - (s.cached (rounds 0) false).toList.length) 1
        ((s.cached (rounds 0) false).elim 0 (·.hosts.length)) := by
  obtain ⟨events, htrace, hevents⟩ := downloadAttempts_bounded_cons hrequests
    (downloadAttempts_forced_bounded hrequests [1]) 0 false none s
  refine ⟨events, htrace, hevents.mono ?_ (Nat.le_refl 1) (Nat.le_refl _)⟩
  cases s.cached (rounds 0) false <;> simp

end Bounds

/-- The two downloads follow one policy.  If the two ways to decrypt accept the same
inputs and the writer does not fail, they leave the same media connection and the same
trace, and one returns `Ok` if the other does.  They use at most two connections,
cached or fetched, force a refresh at most once, and send no more requests than these
connections have hosts. -/
theorem downloads_same_policy (utils : DownloadUtils δ μ) (hdecrypt : utils.DecryptAlike)
    (hrequests : utils.OnePerHost) (rounds : Nat → Round μ)
    (hwriter : ∀ attempt, (rounds attempt).WriterWorks) (downloadable : δ) (writer : Writer)
    (mediaConn : Option MediaConn) :
    let s : MediaState μ := ⟨mediaConn, []⟩
    let cached := s.cached (rounds 0) false
    let memory := download utils rounds downloadable s
    let stream := downloadToWriter utils rounds downloadable writer s
    memory.1.isOk = stream.1.isOk ∧ memory.2 = stream.2.2 ∧
      cached.toList.length + memory.2.trace.countP (·.isFetch) ≤ 2 ∧
        memory.2.trace.countP (·.isForcedFetch) ≤ 1 ∧
          memory.2.trace.countP (·.isRequest) ≤
            cached.elim 0 (·.hosts.length) + (memory.2.trace.map (·.hosts)).sum := by
  intro s cached memory stream
  obtain ⟨hok, hstate⟩ := attempts_same_policy hdecrypt hwriter downloadable
    (List.range (MEDIA_AUTH_REFRESH_RETRY_ATTEMPTS + 1)) false none none writer s
  obtain ⟨events, htrace, hevents⟩ := download_bounded hrequests rounds downloadable s
  have hall : memory.2.trace = events := htrace
  rw [hall]
  refine ⟨hok, hstate, ?_, hevents.forced, hevents.requests⟩
  have hfetches : events.countP (·.isFetch) ≤ 2 - cached.toList.length := hevents.fetches
  have hcached : cached.toList.length ≤ 1 := by
    cases cached <;> simp
  omega

/-- Decryption of media that end with a zero byte. -/
def markedUtils : DownloadUtils Unit Unit where
  prepareDownloadRequests _ conn := .ok (conn.hosts.map fun host => ⟨host, .encrypted [] ()⟩)
  verifyAndDecrypt bytes _ _ :=
    if bytes.getLast? = some 0 then .ok bytes.dropLast else .error "mac mismatch"
  decryptStreamToWriter bytes _ _ :=
    (bytes.dropLast,
      if bytes.getLast? = some 0 then .ok bytes.dropLast.length else .error "mac mismatch")
  copyAndValidatePlaintextToWriter bytes _ := (bytes, .ok bytes.length)

/-- Two hosts, each with its answer. -/
def twoHosts (a b : HttpAnswer) : Round Unit where
  checkedAt := 0
  mediaConnIq := .ok ⟨"auth", 300, none, [⟨"a"⟩, ⟨"b"⟩]⟩
  fetchedAt := 0
  http _ request := if request.url = "a" then a else b
  seek _ := .ok ()
  write _ := none

theorem markedUtils_decryptAlike : markedUtils.DecryptAlike := by
  intro bytes mediaKey mediaType
  show (if bytes.getLast? = some 0 then .ok bytes.dropLast else .error "mac mismatch" :
    Except String Bytes).isOk = (if bytes.getLast? = some 0 then .ok bytes.dropLast.length
      else .error "mac mismatch" : Except String Nat).isOk
  split <;> rfl

theorem markedUtils_onePerHost : markedUtils.OnePerHost := by
  intro downloadable conn requests h
  cases h
  exact Nat.le_of_eq (List.length_map _)

/-- The first host serves the media to a fresh connection only. -/
def servedFresh (attempt : Nat) : Round Unit :=
  twoHosts (.response (if attempt = 0 then 404 else 200) (.ok [7, 0])) (.failed "timeout")

/-- The first host answers 404, and then both downloads get the media from it. -/
theorem downloads_same_policy_refreshed :
    (download markedUtils servedFresh () ⟨none, []⟩).1.isOk =
        (downloadToWriter markedUtils servedFresh () .empty ⟨none, []⟩).1.isOk ∧
      (download markedUtils servedFresh () ⟨none, []⟩).2.trace.countP (·.isRequest) ≤ 4 := by
  obtain ⟨hok, -, -, -, hrequests⟩ := downloads_same_policy markedUtils markedUtils_decryptAlike
    markedUtils_onePerHost servedFresh (fun _ => ⟨fun _ => rfl, fun _ => rfl⟩) () .empty none
  exact ⟨hok, hrequests⟩

/-! ## Which answer decides -/

/-- What a try gives if its request is sent. -/
def Try.result (utils : DownloadUtils δ μ) (t : Try μ) : Except DownloadRequestError Bytes :=
  executeDownloadRequest utils t.request t.answer

/-- Anything but another failure. -/
def decides : Except DownloadRequestError α → Bool
  | .error (.other _) => false
  | _ => true

/-- The first result that ends the loop over the requests; it is the media, or a 401,
403, 404 or 410. -/
def firstDecisive (utils : DownloadUtils δ μ) (ts : List (Try μ)) :
    Option (Except DownloadRequestError Bytes) :=
  (ts.map (·.result utils)).find? decides

/-- The requests for a connection that is fetched by force. -/
def refreshedRequests (utils : DownloadUtils δ μ) (round : Round μ) (downloadable : δ) :
    Except ClientError (List (DownloadRequest μ)) :=
  (MediaState.prepareRequests ⟨none, []⟩ utils round downloadable true).1

/-- What the first attempt does after a result. -/
def verdictOf {α : Type} : Except DownloadRequestError α → Retry.Verdict
  | .ok _ => .done
  | .error .auth | .error .notFound => .refresh
  | .error (.other _) => .next

def Try.verdict (utils : DownloadUtils δ μ) (t : Try μ) : Retry.Verdict :=
  verdictOf (t.result utils)

/-- The tries for a connection that is fetched by force, if none decides. -/
def refreshedTries (utils : DownloadUtils δ μ) (round : Round μ) (downloadable : δ) :
    List (Try μ) :=
  match refreshedRequests utils round downloadable with
  | .error _ => []
  | .ok requests => round.tries requests

/-- The tries of a call of `download`, oldest first. -/
def downloadTries (utils : DownloadUtils δ μ) (rounds : Nat → Round μ) (downloadable : δ)
    (s : MediaState μ) : List (Try μ) :=
  match (s.prepareRequests utils (rounds 0) downloadable false).1 with
  | .error _ => []
  | .ok first =>
      Retry.tries (Try.verdict utils) ((rounds 0).tries first)
        (refreshedTries utils (rounds 1) downloadable)

section Decisive

variable {utils : DownloadUtils δ μ} {rounds : Nat → Round μ} {downloadable : δ}

/-- How an attempt ends after its first decisive result. -/
inductive HostsEnd.After (attempt : Nat) :
    Option (Except DownloadRequestError Bytes) → HostsEnd Bytes → Prop where
  | media (data : Bytes) : After attempt (some (.ok data)) (.returned (.ok data))
  | refresh (e : DownloadRequestError) (lastErr : Option String) :
      attempt = 0 → After attempt (some (.error e)) (.retryWithFreshAuth lastErr)
  | refused (e : DownloadRequestError) :
      attempt ≠ 0 → After attempt (some (.error e))
        (.returned (.error (.internal "media download auth failed after retry")))
  | finished (lastErr : Option String) : After attempt none (.finished lastErr)

theorem downloadHosts_after (utils : DownloadUtils δ μ) (attempt : Nat) (ts : List (Try μ))
    (lastErr : Option String) (s : MediaState μ) :
    HostsEnd.After attempt (firstDecisive utils ts)
      (downloadHosts utils attempt ts lastErr s).1 := by
  induction ts generalizing lastErr s with
  | nil => exact .finished lastErr
  | cons t ts ih =>
      rw [firstDecisive, List.map_cons, List.find?_cons, Try.result]
      rcases downloadHosts_cons utils attempt t ts lastErr s with
        ⟨data, hresult, heq⟩ | ⟨e, hresult, he, heq⟩ | ⟨e, hresult, heq⟩
      · rw [hresult, heq]
        exact .media data
      · have hdecides : decides (.error e : Except DownloadRequestError Bytes) = true := by
          rcases he with rfl | rfl <;> rfl
        rw [hresult, heq, hdecides]
        split_ifs with h0
        · exact .refresh e lastErr h0
        · exact .refused e h0
      · rw [hresult, heq]
        exact ih (some e) _

/-- A forced refresh does not depend on the cached connection. -/
theorem prepareRequests_forced (s : MediaState μ) (round : Round μ) :
    (s.prepareRequests utils round downloadable true).1 =
      refreshedRequests utils round downloadable := by
  simp only [refreshedRequests, MediaState.prepareRequests, MediaState.refreshMediaConn]
  rw [cached_forced, cached_forced]
  dsimp only
  cases round.mediaConnIq with
  | error e => rfl
  | ok response =>
      dsimp only
      split <;> rfl

/-- The attempt with a fresh connection. -/
theorem lastAttempt_ok_iff (lastErr : Option String) (s : MediaState μ) (data : Bytes) :
    (downloadAttempts utils rounds downloadable [1] true lastErr s).1 = .ok data ↔
      ∃ requests, refreshedRequests utils (rounds 1) downloadable = .ok requests ∧
        firstDecisive utils ((rounds 1).tries requests) = some (.ok data) := by
  rw [← prepareRequests_forced s, downloadAttempts]
  rcases s.prepareRequests utils (rounds 1) downloadable true with ⟨e | requests, u⟩
  · simp
  have hafter := downloadHosts_after utils 1 ((rounds 1).tries requests) lastErr u
  dsimp only
  generalize downloadHosts utils 1 ((rounds 1).tries requests) lastErr u = ended at hafter ⊢
  obtain ⟨exit, v⟩ := ended
  generalize hfirst : firstDecisive utils ((rounds 1).tries requests) = first at hafter
  cases hafter with
  | media data' => simp [hfirst]
  | refresh e lastErr' h0 => cases h0
  | refused e => simp [hfirst]
  | finished lastErr' => simp [hfirst]

/-- The decisive answer of a round asks for fresh authentication. -/
theorem refreshes_iff (utils : DownloadUtils δ μ) (ts : List (Try μ)) :
    (Retry.round (Try.verdict utils) ts).getLast?.any (Try.verdict utils · = .refresh) = true ↔
      ∃ e, firstDecisive utils ts = some (.error e) := by
  induction ts with
  | nil => simp [Retry.round, firstDecisive]
  | cons t ts ih =>
      have hverdict : t.verdict utils = verdictOf (t.result utils) := rfl
      have hfirst : firstDecisive utils (t :: ts) =
          if decides (t.result utils) then some (t.result utils) else firstDecisive utils ts := by
        rw [firstDecisive, List.map_cons, List.find?_cons]
        cases decides (t.result utils) <;> rfl
      rw [hfirst]
      rcases hresult : t.result utils with (_ | _ | e) | data <;> rw [hresult] at hverdict
      · rw [Retry.round_cons (by simp [hverdict, verdictOf])]
        simp [decides, hverdict, verdictOf]
      · rw [Retry.round_cons (by simp [hverdict, verdictOf])]
        simp [decides, hverdict, verdictOf]
      · rw [Retry.round_cons_next hverdict, if_neg (by simp [decides]), ← ih, List.getLast?_cons]
        cases (Retry.round (Try.verdict utils) ts).getLast? with
        | none => simp [hverdict, verdictOf]
        | some last => rfl
      · rw [Retry.round_cons (by simp [hverdict, verdictOf])]
        simp [decides, hverdict, verdictOf]

/-- From one state to the other these requests were sent, and a connection was fetched by
force only if `force`. -/
def Sends (requests : List (DownloadRequest μ)) (force : Prop) (s t : MediaState μ) : Prop :=
  ∃ events, t.trace = s.trace ++ events ∧ events.filterMap MediaEvent.request? = requests ∧
    ((∃ event ∈ events, event.isForcedFetch = true) → force)

theorem Sends.trans {requests requests' : List (DownloadRequest μ)} {force force' : Prop}
    {s t u : MediaState μ} (h : Sends requests force s t) (h' : Sends requests' force' t u) :
    Sends (requests ++ requests') (force ∨ force') s u := by
  obtain ⟨events, htrace, hrequests, hforce⟩ := h
  obtain ⟨events', htrace', hrequests', hforce'⟩ := h'
  refine ⟨events ++ events', by rw [htrace', htrace, List.append_assoc], ?_, ?_⟩
  · rw [List.filterMap_append, hrequests, hrequests']
  · rintro ⟨event, hmem, hevent⟩
    rcases List.mem_append.mp hmem with hmem | hmem
    · exact .inl (hforce ⟨event, hmem, hevent⟩)
    · exact .inr (hforce' ⟨event, hmem, hevent⟩)

theorem Sends.mono {requests : List (DownloadRequest μ)} {force force' : Prop}
    {s t : MediaState μ} (h : Sends requests force s t) (hforce : force → force') :
    Sends requests force' s t := by
  obtain ⟨events, htrace, hrequests, hfetched⟩ := h
  exact ⟨events, htrace, hrequests, fun hevent => hforce (hfetched hevent)⟩

/-- An attempt sends the requests of its round. -/
theorem downloadHosts_sends (utils : DownloadUtils δ μ) (attempt : Nat) (ts : List (Try μ))
    (lastErr : Option String) (s : MediaState μ) :
    Sends ((Retry.round (Try.verdict utils) ts).map (·.request)) False s
      (downloadHosts utils attempt ts lastErr s).2 := by
  induction ts generalizing lastErr s with
  | nil => exact ⟨[], (List.append_nil _).symm, rfl, by simp⟩
  | cons t ts ih =>
      have hverdict : t.verdict utils = verdictOf (t.result utils) := rfl
      have hsent : Sends [t.request] False s (s.emit (.request t.request)) :=
        ⟨[.request t.request], rfl, rfl, by simp [MediaEvent.isForcedFetch]⟩
      have hinvalidated : Sends [t.request] False s
          (s.emit (.request t.request)).invalidateMediaConn :=
        ⟨[.request t.request, .invalidate], List.append_assoc _ _ _, rfl,
          by simp [MediaEvent.isForcedFetch]⟩
      rcases downloadHosts_cons utils attempt t ts lastErr s with
        ⟨data, hresult, heq⟩ | ⟨e, hresult, he, heq⟩ | ⟨e, hresult, heq⟩
      · rw [Try.result, hresult] at hverdict
        rw [heq, Retry.round_cons (by rw [hverdict]; nofun)]
        exact hsent
      · have hrefresh : t.verdict utils = .refresh := by
          rw [hverdict, Try.result, hresult]
          rcases he with rfl | rfl <;> rfl
        rw [heq, Retry.round_cons (by rw [hrefresh]; nofun)]
        split_ifs
        · exact hinvalidated
        · exact hsent
      · rw [Try.result, hresult] at hverdict
        rw [heq, Retry.round_cons_next hverdict]
        exact (hsent.trans (ih (some e) _)).mono (by simp)

/-- The preparation of an attempt sends no request. -/
theorem prepareRequests_sends (utils : DownloadUtils δ μ) (downloadable : δ) (s : MediaState μ)
    (round : Round μ) (forceRefresh : Bool) :
    Sends [] (forceRefresh = true) s
      (s.prepareRequests utils round downloadable forceRefresh).2 := by
  rw [prepareRequests_state]
  rcases refreshMediaConn_cases s round forceRefresh with ⟨conn, -, hrefresh⟩ | ⟨-, htrace, -⟩
  · rw [hrefresh]
    exact ⟨[], (List.append_nil _).symm, rfl, by simp⟩
  · exact ⟨_, htrace, rfl, by simp [MediaEvent.isForcedFetch]⟩

/-- The second attempt, with a fresh connection. -/
theorem lastAttempt_sends (lastErr : Option String) (s : MediaState μ) :
    Sends ((Retry.round (Try.verdict utils)
        (refreshedTries utils (rounds 1) downloadable)).map (·.request)) True s
      (downloadAttempts utils rounds downloadable [1] true lastErr s).2 := by
  have hprepared := prepareRequests_sends utils downloadable s (rounds 1) true
  rw [refreshedTries, ← prepareRequests_forced s, downloadAttempts]
  generalize s.prepareRequests utils (rounds 1) downloadable true = prepared at hprepared ⊢
  obtain ⟨e | second, u⟩ := prepared
  · exact hprepared.mono fun _ => trivial
  have hsent := downloadHosts_sends utils 1 ((rounds 1).tries second) lastErr u
  have hboth := (hprepared.trans hsent).mono fun _ => trivial
  dsimp only
  generalize downloadHosts utils 1 ((rounds 1).tries second) lastErr u = ended at hboth ⊢
  obtain ⟨r | lastErr' | lastErr', v⟩ := ended <;> exact hboth

/-- A call sends the requests of its tries, and fetches by force only after a 401, 403, 404
or 410. -/
theorem download_sends (utils : DownloadUtils δ μ) (rounds : Nat → Round μ) (downloadable : δ)
    (s : MediaState μ) :
    Sends ((downloadTries utils rounds downloadable s).map (·.request))
      (∃ first e, (s.prepareRequests utils (rounds 0) downloadable false).1 = .ok first ∧
        firstDecisive utils ((rounds 0).tries first) = some (.error e))
      s (download utils rounds downloadable s).2 := by
  show Sends _ _ s (downloadAttempts utils rounds downloadable [0, 1] false none s).2
  have hprepared := prepareRequests_sends utils downloadable s (rounds 0) false
  rw [downloadTries, downloadAttempts]
  generalize s.prepareRequests utils (rounds 0) downloadable false = prepared at hprepared ⊢
  obtain ⟨e | first, u⟩ := prepared
  · exact hprepared.mono nofun
  have hsent := downloadHosts_sends utils 0 ((rounds 0).tries first) none u
  have hafter := downloadHosts_after utils 0 ((rounds 0).tries first) none u
  have hround : Sends _ False s _ := (hprepared.trans hsent).mono (by simp)
  have hrefreshes := refreshes_iff utils ((rounds 0).tries first)
  dsimp only
  generalize downloadHosts utils 0 ((rounds 0).tries first) none u = ended at hafter hround ⊢
  obtain ⟨exit, v⟩ := ended
  generalize hfirst : firstDecisive utils ((rounds 0).tries first) = decisive at hafter hrefreshes
  cases hafter with
  | media data' =>
      rw [Retry.tries, if_neg (by simp [hrefreshes])]
      exact hround.mono False.elim
  | refresh e lastErr' =>
      rw [Retry.tries, if_pos (hrefreshes.mpr ⟨e, rfl⟩), List.map_append]
      exact (hround.trans (lastAttempt_sends lastErr' v)).mono fun _ => ⟨first, e, rfl, hfirst⟩
  | refused e h0 => exact absurd rfl h0
  | finished lastErr' =>
      rw [Retry.tries, if_neg (by simp [hrefreshes])]
      exact hround.mono False.elim

/-- `download` returns `Ok` exactly if the first decisive answer of the connection in
use is the media, or it is a 401, 403, 404 or 410 and the first decisive answer of the
fresh connection is the media.  No host after a decisive answer is asked, and a connection is
fetched by force only after a 401, 403, 404 or 410. -/
theorem download_ok_iff (utils : DownloadUtils δ μ) (rounds : Nat → Round μ) (downloadable : δ)
    (s : MediaState μ) :
    (∀ data, (download utils rounds downloadable s).1 = .ok data ↔
      ∃ first, (s.prepareRequests utils (rounds 0) downloadable false).1 = .ok first ∧
        (firstDecisive utils ((rounds 0).tries first) = some (.ok data) ∨
          (∃ e, firstDecisive utils ((rounds 0).tries first) = some (.error e)) ∧
            ∃ second, refreshedRequests utils (rounds 1) downloadable = .ok second ∧
              firstDecisive utils ((rounds 1).tries second) = some (.ok data))) ∧
    Sends ((downloadTries utils rounds downloadable s).map (·.request))
      (∃ first e, (s.prepareRequests utils (rounds 0) downloadable false).1 = .ok first ∧
        firstDecisive utils ((rounds 0).tries first) = some (.error e))
      s (download utils rounds downloadable s).2 := by
  refine ⟨fun data => ?_, download_sends utils rounds downloadable s⟩
  show (downloadAttempts utils rounds downloadable [0, 1] false none s).1 = .ok data ↔ _
  rw [downloadAttempts]
  rcases s.prepareRequests utils (rounds 0) downloadable false with ⟨e | requests, u⟩
  · simp
  have hafter := downloadHosts_after utils 0 ((rounds 0).tries requests) none u
  dsimp only
  generalize downloadHosts utils 0 ((rounds 0).tries requests) none u = ended at hafter ⊢
  obtain ⟨exit, v⟩ := ended
  generalize hfirst : firstDecisive utils ((rounds 0).tries requests) = first at hafter
  cases hafter with
  | media data' => simp [hfirst]
  | refresh e lastErr' => simp [hfirst, lastAttempt_ok_iff]
  | refused e h0 => exact absurd rfl h0
  | finished lastErr' => simp [hfirst]

end Decisive

/-- Each time the first host answers 404 and the second one is not asked. -/
theorem download_misses_second_host :
    let round := twoHosts (.response 404 (.ok [])) (.response 200 (.ok [7, 0]))
    refreshedRequests markedUtils round () =
        .ok [⟨"a", .encrypted [] ()⟩, ⟨"b", .encrypted [] ()⟩] ∧
      executeDownloadRequest markedUtils ⟨"b", .encrypted [] ()⟩
        (round.http 1 ⟨"b", .encrypted [] ()⟩) = .ok [7] ∧
      (download markedUtils (fun _ => round) () ⟨none, []⟩).1 =
        .error (.internal "media download auth failed after retry") :=
  ⟨rfl, rfl, rfl⟩

end Waepic.Client
