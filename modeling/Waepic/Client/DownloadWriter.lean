import Waepic.Client.DownloadPolicy

/-!
# What a streaming download leaves in the writer

`download_to_writer` seeks to the start before each request and streams to the
writer, which may fail after bytes were written.  The writer is not truncated, so a
try that writes less than one before it leaves the end of that one.

A call that returns `Ok` leaves exactly the media if and only if no try that failed
before it wrote more bytes than the media have (`download_to_writer_exact_iff`).
The tries are those of the retry policy (`streamTries`).
-/

namespace Waepic.Client

open Connection

variable {δ μ : Type}

/-- A stream that ends well writes the media, and returns their length. -/
structure DownloadUtils.StreamsMedia (utils : DownloadUtils δ μ) : Prop where
  decrypt : ∀ bytes mediaKey mediaType n,
    (utils.decryptStreamToWriter bytes mediaKey mediaType).2 = .ok n →
      utils.verifyAndDecrypt bytes mediaKey mediaType =
        .ok (utils.decryptStreamToWriter bytes mediaKey mediaType).1 ∧
      (utils.decryptStreamToWriter bytes mediaKey mediaType).1.length = n
  copy : ∀ bytes fileSha256 n,
    (utils.copyAndValidatePlaintextToWriter bytes fileSha256).2 = .ok n →
      (utils.copyAndValidatePlaintextToWriter bytes fileSha256).1.length = n

/-! ## The tries of a call -/

/-- What the stream of a try writes. -/
def Try.written (utils : DownloadUtils δ μ) (t : Try μ) : Bytes := (t.streamed utils).1

def Try.streamVerdict (utils : DownloadUtils δ μ) (t : Try μ) : Retry.Verdict :=
  verdictOf (t.streamed utils).2

/-- The tries of a call, oldest first. -/
def streamTries (utils : DownloadUtils δ μ) (rounds : Nat → Round μ) (downloadable : δ)
    (s : MediaState μ) : List (Try μ) :=
  match (s.prepareRequests utils (rounds 0) downloadable false).1 with
  | .error _ => []
  | .ok first =>
      Retry.tries (Try.streamVerdict utils) ((rounds 0).tries first)
        (match refreshedRequests utils (rounds 1) downloadable with
        | .error _ => []
        | .ok second => (rounds 1).tries second)

/-- A try streams over what is in the writer. -/
def Writer.stream (utils : DownloadUtils δ μ) (writer : Writer) (t : Try μ) : Writer :=
  writer.seekStart.write (t.written utils)

section Tries

variable {utils : DownloadUtils δ μ} {rounds : Nat → Round μ} {downloadable : δ}

/-- The tries of a round lead from one content of the writer to another, and this is
the last of them. -/
structure StreamsTo (utils : DownloadUtils δ μ) (ts : List (Try μ)) (writer written : Writer)
    (last : Try μ) : Prop where
  written_eq :
    written = (Retry.round (Try.streamVerdict utils) ts).foldl (Writer.stream utils) writer
  last_eq : (Retry.round (Try.streamVerdict utils) ts).getLast? = some last

theorem StreamsTo.head {t : Try μ} (h : t.streamVerdict utils ≠ .next) (ts : List (Try μ))
    (writer : Writer) : StreamsTo utils (t :: ts) writer (writer.stream utils t) t where
  written_eq := by
    rw [Retry.round_cons h]
    rfl
  last_eq := by
    rw [Retry.round_cons h]
    rfl

theorem StreamsTo.tail {t last : Try μ} {ts : List (Try μ)} {writer written : Writer}
    (h : t.streamVerdict utils = .next)
    (hrest : StreamsTo utils ts (writer.stream utils t) written last) :
    StreamsTo utils (t :: ts) writer written last where
  written_eq := by
    rw [Retry.round_cons_next h, List.foldl_cons]
    exact hrest.written_eq
  last_eq := by
    rw [Retry.round_cons_next h, List.getLast?_cons, hrest.last_eq, Option.getD_some]

/-- How an attempt ends, with what it leaves in the writer where that matters. -/
inductive WriterEnds (utils : DownloadUtils δ μ) (attempt : Nat) (ts : List (Try μ))
    (writer : Writer) : HostsEnd Nat × Writer × MediaState μ → Prop where
  | ok {n : Nat} {written : Writer} {s : MediaState μ} (last : Try μ) :
      StreamsTo utils ts writer written last →
      (last.streamed utils).2 = .ok n →
      WriterEnds utils attempt ts writer (.returned (.ok n), written, s)
  | refresh {lastErr : Option String} {written : Writer} {s : MediaState μ} (last : Try μ) :
      attempt = 0 → StreamsTo utils ts writer written last →
      last.streamVerdict utils = .refresh →
      WriterEnds utils attempt ts writer (.retryWithFreshAuth lastErr, written, s)
  | error {e : ClientError} {written : Writer} {s : MediaState μ} :
      WriterEnds utils attempt ts writer (.returned (.error e), written, s)
  | finished {lastErr : Option String} {written : Writer} {s : MediaState μ} :
      WriterEnds utils attempt ts writer (.finished lastErr, written, s)

/-- A try that fails so that the next one is tried streams before the others. -/
theorem WriterEnds.tail {attempt : Nat} {t : Try μ} {ts : List (Try μ)} {writer : Writer}
    {r : HostsEnd Nat × Writer × MediaState μ} (hverdict : t.streamVerdict utils = .next)
    (h : WriterEnds utils attempt ts (writer.stream utils t) r) :
    WriterEnds utils attempt (t :: ts) writer r := by
  cases h with
  | ok last hstreams hn => exact .ok last (hstreams.tail hverdict) hn
  | refresh last h0 hstreams hrefresh => exact .refresh last h0 (hstreams.tail hverdict) hrefresh
  | error => exact .error
  | finished => exact .finished

/-- A 401, 403, 404 or 410 ends the attempt. -/
theorem WriterEnds.refused {attempt : Nat} {t : Try μ} (hverdict : t.streamVerdict utils = .refresh)
    (ts : List (Try μ)) (lastErr : Option String) (e : ClientError) (writer : Writer)
    (s s' : MediaState μ) :
    WriterEnds utils attempt (t :: ts) writer
      (if attempt = 0 then (.retryWithFreshAuth lastErr, writer.stream utils t, s)
      else (.returned (.error e), writer.stream utils t, s')) := by
  split_ifs with h0
  · exact .refresh t h0 (.head (by rw [hverdict]; exact Retry.Verdict.noConfusion) ts writer)
      hverdict
  · exact .error

/-- An attempt streams the tries of its round, up to the one that ends it. -/
theorem downloadToWriterHosts_ends (utils : DownloadUtils δ μ) (attempt : Nat)
    (ts : List (Try μ)) (lastErr : Option String) (writer : Writer) (s : MediaState μ) :
    WriterEnds utils attempt ts writer
      (downloadToWriterHosts utils attempt ts lastErr writer s) := by
  induction ts generalizing lastErr writer s with
  | nil => exact .finished
  | cons t ts ih =>
      rw [downloadToWriterHosts]
      cases t.seek with
      | error e => exact .error
      | ok u =>
          have hstream : streamingDownloadToWriter utils t writer.seekStart =
              ((t.streamed utils).2, writer.stream utils t) := rfl
          have hverdict : t.streamVerdict utils = verdictOf (t.streamed utils).2 := rfl
          dsimp only
          rw [hstream]
          rcases hresult : (t.streamed utils).2 with (_ | _ | e) | n <;>
            rw [hresult] at hverdict
          · exact .refused hverdict ..
          · exact .refused hverdict ..
          · exact (ih (some e) (writer.stream utils t) _).tail hverdict
          · refine .ok t (.head ?_ ts writer) hresult
            rw [hverdict]
            exact Retry.Verdict.noConfusion

/-- A call that returns `Ok` streams its tries, and the last one ends well. -/
theorem downloadToWriter_streams {writer : Writer} {s : MediaState μ} {n : Nat}
    (hok : (downloadToWriter utils rounds downloadable writer s).1 = .ok n) :
    (downloadToWriter utils rounds downloadable writer s).2.1 =
        (streamTries utils rounds downloadable s).foldl (Writer.stream utils) writer ∧
      ∃ t, (streamTries utils rounds downloadable s).getLast? = some t ∧
        (t.streamed utils).2 = .ok n := by
  revert hok
  show (downloadToWriterAttempts utils rounds downloadable [0, 1] false none writer s).1 = .ok n →
    (downloadToWriterAttempts utils rounds downloadable [0, 1] false none writer s).2.1 = _ ∧ _
  rw [downloadToWriterAttempts, streamTries]
  rcases s.prepareRequests utils (rounds 0) downloadable false with ⟨e | first, u⟩
  · rintro ⟨⟩
  dsimp only
  have hends := downloadToWriterHosts_ends utils 0 ((rounds 0).tries first) none writer u
  generalize downloadToWriterHosts utils 0 ((rounds 0).tries first) none writer u = ended
    at hends ⊢
  cases hends with
  | error => rintro ⟨⟩
  | finished => rintro ⟨⟩
  | ok t hstreams hn =>
      rintro ⟨⟩
      have hdone : t.streamVerdict utils ≠ .refresh := by
        rw [Try.streamVerdict, hn]
        exact Retry.Verdict.noConfusion
      rw [Retry.tries_no_refresh hstreams.last_eq hdone]
      exact ⟨hstreams.written_eq, t, hstreams.last_eq, hn⟩
  | @refresh lastErr' written v t _ hstreams hrefresh =>
      dsimp only
      rw [Retry.tries_refresh hstreams.last_eq hrefresh, ← prepareRequests_forced v,
        downloadToWriterAttempts]
      rcases v.prepareRequests utils (rounds 1) downloadable true with ⟨e | second, w⟩
      · rintro ⟨⟩
      dsimp only
      have hends := downloadToWriterHosts_ends utils 1 ((rounds 1).tries second) lastErr' written w
      generalize downloadToWriterHosts utils 1 ((rounds 1).tries second) lastErr' written w = ended
        at hends ⊢
      cases hends with
      | error => rintro ⟨⟩
      | finished => rintro ⟨⟩
      | refresh _ h0 => cases h0
      | ok t' hstreams' hn =>
          rintro ⟨⟩
          refine ⟨?_, t', ?_, hn⟩
          · rw [List.foldl_append, ← hstreams.written_eq]
            exact hstreams'.written_eq
          · rw [List.getLast?_append, hstreams'.last_eq, Option.some_or]

end Tries

/-! ## What is left in the writer -/

section Content

variable {utils : DownloadUtils δ μ}

/-- A stream leaves what it writes, and what was behind it. -/
theorem content_stream (writer : Writer) (t : Try μ) :
    (writer.stream utils t).content =
      t.written utils ++ writer.content.drop (t.written utils).length := by
  simp [Writer.stream, Writer.write, Writer.seekStart]

/-- The writer is as long as the longest of what was in it and what was written. -/
theorem length_foldl_stream_le_iff (ts : List (Try μ)) (writer : Writer) (n : Nat) :
    (ts.foldl (Writer.stream utils) writer).content.length ≤ n ↔
      writer.content.length ≤ n ∧ ∀ t ∈ ts, (t.written utils).length ≤ n := by
  induction ts generalizing writer with
  | nil => simp
  | cons t ts ih =>
      rw [List.foldl_cons, ih, content_stream, List.forall_mem_cons]
      simp only [List.length_append, List.length_drop]
      constructor
      · rintro ⟨hlength, hrest⟩
        exact ⟨by omega, by omega, hrest⟩
      · rintro ⟨hlength, ht, hrest⟩
        exact ⟨by omega, hrest⟩

/-- The writer took the whole of a stream that ends well. -/
theorem Try.streamed_of_ok {t : Try μ} {n : Nat} (h : (t.streamed utils).2 = .ok n) :
    t.streamed utils = streamAnswer utils t.request t.answer := by
  rw [Try.streamed] at h ⊢
  cases hwrite : t.write with
  | none => rfl
  | some fails =>
      rw [hwrite] at h
      dsimp only at h ⊢
      split_ifs at h ⊢
      rfl

/-- What streams well is the media that `download` gives for the request. -/
theorem DownloadUtils.StreamsMedia.result (hstream : utils.StreamsMedia) {t : Try μ} {n : Nat}
    (h : (t.streamed utils).2 = .ok n) :
    t.result utils = .ok (t.written utils) ∧ (t.written utils).length = n := by
  have hwhole := Try.streamed_of_ok h
  rw [Try.written, Try.result, hwhole]
  rw [hwhole] at h
  clear hwhole
  obtain ⟨request, answer, seek, write⟩ := t
  dsimp only at h ⊢
  cases answer with
  | failed e => cases h
  | response status bytes =>
      simp only [streamAnswer] at h
      unfold executeDownloadRequest streamAnswer
      dsimp only at h ⊢
      split_ifs at h ⊢
      cases bytes with
      | error e => cases h
      | ok bytes =>
          cases hdecryption : request.decryption with
          | encrypted mediaKey mediaType =>
              rw [hdecryption] at h
              dsimp only at h ⊢
              have hdecrypt := hstream.decrypt bytes mediaKey mediaType
              generalize utils.decryptStreamToWriter bytes mediaKey mediaType = streamed
                at h hdecrypt ⊢
              obtain ⟨written, e | k⟩ := streamed
              · cases h
              · cases h
                obtain ⟨hdata, hlength⟩ := hdecrypt n rfl
                rw [hdata]
                exact ⟨rfl, hlength⟩
          | plaintext fileSha256 =>
              rw [hdecryption] at h
              dsimp only at h ⊢
              have hcopy := hstream.copy bytes fileSha256
              generalize utils.copyAndValidatePlaintextToWriter bytes fileSha256 = streamed
                at h hcopy ⊢
              obtain ⟨written, e | k⟩ := streamed
              · cases h
              · cases h
                exact ⟨rfl, hcopy n rfl⟩

end Content

/-- A streaming download to an empty writer that returns `Ok` ends with a try for which
`download` gives media of that length.  The media are the content of the writer if and
only if no try before it wrote more bytes. -/
theorem download_to_writer_exact_iff (utils : DownloadUtils δ μ) (hstream : utils.StreamsMedia)
    (rounds : Nat → Round μ) (downloadable : δ) (s : MediaState μ) {n : Nat}
    (hok : (downloadToWriter utils rounds downloadable .empty s).1 = .ok n) :
    ∃ failed t media, streamTries utils rounds downloadable s = failed ++ [t] ∧
      t.result utils = .ok media ∧ media.length = n ∧
        ((downloadToWriter utils rounds downloadable .empty s).2.1.content = media ↔
          ∀ u ∈ failed, (u.written utils).length ≤ media.length) := by
  obtain ⟨hwritten, t, hlast, hn⟩ := downloadToWriter_streams hok
  obtain ⟨failed, htries⟩ := List.getLast?_eq_some_iff.mp hlast
  obtain ⟨hresult, hlength⟩ := hstream.result hn
  refine ⟨failed, t, t.written utils, htries, hresult, hlength, ?_⟩
  rw [hwritten, htries, List.foldl_append, List.foldl_cons, List.foldl_nil, content_stream,
    List.append_right_eq_self, List.drop_eq_nil_iff, length_foldl_stream_le_iff]
  simp [Writer.empty]

theorem markedUtils_streamsMedia : markedUtils.StreamsMedia where
  decrypt bytes mediaKey mediaType n h := by
    change (if bytes.getLast? = some 0 then .ok bytes.dropLast.length else .error "mac mismatch" :
      Except String Nat) = .ok n at h
    show (if bytes.getLast? = some 0 then .ok bytes.dropLast else .error "mac mismatch" :
      Except String Bytes) = .ok bytes.dropLast ∧ bytes.dropLast.length = n
    split_ifs at h ⊢
    cases h
    exact ⟨rfl, rfl⟩
  copy bytes fileSha256 n h := by
    cases h
    rfl

/-- The first host streams one byte before its MAC fails, and the second one two bytes. -/
def shorterFirst : Round Unit :=
  twoHosts (.response 200 (.ok [1, 9])) (.response 200 (.ok [7, 8, 0]))

/-- The media overwrite what the first host left. -/
theorem download_to_writer_exact_shorter :
    ∃ media, media.length = 2 ∧
      (downloadToWriter markedUtils (fun _ => shorterFirst) () .empty ⟨none, []⟩).2.1.content =
        media := by
  have hok : (downloadToWriter markedUtils (fun _ => shorterFirst) () .empty ⟨none, []⟩).1 =
    .ok 2 := rfl
  obtain ⟨failed, t, media, htries, -, hlength, hexact⟩ :=
    download_to_writer_exact_iff markedUtils markedUtils_streamsMedia _ () _ hok
  refine ⟨media, hlength, hexact.mpr ?_⟩
  obtain ⟨hfailed, -⟩ : [_] = failed ∧ [_] = [t] := List.append_inj' htries rfl
  rw [← hfailed, hlength, List.forall_mem_singleton]
  decide

/-- The first host streams three bytes before its MAC fails.  Two of them stay behind the
media of the second one. -/
theorem download_to_writer_leftover :
    let round := twoHosts (.response 200 (.ok [1, 2, 3, 9])) (.response 200 (.ok [7, 0]))
    (downloadToWriter markedUtils (fun _ => round) () .empty ⟨none, []⟩).1 = .ok 1 ∧
      (downloadToWriter markedUtils (fun _ => round) () .empty ⟨none, []⟩).2.1.content =
        [7, 2, 3] :=
  ⟨rfl, rfl⟩

end Waepic.Client
