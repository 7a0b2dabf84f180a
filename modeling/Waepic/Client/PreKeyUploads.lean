import Waepic.Client.PreKeys
import Mathlib.Data.List.Nodup

/-!
# What the prekey uploads keep

Nothing advances `next_pre_key_id`: every device that the upload is given
numbers its prekeys from the same id (`PreKeyInv.device_next` and its
neighbours).  Two uploads therefore use one id for two key pairs as soon as both
are written, and a history of at most one written upload uses every id once
(`preKeyIdsUnique_iff_transmitsOnce`).

The key pairs are stored after the server's answer, so from the moment the
server accepts an upload until its last prekey is stored, and for good if the
answer is lost, a store fails or the process stops, the server offers prekeys
whose private halves the session does not hold (`keysBacked_iff_noAccept`).
-/

namespace Waepic.Client

open Transition

variable {source : KeySource} {firstPreKeyId : UInt32}

/-- No prekey id was used for two different key pairs. -/
def PreKeyIdsUnique (s : PreKeyState) : Prop :=
  ∀ k ∈ s.used, ∀ k' ∈ s.used, k.1 = k'.1 → k = k'

/-- Every published prekey has its private half in the session, under its id. -/
def KeysBacked (s : PreKeyState) : Prop :=
  ∀ key ∈ s.published, ∃ row, s.prekeys key.1 = some row ∧ row.record.publicKey = key.2

/-! ## The invariant -/

/-- The public halves that one call generates. -/
def Generated (source : KeySource) (firstPreKeyId : UInt32) (draws : Nat)
    (upload : PreKeyUploadSpec) : Prop :=
  ∃ first needed, 0 < needed ∧ needed ≤ minPrekeyCount ∧ first + needed ≤ draws ∧
    upload.preKeys =
      (generatePreKeys source first firstPreKeyId needed).map PreKey.publicHalf

structure PreKeyInv (source : KeySource) (firstPreKeyId : UInt32) (s : PreKeyState) : Prop where
  stored_next : ∀ device, s.stored = some device → device.nextPreKeyId = firstPreKeyId
  device_next : s.device.nextPreKeyId = firstPreKeyId
  counting_next : ∀ c device, s.calls c = some (.counting device) →
    device.nextPreKeyId = firstPreKeyId
  generated : ∀ upload ∈ s.outgoing ++ s.uploads,
    Generated source firstPreKeyId s.draws upload
  /-- No two uploads start with one key pair. -/
  distinct : ((s.outgoing ++ s.uploads).map fun upload => upload.preKeys.head?).Nodup
  wire : ∀ upload ∈ s.onWire, upload ∈ s.uploads
  accepted : ∀ upload ∈ s.accepted, upload ∈ s.uploads
  /-- What is stored was uploaded. -/
  storing : ∀ c preKeys, s.calls c = some (.storing preKeys) →
    ∀ k ∈ preKeys, ∃ upload ∈ s.uploads, k.publicHalf ∈ upload.preKeys
  stores : ∀ k ∈ s.stores, ∃ upload ∈ s.uploads, k.publicHalf ∈ upload.preKeys

theorem Generated.mono {draws draws' : Nat} (hle : draws ≤ draws') {upload : PreKeyUploadSpec}
    (h : Generated source firstPreKeyId draws upload) :
    Generated source firstPreKeyId draws' upload := by
  obtain ⟨first, needed, hpos, hmax, hdraws, hkeys⟩ := h
  exact ⟨first, needed, hpos, hmax, Nat.le_trans hdraws hle, hkeys⟩

theorem Generated.head {draws : Nat} {upload : PreKeyUploadSpec}
    (h : Generated source firstPreKeyId draws upload) :
    ∃ first < draws,
      upload.preKeys.head? = some (firstPreKeyId, (source.generate first).publicKey) := by
  obtain ⟨first, needed, hpos, -, hdraws, hkeys⟩ := h
  exact ⟨first, by omega, by rw [hkeys, generatePreKeys_head hpos]⟩

/-- Two prekeys of one upload with one id are one prekey. -/
theorem Generated.unique {draws : Nat} {upload : PreKeyUploadSpec}
    (h : Generated source firstPreKeyId draws upload) :
    ∀ k ∈ upload.preKeys, ∀ k' ∈ upload.preKeys, k.1 = k'.1 → k = k' := by
  obtain ⟨first, needed, -, hmax, -, hkeys⟩ := h
  intro k hk k' hk' hid
  rw [hkeys] at hk hk'
  obtain ⟨p, hp, rfl⟩ := List.mem_map.mp hk
  obtain ⟨p', hp', rfl⟩ := List.mem_map.mp hk'
  rw [generatePreKeys_id_inj hmax hp hp' hid]

/-! ## Calls that move -/

theorem PreKeyInv.setCall {s : PreKeyState} (hinv : PreKeyInv source firstPreKeyId s)
    (c : UploadId) (stage : Option UploadStage)
    (hcounting : ∀ device, stage = some (.counting device) → device.nextPreKeyId = firstPreKeyId)
    (hstoring : ∀ preKeys, stage = some (.storing preKeys) →
      ∀ k ∈ preKeys, ∃ upload ∈ s.uploads, k.publicHalf ∈ upload.preKeys) :
    PreKeyInv source firstPreKeyId (s.setCall c stage) where
  stored_next := hinv.stored_next
  device_next := hinv.device_next
  counting_next := by
    intro d device hd
    rcases eq_or_ne d c with rfl | hdc
    · exact hcounting device (by simpa [PreKeyState.setCall] using hd)
    · exact hinv.counting_next d device (by simpa [PreKeyState.setCall, hdc] using hd)
  generated := hinv.generated
  distinct := hinv.distinct
  wire := hinv.wire
  accepted := hinv.accepted
  storing := by
    intro d preKeys hd
    rcases eq_or_ne d c with rfl | hdc
    · exact hstoring preKeys (by simpa [PreKeyState.setCall] using hd)
    · exact hinv.storing d preKeys (by simpa [PreKeyState.setCall, hdc] using hd)
  stores := hinv.stores

/-- A call that returns. -/
theorem PreKeyInv.endCall {s : PreKeyState} (hinv : PreKeyInv source firstPreKeyId s)
    (c : UploadId) : PreKeyInv source firstPreKeyId (s.setCall c none) :=
  hinv.setCall c none (fun _ h => by cases h) (fun _ h => by cases h)

/-- No upload starts with the key pair that is drawn next. -/
theorem PreKeyInv.head_fresh {s : PreKeyState} (hinv : PreKeyInv source firstPreKeyId s) :
    some (firstPreKeyId, (source.generate s.draws).publicKey) ∉
      (s.outgoing ++ s.uploads).map fun upload => upload.preKeys.head? := by
  intro hmem
  obtain ⟨old, hold, hhead⟩ := List.mem_map.mp hmem
  obtain ⟨first, hfirst, hfirstHead⟩ := (hinv.generated old hold).head
  simp only [hfirstHead, Option.some.injEq, Prod.mk.injEq, true_and] at hhead
  exact Nat.ne_of_lt hfirst (source.generate_inj _ _ hhead)

/-- Every step keeps the invariant. -/
theorem PreKeyInv.step {s t : PreKeyState} {a : PreKeyAction}
    (hinv : PreKeyInv source firstPreKeyId s) (h : PreKeyStep source firstPreKeyId s a t) :
    PreKeyInv source firstPreKeyId t := by
  cases h with
  | @pairSuccess c jid _ =>
      have hnext := hinv.setCall c (some (.counting { s.device with pn := some jid }))
        (fun _ h => by cases h; exact hinv.device_next) (fun _ h => by cases h)
      exact { hnext with stored_next := fun _ h => by cases h; exact hinv.device_next }
  | @postConnect c device _ hstored _ =>
      have hdevice := hinv.stored_next device hstored
      have hnext := hinv.setCall c (some (.counting device))
        (fun _ h => by cases h; exact hdevice) (fun _ h => by cases h)
      exact { hnext with device_next := hdevice }
  | countFailed _ => exact hinv.endCall _
  | countSufficient _ _ => exact hinv.endCall _
  | @countLow c device n ks hcall hlow hks =>
      have hnext := hinv.setCall c (some (.uploading ks))
        (fun _ h => by cases h) (fun _ h => by cases h)
      have hdevice := hinv.counting_next c device hcall
      have hnew : Generated source firstPreKeyId (s.draws + (minPrekeyCount - n))
          (PreKeyUploadSpec.new device ks) :=
        ⟨s.draws, minPrekeyCount - n, by omega, by omega, Nat.le_refl _,
          by rw [PreKeyUploadSpec.new, hks, hdevice]⟩
      refine { hnext with generated := ?_, distinct := ?_ }
      · intro upload hmem
        rcases List.mem_cons.mp hmem with rfl | hold
        · exact hnew
        · exact (hinv.generated upload hold).mono (Nat.le_add_right ..)
      · -- the new upload starts with a key pair that was not drawn before
        have hhead : (PreKeyUploadSpec.new device ks).preKeys.head? =
            some (firstPreKeyId, (source.generate s.draws).publicKey) := by
          rw [PreKeyUploadSpec.new, hks, hdevice, generatePreKeys_head (by omega)]
        have hfresh := hinv.head_fresh
        rw [← hhead] at hfresh
        exact List.nodup_cons.mpr ⟨hfresh, hinv.distinct⟩
  | @transmit upload hmem =>
      have hperm : (s.outgoing.erase upload ++ upload :: s.uploads).Perm
          (s.outgoing ++ s.uploads) :=
        List.perm_middle.trans ((List.perm_cons_erase hmem).symm.append_right s.uploads)
      refine { hinv with generated := ?_, distinct := ?_, wire := ?_, accepted := ?_,
                         storing := ?_, stores := ?_ }
      · intro u hu
        exact hinv.generated u (hperm.mem_iff.mp hu)
      · exact ((hperm.map _).nodup_iff).mpr hinv.distinct
      · intro u hu
        rcases List.mem_cons.mp hu with rfl | hold
        · exact List.mem_cons_self ..
        · exact List.mem_cons_of_mem _ (hinv.wire u hold)
      · intro u hu
        exact List.mem_cons_of_mem _ (hinv.accepted u hu)
      · intro c ks hc k hk
        obtain ⟨u, hu, hkey⟩ := hinv.storing c ks hc k hk
        exact ⟨u, List.mem_cons_of_mem _ hu, hkey⟩
      · intro k hk
        obtain ⟨u, hu, hkey⟩ := hinv.stores k hk
        exact ⟨u, List.mem_cons_of_mem _ hu, hkey⟩
  | @lose upload =>
      have hsub : (s.outgoing.erase upload ++ s.uploads).Sublist (s.outgoing ++ s.uploads) :=
        List.erase_sublist.append_right _
      refine { hinv with generated := ?_, distinct := ?_, wire := ?_ }
      · intro u hu
        exact hinv.generated u (hsub.subset hu)
      · exact hinv.distinct.sublist (hsub.map _)
      · intro u hu
        exact hinv.wire u (List.mem_of_mem_erase hu)
  | @accept upload hmem =>
      refine { hinv with wire := ?_, accepted := ?_ }
      · intro u hu
        exact hinv.wire u (List.mem_of_mem_erase hu)
      · intro u hu
        rcases List.mem_cons.mp hu with rfl | hold
        · exact hinv.wire u hmem
        · exact hinv.accepted u hold
  | uploadFailed _ => exact hinv.endCall _
  | @uploadOk c ks upload _ haccepted hkeys =>
      refine hinv.setCall c _ (fun _ h => by cases h) (fun ks' h k hk => ?_)
      cases h
      exact ⟨upload, hinv.accepted upload haccepted, hkeys ▸ List.mem_map_of_mem hk⟩
  | @store c k rest hcall =>
      have hkey := hinv.storing c _ hcall
      have hnext := hinv.setCall c (some (.storing rest)) (fun _ h => by cases h)
        (fun ks h k' hk' => by cases h; exact hkey k' (List.mem_cons_of_mem _ hk'))
      refine { hnext with stores := ?_ }
      intro k' hk'
      rcases List.mem_cons.mp hk' with rfl | hold
      · exact hkey k' (List.mem_cons_self ..)
      · exact hinv.stores k' hold
  | @storeFailed c k rest hcall =>
      have hkey := hinv.storing c _ hcall
      exact hinv.setCall c _ (fun _ h => by cases h)
        (fun ks h k' hk' => by cases h; exact hkey k' (List.mem_cons_of_mem _ hk'))
  | finish _ => exact hinv.endCall _
  | handOut _ => exact { hinv with }
  | removePreKey _ => exact { hinv with }
  | saveDevice =>
      exact { hinv with stored_next := fun _ h => by cases h; exact hinv.device_next }
  | @loadDevice device hstored =>
      exact { hinv with device_next := hinv.stored_next device hstored }
  | clearDevice => exact { hinv with stored_next := fun _ h => by cases h }
  | restart hdevice =>
      refine { hinv with device_next := hdevice, counting_next := ?_, generated := ?_,
                         distinct := ?_, storing := ?_ }
      · intro c device hc
        cases hc
      · intro u hu
        exact hinv.generated u (List.mem_append_right _ hu)
      · exact hinv.distinct.sublist ((List.sublist_append_right ..).map _)
      · intro c ks hc
        cases hc

theorem preKeyInv_of_run {as : List PreKeyAction} {s : PreKeyState}
    (h : (prekeyUploads source firstPreKeyId).Run as s) : PreKeyInv source firstPreKeyId s := by
  refine h.invariant ?_ (fun _ _ _ hinv hstep => hinv.step hstep)
  rintro s ⟨device, hdevice, rfl⟩
  constructor <;> simp [PreKeyState.fresh, hdevice]

/-! ## Prekey ids -/

/-- An upload is written only if none was written before. -/
def TransmitsOnce (s : PreKeyState) : PreKeyAction → Prop
  | .transmit _ => s.uploads = []
  | _ => True

theorem PreKeyInv.used_mem {s : PreKeyState} (hinv : PreKeyInv source firstPreKeyId s)
    {k : UInt32 × Nat} (hk : k ∈ s.used) : ∃ upload ∈ s.uploads, k ∈ upload.preKeys := by
  rcases List.mem_append.mp hk with hup | hst
  · simpa using hup
  · obtain ⟨p, hp, rfl⟩ := List.mem_map.mp hst
    exact hinv.stores p hp

/-- One written upload uses every id once. -/
theorem PreKeyInv.unique_of_single {s : PreKeyState} (hinv : PreKeyInv source firstPreKeyId s)
    (hone : s.uploads.length ≤ 1) : PreKeyIdsUnique s := by
  intro k hk k' hk' hid
  obtain ⟨upload, hu, hku⟩ := hinv.used_mem hk
  obtain ⟨upload', hu', hku'⟩ := hinv.used_mem hk'
  have hsame : upload = upload' := by
    obtain ⟨i, hi, rfl⟩ := List.mem_iff_getElem.mp hu
    obtain ⟨j, hj, rfl⟩ := List.mem_iff_getElem.mp hu'
    have : i = j := by omega
    subst this
    rfl
  subst hsame
  exact (hinv.generated upload (List.mem_append_right _ hu)).unique k hku k' hku' hid

/-- Two written uploads use the first id twice. -/
theorem PreKeyInv.not_unique_of_two {s : PreKeyState} (hinv : PreKeyInv source firstPreKeyId s)
    {u v : PreKeyUploadSpec} {older : List PreKeyUploadSpec} (huv : s.uploads = u :: v :: older) :
    ¬ PreKeyIdsUnique s := by
  intro hunique
  have hu : u ∈ s.uploads := by simp [huv]
  have hv : v ∈ s.uploads := by simp [huv]
  obtain ⟨i, -, hhu⟩ := (hinv.generated u (List.mem_append_right _ hu)).head
  obtain ⟨j, -, hhv⟩ := (hinv.generated v (List.mem_append_right _ hv)).head
  have hused : ∀ {k : UInt32 × Nat} {w : PreKeyUploadSpec}, w ∈ s.uploads →
      w.preKeys.head? = some k → k ∈ s.used := fun hw hk =>
    List.mem_append_left _ (List.mem_flatMap.mpr ⟨_, hw, List.mem_of_head? hk⟩)
  have hkeys := hunique _ (hused hu hhu) _ (hused hv hhv) rfl
  have hnodup := (List.nodup_append.mp ((List.map_append ..) ▸ hinv.distinct)).2.1
  rw [huv, List.map_cons, List.map_cons, hhu, hhv, hkeys] at hnodup
  exact (List.nodup_cons.mp hnodup).1 (List.mem_cons_self ..)

theorem uploads_length_le_one {as : List PreKeyAction} {s : PreKeyState}
    (h : ((prekeyUploads source firstPreKeyId).restrict TransmitsOnce).Run as s) :
    s.uploads.length ≤ 1 := by
  refine h.invariant (I := fun s => s.uploads.length ≤ 1) ?_ ?_
  · rintro s ⟨device, -, rfl⟩
    exact Nat.zero_le 1
  · rintro s a t hone ⟨hstep, hguard⟩
    cases hstep with
    | transmit _ => simp [show s.uploads = [] from hguard]
    | _ => exact hone

/-- In a run that writes at most one upload, no prekey id is used for two key
pairs, and a next step keeps this exactly when it writes no second upload. -/
theorem preKeyIdsUnique_iff_transmitsOnce {as : List PreKeyAction} {s : PreKeyState}
    (hrun : ((prekeyUploads source firstPreKeyId).restrict TransmitsOnce).Run as s) :
    PreKeyIdsUnique s ∧ ∀ a t, (prekeyUploads source firstPreKeyId).step s a t →
      (PreKeyIdsUnique t ↔ TransmitsOnce s a) := by
  have hinv := preKeyInv_of_run hrun.of_restrict
  refine ⟨hinv.unique_of_single (uploads_length_le_one hrun), fun a t hstep => ⟨?_, ?_⟩⟩
  · intro hunique
    have hinv' : PreKeyInv source firstPreKeyId t := hinv.step hstep
    cases hstep with
    | @transmit upload _ =>
        cases hold : s.uploads with
        | nil => exact hold
        | cons v older =>
            exact absurd hunique (hinv'.not_unique_of_two (congrArg (upload :: ·) hold))
    | _ => trivial
  · intro hguard
    have hrun' := hrun.tail (show System.step _ s a t from ⟨hstep, hguard⟩)
    exact (preKeyInv_of_run hrun'.of_restrict).unique_of_single (uploads_length_le_one hrun')

/-- Key pairs whose two halves are the number of the draw. -/
def countingSource : KeySource where
  generate n := { publicKey := n, privateKey := n }
  generate_inj _ _ h := h

/-- A device that numbers its prekeys from 1. -/
def plainDevice : Device where
  registrationId := 7
  identityKey := { publicKey := 1000, privateKey := 1000 }
  signedPreKeyId := 1
  signedPreKey := { publicKey := 1001, privateKey := 1001 }
  signedPreKeySignature := []
  nextPreKeyId := 1
  pn := none

/-- The upload of one prekey, the `n`-th drawn. -/
def plainUpload (n : Nat) : PreKeyUploadSpec :=
  .new plainDevice (generatePreKeys countingSource n 1 1)

/-- A first pairing finds one prekey missing and uploads it. -/
theorem first_upload_run {S : System PreKeyState PreKeyAction}
    (hinit : S.init (.fresh plainDevice))
    (hstep : ∀ s a t, PreKeyStep countingSource 1 s a t → TransmitsOnce s a →
      (∀ u, a ≠ .accept u) → S.step s a t) :
    ∃ as s, S.Run as s ∧ s.uploads = [plainUpload 0] ∧ s.onWire = [plainUpload 0] ∧
      s.prekeys = (fun _ => none) := by
  have h0 : S.Run [] _ := .start hinit
  have h1 := h0.tail (hstep _ (.pairSuccess 0 "me") _ (.pairSuccess rfl) trivial
    (fun _ h => by cases h))
  have h2 := h1.tail (hstep _ (.count 0 99) _ (.countLow rfl (by decide) rfl) trivial
    (fun _ h => by cases h))
  have h3 := h2.tail (hstep _ (.transmit (plainUpload 0)) _ (.transmit (List.mem_cons_self ..))
    rfl (fun _ h => by cases h))
  exact ⟨_, _, h3, rfl, rfl, rfl⟩

theorem preKeyIdsUnique_iff_transmitsOnce_first_upload :
    ∃ as s, ((prekeyUploads countingSource 1).restrict TransmitsOnce).Run as s ∧
      s.uploads = [plainUpload 0] ∧ PreKeyIdsUnique s := by
  obtain ⟨as, s, hrun, huploads, -⟩ := first_upload_run
    (S := (prekeyUploads countingSource 1).restrict TransmitsOnce) ⟨plainDevice, rfl, rfl⟩
    (fun _ _ _ h hg _ => ⟨h, hg⟩)
  exact ⟨as, s, hrun, huploads, (preKeyIdsUnique_iff_transmitsOnce hrun).1⟩

/-- The next connect finds the count still low and uploads another key pair
under the same id. -/
theorem preKeyIdsUnique_fails_on_reconnect :
    ¬ ∀ source first as s, (prekeyUploads source first).Run as s → PreKeyIdsUnique s := by
  intro h
  have h0 : (prekeyUploads countingSource 1).Run [] (.fresh plainDevice) :=
    .start ⟨plainDevice, rfl, rfl⟩
  have h1 := h0.tail (show PreKeyStep _ _ _ (.pairSuccess 0 "me") _ from .pairSuccess rfl)
  have h2 := h1.tail (show PreKeyStep _ _ _ (.count 0 99) _ from .countLow rfl (by decide) rfl)
  have h3 := h2.tail (show PreKeyStep _ _ _ (.transmit (plainUpload 0)) _ from
    .transmit (List.mem_cons_self ..))
  have h4 := h3.tail (show PreKeyStep _ _ _ (.postConnect 1) _ from
    .postConnect rfl rfl (by decide))
  have h5 := h4.tail (show PreKeyStep _ _ _ (.count 1 99) _ from .countLow rfl (by decide) rfl)
  have h6 := h5.tail (show PreKeyStep _ _ _ (.transmit (plainUpload 1)) _ from
    .transmit (List.mem_cons_self ..))
  have hunique := h countingSource 1 _ _ h6 (1, 1) (List.mem_cons_self ..) (1, 0)
    (List.mem_cons_of_mem _ (List.mem_cons_self ..)) rfl
  exact absurd hunique (by decide)

/-! ## Private halves -/

/-- The server accepts no upload. -/
def NoAccept (_ : PreKeyState) : PreKeyAction → Prop
  | .accept _ => False
  | _ => True

/-- Nothing was accepted, so nothing was published and nothing stored. -/
structure Unanswered (s : PreKeyState) : Prop where
  accepted : s.accepted = []
  published : s.published = []
  storing : ∀ c preKeys, s.calls c ≠ some (.storing preKeys)
  prekeys : ∀ id, s.prekeys id = none

theorem Unanswered.setCall {s : PreKeyState} (h : Unanswered s) (c : UploadId)
    {stage : Option UploadStage} (hstage : ∀ preKeys, stage ≠ some (.storing preKeys)) :
    Unanswered (s.setCall c stage) where
  accepted := h.accepted
  published := h.published
  storing := by
    intro d ks hd
    rcases eq_or_ne d c with rfl | hdc
    · exact hstage ks (by simpa [PreKeyState.setCall] using hd)
    · exact h.storing d ks (by simpa [PreKeyState.setCall, hdc] using hd)
  prekeys := h.prekeys

theorem Unanswered.step {s t : PreKeyState} {a : PreKeyAction} (h : Unanswered s)
    (hstep : PreKeyStep source firstPreKeyId s a t) (hguard : NoAccept s a) : Unanswered t := by
  cases hstep with
  | pairSuccess _ => exact { h.setCall _ (fun _ h => by cases h) with }
  | postConnect _ _ _ => exact { h.setCall _ (fun _ h => by cases h) with }
  | countFailed _ => exact h.setCall _ (fun _ h => by cases h)
  | countSufficient _ _ => exact h.setCall _ (fun _ h => by cases h)
  | countLow _ _ _ => exact { h.setCall _ (fun _ h => by cases h) with }
  | transmit _ => exact { h with }
  | lose => exact { h with }
  | accept _ => exact absurd hguard id
  | uploadFailed _ => exact h.setCall _ (fun _ h => by cases h)
  | uploadOk _ haccepted _ => simp [h.accepted] at haccepted
  | store hcall => exact absurd hcall (h.storing _ _)
  | storeFailed hcall => exact absurd hcall (h.storing _ _)
  | finish hcall => exact absurd hcall (h.storing _ _)
  | handOut hmem => simp [h.published] at hmem
  | removePreKey _ =>
      refine { h with prekeys := fun id => ?_ }
      simp only [Function.update_apply]
      split
      · rfl
      · exact h.prekeys id
  | saveDevice => exact { h with }
  | loadDevice _ => exact { h with }
  | clearDevice => exact { h with }
  | restart _ => exact { h with storing := fun _ _ hc => by cases hc }

theorem unanswered_of_run {as : List PreKeyAction} {s : PreKeyState}
    (h : ((prekeyUploads source firstPreKeyId).restrict NoAccept).Run as s) : Unanswered s := by
  refine h.invariant ?_ (fun _ _ _ hu hstep => hu.step hstep.1 hstep.2)
  rintro s ⟨device, -, rfl⟩
  exact ⟨rfl, rfl, fun _ _ hc => (by cases hc), fun _ => rfl⟩

theorem Unanswered.keysBacked {s : PreKeyState} (h : Unanswered s) : KeysBacked s := by
  intro key hkey
  simp [h.published] at hkey

/-- As long as the server accepts no upload every published prekey is backed,
and a next step keeps this exactly when the server accepts none. -/
theorem keysBacked_iff_noAccept {as : List PreKeyAction} {s : PreKeyState}
    (hrun : ((prekeyUploads source firstPreKeyId).restrict NoAccept).Run as s) :
    KeysBacked s ∧ ∀ a t, (prekeyUploads source firstPreKeyId).step s a t →
      (KeysBacked t ↔ NoAccept s a) := by
  have hinv := preKeyInv_of_run hrun.of_restrict
  have hun := unanswered_of_run hrun
  refine ⟨hun.keysBacked, fun a t hstep => ⟨?_, fun hguard => (hun.step hstep hguard).keysBacked⟩⟩
  intro hbacked
  cases hstep with
  | @accept upload hmem =>
      -- the accepted upload has a first prekey, and nothing is stored yet
      have hup := List.mem_append_right s.outgoing (hinv.wire upload hmem)
      obtain ⟨first, -, hhead⟩ := (hinv.generated upload hup).head
      obtain ⟨row, hrow, -⟩ := hbacked _ (List.mem_append_left _ (List.mem_of_head? hhead))
      exact absurd hrow (by simp [hun.prekeys])
  | _ => trivial

theorem keysBacked_iff_noAccept_first_upload :
    ∃ as s, ((prekeyUploads countingSource 1).restrict NoAccept).Run as s ∧
      s.onWire = [plainUpload 0] ∧ KeysBacked s := by
  obtain ⟨as, s, hrun, -, hwire, -⟩ := first_upload_run
    (S := (prekeyUploads countingSource 1).restrict NoAccept) ⟨plainDevice, rfl, rfl⟩
    (fun s a t h _ hg => ⟨h, by cases a <;> first | trivial | exact absurd rfl (hg _)⟩)
  exact ⟨as, s, hrun, hwire, (keysBacked_iff_noAccept hrun).1⟩

/-- The server accepts the upload, and the process stops before the answer. -/
theorem keysBacked_fails_after_stop :
    ¬ ∀ source first as s, (prekeyUploads source first).Run as s → KeysBacked s := by
  intro h
  obtain ⟨as, s, hrun, -, hwire, hprekeys⟩ := first_upload_run
    (S := prekeyUploads countingSource 1) ⟨plainDevice, rfl, rfl⟩ (fun _ _ _ h _ _ => h)
  have h1 := hrun.tail (show PreKeyStep _ _ _ (.accept (plainUpload 0)) _ from
    .accept (by simp [hwire]))
  have h2 := h1.tail (show PreKeyStep _ _ _ (.restart plainDevice) _ from .restart rfl)
  obtain ⟨row, hrow, -⟩ := h _ _ _ _ h2 (1, 0) (List.mem_append_left _ (by decide))
  rw [show s.prekeys 1 = none from congrFun hprekeys 1] at hrow
  cases hrow

end Waepic.Client
