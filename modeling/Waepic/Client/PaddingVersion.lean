import Waepic.Client.SenderKeys

/-!
# The padding version of a message

`decrypt_e2e_message` decodes a plaintext with the `v` attribute of the first
`<enc>` child, whichever child the plaintext came from.  Here the two loops run
over the `<enc>` children themselves, so that they also return the child that
decrypted (`decryptedFrom`); without it they are the loops of the client
(`decryptEnc_eq_decryptedFrom`).

Each child that the loops can get to is the one that decrypts under some pattern
of failures (`decryptedFrom_countdown`).  So every plaintext is decoded with the
version of its own child exactly if all of these children have the version of
the first (`padding_version_iff`).
-/

namespace Waepic.Client

open Binary Connection

variable {σ κ : Type} {d : Decoder σ κ} {c : MessageContext} {address : ProtocolAddress}
  {enc es : List Node} {e : Node} {s : σ}

/-! ## The elements behind the payloads -/

/-- How `categorize_enc_nodes` classifies each element. -/
structure EncClasses where
  session : Node → Option EncInfo
  group : Node → Option EncInfo

/-- `categorize_enc_nodes` keeps the order of the elements in each class. -/
def Decoder.Classifies (d : Decoder σ κ) (k : EncClasses) : Prop :=
  ∀ enc, d.categorizeEncNodes enc = ⟨enc.filterMap k.session, enc.filterMap k.group⟩

/-- A session element that the loop does not skip because of its type. -/
def EncInfo.IsSession (i : EncInfo) : Prop := i.encType = .preKeyMessage ∨ i.encType = .message

instance (i : EncInfo) : Decidable i.IsSession := inferInstanceAs (Decidable (_ ∨ _))

namespace EncClasses

variable {k : EncClasses}

/-- The session loop tries the element. -/
def triesSession (k : EncClasses) (e : Node) : Bool := (k.session e).any (·.IsSession)

/-- The group loop tries the element. -/
def triesGroup (k : EncClasses) (e : Node) : Bool := (k.group e).isSome

/-- The elements in the order in which they are tried. -/
def tried (k : EncClasses) (enc : List Node) : List Node :=
  enc.filter k.triesSession ++ enc.filter k.triesGroup

theorem mem_tried :
    e ∈ k.tried enc ↔ e ∈ enc ∧ (k.triesSession e = true ∨ k.triesGroup e = true) := by
  simp only [tried, List.mem_append, List.mem_filter]
  exact and_or_left.symm

end EncClasses

variable {k : EncClasses}

/-- How an element is decrypted, if it is tried. -/
abbrev Attempts (σ : Type) := Node → Option (σ → Except String Bytes × σ)

def sessionAttempts (d : Decoder σ κ) (k : EncClasses) (address : ProtocolAddress) : Attempts σ :=
  fun e => ((k.session e).bind d.ciphertextMessage).map (d.messageDecrypt · address)

def groupAttempts (d : Decoder σ κ) (k : EncClasses) (name : SenderKeyName) : Attempts σ :=
  fun e => (k.group e).map fun i => d.groupDecrypt i.ciphertext name

/-- The first element that decrypts, with its plaintext. -/
def firstDecrypted (attempts : Attempts σ) : List Node → σ → Option (Node × Bytes) × σ
  | [], s => (none, s)
  | e :: es, s =>
      match attempts e with
      | none => firstDecrypted attempts es s
      | some decrypt =>
          match decrypt s with
          | (.ok plaintext, s) => (some (e, plaintext), s)
          | (.error _, s) => firstDecrypted attempts es s

section Loop

variable {attempts : Attempts σ} {decrypt : σ → Except String Bytes × σ} {plaintext : Bytes}
  {msg : String} {s' : σ}

theorem firstDecrypted_skip (h : attempts e = none) :
    firstDecrypted attempts (e :: es) s = firstDecrypted attempts es s := by
  simp [firstDecrypted, h]

theorem firstDecrypted_ok (h : attempts e = some decrypt) (hr : decrypt s = (.ok plaintext, s')) :
    firstDecrypted attempts (e :: es) s = (some (e, plaintext), s') := by
  simp [firstDecrypted, h, hr]

theorem firstDecrypted_error (h : attempts e = some decrypt) (hr : decrypt s = (.error msg, s')) :
    firstDecrypted attempts (e :: es) s = firstDecrypted attempts es s' := by
  simp [firstDecrypted, h, hr]

/-- What decrypts is an element that is tried. -/
theorem firstDecrypted_mem {r : Node × Bytes} (h : (firstDecrypted attempts es s).1 = some r) :
    r.1 ∈ es ∧ (attempts r.1).isSome := by
  induction es generalizing s with
  | nil => cases h
  | cons e es ih =>
      have hrest : ∀ {s}, (firstDecrypted attempts es s).1 = some r →
          r.1 ∈ e :: es ∧ (attempts r.1).isSome :=
        fun h => ⟨.tail _ (ih h).1, (ih h).2⟩
      cases he : attempts e with
      | none =>
          rw [firstDecrypted_skip he] at h
          exact hrest h
      | some decrypt =>
          rcases hr : decrypt s with ⟨msg | plaintext, s'⟩
          · rw [firstDecrypted_error he hr] at h
            exact hrest h
          · rw [firstDecrypted_ok he hr] at h
            obtain rfl := Option.some.inj h
            exact ⟨.head _, by rw [he]; rfl⟩

end Loop

/-- Forget the element. -/
def withoutElement (r : Option (Node × Bytes) × σ) : Option Bytes × σ := (r.1.map Prod.snd, r.2)

theorem decryptSession_eq_firstDecrypted (es : List Node) (s : σ) :
    decryptSession d address (es.filterMap k.session) s =
      withoutElement (firstDecrypted (sessionAttempts d k address) es s) := by
  induction es generalizing s with
  | nil => rfl
  | cons e es ih =>
      cases he : k.session e with
      | none =>
          rw [List.filterMap_cons_none he, firstDecrypted_skip (by simp [sessionAttempts, he])]
          exact ih s
      | some i =>
          rw [List.filterMap_cons_some he, decryptSession]
          cases hc : d.ciphertextMessage i with
          | none =>
              rw [firstDecrypted_skip (by simp [sessionAttempts, he, hc])]
              exact ih s
          | some ciphertext =>
              have hattempt : sessionAttempts d k address e =
                  some (d.messageDecrypt ciphertext address) := by
                simp [sessionAttempts, he, hc]
              rcases hr : d.messageDecrypt ciphertext address s with ⟨msg | plaintext, s'⟩
              · rw [firstDecrypted_error hattempt hr]
                simpa [hr] using ih s'
              · rw [firstDecrypted_ok hattempt hr]
                simp [hr, withoutElement]

theorem decryptGroup_eq_firstDecrypted (name : SenderKeyName) (es : List Node) (s : σ) :
    decryptGroup d name (es.filterMap k.group) s =
      withoutElement (firstDecrypted (groupAttempts d k name) es s) := by
  induction es generalizing s with
  | nil => rfl
  | cons e es ih =>
      cases he : k.group e with
      | none =>
          rw [List.filterMap_cons_none he, firstDecrypted_skip (by simp [groupAttempts, he])]
          exact ih s
      | some i =>
          have hattempt : groupAttempts d k name e = some (d.groupDecrypt i.ciphertext name) := by
            simp [groupAttempts, he]
          rw [List.filterMap_cons_some he, decryptGroup]
          rcases hr : d.groupDecrypt i.ciphertext name s with ⟨msg | plaintext, s'⟩
          · rw [firstDecrypted_error hattempt hr]
            simpa [hr] using ih s'
          · rw [firstDecrypted_ok hattempt hr]
            simp [withoutElement]

variable [WacoreBinary]

/-- The element that decrypts, its plaintext and the stores afterwards. -/
def decryptedFrom (d : Decoder σ κ) (k : EncClasses) (c : MessageContext) (enc : List Node)
    (s : σ) : Option (Node × Bytes) × σ :=
  match firstDecrypted (sessionAttempts d k c.address) enc s with
  | (some r, s) => (some r, s)
  | (none, s) =>
      firstDecrypted (groupAttempts d k ⟨WacoreBinary.jidText c.fromJid, c.address⟩) enc s

theorem decryptEnc_eq_decryptedFrom (hd : d.Classifies k) (enc : List Node) (s : σ) :
    decryptEnc d c.address (WacoreBinary.jidText c.fromJid) (d.categorizeEncNodes enc) s =
      withoutElement (decryptedFrom d k c enc s) := by
  simp only [hd enc, decryptEnc, decryptSession_eq_firstDecrypted, decryptedFrom]
  obtain ⟨r, s'⟩ := firstDecrypted (sessionAttempts d k c.address) enc s
  cases r with
  | none => exact decryptGroup_eq_firstDecrypted _ enc s'
  | some r => rfl

/-! ## Which elements decrypt -/

omit [WacoreBinary] in
theorem triesSession_of_sessionAttempts (h : (sessionAttempts d k address e).isSome) :
    k.triesSession e = true := by
  rw [sessionAttempts, Option.isSome_map] at h
  obtain ⟨ciphertext, hc⟩ := Option.isSome_iff_exists.mp h
  obtain ⟨⟨encType, b⟩, hi, hmsg⟩ := Option.bind_eq_some_iff.mp hc
  rw [EncClasses.triesSession, hi]
  cases encType with
  | preKeyMessage => rfl
  | message => rfl
  | senderKey => cases hmsg
  | other => cases hmsg

omit [WacoreBinary] in
theorem groupAttempts_isSome (name : SenderKeyName) :
    (groupAttempts d k name e).isSome = k.triesGroup e := Option.isSome_map

theorem decryptedFrom_mem {r : Node × Bytes} (h : (decryptedFrom d k c enc s).1 = some r) :
    r.1 ∈ enc ∧ (k.triesSession r.1 = true ∨ k.triesGroup r.1 = true) := by
  rw [decryptedFrom] at h
  rcases hsession : firstDecrypted (sessionAttempts d k c.address) enc s with ⟨_ | r', s'⟩
  · rw [hsession] at h
    obtain ⟨hmem, hsome⟩ := firstDecrypted_mem h
    exact ⟨hmem, .inr ((groupAttempts_isSome _).symm.trans hsome)⟩
  · rw [hsession] at h
    have hfirst : (firstDecrypted (sessionAttempts d k c.address) enc s).1 = some r := by
      rw [hsession]
      exact h
    obtain ⟨hmem, hsome⟩ := firstDecrypted_mem hfirst
    exact ⟨hmem, .inl (triesSession_of_sessionAttempts hsome)⟩

/-! ## Any element may be the one -/

/-- Fail, and count down; decrypt when the count is used up. -/
def countdown (n : Nat) : Except String Bytes × Nat :=
  match n with
  | 0 => (.ok [], 0)
  | n + 1 => (.error "failed to decrypt", n)

/-- A decoder that parses every element and decrypts the one after as many failures
as the stores say.  It only decodes with this version. -/
def countdownDecoder (k : EncClasses) (version : Nat) : Decoder Nat Unit where
  parseJid _ := none
  categorizeEncNodes enc := ⟨enc.filterMap k.session, enc.filterMap k.group⟩
  isPreKeySignalMessage _ := true
  isSignalMessage _ := true
  messageDecrypt _ _ := countdown
  groupDecrypt _ _ := countdown
  decodePlaintext _ v := if v = version then .ok ⟨none, none, ()⟩ else .error "invalid padding"
  unwrapDeviceSent m := m
  isSenderKeyDistributionOnly _ := false
  isSenderKeyDistributionMessage _ := false
  processSenderKeyDistributionMessage _ _ s := (.ok (), s)
  decodeMessage _ := .error "invalid message"
  isTimestamp _ := true

variable {v n : Nat}

omit [WacoreBinary] in
theorem countdownDecoder_classifies : (countdownDecoder k v).Classifies k := fun _ => rfl

omit [WacoreBinary] in
/-- The loop gets to the element at the count, or counts all that it tries. -/
theorem firstDecrypted_countdown {tries : Node → Bool} {attempts : Attempts Nat}
    (hattempts : ∀ e, attempts e = if tries e then some countdown else none)
    (es : List Node) (n : Nat) :
    (firstDecrypted attempts es n).1 = ((es.filter tries)[n]?).map (·, []) ∧
      ((es.filter tries).length ≤ n →
        (firstDecrypted attempts es n).2 = n - (es.filter tries).length) := by
  induction es generalizing n with
  | nil => simp [firstDecrypted]
  | cons e es ih =>
      cases he : tries e with
      | false =>
          rw [List.filter_cons_of_neg (by simp [he]), firstDecrypted_skip (by simp [hattempts, he])]
          exact ih n
      | true =>
          have hattempt : attempts e = some countdown := by simp [hattempts, he]
          rw [List.filter_cons_of_pos he]
          cases n with
          | zero =>
              rw [firstDecrypted_ok hattempt rfl]
              simp
          | succ n =>
              rw [firstDecrypted_error hattempt rfl]
              simpa using ih n

omit [WacoreBinary] in
theorem sessionAttempts_countdown (address : ProtocolAddress) (e : Node) :
    sessionAttempts (countdownDecoder k v) k address e =
      if k.triesSession e then some countdown else none := by
  rw [sessionAttempts, EncClasses.triesSession]
  cases k.session e with
  | none => rfl
  | some i =>
      obtain ⟨encType, b⟩ := i
      cases encType <;> rfl

omit [WacoreBinary] in
theorem groupAttempts_countdown (name : SenderKeyName) (e : Node) :
    groupAttempts (countdownDecoder k v) k name e =
      if k.triesGroup e then some countdown else none := by
  rw [groupAttempts, EncClasses.triesGroup]
  cases k.group e <;> rfl

theorem decryptedFrom_countdown (enc : List Node) (n : Nat) :
    (decryptedFrom (countdownDecoder k v) k c enc n).1 = ((k.tried enc)[n]?).map (·, []) := by
  obtain ⟨hsession, hcount⟩ :=
    firstDecrypted_countdown (sessionAttempts_countdown (k := k) (v := v) c.address) enc n
  rw [decryptedFrom]
  rcases hr : firstDecrypted (sessionAttempts (countdownDecoder k v) k c.address) enc n
    with ⟨o, n'⟩
  simp only [hr] at hsession hcount
  rcases Nat.lt_or_ge n (enc.filter k.triesSession).length with hn | hn
  · rw [EncClasses.tried, List.getElem?_append_left hn, ← hsession]
    rw [List.getElem?_eq_getElem hn] at hsession
    simp [hsession]
  · rw [EncClasses.tried, List.getElem?_append_right hn, ← hcount hn]
    rw [List.getElem?_eq_none hn] at hsession
    subst hsession
    exact (firstDecrypted_countdown (groupAttempts_countdown _) enc n').1

/-! ## The version that a plaintext is decoded with -/

/-- The `v` attribute of an element. -/
def encVersion (e : Node) : Nat := ((e.attrText "v").bind parseU8).getD 2

/-- What is decoded is the plaintext with the version of the element it came from. -/
def DecodedByElement (d : Decoder σ κ) (k : EncClasses) (c : MessageContext) (enc : List Node)
    (s : σ) : Prop :=
  (decryptedMessage d c enc s).1 =
    (decryptedFrom d k c enc s).1.bind fun (e, plaintext) =>
      (d.decodePlaintext plaintext (encVersion e)).toOption.map d.unwrapDeviceSent

/-- What the client decodes: the plaintext with the version of the first element. -/
theorem decryptedMessage_eq (hd : d.Classifies k) :
    (decryptedMessage d c enc s).1 =
      (decryptedFrom d k c enc s).1.bind fun (_, plaintext) =>
        (d.decodePlaintext plaintext (paddingVersion enc)).toOption.map d.unwrapDeviceSent := by
  simp only [decryptedMessage, decryptEnc_eq_decryptedFrom hd]
  obtain ⟨r, s'⟩ := decryptedFrom d k c enc s
  cases r with
  | none => rfl
  | some r => rfl

theorem decodedByElement_of_version (hd : d.Classifies k)
    (h : ∀ r, (decryptedFrom d k c enc s).1 = some r → encVersion r.1 = paddingVersion enc) :
    DecodedByElement d k c enc s := by
  rw [DecodedByElement, decryptedMessage_eq hd]
  cases hr : (decryptedFrom d k c enc s).1 with
  | none => rfl
  | some r => simp [h r hr]

/-- After as many failures as elements are tried before it, an element is decoded
with its own version only if that is the version of the first. -/
theorem version_of_decodedByElement (hn : (k.tried enc)[n]? = some e)
    (h : DecodedByElement (countdownDecoder k (encVersion e)) k c enc n) :
    encVersion e = paddingVersion enc := by
  rw [DecodedByElement, decryptedMessage_eq countdownDecoder_classifies,
    decryptedFrom_countdown, hn] at h
  by_contra hne
  simp [countdownDecoder, Ne.symm hne, Except.toOption] at h

/-- Under every pattern of failures the plaintext is decoded with the version of the
element it came from exactly if every element that is tried has the version of the
first `<enc>` child. -/
theorem padding_version_iff (k : EncClasses) (enc : List Node) :
    (∀ (σ κ : Type) (d : Decoder σ κ), d.Classifies k → ∀ c s, DecodedByElement d k c enc s) ↔
      ∀ e ∈ enc, k.triesSession e = true ∨ k.triesGroup e = true →
        encVersion e = paddingVersion enc := by
  constructor
  · intro h e hmem htries
    obtain ⟨n, hn⟩ := List.getElem?_of_mem (EncClasses.mem_tried.mpr ⟨hmem, htries⟩)
    exact version_of_decodedByElement hn (h _ _ _ countdownDecoder_classifies aliceContext n)
  · intro h σ κ d hd c s
    refine decodedByElement_of_version hd fun r hr => ?_
    obtain ⟨hmem, htries⟩ := decryptedFrom_mem hr
    exact h r.1 hmem htries

/-! ## A sender key that is newer than the group message -/

/-- The classes of `categorizeByType`. -/
def classesByType : EncClasses where
  session e :=
    if e.attrText "type" = some "pkmsg" then some ⟨.preKeyMessage, (bytesOf e).getD []⟩
    else if e.attrText "type" = some "msg" then some ⟨.message, (bytesOf e).getD []⟩
    else none
  group e :=
    if e.attrText "type" = some "skmsg" then some ⟨.senderKey, (bytesOf e).getD []⟩ else none

/-- Remove the padding: as many bytes as the last one says, and none in version 3. -/
def unpad (b : Bytes) (version : Nat) : Except String Bytes :=
  if version = 3 then .ok b
  else if (b.getLastD 0).toNat = 0 ∨ b.length < (b.getLastD 0).toNat then .error "invalid padding"
  else .ok (b.take (b.length - (b.getLastD 0).toNat))

/-- `exampleDecoder` with padding. -/
def paddedDecoder : Decoder (List SenderKeyName) (Option String) :=
  { exampleDecoder with decodePlaintext := fun b v => (unpad b v).bind exampleMessage }

omit [WacoreBinary] in
/-- A text in a session element of version 3, after a group element without version,
does not decode. -/
theorem padding_version_of_first :
    letI := plainWacore
    ¬ ∀ (d : Decoder (List SenderKeyName) (Option String)) k c enc s,
      d.Classifies k → DecodedByElement d k c enc s := by
  let _ := plainWacore
  intro h
  have hdecoded := h paddedDecoder classesByType aliceContext
    [.mk "enc" [("type", .string "skmsg")] (some (.bytes [9])),
      .mk "enc" [("v", .string "3"), ("type", .string "pkmsg")] (some (.bytes [2]))]
    [] fun _ => rfl
  cases hdecoded

end Waepic.Client
