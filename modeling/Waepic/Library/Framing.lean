import Mathlib.Data.List.Basic

/-!
# Frames in a stream

A code writes frames so that a stream shows where its first frame ends
(`Code.unique`).  A stream is then, in one way, a sequence of frames followed by
an unfinished rest (`Code.Parses`).

A decoder keeps the part of the stream that it was fed and has not decoded.  The
laws that a `Decoder` carries say of one call what happens to this part.  Drained
after every chunk, a decoder gives the frames of the stream, however the stream
is cut into chunks (`Decoder.decodeChunks_parses`).
-/

namespace Framing

variable {β φ : Type*}

/-- A code in which a stream that begins with a frame begins with one frame only. -/
structure Code (β φ : Type*) where
  encode : φ → List β
  encode_ne_nil : ∀ f, encode f ≠ []
  unique : ∀ {f g : φ} {r r' : List β}, encode f ++ r = encode g ++ r' → f = g

namespace Code

variable (code : Code β φ)

/-- A sequence of frames. -/
def encodeAll (fs : List φ) : List β := fs.flatMap code.encode

/-- The stream does not begin with a frame. -/
def Incomplete (bs : List β) : Prop := ∀ f rest, bs ≠ code.encode f ++ rest

/-- The stream consists of the frames and a rest without a further one. -/
structure Parses (bs : List β) (fs : List φ) (rest : List β) : Prop where
  eq : bs = code.encodeAll fs ++ rest
  incomplete : code.Incomplete rest

variable {code}

@[simp] theorem encodeAll_nil : code.encodeAll [] = [] := rfl

@[simp] theorem encodeAll_cons (f : φ) (fs : List φ) :
    code.encodeAll (f :: fs) = code.encode f ++ code.encodeAll fs := rfl

@[simp] theorem encodeAll_append (fs gs : List φ) :
    code.encodeAll (fs ++ gs) = code.encodeAll fs ++ code.encodeAll gs :=
  List.flatMap_append

/-- The first frame of a stream and what follows it are determined. -/
theorem cancel {f g : φ} {r r' : List β} (h : code.encode f ++ r = code.encode g ++ r') :
    f = g ∧ r = r' := by
  obtain rfl := code.unique h
  exact ⟨rfl, List.append_cancel_left h⟩

theorem incomplete_nil : code.Incomplete [] := by
  intro f rest h
  exact code.encode_ne_nil f (List.append_eq_nil_iff.mp h.symm).1

/-- A stream is parsed in one way. -/
theorem Parses.unique {bs : List β} {fs gs : List φ} {rest rest' : List β}
    (h : code.Parses bs fs rest) (h' : code.Parses bs gs rest') : fs = gs ∧ rest = rest' := by
  induction fs generalizing bs gs with
  | nil =>
      cases gs with
      | nil => exact ⟨rfl, h.eq.symm.trans h'.eq⟩
      | cons g gs =>
          have heq : rest = code.encode g ++ (code.encodeAll gs ++ rest') := by
            rw [← List.append_assoc, ← encodeAll_cons]
            exact h.eq.symm.trans h'.eq
          exact absurd heq (h.incomplete _ _)
  | cons f fs ih =>
      cases gs with
      | nil =>
          have heq : rest' = code.encode f ++ (code.encodeAll fs ++ rest) := by
            rw [← List.append_assoc, ← encodeAll_cons]
            exact h'.eq.symm.trans h.eq
          exact absurd heq (h'.incomplete _ _)
      | cons g gs =>
          have heq : code.encode f ++ (code.encodeAll fs ++ rest) =
              code.encode g ++ (code.encodeAll gs ++ rest') := by
            rw [← List.append_assoc, ← List.append_assoc, ← encodeAll_cons, ← encodeAll_cons]
            exact h.eq.symm.trans h'.eq
          obtain ⟨rfl, hrest⟩ := cancel heq
          obtain ⟨rfl, rfl⟩ := ih ⟨rfl, h.incomplete⟩ ⟨hrest, h'.incomplete⟩
          exact ⟨rfl, rfl⟩

/-- The frames of a first part of a sequence of frames are its first frames. -/
theorem Parses.mono {bs : List β} {fs gs : List φ} {rest : List β}
    (h : code.Parses bs fs rest) (hle : bs <+: code.encodeAll gs) : fs <+: gs := by
  induction fs generalizing bs gs with
  | nil => exact List.nil_prefix
  | cons f fs ih =>
      obtain ⟨more, hmore⟩ := hle
      rw [h.eq, encodeAll_cons, List.append_assoc, List.append_assoc] at hmore
      cases gs with
      | nil => exact absurd (List.append_eq_nil_iff.mp hmore).1 (code.encode_ne_nil f)
      | cons g gs =>
          obtain ⟨rfl, hrest⟩ := cancel hmore
          rw [← List.append_assoc] at hrest
          exact List.cons_prefix_cons.mpr ⟨rfl, ih ⟨rfl, h.incomplete⟩ ⟨more, hrest⟩⟩

end Code

/-! ## Incremental decoders -/

/-- A decoder that is fed chunks of a stream and asked for frames.  `buffered` is
what it was fed and has not decoded. -/
structure Decoder (code : Code β φ) where
  State : Type
  new : State
  feed : State → List β → State
  decodeFrame : State → Option (φ × State)
  buffered : State → List β
  buffered_new : buffered new = []
  buffered_feed : ∀ d bs, buffered (feed d bs) = buffered d ++ bs
  decodeFrame_some : ∀ {d d' f}, decodeFrame d = some (f, d') →
    buffered d = code.encode f ++ buffered d'
  decodeFrame_none : ∀ {d}, decodeFrame d = none → code.Incomplete (buffered d)

namespace Decoder

variable {code : Code β φ} (D : Decoder code)

variable {D} in
/-- A decoded frame leaves a shorter buffer. -/
theorem length_lt {d d' : D.State} {f : φ} (h : D.decodeFrame d = some (f, d')) :
    (D.buffered d').length < (D.buffered d).length := by
  have hpos := List.length_pos_iff.mpr (code.encode_ne_nil f)
  rw [D.decodeFrame_some h, List.length_append]
  omega

variable {D} in
/-- The frame that a buffer begins with is decoded. -/
theorem decodeFrame_of_buffered {d : D.State} {f : φ} {rest : List β}
    (h : D.buffered d = code.encode f ++ rest) :
    ∃ d', D.decodeFrame d = some (f, d') ∧ D.buffered d' = rest := by
  cases hdecode : D.decodeFrame d with
  | none => exact absurd h (D.decodeFrame_none hdecode f rest)
  | some r =>
      obtain ⟨g, d'⟩ := r
      obtain ⟨rfl, hrest⟩ := Code.cancel ((D.decodeFrame_some hdecode).symm.trans h)
      exact ⟨d', rfl, hrest⟩

/-- `while let Some(frame) = decoder.decode_frame()`. -/
def drain (d : D.State) : List φ × D.State :=
  match _h : D.decodeFrame d with
  | none => ([], d)
  | some (f, d') =>
      let r := drain d'
      (f :: r.1, r.2)
termination_by (D.buffered d).length
decreasing_by exact length_lt ‹_›

/-- Feed the chunks one by one and drain the decoder after each. -/
def decodeChunks : D.State → List (List β) → List φ × D.State
  | d, [] => ([], d)
  | d, chunk :: chunks =>
      let r := D.drain (D.feed d chunk)
      let t := decodeChunks r.2 chunks
      (r.1 ++ t.1, t.2)

variable {D}

/-- Draining parses the buffer. -/
theorem drain_parses (d : D.State) :
    code.Parses (D.buffered d) (D.drain d).1 (D.buffered (D.drain d).2) := by
  induction d using drain.induct D with
  | case1 d hnone =>
      rw [drain]
      split
      · exact ⟨rfl, D.decodeFrame_none hnone⟩
      · next hsome => rw [hnone] at hsome; cases hsome
  | case2 d f d' hsome ih =>
      rw [drain]
      split
      · next hnone => rw [hsome] at hnone; cases hnone
      · next g e hsome' =>
          rw [hsome] at hsome'
          cases hsome'
          refine ⟨?_, ih.incomplete⟩
          rw [D.decodeFrame_some hsome, Code.encodeAll_cons, List.append_assoc, ← ih.eq]

/-- However the stream is cut, the frames decoded are those of the stream. -/
theorem decodeChunks_parses (d : D.State) (chunks : List (List β))
    (h : code.Incomplete (D.buffered d)) :
    code.Parses (D.buffered d ++ chunks.flatten) (D.decodeChunks d chunks).1
      (D.buffered (D.decodeChunks d chunks).2) := by
  induction chunks generalizing d with
  | nil => exact ⟨by rw [List.flatten_nil, List.append_nil]; rfl, h⟩
  | cons chunk chunks ih =>
      have hdrain := drain_parses (D.feed d chunk)
      have hrest := ih (D.drain (D.feed d chunk)).2 hdrain.incomplete
      refine ⟨?_, hrest.incomplete⟩
      calc D.buffered d ++ (chunk :: chunks).flatten
          = D.buffered (D.feed d chunk) ++ chunks.flatten := by
            rw [D.buffered_feed, List.flatten_cons, List.append_assoc]
        _ = code.encodeAll (D.drain (D.feed d chunk)).1 ++
              (D.buffered (D.drain (D.feed d chunk)).2 ++ chunks.flatten) := by
            rw [← List.append_assoc, ← hdrain.eq]
        _ = _ := by
            rw [hrest.eq, ← List.append_assoc, ← Code.encodeAll_append]
            rfl

/-- A new decoder gives the first frames of a stream of which it got a first part. -/
theorem decodeChunks_prefix {chunks : List (List β)} {fs : List φ}
    (h : chunks.flatten <+: code.encodeAll fs) : (D.decodeChunks D.new chunks).1 <+: fs := by
  have hnew : code.Incomplete (D.buffered D.new) := by
    rw [D.buffered_new]
    exact Code.incomplete_nil
  have hparses := decodeChunks_parses D.new chunks hnew
  rw [D.buffered_new, List.nil_append] at hparses
  exact hparses.mono h

/-- A new decoder gives the frames of a stream that ends with a frame. -/
theorem decodeChunks_new {chunks : List (List β)} {fs : List φ}
    (h : chunks.flatten = code.encodeAll fs) : (D.decodeChunks D.new chunks).1 = fs := by
  have hnew : code.Incomplete (D.buffered D.new) := by
    rw [D.buffered_new]
    exact Code.incomplete_nil
  have hparses := decodeChunks_parses D.new chunks hnew
  rw [D.buffered_new, List.nil_append, h] at hparses
  exact (hparses.unique ⟨(List.append_nil _).symm, Code.incomplete_nil⟩).1

end Decoder

end Framing
