import Mathlib.Init

/-!
# Computations that may panic

A Rust function that may panic is a `Checked` computation: it returns a value, or
it stops at the first operation that fails.  Here these are the slice `&s[..n]` of
a string, which needs `n` to be a character boundary, and `expect`.

A slice up to `n` bytes, or up to the end of a shorter string, panics exactly if a
character lies across byte `n` (`returns_sliceTo_min_iff`).  A computation in
sequence returns exactly if its parts do, and so does a loop
(`returns_bind_iff`, `returns_forM_iff`).
-/

namespace Panics

/-- What a computation panicked at. -/
inductive Panic where
  /-- A slice of the string to a byte that is no character boundary. -/
  | charBoundary (s : String) (index : Nat)
  | expect (message : String)
deriving DecidableEq, Repr

abbrev Checked := Except Panic

variable {α β : Type}

/-- The computation does not panic. -/
def Returns (x : Checked α) : Prop := ∃ a, x = .ok a

/-! ## Sequences -/

@[simp] theorem returns_ok (a : α) : Returns (.ok a : Checked α) := ⟨a, rfl⟩

@[simp] theorem returns_pure (a : α) : Returns (pure a : Checked α) := ⟨a, rfl⟩

@[simp] theorem not_returns_error (p : Panic) : ¬ Returns (.error p : Checked α) := nofun

theorem returns_bind_iff {x : Checked α} {f : α → Checked β} :
    Returns (x >>= f) ↔ ∃ a, x = .ok a ∧ Returns (f a) := by
  cases x with
  | error p => exact iff_of_false nofun nofun
  | ok a =>
      constructor
      · exact fun h => ⟨a, rfl, h⟩
      · rintro ⟨_, ⟨⟩, h⟩
        exact h

@[simp] theorem returns_map_iff {x : Checked α} {f : α → β} : Returns (f <$> x) ↔ Returns x := by
  cases x with
  | error p => exact iff_of_false nofun nofun
  | ok a => exact iff_of_true ⟨f a, rfl⟩ ⟨a, rfl⟩

@[simp] theorem returns_discard_iff {x : Checked α} : Returns (discard x) ↔ Returns x :=
  returns_map_iff

/-- A loop returns exactly if its body does for every element. -/
theorem returns_forM_iff {l : List α} {f : α → Checked Unit} :
    Returns (l.forM f) ↔ ∀ a ∈ l, Returns (f a) := by
  induction l with
  | nil => exact iff_of_true ⟨(), rfl⟩ nofun
  | cons a l ih =>
      rw [List.forM_eq_forM, List.forM_cons, returns_bind_iff, List.forall_mem_cons,
        ← ih, List.forM_eq_forM]
      constructor
      · rintro ⟨u, hhead, htail⟩
        exact ⟨⟨u, hhead⟩, htail⟩
      · rintro ⟨⟨u, hhead⟩, htail⟩
        exact ⟨u, hhead, htail⟩

/-! ## `expect` -/

/-- `value.expect(message)`. -/
def expect (value : Option α) (message : String) : Checked α :=
  match value with
  | some a => .ok a
  | none => .error (.expect message)

@[simp] theorem returns_expect_iff {value : Option α} {message : String} :
    Returns (expect value message) ↔ value.isSome = true := by
  cases value with
  | none => exact iff_of_false nofun nofun
  | some a => exact iff_of_true ⟨a, rfl⟩ rfl

/-! ## Slices of strings -/

/-- `s.is_char_boundary(n)`. -/
def IsCharBoundary (s : String) (n : Nat) : Prop := (⟨n⟩ : String.Pos.Raw).IsValid s

instance (s : String) (n : Nat) : Decidable (IsCharBoundary s n) :=
  inferInstanceAs (Decidable (String.Pos.Raw.IsValid ..))

/-- `&s[..n]`. -/
def sliceTo (s : String) (n : Nat) : Checked String :=
  if h : IsCharBoundary s n then .ok (s.sliceTo (s.pos ⟨n⟩ h)).copy
  else .error (.charBoundary s n)

theorem returns_sliceTo_iff {s : String} {n : Nat} :
    Returns (sliceTo s n) ↔ IsCharBoundary s n := by
  simp only [sliceTo]
  split
  · next hboundary => exact iff_of_true ⟨_, rfl⟩ hboundary
  · next hinside => exact iff_of_false nofun hinside

/-- A character of the string lies across byte `n`. -/
def Straddles (s : String) (n : Nat) : Prop :=
  ∃ before c after, s = before ++ String.singleton c ++ after ∧
    before.utf8ByteSize < n ∧ n < before.utf8ByteSize + c.utf8Size

theorem not_isCharBoundary_of_straddles {s : String} {n : Nat} (h : Straddles s n) :
    ¬ IsCharBoundary s n := by
  obtain ⟨before, c, after, rfl, hbefore, hinside⟩ := h
  intro hboundary
  rcases String.Pos.Raw.isValid_append.mp hboundary with hboundary | ⟨hle, -⟩
  · rcases String.Pos.Raw.isValid_append.mp hboundary with hboundary | ⟨-, hchar⟩
    · have hle := hboundary.le_utf8ByteSize
      dsimp only at hle
      omega
    · rcases String.Pos.Raw.isValid_singleton.mp hchar with hzero | hsize
      · have hzero := congrArg String.Pos.Raw.byteIdx hzero
        simp at hzero
        omega
      · simp at hsize
        omega
  · have hle := String.Pos.Raw.le_iff.mp hle
    simp at hle
    omega

/-- In a string with more than `n` bytes, a character lies across byte `n` if it is no
character boundary.  By induction on the characters. -/
theorem straddles_ofList {cs : List Char} {n : Nat} (hn : n < (String.ofList cs).utf8ByteSize)
    (h : ¬ IsCharBoundary (String.ofList cs) n) : Straddles (String.ofList cs) n := by
  induction cs generalizing n with
  | nil => simp at hn
  | cons c cs ih =>
      rw [String.ofList_cons] at hn h ⊢
      rw [String.utf8ByteSize_append, String.utf8ByteSize_singleton] at hn
      have hpos : n ≠ 0 := by
        rintro rfl
        exact h String.Pos.Raw.isValid_zero
      by_cases hfirst : n < c.utf8Size
      · refine ⟨"", c, String.ofList cs, by simp, ?_, by simpa using hfirst⟩
        simpa using Nat.pos_of_ne_zero hpos
      · have hrest : ¬ IsCharBoundary (String.ofList cs) (n - c.utf8Size) := by
          intro hboundary
          refine h (String.Pos.Raw.isValid_append.mpr (.inr ⟨?_, ?_⟩))
          · simp [String.Pos.Raw.le_iff]
            omega
          · have heq : (⟨n⟩ : String.Pos.Raw) - String.singleton c = ⟨n - c.utf8Size⟩ := by
              ext
              simp
            rw [heq]
            exact hboundary
        obtain ⟨before, c', after, heq, hbefore, hinside⟩ := ih (by omega) hrest
        refine ⟨String.singleton c ++ before, c', after, ?_, ?_, ?_⟩
        · rw [heq, String.append_assoc, String.append_assoc, String.append_assoc]
        · simp
          omega
        · simp
          omega

/-- A character lies across byte `n` exactly if `n`, or the end of a shorter string, is
no character boundary. -/
theorem straddles_iff {s : String} {n : Nat} :
    Straddles s n ↔ ¬ IsCharBoundary s (min n s.utf8ByteSize) := by
  rcases Nat.lt_or_ge n s.utf8ByteSize with hlt | hge
  · rw [Nat.min_eq_left (Nat.le_of_lt hlt)]
    refine ⟨not_isCharBoundary_of_straddles, fun h => ?_⟩
    obtain ⟨cs, rfl⟩ := s.exists_eq_ofList
    exact straddles_ofList hlt h
  · rw [Nat.min_eq_right hge]
    refine iff_of_false ?_ (not_not_intro String.Pos.Raw.isValid_rawEndPos)
    rintro ⟨before, c, after, rfl, -, hinside⟩
    simp at hge
    omega

instance (s : String) (n : Nat) : Decidable (Straddles s n) := decidable_of_iff' _ straddles_iff

/-- `&s[..n.min(s.len())]` panics exactly if a character lies across byte `n`. -/
theorem returns_sliceTo_min_iff {s : String} {n : Nat} :
    Returns (sliceTo s (min n s.utf8ByteSize)) ↔ ¬ Straddles s n := by
  rw [returns_sliceTo_iff, straddles_iff, Decidable.not_not]

example : Straddles "1234567é" 8 := by decide
example : ¬ Straddles "3EB0A1B2C3" 8 := by decide

end Panics
