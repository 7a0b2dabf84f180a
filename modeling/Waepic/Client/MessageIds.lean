import Waepic.Client.Messages
import Waepic.Library.Digits
import Waepic.Library.Transition
import Mathlib.Data.List.Nodup
import Mathlib.Logic.Function.Basic

/-!
# Message ids

`generate_message_id` takes a count off a counter that all threads share, reads
the clock and formats both.  The two are separate steps, so the calls of
different threads interleave, and the ids come in another order than the counts.

The two fields have minimum widths only.  While neither overflows, an id is
`3EB0` and eighteen digits, the last ten of which determine the count
(`messageId_inj`).  So ids differ because counts do, whatever the clock shows
(`messageIds_distinct`).
-/

namespace Waepic.Client

open Transition Digits

/-! ## The id of a count and a reading -/

/-- `format!("3EB0{timestamp:0>8x}{count:0>10x}")`. -/
def messageId (timestamp : Nat) (count : UInt64) : String :=
  "3EB0" ++ hexPadded 8 timestamp ++ hexPadded 10 count.toNat

/-- A call that nothing interrupts formats the next count and a reading in seconds. -/
theorem run_generateMessageId {σ : Type} (s : ClientState σ) :
    ((generateMessageId : ClientM σ String).run.run s).1 =
      .ok (messageId (s.clock s.readings / 1000) s.msgIdCounter) := rfl

def lowercaseHex : List Char := "0123456789abcdef".toList

/-- `3EB0` and eighteen lowercase hexadecimal digits. -/
def WellFormedId (id : String) : Prop :=
  ∃ digits : List Char, id = "3EB0" ++ String.ofList digits ∧ digits.length = 18 ∧
    ∀ c ∈ digits, c ∈ lowercaseHex

theorem digitChar_mem_lowercaseHex {d : Nat} (h : d < 16) : d.digitChar ∈ lowercaseHex := by
  have hall : ∀ d < 16, Nat.digitChar d ∈ lowercaseHex := by decide
  exact hall d h

theorem hexPadded_toList (width n : Nat) :
    (hexPadded width n).toList = (Nat.toDigits 16 n).leftpad width '0' :=
  String.toList_ofList

theorem length_hexPadded {width n : Nat} (hwidth : 0 < width) (h : n < 16 ^ width) :
    (hexPadded width n).toList.length = width := by
  rw [hexPadded_toList]
  exact length_padded (by decide) hwidth h

theorem mem_lowercaseHex_of_mem_hexPadded {width n : Nat} {c : Char}
    (h : c ∈ (hexPadded width n).toList) : c ∈ lowercaseHex := by
  rw [hexPadded_toList] at h
  obtain ⟨d, hd, rfl⟩ := exists_of_mem_padded (by decide) h
  exact digitChar_mem_lowercaseHex hd

theorem wellFormedId_messageId {timestamp : Nat} {count : UInt64} (htime : timestamp < 2 ^ 32)
    (hcount : count.toNat < 2 ^ 40) : WellFormedId (messageId timestamp count) := by
  refine ⟨(hexPadded 8 timestamp).toList ++ (hexPadded 10 count.toNat).toList, ?_, ?_, ?_⟩
  · rw [messageId, String.ofList_append, String.ofList_toList, String.ofList_toList,
      String.append_assoc]
  · rw [List.length_append, length_hexPadded (by decide) (by omega),
      length_hexPadded (by decide) (by omega)]
  · intro c hc
    rcases List.mem_append.mp hc with hfirst | hlast
    · exact mem_lowercaseHex_of_mem_hexPadded hfirst
    · exact mem_lowercaseHex_of_mem_hexPadded hlast

/-- The id determines the count. -/
theorem messageId_inj {t t' : Nat} {count count' : UInt64} (ht : t < 2 ^ 32) (ht' : t' < 2 ^ 32)
    (h : messageId t count = messageId t' count') : count = count' := by
  have hchars := congrArg String.toList h
  simp only [messageId, String.toList_append, List.append_assoc] at hchars
  have hfields := List.append_cancel_left hchars
  have hlength : (hexPadded 8 t).toList.length = (hexPadded 8 t').toList.length := by
    rw [length_hexPadded (by decide) (by omega), length_hexPadded (by decide) (by omega)]
  have hcounts := (List.append_inj hfields hlength).2
  rw [hexPadded_toList, hexPadded_toList] at hcounts
  exact UInt64.toNat_inj.mp (padded_inj (by decide) (Nat.le_refl 16) hcounts)

/-! ## Calls that interleave -/

abbrev ThreadId := Nat

structure IdState where
  /-- `MSG_ID_COUNTER`. -/
  counter : UInt64
  /-- The counts of the calls that have not returned. -/
  fetched : ThreadId → Option UInt64
  /-- The ids that were returned, newest first. -/
  returned : List String

inductive IdAction where
  /-- A thread calls and takes its count. -/
  | fetchAdd (t : ThreadId)
  /-- Its call reads the clock, in seconds, and returns. -/
  | format (t : ThreadId) (timestamp : Nat)
deriving DecidableEq

def IdAction.isFetch : IdAction → Bool
  | fetchAdd _ => true
  | format _ _ => false

inductive IdStep : IdState → IdAction → IdState → Prop where
  | fetchAdd {s : IdState} {t : ThreadId} :
      s.fetched t = none →
      IdStep s (.fetchAdd t)
        { s with counter := s.counter + 1
                 fetched := Function.update s.fetched t (some s.counter) }
  | format {s : IdState} {t : ThreadId} {count : UInt64} (timestamp : Nat) :
      s.fetched t = some count →
      IdStep s (.format t timestamp)
        { s with fetched := Function.update s.fetched t none
                 returned := messageId timestamp count :: s.returned }

/-- The calls of one process. -/
def messageIds : System IdState IdAction where
  init s := s = ⟨0, fun _ => none, []⟩
  step := IdStep

/-! ## The ids of a run -/

/-- How many calls a run begins. -/
def callsBegun (as : List IdAction) : Nat := as.countP IdAction.isFetch

/-- Every reading of the clock is below `2 ^ 32` seconds. -/
def ClockInRange (as : List IdAction) : Prop := ∀ t r, .format t r ∈ as → r < 2 ^ 32

theorem ClockInRange.of_append {as bs : List IdAction} (h : ClockInRange (as ++ bs)) :
    ClockInRange as :=
  fun t r hmem => h t r (List.mem_append_left bs hmem)

/-- The counts of the calls, in progress or returned, are distinct and below the counter. -/
structure CountInv (as : List IdAction) (s : IdState) : Prop where
  counter : s.counter.toNat = callsBegun as
  fetched_lt : ∀ t count, s.fetched t = some count → count < s.counter
  fetched_inj : ∀ t t' count, s.fetched t = some count → s.fetched t' = some count → t = t'
  returned : ∃ calls : List (Nat × UInt64),
    s.returned = calls.map (fun call => messageId call.1 call.2) ∧
    (calls.map Prod.snd).Nodup ∧
    ∀ call ∈ calls, call.1 < 2 ^ 32 ∧ call.2 < s.counter ∧ ∀ t, s.fetched t ≠ some call.2

theorem countInv_init : CountInv [] ⟨0, fun _ => none, []⟩ where
  counter := rfl
  fetched_lt := nofun
  fetched_inj := nofun
  returned := ⟨[], rfl, List.nodup_nil, nofun⟩

/-- The counter does not wrap around. -/
theorem toNat_counter_succ {counter : UInt64} (hroom : counter.toNat < 2 ^ 40) :
    (counter + 1).toNat = counter.toNat + 1 := by
  rw [UInt64.toNat_add, UInt64.toNat_one]
  exact Nat.mod_eq_of_lt (by omega)

theorem lt_counter_succ {counter count : UInt64} (hroom : counter.toNat < 2 ^ 40)
    (h : count ≤ counter) : count < counter + 1 := by
  rw [UInt64.le_iff_toNat_le] at h
  rw [UInt64.lt_iff_toNat_lt, toNat_counter_succ hroom]
  omega

/-- The calls that have a count are the one that fetched it, and the others. -/
theorem fetched_update_cases {fetched : ThreadId → Option UInt64} {t u : ThreadId}
    {counter count : UInt64} (h : Function.update fetched t (some counter) u = some count) :
    (u = t ∧ count = counter) ∨ fetched u = some count := by
  rcases eq_or_ne u t with rfl | hne
  · rw [Function.update_self] at h
    cases h
    exact Or.inl ⟨rfl, rfl⟩
  · rw [Function.update_of_ne hne] at h
    exact Or.inr h

/-- A new count is the counter, which no call has and every call is below afterwards. -/
theorem CountInv.fetchAdd {as : List IdAction} {s : IdState} {t : ThreadId} (hinv : CountInv as s)
    (hroom : callsBegun as < 2 ^ 40) :
    CountInv (as ++ [.fetchAdd t])
      { s with counter := s.counter + 1
               fetched := Function.update s.fetched t (some s.counter) } := by
  obtain ⟨calls, hreturned, hnodup, hcalls⟩ := hinv.returned
  have hcounter : s.counter.toNat < 2 ^ 40 := hinv.counter ▸ hroom
  have hup : ∀ {count : UInt64}, count < s.counter → count < s.counter + 1 :=
    fun h => lt_counter_succ hcounter (UInt64.le_of_lt h)
  -- The new count is above all the others.
  have hnew : ∀ u, s.fetched u ≠ some s.counter := by
    intro u hu
    exact absurd (hinv.fetched_lt u _ hu) (UInt64.lt_irrefl _)
  refine ⟨?_, ?_, ?_, calls, hreturned, hnodup, ?_⟩
  · rw [toNat_counter_succ hcounter, hinv.counter]
    simp [callsBegun, IdAction.isFetch]
  · intro u c hu
    rcases fetched_update_cases hu with ⟨-, rfl⟩ | hu
    · exact lt_counter_succ hcounter (UInt64.le_refl _)
    · exact hup (hinv.fetched_lt u c hu)
  · intro u v c hu hv
    rcases fetched_update_cases hu with ⟨rfl, rfl⟩ | huold
    · rcases fetched_update_cases hv with ⟨rfl, -⟩ | hvold
      · rfl
      · exact (hnew v hvold).elim
    · rcases fetched_update_cases hv with ⟨rfl, rfl⟩ | hvold
      · exact (hnew u huold).elim
      · exact hinv.fetched_inj u v c huold hvold
  · intro call hcall
    obtain ⟨hclock, hlt, hnone⟩ := hcalls call hcall
    refine ⟨hclock, hup hlt, fun u hu => ?_⟩
    rcases fetched_update_cases hu with ⟨-, heq⟩ | hu
    · rw [heq] at hlt
      exact absurd hlt (UInt64.lt_irrefl _)
    · exact hnone u hu

/-- The count of a call that returns is the one it fetched, which no other call has. -/
theorem CountInv.format {as : List IdAction} {s : IdState} {t : ThreadId} {count : UInt64}
    {timestamp : Nat} (hinv : CountInv as s) (hfetched : s.fetched t = some count)
    (hclock : timestamp < 2 ^ 32) :
    CountInv (as ++ [.format t timestamp])
      { s with fetched := Function.update s.fetched t none
               returned := messageId timestamp count :: s.returned } := by
  obtain ⟨calls, hreturned, hnodup, hcalls⟩ := hinv.returned
  -- The other calls keep their counts.
  have hrest : ∀ u c, Function.update s.fetched t none u = some c →
      u ≠ t ∧ s.fetched u = some c := by
    intro u c hu
    rcases eq_or_ne u t with rfl | hne
    · rw [Function.update_self] at hu
      cases hu
    · rw [Function.update_of_ne hne] at hu
      exact ⟨hne, hu⟩
  refine ⟨?_, ?_, ?_, (timestamp, count) :: calls, ?_, ?_, ?_⟩
  · rw [hinv.counter]
    simp [callsBegun, IdAction.isFetch]
  · intro u c hu
    exact hinv.fetched_lt u c (hrest u c hu).2
  · intro u v c hu hv
    exact hinv.fetched_inj u v c (hrest u c hu).2 (hrest v c hv).2
  · rw [hreturned]
    rfl
  · rw [List.map_cons, List.nodup_cons]
    refine ⟨fun hmem => ?_, hnodup⟩
    obtain ⟨call, hcall, heq⟩ := List.mem_map.mp hmem
    refine (hcalls call hcall).2.2 t ?_
    rw [hfetched, show call.2 = count from heq]
  · intro call hcall
    rcases List.mem_cons.mp hcall with rfl | hold
    · refine ⟨hclock, hinv.fetched_lt t count hfetched, fun u hu => ?_⟩
      obtain ⟨hne, hu⟩ := hrest u count hu
      exact hne (hinv.fetched_inj u t count hu hfetched)
    · obtain ⟨hr, hlt, hnone⟩ := hcalls call hold
      exact ⟨hr, hlt, fun u hu => hnone u (hrest u call.2 hu).2⟩

theorem countInv_of_run {as : List IdAction} {s : IdState} (h : messageIds.Run as s)
    (hcalls : callsBegun as ≤ 2 ^ 40) (hclock : ClockInRange as) : CountInv as s := by
  revert hcalls hclock
  refine h.history_invariant
    (I := fun as s => callsBegun as ≤ 2 ^ 40 → ClockInRange as → CountInv as s) ?_ ?_
  · rintro s rfl - -
    exact countInv_init
  · intro as s a t _ ih hstep hcalls hclock
    have hbegun : callsBegun (as ++ [a]) = callsBegun as + [a].countP IdAction.isFetch :=
      List.countP_append
    have hinv := ih (by omega) hclock.of_append
    cases hstep with
    | fetchAdd _ =>
        rw [show [IdAction.fetchAdd _].countP IdAction.isFetch = 1 from rfl] at hbegun
        exact hinv.fetchAdd (by omega)
    | @format t count timestamp hfetched =>
        have hmem : IdAction.format t timestamp ∈ as ++ [.format t timestamp] :=
          List.mem_append_right as (List.mem_singleton_self _)
        exact hinv.format hfetched (hclock _ _ hmem)

/-- In every run of at most `2 ^ 40` calls with the clock in range, the ids are
distinct and well formed. -/
theorem messageIds_distinct {as : List IdAction} {s : IdState} (hrun : messageIds.Run as s)
    (hcalls : callsBegun as ≤ 2 ^ 40) (hclock : ClockInRange as) :
    s.returned.Nodup ∧ ∀ id ∈ s.returned, WellFormedId id := by
  have hinv := countInv_of_run hrun hcalls hclock
  obtain ⟨calls, hreturned, hnodup, hall⟩ := hinv.returned
  have hcounter := hinv.counter
  rw [hreturned]
  constructor
  · refine List.Nodup.map_on ?_ hnodup.of_map
    intro call hcall call' hcall' (heq : messageId _ _ = messageId _ _)
    have hcount := messageId_inj (hall call hcall).1 (hall call' hcall').1 heq
    exact List.inj_on_of_nodup_map hnodup hcall hcall' hcount
  · intro id hid
    obtain ⟨call, hcall, rfl⟩ := List.mem_map.mp hid
    obtain ⟨hr, hlt, -⟩ := hall call hcall
    rw [UInt64.lt_iff_toNat_lt] at hlt
    exact wellFormedId_messageId hr (by omega)

/-- Two threads whose calls return in the other order. -/
theorem messageIds_distinct_crossed :
    ∃ as s, messageIds.Run as s ∧ s.returned.length = 2 ∧ s.returned.Nodup := by
  have h0 : messageIds.Run [] ⟨0, fun _ => none, []⟩ := .start rfl
  have h1 := h0.tail (.fetchAdd (t := 0) rfl)
  have h2 := h1.tail (.fetchAdd (t := 1) rfl)
  have h3 := h2.tail (.format (t := 1) 1761607680 rfl)
  have h4 := h3.tail (.format (t := 0) 1761607680 rfl)
  refine ⟨_, _, h4, rfl, (messageIds_distinct h4 (by decide) ?_).1⟩
  intro t r hmem
  simp at hmem
  omega

end Waepic.Client
