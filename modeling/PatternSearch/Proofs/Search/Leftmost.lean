/-
PatternSearch.Proofs.Search.Leftmost — engines that answer with the leftmost
match there is.

Such an engine is described by a table: at each place of the text, where the
match that starts there ends, if there is one. `Scan.Leftmost found` says that
the engine answers the queries of a scan from the table `found`, with the
entry at the first place not before the cursor; it asks nothing of cursors
between places, nor of the groups other than the whole match.

`Engine.leftmost found` is an engine of this kind, so there is one for every
table (`leftmost_engine`). It serves as the example where a statement about
scans assumes something of the engine.
-/
import Mathlib
import PatternSearch.Proofs.Search.Answers
import PatternSearch.Proofs.Search.Places
import PatternSearch.Proofs.Search.Rules

namespace PatternSearch

open Text

/-! ## 1. The assumption -/

namespace Scan

/-- The engine answers a scan with the first match of a table that does not
start before the cursor. -/
structure Leftmost (s : Scan) (found : Nat → Option Nat) : Prop where
  /-- Matches lie between places of the text. -/
  within : ∀ {p e : Nat}, found p = some e →
    p ≤ e ∧ s.advance.Place s.text p ∧ s.advance.Place s.text e
  hit : ∀ (past : Nat) {cursor p e : Nat} (before : Region), s.advance.Place s.text cursor →
    cursor ≤ p → found p = some e → (∀ q, cursor ≤ q → q < p → found q = none) →
    ∃ region, s.ask past cursor before = .ok (some (⟨p, e⟩, region))
  miss : ∀ (past : Nat) {cursor : Nat} (before : Region), s.advance.Place s.text cursor →
    (∀ q, cursor ≤ q → found q = none) → s.ask past cursor before = .ok none

namespace Leftmost

variable {s : Scan} {found : Nat → Option Nat} {past cursor : Nat} {before region : Region}
  {span : Span}

/-- An answer is either the first match of the table, or there is none. -/
theorem ask_cases (h : s.Leftmost found) (past : Nat) (before : Region)
    (place : s.advance.Place s.text cursor) :
    (∃ p e region, s.ask past cursor before = .ok (some (⟨p, e⟩, region)) ∧ cursor ≤ p ∧
        found p = some e ∧ ∀ q, cursor ≤ q → q < p → found q = none) ∨
      (s.ask past cursor before = .ok none ∧ ∀ q, cursor ≤ q → found q = none) := by
  by_cases filled : ∃ p, cursor ≤ p ∧ found p ≠ none
  · left
    -- The least such place is the one the engine answers with.
    classical
    obtain ⟨after, here⟩ := Nat.find_spec filled
    obtain ⟨e, he⟩ := Option.ne_none_iff_exists'.mp here
    have least : ∀ q, cursor ≤ q → q < Nat.find filled → found q = none := by
      intro q hq less
      by_contra there
      exact Nat.find_min filled less ⟨hq, there⟩
    obtain ⟨region, answer⟩ := h.hit past before place after he least
    exact ⟨_, e, region, answer, after, he, least⟩
  · right
    have empty : ∀ q, cursor ≤ q → found q = none := by
      intro q hq
      by_contra there
      exact filled ⟨q, hq, there⟩
    exact ⟨h.miss past before place empty, empty⟩

theorem of_found (h : s.Leftmost found) (place : s.advance.Place s.text cursor)
    (answer : s.ask past cursor before = .ok (some (span, region))) :
    cursor ≤ span.start ∧ found span.start = some span.stop ∧
      ∀ q, cursor ≤ q → q < span.start → found q = none := by
  rcases h.ask_cases past before place with ⟨p, e, r, same, rest⟩ | ⟨none, -⟩
  · rw [answer] at same
    simp only [Except.ok.injEq, Option.some.injEq, Prod.mk.injEq] at same
    obtain ⟨rfl, rfl⟩ := same
    exact rest
  · rw [answer] at none
    simp at none

theorem of_absent (h : s.Leftmost found) (place : s.advance.Place s.text cursor)
    (answer : s.ask past cursor before = .ok none) : ∀ q, cursor ≤ q → found q = none := by
  rcases h.ask_cases past before place with ⟨p, e, r, same, -⟩ | ⟨-, empty⟩
  · rw [answer] at same
    simp at same
  · exact empty

theorem ask_ne_error (h : s.Leftmost found) (place : s.advance.Place s.text cursor)
    {e : Error} : s.ask past cursor before ≠ .error e := by
  intro answer
  rcases h.ask_cases past before place with ⟨p, e, r, same, -⟩ | ⟨none, -⟩
  · rw [answer] at same
    simp at same
  · rw [answer] at none
    simp at none

/-- The cursor of the scan stays on places of the text until it has passed its
end. -/
theorem closed (h : s.Leftmost found) (stop_le : s.stop ≤ s.text.size) :
    s.Closed (s.advance.Rests s.text) where
  found rests inside answer := by
    obtain ⟨start_le, here, -⟩ := h.of_found (rests (Nat.le_trans inside stop_le)) answer
    obtain ⟨le_stop, -, place⟩ := h.within here
    exact ⟨start_le, le_stop, place.rests⟩
  skip rests inside := (rests (Nat.le_trans inside stop_le)).rests_next

end Leftmost

end Scan

/-! ## 2. An engine for every table -/

/-- The first match of a table among `n` offsets from `p` on. -/
def firstFrom (found : Nat → Option Nat) (p : Nat) : Nat → Option Span
  | 0 => none
  | n + 1 =>
    match found p with
    | some e => some ⟨p, e⟩
    | none => firstFrom found (p + 1) n

theorem firstFrom_eq_some {found : Nat → Option Nat} {span : Span} :
    ∀ {n p : Nat}, firstFrom found p n = some span →
      p ≤ span.start ∧ span.start < p + n ∧ found span.start = some span.stop ∧
        ∀ q, p ≤ q → q < span.start → found q = none
  | 0, p, h => by simp [firstFrom] at h
  | n + 1, p, h => by
    rw [firstFrom] at h
    split at h
    · rename_i e he
      obtain rfl : (⟨p, e⟩ : Span) = span := Option.some.inj h
      exact ⟨Nat.le_refl _, by simp, he, fun q lo hi => absurd hi (Nat.not_lt.mpr lo)⟩
    · rename_i he
      obtain ⟨lo, hi, here, before⟩ := firstFrom_eq_some h
      refine ⟨by omega, by omega, here, fun q hq less => ?_⟩
      rcases Nat.eq_or_lt_of_le hq with rfl | later
      · exact he
      · exact before q later less

theorem firstFrom_eq_none {found : Nat → Option Nat} :
    ∀ {n p : Nat}, firstFrom found p n = none → ∀ q, p ≤ q → q < p + n → found q = none
  | 0, p, _, q, lo, hi => absurd hi (Nat.not_lt.mpr lo)
  | n + 1, p, h, q, lo, hi => by
    rw [firstFrom] at h
    split at h
    · simp at h
    · rename_i he
      rcases Nat.eq_or_lt_of_le lo with rfl | later
      · exact he
      · exact firstFrom_eq_none h q later (by omega)

namespace Engine

/-- The engine that finds the first match of a table. -/
def leftmost (found : Nat → Option Nat) : Engine where
  search _ q _ :=
    match firstFrom found q.start (q.stop + 1 - q.start) with
    | some span => (Int32.ofNat span.start, .ofSpans [some span])
    | none => (mismatchStatus, .absent 1)
  probe q :=
    match firstFrom found q.start (q.stop + 1 - q.start) with
    | some span => Int32.ofNat span.start
    | none => mismatchStatus

end Engine

namespace Scan

variable {s : Scan} {found : Nat → Option Nat}

/-- What the engine of a table answers a scan. -/
theorem ask_leftmost (engine : s.engine = .leftmost found) (short : s.text.size < 2 ^ 31)
    (stop_le : s.stop ≤ s.text.size) (past : Nat) {cursor : Nat} (inside : cursor ≤ s.stop)
    (before : Region) :
    s.ask past cursor before =
      .ok ((firstFrom found cursor (s.stop + 1 - cursor)).map
        (fun span => (span, .ofSpans [some span]))) := by
  have inRange : (s.query cursor).InRange := ⟨Nat.le_trans inside stop_le, stop_le⟩
  rw [ask, Engine.searchAfter_of_inRange inRange, engine]
  simp only [Engine.leftmost, query]
  cases first : firstFrom found cursor (s.stop + 1 - cursor) with
  | none => simp [answerOfStatus_mismatch]
  | some span =>
    have := (firstFrom_eq_some first).2.1
    simp [answerOfStatus_ofNat (show span.start < 2 ^ 31 by omega),
      Region.span?_ofSpans]

/-- **There are leftmost engines.** The engine of a table of matches between
places is one, on every text an offset of which fits in a status. -/
theorem leftmost_engine (engine : s.engine = .leftmost found) (short : s.text.size < 2 ^ 31)
    (whole : s.stop = s.text.size)
    (within : ∀ {p e}, found p = some e →
      p ≤ e ∧ s.advance.Place s.text p ∧ s.advance.Place s.text e) : s.Leftmost found where
  within := within
  hit past cursor p e before place le here least := by
    have le_size := (within here).2.1.le
    have stop_le := Nat.le_of_eq whole
    rw [ask_leftmost engine short stop_le past (whole ▸ place.le) before]
    cases first : firstFrom found cursor (s.stop + 1 - cursor) with
    | none =>
      have := firstFrom_eq_none first p le (by omega)
      simp [here] at this
    | some span =>
      obtain ⟨lo, -, there, skipped⟩ := firstFrom_eq_some first
      have same : span.start = p := by
        rcases Nat.lt_trichotomy span.start p with less | same | more
        · simp [least _ lo less] at there
        · exact same
        · simp [skipped _ le more] at here
      have stop : span.stop = e := by
        rw [same, here] at there
        exact (Option.some.inj there).symm
      exact ⟨.ofSpans [some span], by cases span; simp_all⟩
  miss past cursor before place empty := by
    rw [ask_leftmost engine short (Nat.le_of_eq whole) past (whole ▸ place.le) before]
    cases first : firstFrom found cursor (s.stop + 1 - cursor) with
    | none => rfl
    | some span =>
      obtain ⟨lo, -, there, -⟩ := firstFrom_eq_some first
      simp [empty _ lo] at there

/-- The engine of a table of matches within the text is sound. -/
theorem sound_leftmost (engine : s.engine = .leftmost found) (short : s.text.size < 2 ^ 31)
    (stop_le : s.stop ≤ s.text.size)
    (within : ∀ {p e}, found p = some e → p ≤ e ∧ e ≤ s.text.size) : s.Sound := by
  intro past cursor before region span inside answer
  rw [ask_leftmost engine short stop_le past inside before] at answer
  simp only [Except.ok.injEq, Option.map_eq_some_iff, Prod.mk.injEq] at answer
  obtain ⟨_, first, rfl, -⟩ := answer
  obtain ⟨lo, -, here, -⟩ := firstFrom_eq_some first
  exact ⟨lo, within here⟩

end Scan

/-! ## 3. An example

The matches of `a*` in a text with characters of two bytes. There is an empty
match before the letters, which is handed over, one after them, which is not,
and one at the end, which is again. -/

/-- Where the matches of `a*` in `éaaé` end. -/
def starMatches : Nat → Option Nat
  | 0 => some 0
  | 2 | 3 | 4 => some 4
  | 6 => some 6
  | _ => none

/-- The scan of `éaaé` for them. -/
def starScan : Scan :=
  ⟨.leftmost starMatches, "éaaé".toByteArray, 6, .none, .standard, .char⟩

/-- What it comes to. -/
def starRun : Run Unit where
  state := ()
  trace := [.asked 0, .accepted 0 ⟨0, 0⟩ (.ofSpans [some ⟨0, 0⟩]), .asked 0, .skipped 0,
    .asked 2, .accepted 1 ⟨2, 4⟩ (.ofSpans [some ⟨2, 4⟩]), .asked 4, .skipped 4,
    .asked 6, .accepted 2 ⟨6, 6⟩ (.ofSpans [some ⟨6, 6⟩]), .asked 6, .skipped 6]
  outcome := .ok 3

namespace Scan

theorem starScan_reads : starScan.advance.Reads starScan.text := ⟨"éaaé", rfl⟩

/-- Matches of `a*` lie between characters. -/
theorem starMatches_fits {p e : Nat} (here : starMatches p = some e) :
    Span.Fits ⟨p, e⟩ "éaaé" := by
  unfold starMatches at here
  split at here
  case h_6 => simp at here
  all_goals
    obtain rfl := Option.some.inj here
    decide

theorem starScan_leftmost : starScan.Leftmost starMatches := by
  refine leftmost_engine rfl (by decide) rfl fun {p e} here => ?_
  obtain ⟨le, start, stop⟩ := starMatches_fits here
  exact ⟨le, ⟨"éaaé", rfl, start⟩, ⟨"éaaé", rfl, stop⟩⟩

theorem starScan_sound : starScan.Sound := by
  refine sound_leftmost rfl (by decide) (by decide) fun {p e} here => ?_
  exact ⟨(starMatches_fits here).1, (starMatches_fits here).stop_le⟩

theorem runAll_starScan : starScan.runAll 0 = some starRun := by cbv

end Scan

end PatternSearch
