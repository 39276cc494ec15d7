/-
PatternSearch.Proofs.Search.Effort — how much a scan asks and how much it
finds.

A cursor that has been asked from may be asked from again, after an empty
match there has been handed over. Then that match is where the last one ended,
and whatever is answered takes the scan further: `Round.moves_on`. So no
cursor is asked from more than twice.

The number of matches is bounded by the offsets they may start at. For that
the engine must not change its mind between the two questions
(`Scan.Steady`): an engine that answers an empty match first and a longer one
afterwards finds two matches at one offset.
-/
import PatternSearch.Proofs.Search.Order

namespace PatternSearch

open Text

/-! ## 1. Engines that do not change their mind -/

namespace Engine

/-- The answer to a query depends on the query only. -/
def Steady (e : Engine) : Prop :=
  ∀ (past past' : Nat) (q : Query) (before before' : Region),
    e.search past q before = e.search past' q before'

end Engine

namespace Scan

variable {σ : Type} {s : Scan} {visit : σ → Region → σ × Decision} {P : Nat → Prop}

/-- What a scan is answered depends on the cursor only. -/
def Steady (s : Scan) : Prop :=
  ∀ (past past' cursor : Nat) (before before' : Region),
    s.ask past cursor before = s.ask past' cursor before'

theorem steady_of_engine (h : s.engine.Steady) : s.Steady := by
  intro past past' cursor before before'
  unfold ask
  by_cases inRange : (s.query cursor).InRange
  · simp only [Engine.searchAfter_of_inRange inRange,
      h past past' (s.query cursor) before.clear before'.clear]
  · simp only [Engine.searchAfter_of_not_inRange inRange]

/-! ## 2. Cursors -/

/-- A scan does not lead back before a cursor it has reached. -/
theorem Closed.onward (h : s.Closed P) (reached : Nat) :
    s.Closed (fun c => P c ∧ reached ≤ c) where
  found := by
    rintro past cursor before region span ⟨hp, le⟩ inside found
    obtain ⟨start_le, le_stop, place⟩ := h.found hp inside found
    exact ⟨start_le, le_stop, place, by omega⟩
  skip := by
    rintro cursor ⟨hp, le⟩ inside
    exact ⟨h.skip hp inside, Nat.le_add_right_of_le le⟩

theorem Round.cursors_after {st next : Standing σ} {events : List Event}
    (round : s.Round visit st events next) (r : Run σ) :
    (r.after events).cursors = st.cursor :: r.cursors := by
  cases round <;> rfl

theorem Finish.length_cursors_le {st : Standing σ} {r : Run σ} (last : s.Finish visit st r) :
    r.cursors.length ≤ 1 := by
  cases last <;> simp [Run.cursors, List.filterMap_cons]

/-- A cursor that has been passed is not asked from again. -/
theorem Ends.count_cursors_of_lt (h : s.Closed P) {st : Standing σ} {r : Run σ}
    (ends : s.Ends visit st r) (hp : P st.cursor) {c : Nat} (passed : c < st.cursor) :
    r.cursors.count c = 0 := by
  rw [List.count_eq_zero]
  intro mem
  have reached := (ends.cursor_mem (h.onward st.cursor) ⟨hp, Nat.le_refl _⟩ mem).1.2
  exact absurd passed (Nat.not_lt.mpr reached)

/-- A cursor where a match has just ended is asked from once more at most. -/
theorem Ends.count_cursors_of_ended (h : s.Closed P) {st : Standing σ} {r : Run σ}
    (ends : s.Ends visit st r) (hp : P st.cursor) (ended : st.last = some st.cursor) :
    r.cursors.count st.cursor ≤ 1 := by
  cases ends with
  | finish last => exact Nat.le_trans List.count_le_length last.length_cursors_le
  | round first rest =>
    have passed := first.moves_on h hp ended
    rw [first.cursors_after, List.count_cons_self,
      rest.count_cursors_of_lt h (first.cursor_mem h hp) passed]

/-- No cursor is asked from more than twice. -/
theorem Ends.count_cursors_le (h : s.Closed P) {st : Standing σ} {r : Run σ}
    (ends : s.Ends visit st r) (hp : P st.cursor) (c : Nat) : r.cursors.count c ≤ 2 := by
  induction ends with
  | finish last =>
    have := last.length_cursors_le
    exact Nat.le_trans List.count_le_length (by omega)
  | @round st next events r first rest ih =>
    have place := first.cursor_mem h hp
    rw [first.cursors_after]
    rcases eq_or_ne st.cursor c with rfl | other
    · rw [List.count_cons_self]
      rcases first.moves_or_ended h hp with passed | ⟨same, ended⟩
      · rw [rest.count_cursors_of_lt h place passed]
        omega
      · have := rest.count_cursors_of_ended h place ended
        rw [same] at this
        omega
    · rw [List.count_cons_of_ne other]
      exact ih place

/-! ## 3. Matches -/

/-- The last match ended at the cursor, and what is found from there is the
empty match there. -/
def Stale (s : Scan) (st : Standing σ) : Prop :=
  st.last = some st.cursor ∧ ∃ past before region,
    s.ask past st.cursor before = .ok (some (⟨st.cursor, st.cursor⟩, region))

/-- A steady engine answers with the empty match again, which is skipped. -/
theorem Stale.repeats (steady : s.Steady) {st : Standing σ} (stale : s.Stale st) {past : Nat}
    {before region : Region} {span : Span}
    (found : s.ask past st.cursor before = .ok (some (span, region))) : st.Repeats span := by
  obtain ⟨ended, past', before', region', empty⟩ := stale
  have same := steady past past' st.cursor before before'
  rw [found, empty] at same
  obtain ⟨rfl, -⟩ := Prod.mk.inj (Option.some.inj (Except.ok.inj same))
  exact ⟨Span.isEmpty_iff.mpr rfl, ended⟩

/-- After a match has been handed over, the cursor has moved, or the match was
the empty one there. -/
theorem lt_or_stale (h : s.Closed P) {st : Standing σ} (hp : P st.cursor)
    (inside : st.cursor ≤ s.stop) {span : Span} {region : Region} (state : σ)
    (found : s.ask st.asked st.cursor st.region = .ok (some (span, region))) :
    st.cursor < span.stop ∨
      (span.stop = st.cursor ∧ s.Stale (st.take span region state)) := by
  obtain ⟨start_le, le_stop, -⟩ := h.found hp inside found
  rcases Nat.lt_or_eq_of_le (Nat.le_trans start_le le_stop) with less | same
  · exact Or.inl less
  · have empty : span = ⟨span.stop, span.stop⟩ := by
      have : span.start = span.stop := by omega
      cases span
      simp_all
    rw [same, empty] at found
    exact Or.inr ⟨same.symm, rfl, _, _, _, found⟩

/-- No more matches are to come than there are offsets they may start at. The
cursor is not one of them if the match there is stale. -/
theorem Ends.length_spans_le (h : s.Closed P) (steady : s.Steady) {st : Standing σ} {r : Run σ}
    (ends : s.Ends visit st r) (hp : P st.cursor) :
    r.spans.length ≤ s.stop + 1 - st.cursor ∧
      (s.Stale st → r.spans.length ≤ s.stop - st.cursor) := by
  induction ends with
  | finish last =>
    cases last with
    | halt inside found fresh =>
      refine ⟨?_, fun stale => absurd (stale.repeats steady found) fresh⟩
      simp only [Run.spans, List.filterMap_cons, Event.span?, List.filterMap_nil,
        List.length_singleton]
      omega
    | _ => simp [Run.spans, List.filterMap_cons]
  | @round st next events r first _ ih =>
    obtain ⟨bound, stale_bound⟩ := ih (first.cursor_mem h hp)
    cases first with
    | skip inside =>
      have := s.advance.width_pos s.text st.cursor
      rw [skip_cursor] at bound
      rw [Run.spans_after_skip]
      omega
    | @take _ _ state inside found fresh =>
      refine ⟨?_, fun stale => absurd (stale.repeats steady found) fresh⟩
      rw [Run.spans_after_take, List.length_cons]
      rw [Standing.take_cursor] at bound stale_bound
      rcases lt_or_stale h hp inside state found with less | ⟨same, stale⟩
      · omega
      · have := stale_bound stale
        omega

/-! ## 4. Whole runs -/

/-- **Effort.** With a steady engine that answers within the text, from the
cursor on, a scan comes to its end, whatever the visitor does: the rules lead
to one run only, the one computed. No cursor is asked from more than twice,
and the visitor is handed no more matches than there are offsets from `start`
to the stop, none if there are none. -/
theorem search_effort (s : Scan) (sound : s.Sound) (steady : s.Steady)
    (visit : σ → Region → σ × Decision) (start : Nat) (state : σ)
    (inRange : (s.query start).InRange) :
    ∃ run, s.run visit start state = some run ∧
      (∀ r, s.Ends visit (.first start state) r ↔ r = run) ∧
      (∀ c, run.cursors.count c ≤ 2) ∧
      (start ≤ s.stop → run.accepted.length ≤ s.stop - start + 1) ∧
      (s.stop < start → run.accepted = []) := by
  have closed := sound.closed
  obtain ⟨run, made, ends⟩ := exists_run closed visit state trivial inRange
  have bound := (ends.length_spans_le closed steady trivial).1
  rw [← ends.length_accepted] at bound
  simp only [Standing.first] at bound
  refine ⟨run, made, fun r => ⟨fun other => other.unique ends, fun same => same ▸ ends⟩,
    ends.count_cursors_le closed trivial, fun le => by omega, fun less => ?_⟩
  exact List.length_eq_zero_iff.mp (by omega)

theorem starScan_steady : starScan.Steady := steady_of_engine fun _ _ _ _ _ => rfl

/-- In `éaaé`, for the matches of `a*`, two searches are made from 0, where an
empty match is handed over, and from 6. -/
theorem search_effort_star :
    starScan.Sound ∧ starScan.Steady ∧ (starScan.query 0).InRange ∧
      starScan.runAll 0 = some starRun ∧ starRun.cursors = [0, 0, 2, 4, 6, 6] ∧
      ∀ c, starRun.cursors.count c ≤ 2 := by
  obtain ⟨run, made, -, twice, -⟩ := search_effort starScan starScan_sound starScan_steady
    (fun u _ => (u, .resume)) 0 () (by decide)
  obtain rfl := Option.some.inj (runAll_starScan.symm.trans made)
  exact ⟨starScan_sound, starScan_steady, by decide, made, rfl, twice⟩

end Scan

end PatternSearch
