/-
PatternSearch.Proofs.Search.Order — the matches of a scan come in order and
do not overlap.

`ordered_spans` is the statement for whole runs: each match starts at or after
the end of the one before it, and also ends after it. So no match is reported
twice, and no empty match is reported where the match before it ended. All
that is asked of the engine is `Scan.Sound`. Its answers may change from call
to call, and the run may be cut short by an error or by the visitor.

The ends do not grow because the cursor does: an empty match leaves the cursor
where it is. They grow because of what `Standing.Admits` keeps: a match that is
handed over ends after the last one did, or it would have been skipped.
-/
import PatternSearch.Proofs.Search.Leftmost

namespace PatternSearch

open Text

namespace Text.Span

/-- `a` lies before `b`: they do not overlap, and `b` ends later. -/
def Before (a b : Span) : Prop := a.stop ≤ b.start ∧ a.stop < b.stop

theorem Before.ne {a b : Span} (h : a.Before b) : a ≠ b := by
  rintro rfl
  exact absurd h.2 (Nat.lt_irrefl _)

/-- Spans that come in order end at different offsets. -/
theorem length_le_of_before {spans : List Span} (ordered : spans.Pairwise Before) {n : Nat}
    (below : ∀ m ∈ spans, m.stop < n) : spans.length ≤ n := by
  have rising : (spans.map stop).Pairwise (· < ·) :=
    List.pairwise_map.mpr (ordered.imp fun before => before.2)
  have distinct : (spans.map stop).Nodup := rising.imp Nat.ne_of_lt
  have within : spans.map stop ⊆ List.range n := by
    intro e mem
    obtain ⟨m, hm, rfl⟩ := List.mem_map.mp mem
    exact List.mem_range.mpr (below m hm)
  simpa using (List.subperm_of_subset distinct within).length_le

end Text.Span

namespace Standing

variable {σ : Type}

/-- The cursor has not fallen behind the end of the last match. -/
def Trails (st : Standing σ) : Prop := ∀ e, st.last = some e → e ≤ st.cursor

/-- A span that may be handed over from here on. -/
def Admits (st : Standing σ) (span : Span) : Prop :=
  st.cursor ≤ span.start ∧ span.start ≤ span.stop ∧ ∀ e, st.last = some e → e < span.stop

theorem trails_first (start : Nat) (state : σ) : (first start state).Trails :=
  fun _ h => nomatch h

/-- A match that is not skipped may be handed over: if it ended where the last
one did, it would be empty. -/
theorem admits_of_not_repeats {st : Standing σ} {span : Span} (trails : st.Trails)
    (fresh : ¬ st.Repeats span) (start_le : st.cursor ≤ span.start)
    (le_stop : span.start ≤ span.stop) : st.Admits span := by
  refine ⟨start_le, le_stop, fun e last => ?_⟩
  have behind := trails e last
  rcases Nat.lt_or_eq_of_le (Nat.le_trans behind (Nat.le_trans start_le le_stop)) with less | same
  · exact less
  · refine absurd ⟨?_, same ▸ last⟩ fresh
    exact Span.isEmpty_iff.mpr (by omega)

/-- A match repeats the last one only where the last one ended, at the cursor. -/
theorem repeats_iff {st : Standing σ} {span : Span} (trails : st.Trails)
    (start_le : st.cursor ≤ span.start) (le_stop : span.start ≤ span.stop) :
    st.Repeats span ↔ st.last = some st.cursor ∧ span = ⟨st.cursor, st.cursor⟩ := by
  constructor
  · rintro ⟨empty, last⟩
    have behind := trails _ last
    have same := Span.isEmpty_iff.mp empty
    have stop : span.stop = st.cursor := by omega
    refine ⟨stop ▸ last, ?_⟩
    cases span
    simp_all
  · rintro ⟨last, rfl⟩
    exact ⟨Span.isEmpty_iff.mpr rfl, last⟩

end Standing

namespace Scan

variable {σ : Type} {s : Scan} {visit : σ → Region → σ × Decision} {P : Nat → Prop}

/-! ## 1. One round -/

theorem Round.trails {st next : Standing σ} {events : List Event}
    (round : s.Round visit st events next) (trails : st.Trails) : next.Trails := by
  cases round with
  | skip => exact fun e last => Nat.le_trans (trails e last) (Nat.le_add_right _ _)
  | take =>
    intro e last
    exact Nat.le_of_eq (Option.some.inj last).symm

/-- What may be handed over after a round could have been before it. -/
theorem Round.admits (h : s.Closed P) {st next : Standing σ} {events : List Event}
    (round : s.Round visit st events next) (hp : P st.cursor) (trails : st.Trails) {span : Span}
    (admits : next.Admits span) : st.Admits span := by
  obtain ⟨start_le, le_stop, later⟩ := admits
  refine ⟨Nat.le_trans (round.cursor_le h hp) start_le, le_stop, ?_⟩
  cases round with
  | skip => exact later
  | @take found _ _ inside ask fresh =>
    intro e last
    obtain ⟨after, le, -⟩ := h.found hp inside ask
    have grown := (Standing.admits_of_not_repeats trails fresh after le).2.2 e last
    exact Nat.lt_trans grown (later found.stop rfl)

/-! ## 2. Whole runs -/

/-- Every span handed over is one the scan admits where it stands, and each of
them lies before those that follow it. -/
theorem Ends.ordered (h : s.Closed P) {st : Standing σ} {r : Run σ}
    (ends : s.Ends visit st r) (hp : P st.cursor) (trails : st.Trails) :
    (∀ span ∈ r.spans, st.Admits span) ∧ r.spans.Pairwise Span.Before := by
  induction ends with
  | finish last =>
    cases last with
    | halt inside found fresh =>
      obtain ⟨start_le, le_stop, -⟩ := h.found hp inside found
      simpa [Run.spans, List.filterMap_cons] using
        Standing.admits_of_not_repeats trails fresh start_le le_stop
    | _ => simp [Run.spans, List.filterMap_cons]
  | round first _ ih =>
    obtain ⟨admitted, ordered⟩ := ih (first.cursor_mem h hp) (first.trails trails)
    have earlier := fun span mem => first.admits h hp trails (admitted span mem)
    cases first with
    | skip => exact ⟨earlier, ordered⟩
    | take inside found fresh =>
      obtain ⟨start_le, le_stop, -⟩ := h.found hp inside found
      have admits := Standing.admits_of_not_repeats trails fresh start_le le_stop
      -- What follows is admitted right after this match, so it lies after it.
      have follow := fun span mem =>
        And.intro (admitted span mem).1 ((admitted span mem).2.2 _ rfl)
      rw [Run.spans_after_take, List.forall_mem_cons, List.pairwise_cons]
      exact ⟨⟨admits, earlier⟩, follow, ordered⟩

/-- Every run hands over spans that do not start before it. -/
theorem start_le_of_run (sound : s.Sound) {start : Nat} {state : σ} {run : Run σ}
    (made : s.run visit start state = some run) {span : Span} (mem : span ∈ run.spans) :
    start ≤ span.start := by
  by_cases inRange : (s.query start).InRange
  · have ends := (run_eq_some_iff inRange).mp made
    exact ((ends.ordered sound.closed trivial (Standing.trails_first start state)).1 span mem).1
  · rw [run_of_not_inRange inRange, Option.some.injEq] at made
    subst made
    simp [Run.spans] at mem

/-- **Order.** Whatever the engine answers within the text, from the cursor
on, the scan comes to an end. The matches handed to the visitor start at
`start` or later, each lies before the next and none is repeated; an empty one
never lies where the one before it ended. They are the regions the visitor has
seen, also when the run is halted or fails. -/
theorem ordered_spans (s : Scan) (sound : s.Sound) (visit : σ → Region → σ × Decision)
    (start : Nat) (state : σ) :
    ∃ run, s.run visit start state = some run ∧
      run.state = run.accepted.foldl (fun st region => (visit st region).1) state ∧
      run.accepted.map (fun region => region.span? 0) = run.spans.map some ∧
      (∀ span ∈ run.spans, start ≤ span.start ∧ span.start ≤ span.stop) ∧
      run.spans.Pairwise (fun a b => a.stop ≤ b.start ∧ a.stop < b.stop) ∧
      run.spans.Nodup ∧
      run.spans.Pairwise (fun a b => b.isEmpty → b.start ≠ a.stop) := by
  by_cases inRange : (s.query start).InRange
  · obtain ⟨run, made, ends⟩ := exists_run sound.closed visit state trivial inRange
    obtain ⟨admitted, ordered⟩ :=
      ends.ordered sound.closed trivial (Standing.trails_first start state)
    refine ⟨run, made, ends.state_eq_foldl, ends.map_span_accepted, fun span mem => ?_, ordered,
      ordered.imp Span.Before.ne, ordered.imp fun {a b} before empty => ?_⟩
    · exact ⟨(admitted span mem).1, (admitted span mem).2.1⟩
    · have same := Span.isEmpty_iff.mp empty
      have later := before.2
      omega
  · refine ⟨_, run_of_not_inRange inRange state, ?_⟩
    simp [Run.accepted, Run.spans]

/-- The matches of `a*` in `éaaé`. -/
theorem ordered_spans_star :
    starScan.Sound ∧ starScan.runAll 0 = some starRun ∧
      starRun.spans = [⟨0, 0⟩, ⟨2, 4⟩, ⟨6, 6⟩] ∧ starRun.spans.Nodup := by
  obtain ⟨run, made, -, -, -, -, distinct, -⟩ :=
    ordered_spans starScan starScan_sound (fun u _ => (u, .resume)) 0 ()
  obtain rfl := Option.some.inj (runAll_starScan.symm.trans made)
  exact ⟨starScan_sound, made, rfl, distinct⟩

end Scan

end PatternSearch
