/-
PatternSearch.Proofs.Search.Coverage — a scan of a whole text loses no match.

`whole_scan_complete`: with a leftmost engine and a visitor that never halts,
the scan succeeds, everything it hands over is a match, and every match there
is falls into exactly one of three classes. It has been handed over; or it
starts inside one that has; or it is empty and lies where one that started
before it ends.

The induction (`Ends.covers`) looks at the places not before the cursor, with
one lemma for each kind of round. `Covered` has a fourth class for the time
being: an empty match at the cursor, where the last match has just ended, which
the next round will skip. From the start of a scan no match has ended yet, so
the class is empty there.
-/
import PatternSearch.Proofs.Search.Leftmost
import PatternSearch.Proofs.Search.Order

namespace PatternSearch

open Text

/-! ## 1. Three ways for a match to be accounted for -/

/-- Exactly one of three statements holds. -/
def ExactlyOne (a b c : Prop) : Prop := (a ∧ ¬b ∧ ¬c) ∨ (¬a ∧ b ∧ ¬c) ∨ (¬a ∧ ¬b ∧ c)

namespace Text

/-- One of the spans starts at `p`. -/
def StartsAt (spans : List Span) (p : Nat) : Prop := ∃ m ∈ spans, m.start = p

/-- `p` lies inside one of the spans, at neither end of it. -/
def LiesInside (spans : List Span) (p : Nat) : Prop := ∃ m ∈ spans, m.start < p ∧ p < m.stop

/-- One of the spans starts before `p` and ends there. -/
def EndsAt (spans : List Span) (p : Nat) : Prop := ∃ m ∈ spans, m.start < p ∧ m.stop = p

variable {spans : List Span} {m : Span} {p : Nat}

theorem StartsAt.cons (h : StartsAt spans p) : StartsAt (m :: spans) p :=
  let ⟨n, mem, start⟩ := h
  ⟨n, List.mem_cons_of_mem _ mem, start⟩

theorem LiesInside.cons (h : LiesInside spans p) : LiesInside (m :: spans) p :=
  let ⟨n, mem, inside⟩ := h
  ⟨n, List.mem_cons_of_mem _ mem, inside⟩

theorem EndsAt.cons (h : EndsAt spans p) : EndsAt (m :: spans) p :=
  let ⟨n, mem, stop⟩ := h
  ⟨n, List.mem_cons_of_mem _ mem, stop⟩

/-- Two of several spans that come in order are the same, or one lies before
the other. -/
theorem eq_or_before (ordered : spans.Pairwise Span.Before) {n : Span} (hm : m ∈ spans)
    (hn : n ∈ spans) : m = n ∨ m.Before n ∨ n.Before m :=
  List.Pairwise.forall_of_forall_of_flip (R := fun m n => m = n ∨ m.Before n ∨ n.Before m)
    (fun _ _ => Or.inl rfl) (ordered.imp fun before => Or.inr (Or.inl before))
    (ordered.imp fun before => Or.inr (Or.inr before)) hm hn

variable (ordered : spans.Pairwise Span.Before)

include ordered

theorem StartsAt.not_liesInside (proper : ∀ m ∈ spans, m.start ≤ m.stop) (h : StartsAt spans p) :
    ¬ LiesInside spans p := by
  rintro ⟨n, hn, after, before⟩
  obtain ⟨m, hm, start⟩ := h
  have le := proper m hm
  rcases eq_or_before ordered hm hn with rfl | ⟨apart, -⟩ | ⟨apart, -⟩ <;> omega

/-- An empty span does not start where another one has ended. -/
theorem StartsAt.not_endsAt (empty : ∀ m ∈ spans, m.start = p → m.stop = p)
    (h : StartsAt spans p) : ¬ EndsAt spans p := by
  rintro ⟨n, hn, after, stop⟩
  obtain ⟨m, hm, start⟩ := h
  have same := empty m hm start
  rcases eq_or_before ordered hm hn with rfl | ⟨apart, -⟩ | ⟨-, later⟩ <;> omega

theorem LiesInside.not_endsAt (h : LiesInside spans p) : ¬ EndsAt spans p := by
  rintro ⟨n, hn, after, stop⟩
  obtain ⟨m, hm, start, inside⟩ := h
  rcases eq_or_before ordered hm hn with rfl | ⟨apart, -⟩ | ⟨apart, -⟩ <;> omega

end Text

/-! ## 2. The induction -/

namespace Scan

variable {σ : Type} {s : Scan} {visit : σ → Region → σ × Decision} {found : Nat → Option Nat}

/-- A scan with a leftmost engine and a visitor that never halts succeeds, and
what it hands over are matches of the table. -/
theorem Ends.succeeds (h : s.Leftmost found) (stop_le : s.stop ≤ s.text.size)
    (resumes : ∀ state region, (visit state region).2 = .resume) {st : Standing σ} {r : Run σ}
    (ends : s.Ends visit st r) (rests : s.advance.Rests s.text st.cursor) :
    (∃ n, r.outcome = .ok n) ∧ ∀ span ∈ r.spans, found span.start = some span.stop := by
  induction ends with
  | finish last =>
    cases last with
    | past | absent => simp [Run.spans, List.filterMap_cons]
    | failed inside answer =>
      exact absurd answer (h.ask_ne_error (rests (Nat.le_trans inside stop_le)))
    | halt _ _ _ halts => exact absurd halts (ne_halt_of_resumes resumes)
  | round first _ ih =>
    obtain ⟨ok, matches_⟩ := ih (first.cursor_mem (h.closed stop_le) rests)
    refine ⟨ok, ?_⟩
    cases first with
    | skip => exact matches_
    | take inside answer =>
      have here := (h.of_found (rests (Nat.le_trans inside stop_le)) answer).2.1
      rw [Run.spans_after_take, List.forall_mem_cons]
      exact ⟨here, matches_⟩

/-- A match from `p` to `e` is accounted for in the rest of a run, or is the
empty one at the cursor that is about to be skipped. -/
def Covered (st : Standing σ) (spans : List Span) (p e : Nat) : Prop :=
  StartsAt spans p ∨ LiesInside spans p ∨
    (e = p ∧ (EndsAt spans p ∨ (p = st.cursor ∧ st.last = some p)))

variable {st : Standing σ} {span : Span} {spans : List Span} {region before : Region}
  {past p e : Nat}

/-- A skip loses nothing: the next place is the first one after the cursor,
and the match at the cursor is the one that is skipped. -/
theorem covered_skip (h : s.Leftmost found) (place : s.advance.Place s.text st.cursor)
    (trails : st.Trails)
    (answer : s.ask past st.cursor before = .ok (some (span, region)))
    (repeats : st.Repeats span) (here : found p = some e) (after : st.cursor ≤ p)
    (rest : (s.skip st region).cursor ≤ p → Covered (s.skip st region) spans p e) :
    Covered st spans p e := by
  obtain ⟨start_le, match_, -⟩ := h.of_found place answer
  obtain ⟨empty, last⟩ := repeats
  have stop_eq := Span.isEmpty_iff.mp empty
  have at_cursor : span.stop = st.cursor := by
    have := trails _ last
    omega
  rcases Nat.eq_or_lt_of_le after with rfl | later
  · have same : e = st.cursor := by
      rw [stop_eq, at_cursor] at match_
      exact Option.some.inj (here.symm.trans match_)
    exact Or.inr (Or.inr ⟨same, Or.inr ⟨rfl, at_cursor ▸ last⟩⟩)
  · have next_le := place.next_le (h.within here).2.1 later
    rcases rest next_le with starts | inside | ⟨empty, ends | ⟨-, again⟩⟩
    · exact Or.inl starts
    · exact Or.inr (Or.inl inside)
    · exact Or.inr (Or.inr ⟨empty, Or.inl ends⟩)
    · -- The last match ended at the cursor, not further on.
      have : span.stop = p := Option.some.inj (last.symm.trans again)
      omega

/-- A match that is handed over accounts for what starts in it. -/
theorem covered_take (h : s.Leftmost found) (place : s.advance.Place s.text st.cursor)
    (answer : s.ask past st.cursor before = .ok (some (span, region))) (state : σ)
    (here : found p = some e) (after : st.cursor ≤ p)
    (rest : span.stop ≤ p → Covered (st.take span region state) spans p e) :
    Covered st (span :: spans) p e := by
  obtain ⟨start_le, match_, skipped⟩ := h.of_found place answer
  rcases Nat.lt_trichotomy p span.start with before | rfl | behind
  · simp [skipped p after before] at here
  · exact Or.inl ⟨span, List.mem_cons_self, rfl⟩
  · rcases Nat.lt_or_ge p span.stop with inside | beyond
    · exact Or.inr (Or.inl ⟨span, List.mem_cons_self, behind, inside⟩)
    · rcases rest beyond with starts | inside | ⟨empty, ends | ⟨same, -⟩⟩
      · exact Or.inl starts.cons
      · exact Or.inr (Or.inl inside.cons)
      · exact Or.inr (Or.inr ⟨empty, Or.inl ends.cons⟩)
      · exact Or.inr (Or.inr ⟨empty, Or.inl ⟨span, List.mem_cons_self, behind, same.symm⟩⟩)

/-- Every match that does not start before the cursor is covered. -/
theorem Ends.covers (h : s.Leftmost found) (whole : s.stop = s.text.size)
    (resumes : ∀ state region, (visit state region).2 = .resume) {r : Run σ}
    (ends : s.Ends visit st r) (rests : s.advance.Rests s.text st.cursor) (trails : st.Trails)
    (here : found p = some e) (after : st.cursor ≤ p) : Covered st r.spans p e := by
  have closed := h.closed (Nat.le_of_eq whole)
  induction ends with
  | finish last =>
    cases last with
    | past outside =>
      have := (h.within here).2.1.le
      omega
    | failed inside answer => exact absurd answer (h.ask_ne_error (rests (whole ▸ inside)))
    | absent inside answer =>
      simp [h.of_absent (rests (whole ▸ inside)) answer p after] at here
    | halt _ _ _ halts => exact absurd halts (ne_halt_of_resumes resumes)
  | round first _ ih =>
    have rest := ih (first.cursor_mem closed rests) (first.trails trails)
    cases first with
    | skip inside answer repeats =>
      exact covered_skip h (rests (whole ▸ inside)) trails answer repeats here after rest
    | take inside answer =>
      exact covered_take h (rests (whole ▸ inside)) answer _ here after rest

/-! ## 3. The whole text -/

/-- **Completeness.** A scan of a whole text with a leftmost engine and a
visitor that never halts succeeds. It hands over matches only, and every match
has been handed over, or lies inside one that has, or is empty at the end of
one that started before it; never two of these. -/
theorem whole_scan_complete (s : Scan) (found : Nat → Option Nat) (leftmost : s.Leftmost found)
    (whole : s.stop = s.text.size) (reads : s.advance.Reads s.text)
    (visit : σ → Region → σ × Decision)
    (resumes : ∀ state region, (visit state region).2 = .resume) (state : σ) :
    ∃ run, s.run visit 0 state = some run ∧ run.outcome = .ok run.accepted.length ∧
      run.accepted.map (fun region => region.span? 0) = run.spans.map some ∧
      (∀ m ∈ run.spans, found m.start = some m.stop) ∧
      ∀ p e, found p = some e →
        ExactlyOne (StartsAt run.spans p) (LiesInside run.spans p)
          (e = p ∧ EndsAt run.spans p) := by
  have stop_le := Nat.le_of_eq whole
  have closed := leftmost.closed stop_le
  have rests := (Advance.place_zero reads).rests
  obtain ⟨run, made, ends⟩ := exists_run closed visit state rests ⟨Nat.zero_le _, stop_le⟩
  have trails := Standing.trails_first 0 state
  obtain ⟨⟨n, ok⟩, sound⟩ := ends.succeeds leftmost stop_le resumes rests
  obtain ⟨admitted, ordered⟩ := ends.ordered closed rests trails
  refine ⟨run, made, ?_, ends.map_span_accepted, sound, fun p e here => ?_⟩
  · rw [ok, ends.outcome_eq ok, ends.length_accepted]
    simp [Standing.first]
  · have proper := fun m mem => (admitted m mem).2.1
    have empty (h : e = p) : ∀ m ∈ run.spans, m.start = p → m.stop = p := by
      rintro m mem rfl
      exact h ▸ Option.some.inj ((sound m mem).symm.trans here)
    rcases ends.covers leftmost whole resumes rests trails here (Nat.zero_le p) with
      starts | inside | ⟨same, stops | ⟨-, none⟩⟩
    · exact Or.inl ⟨starts, starts.not_liesInside ordered proper,
        fun ended => starts.not_endsAt ordered (empty ended.1) ended.2⟩
    · exact Or.inr (Or.inl ⟨fun starts => starts.not_liesInside ordered proper inside, inside,
        fun ended => inside.not_endsAt ordered ended.2⟩)
    · exact Or.inr (Or.inr ⟨fun starts => starts.not_endsAt ordered (empty same) stops,
        fun inside => inside.not_endsAt ordered stops, same, stops⟩)
    · simp [Standing.first] at none

/-- In `éaaé`, the match of `a*` at 3 lies inside the one that is handed over,
and the one at 4 is empty at its end. -/
theorem whole_scan_complete_star :
    starScan.Leftmost starMatches ∧ starScan.stop = starScan.text.size ∧
      starScan.advance.Reads starScan.text ∧
      starScan.runAll 0 = some starRun ∧ starRun.spans = [⟨0, 0⟩, ⟨2, 4⟩, ⟨6, 6⟩] ∧
      ∀ p e, starMatches p = some e →
        ExactlyOne (StartsAt starRun.spans p) (LiesInside starRun.spans p)
          (e = p ∧ EndsAt starRun.spans p) := by
  obtain ⟨run, made, -, -, -, one⟩ := whole_scan_complete starScan starMatches starScan_leftmost
    rfl starScan_reads (fun u _ => (u, .resume)) (fun _ _ => rfl) ()
  obtain rfl := Option.some.inj (runAll_starScan.symm.trans made)
  exact ⟨starScan_leftmost, rfl, starScan_reads, made, rfl, one⟩

end Scan

end PatternSearch
