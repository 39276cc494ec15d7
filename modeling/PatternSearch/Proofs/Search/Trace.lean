/-
PatternSearch.Proofs.Search.Trace — what the trace of a scan looks like.

A scan remembers where the last match ended, for as long as it runs. It need
not: all that counts is whether a match has ended right where the cursor is
now, and a skip undoes even that. `Unrolls` are the rules of a scan that knows
no more (`Outlook`). After a match that ended at an offset it asks from there;
if it is answered the empty match there, it asks once more, one step further,
and what it is answered then counts, whatever it is.

* `unrolls_iff_ends` — both scans make the same runs, trace and all. This rests
  on `Standing.repeats_iff` alone: a match repeats the last one only if it is
  empty, at the cursor, and the last one ended there.
* `trace_shape` — what can be read off the rules: matches are numbered without
  gaps, a skip comes right after a match that ended where it is, and so there
  are never two in a row.

The engine's answers may change from one search to the next, and the visitor
may halt.
-/
import PatternSearch.Proofs.Search.Order

namespace PatternSearch

open Text

/-! ## 1. Without a memory -/

/-- Where a scan stands that only knows of the last match whether it ended at
the cursor. -/
structure Outlook (σ : Type) where
  /-- Whether a match has just ended at the cursor. -/
  ended : Bool
  cursor : Nat
  count : Nat
  asked : Nat
  region : Region
  state : σ

namespace Outlook

variable {σ : Type}

/-- Where a scan stands at the beginning. -/
def first (start : Nat) (state : σ) : Outlook σ := ⟨false, start, 0, 0, .empty, state⟩

/-- Where it stands after handing over a match. -/
def take (o : Outlook σ) (span : Span) (region : Region) (state : σ) : Outlook σ :=
  ⟨true, span.stop, o.count + 1, o.asked + 1, region, state⟩

/-- Where it stands after skipping one. -/
def pass (o : Outlook σ) (width : Nat) (region : Region) : Outlook σ :=
  { o with ended := false, cursor := o.cursor + width, asked := o.asked + 1, region }

end Outlook

/-- What is left of a standing when the end of the last match is forgotten. -/
def Standing.outlook {σ : Type} (st : Standing σ) : Outlook σ :=
  ⟨decide (st.last = some st.cursor), st.cursor, st.count, st.asked, st.region, st.state⟩

namespace Scan

/-- The runs of a scan without a memory. -/
inductive Unrolls {σ : Type} (s : Scan) (visit : σ → Region → σ × Decision) :
    Outlook σ → Run σ → Prop where
  | past {o : Outlook σ} (outside : s.stop < o.cursor) :
      Unrolls s visit o ⟨o.state, [], .ok o.count⟩
  | failed {o : Outlook σ} {e : Error} (inside : o.cursor ≤ s.stop)
      (found : s.ask o.asked o.cursor o.region = .error e) :
      Unrolls s visit o ⟨o.state, [.asked o.cursor], .error e⟩
  | absent {o : Outlook σ} (inside : o.cursor ≤ s.stop)
      (found : s.ask o.asked o.cursor o.region = .ok none) :
      Unrolls s visit o ⟨o.state, [.asked o.cursor], .ok o.count⟩
  /-- The empty match where one has just ended is skipped. -/
  | again {o : Outlook σ} {region : Region} {r : Run σ} (ended : o.ended)
      (inside : o.cursor ≤ s.stop)
      (found : s.ask o.asked o.cursor o.region = .ok (some (⟨o.cursor, o.cursor⟩, region)))
      (rest : Unrolls s visit (o.pass (s.advance.width s.text o.cursor) region) r) :
      Unrolls s visit o (r.after [.asked o.cursor, .skipped o.cursor])
  /-- Any other match is handed over. -/
  | take {o : Outlook σ} {span : Span} {region : Region} {state : σ} {r : Run σ}
      (inside : o.cursor ≤ s.stop)
      (found : s.ask o.asked o.cursor o.region = .ok (some (span, region)))
      (fresh : o.ended → span ≠ ⟨o.cursor, o.cursor⟩)
      (resumes : visit o.state region = (state, .resume))
      (rest : Unrolls s visit (o.take span region state) r) :
      Unrolls s visit o (r.after [.asked o.cursor, .accepted o.count span region])
  | halt {o : Outlook σ} {span : Span} {region : Region} {state : σ} (inside : o.cursor ≤ s.stop)
      (found : s.ask o.asked o.cursor o.region = .ok (some (span, region)))
      (fresh : o.ended → span ≠ ⟨o.cursor, o.cursor⟩)
      (halts : visit o.state region = (state, .halt)) :
      Unrolls s visit o
        ⟨state, [.asked o.cursor, .accepted o.count span region], .ok (o.count + 1)⟩

/-! ## 2. The same runs -/

variable {σ : Type} {s : Scan} {visit : σ → Region → σ × Decision} {P : Nat → Prop}
  {st : Standing σ} {r : Run σ}

/-- A match is skipped for the same reason with a memory and without. -/
theorem repeats_iff_outlook {span : Span} (trails : st.Trails) (start_le : st.cursor ≤ span.start)
    (le_stop : span.start ≤ span.stop) :
    st.Repeats span ↔ st.outlook.ended ∧ span = ⟨st.outlook.cursor, st.outlook.cursor⟩ := by
  rw [Standing.repeats_iff trails start_le le_stop]
  simp [Standing.outlook]

theorem outlook_take (span : Span) (region : Region) (state : σ) :
    (st.take span region state).outlook = st.outlook.take span region state := by
  simp [Standing.outlook, Standing.take, Outlook.take]

/-- After a skip no match has ended where the scan goes on. -/
theorem outlook_skip (last : st.outlook.ended) (region : Region) :
    (s.skip st region).outlook =
      st.outlook.pass (s.advance.width s.text st.outlook.cursor) region := by
  have pos := s.advance.width_pos s.text st.cursor
  have last : st.last = some st.cursor := of_decide_eq_true last
  simp only [Standing.outlook, skip, Outlook.pass, last, Outlook.mk.injEq, and_self, and_true,
    decide_eq_false_iff_not, Option.some.injEq]
  omega

theorem Ends.unrolls (h : s.Closed P) (ends : s.Ends visit st r) (hp : P st.cursor)
    (trails : st.Trails) : s.Unrolls visit st.outlook r := by
  induction ends with
  | finish last =>
    cases last with
    | past outside => exact .past outside
    | failed inside found => exact .failed inside found
    | absent inside found => exact .absent inside found
    | halt inside found fresh halts =>
      obtain ⟨start_le, le_stop, -⟩ := h.found hp inside found
      rw [repeats_iff_outlook trails start_le le_stop, not_and] at fresh
      exact .halt inside found fresh halts
  | round first _ ih =>
    have rest := ih (first.cursor_mem h hp) (first.trails trails)
    cases first with
    | skip inside found repeats =>
      obtain ⟨start_le, le_stop, -⟩ := h.found hp inside found
      obtain ⟨last, rfl⟩ := (repeats_iff_outlook trails start_le le_stop).mp repeats
      rw [outlook_skip last] at rest
      exact .again last inside found rest
    | take inside found fresh resumes =>
      obtain ⟨start_le, le_stop, -⟩ := h.found hp inside found
      rw [repeats_iff_outlook trails start_le le_stop, not_and] at fresh
      rw [outlook_take] at rest
      exact .take inside found fresh resumes rest

theorem Unrolls.ends (h : s.Closed P) {o : Outlook σ} (unrolls : s.Unrolls visit o r)
    (same : st.outlook = o) (hp : P st.cursor) (trails : st.Trails) : s.Ends visit st r := by
  induction unrolls generalizing st with
  | past outside =>
    subst same
    exact .finish (.past outside)
  | failed inside found =>
    subst same
    exact .finish (.failed inside found)
  | absent inside found =>
    subst same
    exact .finish (.absent inside found)
  | again ended inside found _ ih =>
    subst same
    have repeats := (repeats_iff_outlook trails (Nat.le_refl _) (Nat.le_refl _)).mpr ⟨ended, rfl⟩
    have round : s.Round visit st _ _ := .skip inside found repeats
    exact .round round (ih (outlook_skip ended _) (round.cursor_mem h hp) (round.trails trails))
  | take inside found fresh resumes _ ih =>
    subst same
    obtain ⟨start_le, le_stop, -⟩ := h.found hp inside found
    have fresh := mt (repeats_iff_outlook trails start_le le_stop).mp (not_and.mpr fresh)
    have round : s.Round visit st _ _ := .take inside found fresh resumes
    exact .round round (ih (outlook_take _ _ _) (round.cursor_mem h hp) (round.trails trails))
  | halt inside found fresh halts =>
    subst same
    obtain ⟨start_le, le_stop, -⟩ := h.found hp inside found
    have fresh := mt (repeats_iff_outlook trails start_le le_stop).mp (not_and.mpr fresh)
    exact .finish (.halt inside found fresh halts)

/-- With and without a memory, a scan makes the same runs. -/
theorem unrolls_iff_ends (h : s.Closed P) (hp : P st.cursor) (trails : st.Trails) :
    s.Unrolls visit st.outlook r ↔ s.Ends visit st r :=
  ⟨fun unrolls => unrolls.ends h rfl hp trails, fun ends => ends.unrolls h hp trails⟩

/-- A scan within the text comes to the run there is without a memory. -/
theorem unrolls_iff_run_eq (sound : s.Sound) {start : Nat} {state : σ}
    (inRange : (s.query start).InRange) :
    s.Unrolls visit (.first start state) r ↔ s.run visit start state = some r := by
  rw [run_eq_some_iff inRange]
  exact unrolls_iff_ends sound.closed trivial (Standing.trails_first start state)

end Scan

/-! ## 3. Reading a trace -/

namespace Event

/-- The number of the match handed to the visitor. -/
def number? : Event → Option Nat
  | accepted number _ _ => some number
  | _ => none

/-- Whether the event leaves a line in a log. -/
def isLogged (e : Event) : Bool := e.logLine?.isSome

end Event

/-- What a run leaves in a log: the matches handed over and those skipped. -/
def Run.logged {σ : Type} (r : Run σ) : List Event := r.trace.filter Event.isLogged

/-- In front of every skip stands the query from its offset, and in front of
that a match that ends there. -/
def SkipsFollow (trace : List Event) : Prop :=
  ∀ before start later, trace = before ++ .skipped start :: later →
    ∃ earlier number span region,
      before = earlier ++ [.accepted number span region, .asked start] ∧ span.stop = start

/-- Where an item may stand in a list that begins with two others. -/
theorem cons_cons_eq_append_cons {α : Type} {a b x : α} {rest before later : List α}
    (split : a :: b :: rest = before ++ x :: later) :
    (before = [] ∧ x = a) ∨ (before = [a] ∧ x = b) ∨
      ∃ more, before = a :: b :: more ∧ rest = more ++ x :: later := by
  rcases before with _ | ⟨c, _ | ⟨d, more⟩⟩
  · exact Or.inl ⟨rfl, (List.cons.inj split).1.symm⟩
  · simp only [List.cons_append, List.nil_append, List.cons.injEq] at split
    obtain ⟨rfl, rfl, -⟩ := split
    exact Or.inr (Or.inl ⟨rfl, rfl⟩)
  · simp only [List.cons_append, List.cons.injEq] at split
    obtain ⟨rfl, rfl, same⟩ := split
    exact Or.inr (Or.inr ⟨more, rfl, same⟩)

/-- In a log a skip directly follows the match that ends there. -/
theorem Run.logged_skip {σ : Type} {r : Run σ} (follow : SkipsFollow r.trace)
    {before later : List Event} {start : Nat}
    (split : r.logged = before ++ .skipped start :: later) :
    ∃ earlier number span region,
      before = earlier ++ [.accepted number span region] ∧ span.stop = start := by
  obtain ⟨front, back, cut, rfl, rest⟩ := List.filter_eq_append_iff.mp split
  obtain ⟨queries, others, rfl, silent, -, -⟩ := List.filter_eq_cons_iff.mp rest
  rw [← List.append_assoc] at cut
  obtain ⟨earlier, number, span, region, same, stop⟩ := follow _ _ _ cut
  have none : queries.filter Event.isLogged = [] := List.filter_eq_nil_iff.mpr silent
  refine ⟨earlier.filter Event.isLogged, number, span, region, ?_, stop⟩
  calc front.filter Event.isLogged
    _ = (front ++ queries).filter Event.isLogged := by
      rw [List.filter_append, none, List.append_nil]
    _ = earlier.filter Event.isLogged ++ [.accepted number span region] := by
      rw [same, List.filter_append]
      rfl

/-- In a log no two skips follow each other. -/
theorem Run.logged_ne_skips {σ : Type} {r : Run σ} (follow : SkipsFollow r.trace)
    (before : List Event) (offset other : Nat) (later : List Event) :
    r.logged ≠ before ++ .skipped offset :: .skipped other :: later := by
  intro split
  rw [List.append_cons] at split
  obtain ⟨earlier, number, span, region, same, -⟩ := Run.logged_skip follow split
  have last := congrArg List.getLast? same
  simp at last

namespace Scan

variable {σ : Type} {s : Scan} {visit : σ → Region → σ × Decision} {o : Outlook σ} {r : Run σ}

/-- Matches are numbered without gaps. -/
theorem Unrolls.numbers (unrolls : s.Unrolls visit o r) :
    r.trace.filterMap Event.number? = List.range' o.count r.accepted.length := by
  induction unrolls with
  | past | failed | absent | halt => rfl
  | again _ _ _ _ ih => exact ih
  | take _ _ _ _ _ ih => exact congrArg (_ :: ·) ih

/-- A skip follows a match that ends there, or such a match has come before
the first event. -/
theorem Unrolls.skip_follows (unrolls : s.Unrolls visit o r) {before later : List Event}
    {start : Nat} (split : r.trace = before ++ .skipped start :: later) :
    (∃ earlier number span region,
      before = earlier ++ [.accepted number span region, .asked start] ∧ span.stop = start) ∨
    (o.ended ∧ start = o.cursor ∧ before = [.asked start]) := by
  induction unrolls generalizing before with
  | past => simp at split
  | failed | absent | halt => simp [List.cons_eq_append_iff] at split
  | again ended _ _ _ ih =>
    rcases cons_cons_eq_append_cons split with ⟨-, same⟩ | ⟨rfl, same⟩ | ⟨more, rfl, rest⟩
    · cases same
    · cases same
      exact Or.inr ⟨ended, rfl, rfl⟩
    · -- No match has ended where the scan goes on, so the next skip is not the first event.
      rcases ih rest with ⟨earlier, number, span, region, rfl, stop⟩ | ⟨again, -⟩
      · exact Or.inl ⟨_ :: _ :: earlier, number, span, region, rfl, stop⟩
      · cases again
  | @take o span region _ _ _ _ _ _ _ ih =>
    rcases cons_cons_eq_append_cons split with ⟨-, same⟩ | ⟨-, same⟩ | ⟨more, rfl, rest⟩
    · cases same
    · cases same
    · rcases ih rest with ⟨earlier, number, span, region, rfl, stop⟩ | ⟨-, rfl, rfl⟩
      · exact Or.inl ⟨_ :: _ :: earlier, number, span, region, rfl, stop⟩
      · exact Or.inl ⟨[.asked o.cursor], o.count, span, region, rfl, rfl⟩

/-- A scan begins with no match, so every skip follows one. -/
theorem Unrolls.skipsFollow {start : Nat} {state : σ}
    (unrolls : s.Unrolls visit (.first start state) r) : SkipsFollow r.trace := by
  intro before offset later split
  rcases unrolls.skip_follows split with follows | ⟨ended, -⟩
  · exact follows
  · cases ended

/-- **The trace of a scan.** Let the engine answer within the text, from the
cursor on. Whatever its answers are and whatever the visitor does, the matches
handed over are numbered from 0 without gaps. Every skip comes right after a
match that ended where it is, with the cursor there, so that in a log no two
skips follow each other. And a scan within the text makes exactly the run that
the rules without a memory allow. -/
theorem trace_shape (s : Scan) (sound : s.Sound) (visit : σ → Region → σ × Decision)
    (start : Nat) (state : σ) :
    ∃ run, s.run visit start state = some run ∧
      (run.trace.filterMap Event.number? = List.range run.accepted.length) ∧
      SkipsFollow run.trace ∧
      (∀ before offset later, run.logged = before ++ .skipped offset :: later →
        ∃ earlier number span region,
          before = earlier ++ [.accepted number span region] ∧ span.stop = offset) ∧
      (∀ before offset other later,
        run.logged ≠ before ++ .skipped offset :: .skipped other :: later) ∧
      ((s.query start).InRange → ∀ r : Run σ,
        s.Unrolls visit (.first start state) r ↔ r = run) ∧
      (¬ (s.query start).InRange →
        run = ⟨state, [], .error (Engine.rangeError (s.query start))⟩) := by
  by_cases inRange : (s.query start).InRange
  · obtain ⟨run, made, -⟩ := exists_run sound.closed visit state trivial inRange
    have unrolls := (unrolls_iff_run_eq sound inRange).mpr made
    have follow := unrolls.skipsFollow
    refine ⟨run, made, ?_, follow, fun before offset later => Run.logged_skip follow,
      Run.logged_ne_skips follow, fun _ r => ?_, fun outside => absurd inRange outside⟩
    · rw [unrolls.numbers, List.range_eq_range']
      rfl
    · rw [unrolls_iff_run_eq sound inRange, made, Option.some.injEq, eq_comm]
  · have follow : SkipsFollow [] := fun _ _ _ split => by simp at split
    exact ⟨_, run_of_not_inRange inRange state, rfl, follow,
      fun before offset later => Run.logged_skip follow, Run.logged_ne_skips follow,
      fun within => absurd within inRange, fun _ => rfl⟩

/-- The matches of `a*` in `éaaé`: each of them is followed by a skip. A scan from
7, which is past the end, leaves no trace. -/
theorem trace_shape_star :
    starScan.Sound ∧ (starScan.query 0).InRange ∧ ¬ (starScan.query 7).InRange ∧
      starScan.runAll 0 = some starRun ∧
      starRun.logged =
        [.accepted 0 ⟨0, 0⟩ (.ofSpans [some ⟨0, 0⟩]), .skipped 0,
          .accepted 1 ⟨2, 4⟩ (.ofSpans [some ⟨2, 4⟩]), .skipped 4,
          .accepted 2 ⟨6, 6⟩ (.ofSpans [some ⟨6, 6⟩]), .skipped 6] ∧
      SkipsFollow starRun.trace ∧
      starScan.Unrolls (fun u _ => (u, .resume)) (.first 0 ()) starRun ∧
      ∃ beyond, starScan.runAll 7 = some beyond ∧ beyond.trace = [] := by
  have inside : (starScan.query 0).InRange := by decide
  have outside : ¬ (starScan.query 7).InRange := by decide
  obtain ⟨run, made, -, follow, -, -, only, -⟩ :=
    trace_shape starScan starScan_sound (fun u _ => (u, .resume)) 0 ()
  obtain rfl := Option.some.inj (runAll_starScan.symm.trans made)
  obtain ⟨beyond, refused, -, -, -, -, -, empty⟩ :=
    trace_shape starScan starScan_sound (fun u _ => (u, .resume)) 7 ()
  exact ⟨starScan_sound, inside, outside, made, rfl, follow, (only inside _).mpr rfl, beyond,
    refused, congrArg Run.trace (empty outside)⟩

end Scan

end PatternSearch
