/-
PatternSearch.Proofs.Search.Rules — the scan as a system of rules.

`Round` is a round after which the scan goes on, `Finish` the round it ends
with, and `Ends st r` says that finitely many rounds lead from `st` to the end
of the run `r`. The loop follows these rules and no others: it gives a run if
and only if they end with that run (`loop_eq_some_iff`), and `none` if they end
with none. This holds of every engine.

That a scan comes to an end is something to prove, and `exists_run` proves it
where no answer lies before its cursor. Where the answers lead back, it may not
(`loop_eq_none`).

Everything about runs is then proved by induction on `Ends`, one case for the
rounds and one for the end.

Two assumptions on engines are stated for the queries of one scan only:

* `Scan.Sound` — a match lies within the text, at or after the cursor.
* `Scan.Closed P` — the same for the cursors in `P`, and none of the answers
  to them leads out of `P`. `P` is all offsets, or those between characters.
-/
import PatternSearch.Search.Scan

namespace PatternSearch

open Text

theorem map_eq_ok_iff {ε α β : Type} {f : α → β} {x : Except ε α} {b : β} :
    x.map f = .ok b ↔ ∃ a, x = .ok a ∧ f a = b := by
  cases x with
  | error e => simp [Except.map]
  | ok a => simp [Except.map]

namespace Eventual

variable {α β : Type} {f : α → β} {x : Eventual α}

theorem map_map {γ : Type} (g : β → γ) (f : α → β) (x : Eventual α) :
    (x.map f).map g = x.map (g ∘ f) := by
  rcases x with _ | _ | a <;> rfl

theorem map_eq_ok_iff {b : β} : x.map f = some (.ok b) ↔ ∃ a, x = some (.ok a) ∧ f a = b := by
  rcases x with _ | _ | a <;> simp [map, Except.map]

theorem map_eq_error_iff {e : Error} : x.map f = some (.error e) ↔ x = some (.error e) := by
  rcases x with _ | _ | a <;> simp [map, Except.map]

end Eventual

/-- If every item has a part, the parts there are are the parts of all. -/
theorem filterMap_of_map_eq {α β : Type} {f : α → Option β} {items : List α} {parts : List β}
    (all : items.map f = parts.map some) : items.filterMap f = parts := by
  have same := congrArg (List.filterMap id) all
  simpa [List.filterMap_map, Function.comp_def] using same

/-! ## 1. What a round leaves behind -/

namespace Standing

variable {σ : Type} (st : Standing σ) (span : Span) (region : Region) (state : σ)

@[simp] theorem take_cursor : (st.take span region state).cursor = span.stop := rfl
@[simp] theorem take_last : (st.take span region state).last = some span.stop := rfl
@[simp] theorem take_count : (st.take span region state).count = st.count + 1 := rfl
@[simp] theorem take_state : (st.take span region state).state = state := rfl

end Standing

namespace Scan

variable {σ : Type} (s : Scan) (st : Standing σ) (region : Region)

@[simp] theorem skip_cursor :
    (s.skip st region).cursor = st.cursor + s.advance.width s.text st.cursor := rfl
@[simp] theorem skip_last : (s.skip st region).last = st.last := rfl
@[simp] theorem skip_count : (s.skip st region).count = st.count := rfl
@[simp] theorem skip_state : (s.skip st region).state = st.state := rfl

end Scan

attribute [simp] Event.region? Event.span? Event.cursor?

namespace Run

variable {σ : Type} (r : Run σ) (events : List Event) (cursor number start : Nat) (span : Span)
  (region : Region)

@[simp] theorem after_state : (r.after events).state = r.state := rfl
@[simp] theorem after_outcome : (r.after events).outcome = r.outcome := rfl

@[simp] theorem spans_after_skip :
    (r.after [.asked cursor, .skipped start]).spans = r.spans := rfl
@[simp] theorem accepted_after_skip :
    (r.after [.asked cursor, .skipped start]).accepted = r.accepted := rfl
@[simp] theorem cursors_after_skip :
    (r.after [.asked cursor, .skipped start]).cursors = cursor :: r.cursors := rfl

@[simp] theorem spans_after_take :
    (r.after [.asked cursor, .accepted number span region]).spans = span :: r.spans := rfl
@[simp] theorem accepted_after_take :
    (r.after [.asked cursor, .accepted number span region]).accepted = region :: r.accepted := rfl
@[simp] theorem cursors_after_take :
    (r.after [.asked cursor, .accepted number span region]).cursors = cursor :: r.cursors := rfl

end Run

namespace Scan

variable {σ : Type} {s : Scan} {visit : σ → Region → σ × Decision}

/-- What it means that the engine answers with a match. -/
theorem ask_eq_some_iff {past cursor : Nat} {before region : Region} {span : Span} :
    s.ask past cursor before = .ok (some (span, region)) ↔
      (∃ i, s.engine.searchAfter past (s.query cursor) before.clear = (.ok (some i), region)) ∧
        region.span? 0 = some span := by
  unfold ask
  split
  · rename_i h; simp [h]
  · rename_i h; simp [h]
  · rename_i i r h
    simp only [h, Except.ok.injEq, Option.map_eq_some_iff, Prod.mk.injEq]
    constructor
    · rintro ⟨a, ha, rfl, rfl⟩
      exact ⟨⟨i, rfl, rfl⟩, ha⟩
    · rintro ⟨⟨j, -, rfl⟩, hspan⟩
      exact ⟨span, hspan, rfl, rfl⟩

theorem ne_halt_of_resumes (resumes : ∀ state region, (visit state region).2 = .resume)
    {state state' : σ} {region : Region} : visit state region ≠ (state', .halt) := by
  intro halts
  have := resumes state region
  simp [halts] at this

/-! ## 2. The rules -/

/-- A round after which the scan goes on: what happens in it, and where the
scan stands afterwards. -/
inductive Round (s : Scan) (visit : σ → Region → σ × Decision) (st : Standing σ) :
    List Event → Standing σ → Prop where
  | skip {span : Span} {region : Region} (inside : st.cursor ≤ s.stop)
      (found : s.ask st.asked st.cursor st.region = .ok (some (span, region)))
      (repeats : st.Repeats span) :
      Round s visit st [.asked st.cursor, .skipped span.start] (s.skip st region)
  | take {span : Span} {region : Region} {state : σ} (inside : st.cursor ≤ s.stop)
      (found : s.ask st.asked st.cursor st.region = .ok (some (span, region)))
      (fresh : ¬ st.Repeats span) (resumes : visit st.state region = (state, .resume)) :
      Round s visit st [.asked st.cursor, .accepted st.count span region]
        (st.take span region state)

/-- The round a scan ends with. -/
inductive Finish (s : Scan) (visit : σ → Region → σ × Decision) (st : Standing σ) :
    Run σ → Prop where
  | past (outside : s.stop < st.cursor) : Finish s visit st ⟨st.state, [], .ok st.count⟩
  | failed {e : Error} (inside : st.cursor ≤ s.stop)
      (found : s.ask st.asked st.cursor st.region = .error e) :
      Finish s visit st ⟨st.state, [.asked st.cursor], .error e⟩
  | absent (inside : st.cursor ≤ s.stop)
      (found : s.ask st.asked st.cursor st.region = .ok none) :
      Finish s visit st ⟨st.state, [.asked st.cursor], .ok st.count⟩
  | halt {span : Span} {region : Region} {state : σ} (inside : st.cursor ≤ s.stop)
      (found : s.ask st.asked st.cursor st.region = .ok (some (span, region)))
      (fresh : ¬ st.Repeats span) (halts : visit st.state region = (state, .halt)) :
      Finish s visit st
        ⟨state, [.asked st.cursor, .accepted st.count span region], .ok (st.count + 1)⟩

/-- Finitely many rounds lead from a standing to the end of a run. -/
inductive Ends (s : Scan) (visit : σ → Region → σ × Decision) : Standing σ → Run σ → Prop where
  | finish {st : Standing σ} {r : Run σ} (last : Finish s visit st r) : Ends s visit st r
  | round {st next : Standing σ} {events : List Event} {r : Run σ}
      (first : Round s visit st events next) (rest : Ends s visit next r) :
      Ends s visit st (r.after events)

/-- Where a scan stands, it either ends or goes on. -/
theorem finish_or_round (s : Scan) (visit : σ → Region → σ × Decision) (st : Standing σ) :
    (∃ r, s.Finish visit st r) ∨ ∃ events next, s.Round visit st events next := by
  by_cases inside : st.cursor ≤ s.stop
  · rcases found : s.ask st.asked st.cursor st.region with e | _ | ⟨span, region⟩
    · exact Or.inl ⟨_, .failed inside found⟩
    · exact Or.inl ⟨_, .absent inside found⟩
    · by_cases repeats : st.Repeats span
      · exact Or.inr ⟨_, _, .skip inside found repeats⟩
      · rcases decides : visit st.state region with ⟨state, _ | _⟩
        · exact Or.inr ⟨_, _, .take inside found repeats decides⟩
        · exact Or.inl ⟨_, .halt inside found repeats decides⟩
  · exact Or.inl ⟨_, .past (Nat.lt_of_not_le inside)⟩

/-! ## 3. The loop follows the rules -/

theorem Finish.loop_eq {st : Standing σ} {r : Run σ} (last : s.Finish visit st r) :
    s.loop visit st = some r := by
  rw [loop]
  cases last with
  | past outside => rw [if_neg (Nat.not_le.mpr outside)]
  | failed inside found => simp only [if_pos inside, found]
  | absent inside found => simp only [if_pos inside, found]
  | halt inside found fresh halts => simp only [if_pos inside, found, if_neg fresh, halts]

theorem Round.loop_eq {st next : Standing σ} {events : List Event}
    (first : s.Round visit st events next) :
    s.loop visit st = (s.loop visit next).map (Run.after events) := by
  rw [loop]
  cases first with
  | skip inside found repeats =>
    simp only [if_pos inside, found, if_pos repeats, Course.goOn]
    cases s.loop visit _ <;> rfl
  | take inside found fresh resumes =>
    simp only [if_pos inside, found, if_neg fresh, resumes, Course.goOn]
    cases s.loop visit _ <;> rfl

/-- A run that the loop comes to is one the rules end with. -/
theorem ends_of_loop (st : Standing σ) (r : Run σ) :
    s.loop visit st = some r → s.Ends visit st r := by
  apply loop.partial_correctness s visit (fun st r => s.Ends visit st r)
  intro later ends st r made
  split at made
  · rename_i inside
    split at made
    · rename_i e failed
      cases made
      exact .finish (.failed inside failed)
    · rename_i absent
      cases made
      exact .finish (.absent inside absent)
    · rename_i span region found
      split at made
      · rename_i repeats
        obtain ⟨rest, went, ⟨⟩⟩ := Option.bind_eq_some_iff.mp made
        exact .round (.skip inside found repeats) (ends _ _ went)
      · rename_i fresh
        split at made
        · rename_i state halts
          cases made
          exact .finish (.halt inside found fresh halts)
        · rename_i state resumes
          obtain ⟨rest, went, ⟨⟩⟩ := Option.bind_eq_some_iff.mp made
          exact .round (.take inside found fresh resumes) (ends _ _ went)
  · rename_i outside
    cases made
    exact .finish (.past (Nat.lt_of_not_le outside))

/-- **The loop and the rules.** The loop comes to a run if and only if the
rules end with it, whatever the engine answers. -/
theorem loop_eq_some_iff {st : Standing σ} {r : Run σ} :
    s.loop visit st = some r ↔ s.Ends visit st r := by
  refine ⟨ends_of_loop st r, fun ends => ?_⟩
  induction ends with
  | finish last => exact last.loop_eq
  | round first _ ih => rw [first.loop_eq, ih, Option.map_some]

/-- The rules end with one run at most. -/
theorem Ends.unique {st : Standing σ} {r r' : Run σ} (ends : s.Ends visit st r)
    (other : s.Ends visit st r') : r = r' :=
  Option.some.inj ((loop_eq_some_iff.mpr ends).symm.trans (loop_eq_some_iff.mpr other))

theorem run_of_inRange {start : Nat} (inRange : (s.query start).InRange) (state : σ) :
    s.run visit start state = s.loop visit (.first start state) := by
  rw [run, if_pos inRange]

theorem run_of_not_inRange {start : Nat} (outside : ¬ (s.query start).InRange) (state : σ) :
    s.run visit start state = some ⟨state, [], .error (Engine.rangeError (s.query start))⟩ := by
  rw [run, if_neg outside]

/-- A scan within the text comes to the runs the rules end with. -/
theorem run_eq_some_iff {start : Nat} (inRange : (s.query start).InRange) {state : σ}
    {r : Run σ} :
    s.run visit start state = some r ↔ s.Ends visit (.first start state) r := by
  rw [run_of_inRange inRange, loop_eq_some_iff]

/-! ## 4. Engines that can be relied on -/

/-- Every match the engine answers the scan with lies within the text and
starts at or after the cursor. -/
def Sound (s : Scan) : Prop :=
  ∀ {past cursor : Nat} {before region : Region} {span : Span}, cursor ≤ s.stop →
    s.ask past cursor before = .ok (some (span, region)) →
    cursor ≤ span.start ∧ span.start ≤ span.stop ∧ span.stop ≤ s.text.size

/-- From a cursor in `P`, matches start at or after the cursor, and neither a
match nor a skip leads out of `P`. -/
structure Closed (s : Scan) (P : Nat → Prop) : Prop where
  found : ∀ {past cursor : Nat} {before region : Region} {span : Span}, P cursor →
    cursor ≤ s.stop → s.ask past cursor before = .ok (some (span, region)) →
    cursor ≤ span.start ∧ span.start ≤ span.stop ∧ P span.stop
  skip : ∀ {cursor : Nat}, P cursor → cursor ≤ s.stop →
    P (cursor + s.advance.width s.text cursor)

theorem Sound.closed (h : s.Sound) : s.Closed (fun _ => True) where
  found _ inside found :=
    have within := h inside found
    ⟨within.1, within.2.1, trivial⟩
  skip _ _ := trivial

/-! ## 5. Scans come to an end -/

section Ending

variable {P : Nat → Prop} {st next : Standing σ} {events : List Event}

theorem Round.inside (round : s.Round visit st events next) : st.cursor ≤ s.stop := by
  cases round with
  | skip inside => exact inside
  | take inside => exact inside

variable (h : s.Closed P) (round : s.Round visit st events next) (hp : P st.cursor)

include h round hp

theorem Round.cursor_mem : P next.cursor := by
  cases round with
  | skip inside => exact h.skip hp inside
  | take inside found => exact (h.found hp inside found).2.2

theorem Round.cursor_le : st.cursor ≤ next.cursor := by
  cases round with
  | skip => exact Nat.le_add_right _ _
  | take inside found =>
    obtain ⟨start_le, le_stop, -⟩ := h.found hp inside found
    exact Nat.le_trans start_le le_stop

/-- A round moves the cursor, or a match has just ended there. -/
theorem Round.moves_or_ended :
    st.cursor < next.cursor ∨ (next.cursor = st.cursor ∧ next.last = some next.cursor) := by
  rcases Nat.lt_or_eq_of_le (round.cursor_le h hp) with less | same
  · exact Or.inl less
  · cases round with
    | skip =>
      have := s.advance.width_pos s.text st.cursor
      rw [skip_cursor] at same
      omega
    | take => exact Or.inr ⟨same.symm, rfl⟩

/-- Where a match has just ended, the next round moves the cursor. -/
theorem Round.moves_on (ended : st.last = some st.cursor) : st.cursor < next.cursor := by
  cases round with
  | skip => exact Nat.lt_add_of_pos_right (s.advance.width_pos _ _)
  | @take span _ _ inside found fresh =>
    obtain ⟨start_le, le_stop, -⟩ := h.found hp inside found
    rcases Nat.lt_or_eq_of_le (Nat.le_trans start_le le_stop) with less | same
    · exact less
    · -- The match would be empty, where the last one ended.
      have empty : span.isEmpty := Span.isEmpty_iff.mpr (by omega)
      exact absurd ⟨empty, same ▸ ended⟩ fresh

/-- What is left of a scan: twice the offsets from the cursor to the stop, and
one more if a match may still end at the cursor. -/
def left (s : Scan) (st : Standing σ) : Nat :=
  2 * (s.stop + 1 - st.cursor) + if st.last = some st.cursor then 0 else 1

theorem Round.left_lt : s.left next < s.left st := by
  have inside := round.inside
  rcases round.moves_or_ended h hp with less | ⟨same, ended⟩
  · simp only [left]
    split <;> split <;> omega
  · have fresh : st.last ≠ some st.cursor := fun before =>
      Nat.ne_of_gt (round.moves_on h hp before) same
    rw [left, left, if_pos ended, if_neg fresh, same]
    omega

end Ending

/-- **Termination.** From a cursor in a set the scan cannot leave, the rules
come to an end. -/
theorem exists_ends {P : Nat → Prop} (h : s.Closed P) (visit : σ → Region → σ × Decision)
    (st : Standing σ) (hp : P st.cursor) : ∃ r, s.Ends visit st r := by
  rcases finish_or_round s visit st with ⟨r, last⟩ | ⟨events, next, first⟩
  · exact ⟨r, .finish last⟩
  · obtain ⟨r, rest⟩ := exists_ends h visit next (first.cursor_mem h hp)
    exact ⟨r.after events, .round first rest⟩
termination_by s.left st
decreasing_by exact first.left_lt h hp

/-- A scan within the text comes to an end, by the rules. -/
theorem exists_run {P : Nat → Prop} (h : s.Closed P) (visit : σ → Region → σ × Decision)
    {start : Nat} (state : σ) (hp : P start) (inRange : (s.query start).InRange) :
    ∃ r, s.run visit start state = some r ∧ s.Ends visit (.first start state) r := by
  obtain ⟨r, ends⟩ := exists_ends h visit (.first start state) hp
  exact ⟨r, (run_eq_some_iff inRange).mpr ends, ends⟩

/-- So does a scan whose engine answers within the text, from the cursor on. -/
theorem Sound.exists_run (sound : s.Sound) (visit : σ → Region → σ × Decision) (start : Nat)
    (state : σ) : ∃ r, s.run visit start state = some r := by
  by_cases inRange : (s.query start).InRange
  · obtain ⟨r, made, -⟩ := Scan.exists_run sound.closed visit state trivial inRange
    exact ⟨r, made⟩
  · exact ⟨_, run_of_not_inRange inRange state⟩

/-- **Endless scans.** From cursors of which each is answered with a match that is
not empty and ends at another of them, a visitor that never halts is led on
without an end. -/
theorem loop_eq_none {P : Nat → Prop}
    (resumes : ∀ state region, (visit state region).2 = .resume)
    (circles : ∀ past cursor before, P cursor → cursor ≤ s.stop ∧
      ∃ span region, s.ask past cursor before = .ok (some (span, region)) ∧
        ¬ span.isEmpty ∧ P span.stop) {st : Standing σ} (hp : P st.cursor) :
    s.loop visit st = none := by
  refine Option.eq_none_iff_forall_ne_some.mpr fun r made => ?_
  have ends := ends_of_loop st r made
  clear made
  induction ends with
  | @finish st _ last =>
    obtain ⟨ahead, _, _, answered, -⟩ := circles st.asked st.cursor st.region hp
    cases last with
    | past outside => exact absurd ahead (Nat.not_le.mpr outside)
    | failed _ found | absent _ found => simp [answered] at found
    | halt _ _ _ halts => exact ne_halt_of_resumes resumes halts
  | @round st _ _ _ first _ ih =>
    obtain ⟨-, span, region, answered, full, stays⟩ := circles st.asked st.cursor st.region hp
    cases first with
    | skip _ found repeats =>
      cases answered.symm.trans found
      exact full repeats.1
    | take _ found =>
      cases answered.symm.trans found
      exact ih stays

/-! ## 6. What a run reports

The trace of a run is checked against the rules here: it names the regions the
visitor has seen, where they lie, and how many there are. None of this depends
on the engine. -/

/-- The visitor's state is what the regions handed over make of it. -/
theorem Ends.state_eq_foldl {st : Standing σ} {r : Run σ} (ends : s.Ends visit st r) :
    r.state = r.accepted.foldl (fun state region => (visit state region).1) st.state := by
  induction ends with
  | finish last =>
    cases last with
    | halt _ _ _ halts => simp [Run.accepted, List.filterMap_cons, halts]
    | _ => rfl
  | round first _ ih =>
    cases first with
    | skip => simpa using ih
    | take _ _ _ resumes => simpa [resumes] using ih

/-- A span in the trace is where the region handed over lies. -/
theorem Ends.map_span_accepted {st : Standing σ} {r : Run σ} (ends : s.Ends visit st r) :
    r.accepted.map (fun region => region.span? 0) = r.spans.map some := by
  induction ends with
  | finish last =>
    cases last with
    | halt _ found => simp [Run.accepted, Run.spans, List.filterMap_cons,
        (ask_eq_some_iff.mp found).2]
    | _ => rfl
  | round first _ ih =>
    cases first with
    | skip => simpa using ih
    | take _ found => simpa [(ask_eq_some_iff.mp found).2] using ih

theorem Ends.filterMap_span_accepted {st : Standing σ} {r : Run σ} (ends : s.Ends visit st r) :
    r.accepted.filterMap (fun region => region.span? 0) = r.spans :=
  filterMap_of_map_eq ends.map_span_accepted

theorem Ends.length_accepted {st : Standing σ} {r : Run σ} (ends : s.Ends visit st r) :
    r.accepted.length = r.spans.length := by
  simpa using congrArg List.length ends.map_span_accepted

/-- A run that does not fail answers the number of regions handed over. -/
theorem Ends.outcome_eq {st : Standing σ} {r : Run σ} {n : Nat} (ends : s.Ends visit st r)
    (ok : r.outcome = .ok n) : n = st.count + r.spans.length := by
  induction ends with
  | finish last =>
    cases last with
    | failed => simp at ok
    | _ => simpa [Run.spans, List.filterMap_cons] using ok.symm
  | round first _ ih =>
    have rest := ih ok
    cases first with
    | skip => simpa using rest
    | take =>
      rw [Standing.take_count] at rest
      rw [Run.spans_after_take, List.length_cons]
      omega

/-- Every region handed over is the engine's answer from a cursor in a set the
scan cannot leave. -/
theorem Ends.found_of_mem {P : Nat → Prop} (h : s.Closed P) {st : Standing σ} {r : Run σ}
    (ends : s.Ends visit st r) (hp : P st.cursor) {region : Region} (mem : region ∈ r.accepted) :
    ∃ past cursor before span, P cursor ∧ cursor ≤ s.stop ∧
      s.ask past cursor before = .ok (some (span, region)) := by
  induction ends with
  | finish last =>
    cases last with
    | halt inside found =>
      obtain rfl : region = _ := by simpa [Run.accepted, List.filterMap_cons] using mem
      exact ⟨_, _, _, _, hp, inside, found⟩
    | _ => simp [Run.accepted, List.filterMap_cons] at mem
  | round first _ ih =>
    cases first with
    | skip inside => exact ih (h.skip hp inside) mem
    | take inside found =>
      rcases List.mem_cons.mp mem with rfl | mem
      · exact ⟨_, _, _, _, hp, inside, found⟩
      · exact ih (h.found hp inside found).2.2 mem

/-- Every match handed over is such an answer. -/
theorem Ends.found_of_mem_spans {P : Nat → Prop} (h : s.Closed P) {st : Standing σ} {r : Run σ}
    (ends : s.Ends visit st r) (hp : P st.cursor) {span : Span} (mem : span ∈ r.spans) :
    ∃ past cursor before region, P cursor ∧ cursor ≤ s.stop ∧
      s.ask past cursor before = .ok (some (span, region)) := by
  have here : some span ∈ r.spans.map some := List.mem_map_of_mem mem
  rw [← ends.map_span_accepted] at here
  obtain ⟨region, handed, whole⟩ := List.mem_map.mp here
  obtain ⟨past, cursor, before, _, started, inside, found⟩ := ends.found_of_mem h hp handed
  obtain rfl := Option.some.inj ((ask_eq_some_iff.mp found).2.symm.trans whole)
  exact ⟨past, cursor, before, region, started, inside, found⟩

/-- Every cursor the engine is asked from is one of a set the scan cannot
leave, and not past the last start of a match. -/
theorem Ends.cursor_mem {P : Nat → Prop} (h : s.Closed P) {st : Standing σ} {r : Run σ}
    (ends : s.Ends visit st r) (hp : P st.cursor) {cursor : Nat} (mem : cursor ∈ r.cursors) :
    P cursor ∧ cursor ≤ s.stop := by
  induction ends with
  | finish last =>
    cases last with
    | past => simp [Run.cursors] at mem
    | failed inside | absent inside | halt inside =>
      obtain rfl : cursor = _ := by simpa [Run.cursors, List.filterMap_cons] using mem
      exact ⟨hp, inside⟩
  | round first _ ih =>
    cases first with
    | skip inside =>
      rcases List.mem_cons.mp mem with rfl | mem
      · exact ⟨hp, inside⟩
      · exact ih (h.skip hp inside) mem
    | take inside found =>
      rcases List.mem_cons.mp mem with rfl | mem
      · exact ⟨hp, inside⟩
      · exact ih (h.found hp inside found).2.2 mem

end Scan

end PatternSearch
