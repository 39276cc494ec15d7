/-
PatternSearch.Proofs.Search.Resumption — stopping a scan after a match and
going on later.

A scan that goes on where a match has ended does not know that one has ended
there. `Unfolds.resumed` says what difference that makes: if the empty match
at that offset is what the engine answers, the resumed scan hands it over,
which the first scan did not; after it both are in the same state. Otherwise
they are from the start. `resumed_run` is the statement for whole runs.
-/
import PatternSearch.Proofs.Search.Unfolding

namespace PatternSearch

open Text

/-- Where no match has just ended, the empty match at the cursor is gathered
as well, and nothing else changes. -/
theorem Unfolds.resumed {ε ρ : Type} {answer : Nat → Except ε (Option (Span × ρ))} {stop : Nat}
    {width : Nat → Nat} {c : Nat} {items : List ρ} {outcome : Except ε Unit}
    (h : Unfolds answer stop width true c items outcome) (le : c ≤ stop) :
    ∃ extra, Unfolds answer stop width false c (extra ++ items) outcome ∧
      ((∃ item, answer c = .ok (some (⟨c, c⟩, item)) ∧ extra = [item]) ∨
        ((∀ item, answer c ≠ .ok (some (⟨c, c⟩, item))) ∧ extra = [])) := by
  cases h with
  | past outside => omega
  | failed inside found =>
    exact ⟨[], .failed inside found, Or.inr ⟨by simp [found], rfl⟩⟩
  | absent inside found =>
    exact ⟨[], .absent inside found, Or.inr ⟨by simp [found], rfl⟩⟩
  | @again _ item _ _ inside found rest =>
    -- The match is taken now, so the second search there is the one that skips it.
    exact ⟨[item], .take inside found (by simp) (.again inside found rest),
      Or.inl ⟨item, found, rfl⟩⟩
  | @take _ _ span item _ _ inside found fresh rest =>
    refine ⟨[], .take inside found (by simp) rest, Or.inr ⟨fun other same => ?_, rfl⟩⟩
    rw [found] at same
    simp only [Except.ok.injEq, Option.some.injEq, Prod.mk.injEq] at same
    exact fresh rfl same.1

namespace Scan

variable {s : Scan}

/-- What follows a match of a scan is gathered from where it ends. -/
theorem unfolded_drop {ended : Bool} {c : Nat} {regions : List Region}
    {outcome : Except Error Unit} (h : s.Unfolded ended c regions outcome) {k : Nat}
    {region : Region} {span : Span} (kth : regions[k]? = some region)
    (here : region.span? 0 = some span) :
    s.Unfolded true span.stop (regions.drop (k + 1)) outcome := by
  induction h generalizing k with
  | past | failed | absent => simp at kth
  | again _ _ _ ih => exact ih kth
  | take _ found _ rest ih =>
    cases k with
    | zero =>
      obtain rfl := Option.some.inj kth
      obtain rfl := Option.some.inj ((span?_of_answer found).symm.trans here)
      exact rest
    | succ k => exact ih kth

/-- **Resumption.** Let a scan with a steady engine that answers within the
text, from the cursor on, come to its end, and let one of its matches end at
or before the stop. The scan from there comes to its end as well. It hands over
what followed that match, and before that one more region exactly if the
engine's answer there is the empty match. -/
theorem resumed_run (s : Scan) (sound : s.Sound) (steady : s.Steady) (start n : Nat)
    (full : Run Unit) (made : s.runAll start = some full) (ok : full.outcome = .ok n) (k : Nat)
    (region : Region) (span : Span) (kth : full.accepted[k]? = some region)
    (here : region.span? 0 = some span) (le : span.stop ≤ s.stop) :
    ∃ (rest : Run Unit) (extra : List Region), s.runAll span.stop = some rest ∧
      rest.accepted = extra ++ full.accepted.drop (k + 1) ∧
      rest.outcome = .ok rest.accepted.length ∧
      ((∃ empty, s.answer span.stop = .ok (some (⟨span.stop, span.stop⟩, empty)) ∧
          empty.span? 0 = some ⟨span.stop, span.stop⟩ ∧ extra = [empty]) ∨
        ((∀ empty, s.answer span.stop ≠ .ok (some (⟨span.stop, span.stop⟩, empty))) ∧
          extra = [])) := by
  have inRange : (s.query start).InRange := inRange_of_ok made ok
  have within : (s.query span.stop).InRange := ⟨Nat.le_trans le inRange.2, inRange.2⟩
  obtain ⟨rest, went, -⟩ :=
    exists_run sound.closed (fun (u : Unit) _ => (u, .resume)) () trivial within
  have whole := runAll_unfolds made sound steady inRange
  rw [ok] at whole
  obtain ⟨extra, gathered, cause⟩ := (unfolded_drop whole kth here).resumed le
  obtain ⟨same, ends⟩ := (runAll_unfolds went sound steady within).unique gathered
  obtain ⟨m, count, -⟩ := map_eq_ok_iff.mp ends
  refine ⟨rest, extra, went, same, ?_, ?_⟩
  · rw [count, runAll_count went count]
  · rcases cause with ⟨empty, found, single⟩ | none
    · exact Or.inl ⟨empty, found, span?_of_answer found, single⟩
    · exact Or.inr none

/-- In `éaaé` the second match of `a*` ends at 4, where there is an empty one:
resumed there, the scan hands it over before the one at 6. -/
theorem resumed_run_star :
    starScan.Sound ∧ starScan.Steady ∧ starScan.runAll 0 = some starRun ∧
      starRun.outcome = .ok 3 ∧ starRun.accepted[1]? = some (.ofSpans [some ⟨2, 4⟩]) ∧
      ∃ rest, starScan.runAll 4 = some rest ∧
        rest.accepted = [.ofSpans [some ⟨4, 4⟩], .ofSpans [some ⟨6, 6⟩]] := by
  obtain ⟨rest, extra, went, same, -, cause⟩ := resumed_run starScan starScan_sound
    starScan_steady 0 3 starRun runAll_starScan rfl 1 (.ofSpans [some ⟨2, 4⟩]) ⟨2, 4⟩ rfl rfl
    (by decide)
  have empty : starScan.answer 4 = .ok (some (⟨4, 4⟩, .ofSpans [some ⟨4, 4⟩])) := by cbv
  refine ⟨starScan_sound, starScan_steady, runAll_starScan, rfl, rfl, rest, went, ?_⟩
  rcases cause with ⟨region, found, -, rfl⟩ | ⟨none, -⟩
  · rw [empty] at found
    cases found
    exact same
  · exact absurd empty (none _)

end Scan

end PatternSearch
