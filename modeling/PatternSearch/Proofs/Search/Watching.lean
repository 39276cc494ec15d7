/-
PatternSearch.Proofs.Search.Watching — visitors that never halt.

Such a visitor has no influence on a scan: it only watches. The rules that lead
one of them through a scan lead any other through it (`Ends.watch`), so what it
makes of a scan can be computed from the regions of the run that belongs to no
visitor in particular (`run_watch`).

Everything that is collected from a text, by iterators, by splitting and
replacing and for a host, is therefore made of the same list, the regions of
all matches (`collect_eq`). None of this depends on the engine. It also holds
of scans that never come to an end: then none of them does.
-/
import PatternSearch.Proofs.Search.Rules

namespace PatternSearch

variable {σ τ : Type}

/-- The standing of the same scan with another visitor. -/
def Standing.withState (st : Standing τ) (state : σ) : Standing σ :=
  ⟨st.cursor, st.last, st.count, st.asked, st.region, state⟩

namespace Scan

variable {s : Scan}

/-! ## 1. One visitor in the place of another -/

/-- Where a visitor that never halts has been led through a scan, another is
led through the same scan. -/
theorem Ends.watch {visit : τ → Region → τ × Decision}
    (resumes : ∀ state region, (visit state region).2 = .resume) {st : Standing τ} {r : Run τ}
    (ends : s.Ends visit st r) (f : σ → Region → σ) (state : σ) :
    s.Ends (fun state region => (f state region, .resume)) (st.withState state)
      ⟨r.accepted.foldl f state, r.trace, r.outcome⟩ := by
  induction ends generalizing state with
  | finish last =>
    cases last with
    | past outside => exact .finish (.past outside)
    | failed inside found => exact .finish (.failed inside found)
    | absent inside found => exact .finish (.absent inside found)
    | halt _ _ _ halts => exact absurd halts (ne_halt_of_resumes resumes)
  | @round st _ _ _ first _ ih =>
    cases first with
    | @skip span region inside found repeats =>
      have round : s.Round (fun state region => (f state region, .resume)) (st.withState state)
        _ (s.skip (st.withState state) region) := .skip inside found repeats
      exact .round round (ih state)
    | @take span region _ inside found fresh =>
      have round : s.Round (fun state region => (f state region, .resume)) (st.withState state)
        _ ((st.withState state).take span region (f state region)) :=
          .take inside found fresh rfl
      exact .round round (ih (f state region))

/-- What a visitor that never halts makes of a scan. -/
theorem run_watch (s : Scan) (f : σ → Region → σ) (start : Nat) (state : σ) :
    s.run (fun state region => (f state region, .resume)) start state =
      (s.runAll start).map fun full =>
        ⟨full.accepted.foldl f state, full.trace, full.outcome⟩ := by
  by_cases inRange : (s.query start).InRange
  · rcases made : s.runAll start with _ | full
    · -- If this scan came to an end, the other would have.
      refine Option.eq_none_iff_forall_ne_some.mpr fun r other => ?_
      have watched := ((run_eq_some_iff inRange).mp other).watch (fun _ _ => rfl)
        (fun (u : Unit) _ => u) ()
      rw [runAll, (run_eq_some_iff inRange).mpr watched] at made
      cases made
    · have ends := (run_eq_some_iff inRange).mp made
      exact (run_eq_some_iff inRange).mpr (ends.watch (fun _ _ => rfl) f state)
  · rw [runAll, run_of_not_inRange inRange, run_of_not_inRange inRange]
    rfl

/-! ## 2. What is collected -/

/-- The regions of all matches, in order. -/
def regions (s : Scan) (start : Nat) : Eventual (List Region) :=
  (s.runAll start).map fun full => full.outcome.map fun _ => full.accepted

theorem regions_eq_ok_iff {start : Nat} {rs : List Region} :
    s.regions start = some (.ok rs) ↔
      ∃ full n, s.runAll start = some full ∧ full.outcome = .ok n ∧ full.accepted = rs := by
  simp only [regions, Option.map_eq_some_iff, PatternSearch.map_eq_ok_iff]
  exact ⟨fun ⟨full, made, n, ok, same⟩ => ⟨full, n, made, ok, same⟩,
    fun ⟨full, n, made, ok, same⟩ => ⟨full, made, n, ok, same⟩⟩

/-- What is written down of all matches is what is written down of each. -/
theorem collect_eq {α : Type} (s : Scan) (note : Region → List α) (start : Nat) :
    s.collect note start = (s.regions start).map fun rs => rs.flatMap note := by
  rw [collect, run_watch s (fun notes region => notes ++ note region), regions]
  cases s.runAll start with
  | none => rfl
  | some full =>
    simp only [Option.map_some, Eventual.map, ← List.flatMap_eq_foldl]
    cases full.outcome <;> rfl

end Scan

end PatternSearch
