/-
PatternSearch.Proofs.Search.Statuses — the statuses a scan is answered with.

The trace of a run has the cursors the engine was asked from, not what it
answered. `Scan.statuses` puts the same queries to the engine again, each with
the region the one before has left, and lists the statuses.

A scan that ends has been answered a status of -1 or above by every search, one
that fails has failed with the first status below (`Ends.outcome_eq_endOf`).
And a scan that has been led to a search with such a status, by finitely many
rounds, comes to an end there (`Leads.exists_failed`). This holds of all
engines, as nothing but the statuses decides it.
-/
import PatternSearch.Proofs.Search.Answers
import PatternSearch.Proofs.Search.Rules

namespace PatternSearch

open Text

namespace Scan

/-! ## 1. The first failure -/

/-- The statuses of searches from some cursors, one after the other, `past`
searches having been made before. -/
def statuses (s : Scan) : Nat → Region → List Nat → List Int32
  | _, _, [] => []
  | past, region, cursor :: rest =>
    (s.engine.search past (s.query cursor) region.clear).1 ::
      s.statuses (past + 1) (s.engine.search past (s.query cursor) region.clear).2 rest

/-- The first status that is a failure. -/
def firstFailure? (statuses : List Int32) : Option Int32 :=
  statuses.find? (fun status => status < mismatchStatus)

theorem firstFailure?_cons_of_not_lt {status : Int32} (h : ¬ status < mismatchStatus)
    (rest : List Int32) : firstFailure? (status :: rest) = firstFailure? rest := by
  simp [firstFailure?, h]

theorem firstFailure?_cons_of_lt {status : Int32} (h : status < mismatchStatus)
    (rest : List Int32) : firstFailure? (status :: rest) = some status := by
  simp [firstFailure?, h]

/-- How the first failure ends a scan that has none otherwise. -/
def endOf (count : Nat) : Option Int32 → Except Error Nat
  | none => .ok count
  | some status => .error (.ofCode status)

variable {σ : Type} {s : Scan} {past cursor : Nat} {before region : Region} {span : Span}

section Inside

variable (stop_le : s.stop ≤ s.text.size) (inside : cursor ≤ s.stop)

include stop_le inside

/-- From a cursor within the range, a scan goes by the status and the region. -/
theorem ask_eq :
    s.ask past cursor before =
      match answerOfStatus (s.engine.search past (s.query cursor) before.clear).1 with
      | .error e => .error e
      | .ok none => .ok none
      | .ok (some _) =>
        .ok (((s.engine.search past (s.query cursor) before.clear).2.span? 0).map fun span =>
          (span, (s.engine.search past (s.query cursor) before.clear).2)) := by
  have hq : (s.query cursor).InRange := ⟨Nat.le_trans inside stop_le, stop_le⟩
  have found : s.engine.searchAfter past (s.query cursor) before.clear =
      (answerOfStatus (s.engine.search past (s.query cursor) before.clear).1,
        (s.engine.search past (s.query cursor) before.clear).2) := Engine.searchAfter_eq hq rfl
  rw [ask, found]
  cases answerOfStatus (s.engine.search past (s.query cursor) before.clear).1 with
  | error e => rfl
  | ok answer => cases answer <;> rfl

/-- An answer that is an error has a status below the mismatch, and is what that
stands for. -/
theorem status_of_failed {e : Error} (failed : s.ask past cursor before = .error e) :
    (s.engine.search past (s.query cursor) before.clear).1 < mismatchStatus ∧
      e = .ofCode (s.engine.search past (s.query cursor) before.clear).1 := by
  rw [ask_eq stop_le inside] at failed
  rcases status_cases (s.engine.search past (s.query cursor) before.clear).1 with
    ⟨nonneg, -, -⟩ | same | ⟨-, below⟩
  · simp [answerOfStatus_of_nonneg nonneg] at failed
  · simp [same, answerOfStatus_mismatch] at failed
  · rw [answerOfStatus_of_lt below] at failed
    exact ⟨below, (Except.error.inj failed).symm⟩

/-- Any other answer has a status of -1 or above. -/
theorem status_of_answered {found : Option (Span × Region)}
    (answered : s.ask past cursor before = .ok found) :
    ¬ (s.engine.search past (s.query cursor) before.clear).1 < mismatchStatus := by
  intro below
  rw [ask_eq stop_le inside, answerOfStatus_of_lt below] at answered
  simp at answered

/-- The region that comes with a match is the one the search has left. -/
theorem region_of_found (found : s.ask past cursor before = .ok (some (span, region))) :
    (s.engine.search past (s.query cursor) before.clear).2 = region := by
  rw [ask_eq stop_le inside] at found
  cases answer : answerOfStatus (s.engine.search past (s.query cursor) before.clear).1 with
  | error e => simp [answer] at found
  | ok offset =>
    cases offset with
    | none => simp [answer] at found
    | some i =>
      simp only [answer, Except.ok.injEq, Option.map_eq_some_iff, Prod.mk.injEq] at found
      obtain ⟨_, -, -, same⟩ := found
      exact same

/-- After a match, the statuses to come are those from where it has left off. -/
theorem firstFailure?_statuses_of_found (rest : List Nat)
    (found : s.ask past cursor before = .ok (some (span, region))) :
    firstFailure? (s.statuses past before (cursor :: rest)) =
      firstFailure? (s.statuses (past + 1) region rest) := by
  rw [statuses, firstFailure?_cons_of_not_lt (status_of_answered stop_le inside found),
    region_of_found stop_le inside found]

end Inside

theorem cursors_of_asked (state : σ) (cursor : Nat) (outcome : Except Error Nat) :
    Run.cursors ⟨state, [.asked cursor], outcome⟩ = [cursor] := rfl

/-- **The first failure.** A scan fails with the first status below the mismatch;
if there is none, it does not fail. -/
theorem Ends.outcome_eq_endOf {visit : σ → Region → σ × Decision} {st : Standing σ} {r : Run σ}
    (ends : s.Ends visit st r) (stop_le : s.stop ≤ s.text.size) :
    ∃ count, r.outcome =
      endOf count (firstFailure? (s.statuses st.asked st.region r.cursors)) := by
  induction ends with
  | @finish st _ last =>
    cases last with
    | past outside => exact ⟨st.count, rfl⟩
    | failed inside failed =>
      obtain ⟨below, rfl⟩ := status_of_failed stop_le inside failed
      refine ⟨0, ?_⟩
      rw [cursors_of_asked, statuses, firstFailure?_cons_of_lt below]
      rfl
    | absent inside absent =>
      refine ⟨st.count, ?_⟩
      rw [cursors_of_asked, statuses,
        firstFailure?_cons_of_not_lt (status_of_answered stop_le inside absent)]
      rfl
    | @halt span region state inside found =>
      refine ⟨st.count + 1, ?_⟩
      have cursors : Run.cursors
          ⟨state, [.asked st.cursor, .accepted st.count span region], .ok (st.count + 1)⟩ =
            [st.cursor] := rfl
      rw [cursors, firstFailure?_statuses_of_found stop_le inside _ found]
      rfl
  | round first _ ih =>
    cases first with
    | skip inside found =>
      rw [Run.after_outcome, Run.cursors_after_skip,
        firstFailure?_statuses_of_found stop_le inside _ found]
      exact ih
    | take inside found =>
      rw [Run.after_outcome, Run.cursors_after_take,
        firstFailure?_statuses_of_found stop_le inside _ found]
      exact ih

/-! ## 2. Searches a scan is led to -/

/-- Finitely many rounds lead from one standing to another. -/
def Leads (s : Scan) (visit : σ → Region → σ × Decision) : Standing σ → Standing σ → Prop :=
  Relation.ReflTransGen fun st next => ∃ events, s.Round visit st events next

/-- A scan that is led to a search which fails ends there. -/
theorem Leads.exists_failed {visit : σ → Region → σ × Decision} {st there : Standing σ}
    (leads : s.Leads visit st there) (stop_le : s.stop ≤ s.text.size)
    (inside : there.cursor ≤ s.stop)
    (below : (s.engine.search there.asked (s.query there.cursor) there.region.clear).1 <
      mismatchStatus) :
    ∃ r, s.Ends visit st r ∧ r.outcome = .error (.ofCode
      (s.engine.search there.asked (s.query there.cursor) there.region.clear).1) := by
  induction leads using Relation.ReflTransGen.head_induction_on with
  | refl =>
    have failed : s.ask there.asked there.cursor there.region = .error (.ofCode
        (s.engine.search there.asked (s.query there.cursor) there.region.clear).1) := by
      rw [ask_eq stop_le inside, answerOfStatus_of_lt below]
    exact ⟨_, .finish (.failed inside failed), rfl⟩
  | head step _ ih =>
    obtain ⟨events, first⟩ := step
    obtain ⟨r, ends, outcome⟩ := ih
    exact ⟨r.after events, .round first ends, outcome⟩

end Scan

end PatternSearch
