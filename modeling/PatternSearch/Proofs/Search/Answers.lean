/-
PatternSearch.Proofs.Search.Answers — statuses as answers.

A status is an offset, the mismatch or a failure, and `status_cases` keeps
these apart. What `answerOfStatus` makes of a status, and what a status is
that it has made an answer of, are lemmas in pairs.
-/
import Mathlib
import PatternSearch.Search.Engine

namespace PatternSearch

theorem mismatchStatus_toInt : mismatchStatus.toInt = -1 := by decide

/-- A status is an offset, the mismatch, or below the mismatch. -/
theorem status_cases (status : Int32) :
    (0 ≤ status ∧ ¬ status < mismatchStatus ∧ status ≠ mismatchStatus) ∨
      status = mismatchStatus ∨ (¬ 0 ≤ status ∧ status < mismatchStatus) := by
  by_cases same : status = mismatchStatus
  · exact Or.inr (Or.inl same)
  · have apart : status.toInt ≠ -1 := by
      rw [← mismatchStatus_toInt]
      exact fun eq => same (Int32.toInt_inj.mp eq)
    have zero : (0 : Int32).toInt = 0 := by decide
    rw [Int32.le_iff_toInt_le, Int32.lt_iff_toInt_lt, mismatchStatus_toInt, zero]
    rcases Int.lt_or_le status.toInt 0 with negative | nonneg
    · exact Or.inr (Or.inr ⟨by omega, by omega⟩)
    · exact Or.inl ⟨nonneg, by omega, same⟩

variable {status : Int32}

theorem answerOfStatus_of_nonneg (nonneg : 0 ≤ status) :
    answerOfStatus status = .ok (some status.toInt.toNat) :=
  if_pos nonneg

theorem answerOfStatus_mismatch : answerOfStatus mismatchStatus = .ok none := rfl

theorem answerOfStatus_of_lt (below : status < mismatchStatus) :
    answerOfStatus status = .error (.ofCode status) := by
  rcases status_cases status with ⟨-, above, -⟩ | rfl | ⟨negative, -⟩
  · exact absurd below above
  · exact absurd below (by decide)
  · rw [answerOfStatus, if_neg negative, if_neg fun same => by simp [same] at below]

theorem nonneg_of_answerOfStatus {i : Nat} (found : answerOfStatus status = .ok (some i)) :
    0 ≤ status := by
  rcases status_cases status with ⟨nonneg, -⟩ | rfl | ⟨-, below⟩
  · exact nonneg
  · simp [answerOfStatus_mismatch] at found
  · simp [answerOfStatus_of_lt below] at found

theorem not_lt_of_answerOfStatus {found : Option Nat} (ok : answerOfStatus status = .ok found) :
    ¬ status < mismatchStatus := by
  intro below
  rw [answerOfStatus_of_lt below] at ok
  cases ok

/-- A failure is the error its status stands for. -/
theorem eq_ofCode_of_answerOfStatus {e : Error} (failed : answerOfStatus status = .error e) :
    e = .ofCode status := by
  rcases status_cases status with ⟨nonneg, -⟩ | rfl | ⟨-, below⟩
  · simp [answerOfStatus_of_nonneg nonneg] at failed
  · simp [answerOfStatus_mismatch] at failed
  · rw [answerOfStatus_of_lt below] at failed
    exact (Except.error.inj failed).symm

/-- An offset read off a status is that status again. -/
theorem ofNat_toNat_toInt (nonneg : 0 ≤ status) : Int32.ofNat status.toInt.toNat = status := by
  have zero : (0 : Int32).toInt = 0 := by decide
  rw [Int32.le_iff_toInt_le, zero] at nonneg
  rw [← Int32.ofInt_eq_ofNat, Int.toNat_of_nonneg nonneg, Int32.ofInt_toInt]

/-- An offset that fits in a status is one. -/
theorem answerOfStatus_ofNat {p : Nat} (fits : p < 2 ^ 31) :
    answerOfStatus (Int32.ofNat p) = .ok (some p) := by
  have value := Int32.toInt_ofNat_of_lt fits
  have nonneg : 0 ≤ Int32.ofNat p := by
    rw [Int32.le_iff_toInt_le, value]
    exact Int.natCast_nonneg p
  rw [answerOfStatus_of_nonneg nonneg, value]
  rfl

/-- Within the text, a search is answered the engine's status. -/
theorem Engine.searchAfter_eq {e : Engine} {past : Nat} {q : Query} {before region : Region}
    (inRange : q.InRange) (answered : e.search past q before = (status, region)) :
    e.searchAfter past q before = (answerOfStatus status, region) := by
  rw [searchAfter_of_inRange inRange, answered]

/-- A search that does not fail is within the text, and its answer is a status. -/
theorem Engine.search_of_ok {e : Engine} {past : Nat} {q : Query} {before region : Region}
    {found : Option Nat} (ok : e.searchAfter past q before = (.ok found, region)) :
    q.InRange ∧ ∃ status, e.search past q before = (status, region) ∧
      answerOfStatus status = .ok found := by
  by_cases inRange : q.InRange
  · rw [searchAfter_eq inRange rfl] at ok
    obtain ⟨answered, rfl⟩ := Prod.mk.inj ok
    exact ⟨inRange, _, rfl, answered⟩
  · rw [searchAfter_of_not_inRange inRange] at ok
    cases ok

end PatternSearch
