/-
PatternSearch.Proofs.Regex.Compiled — what is known of the engine of a
compiled pattern, whatever the pattern is.

Statements about scans leave the engine open and assume as little of it as
they need. Two of these assumptions hold of every regex `Regex.compile`
answers with. It tells where a match lies, with or without a region
(`Engine.Tells`), and it does not change its mind (`Engine.Steady`).

That a search given up is never taken for a match rests on its status being
negative (`Matcher.search_givenUp`).
-/
import PatternSearch.Proofs.Search.Effort
import PatternSearch.Regex.Compile

namespace PatternSearch

open Text Pattern

/-! ## 1. Engines that tell where a match lies -/

/-- The engine fills in where the whole match lies whenever it reports one,
and it answers the same if it is handed no region. -/
structure Engine.Tells (e : Engine) : Prop where
  whole : ∀ {past : Nat} {q : Query} {before : Region}, 0 ≤ (e.search past q before).1 →
    ((e.search past q before).2.span? 0).isSome
  probe : ∀ q, e.probe q = (e.search 0 q .empty).1

theorem Engine.Tells.isSome_span? {e : Engine} (h : e.Tells) {past i : Nat} {q : Query}
    {before region : Region} (found : e.searchAfter past q before = (.ok (some i), region)) :
    (region.span? 0).isSome := by
  obtain ⟨-, status, reported, answer⟩ := search_of_ok found
  have whole : 0 ≤ (e.search past q before).1 → ((e.search past q before).2.span? 0).isSome :=
    h.whole
  rw [reported] at whole
  exact whole (nonneg_of_answerOfStatus answer)

/-- The search without a region is answered like the one with an empty region. -/
theorem Engine.Tells.probeWithParam_eq {e : Engine} (h : e.Tells) (q : Query) :
    e.probeWithParam q = (e.searchAfter 0 q .empty).1 := by
  rw [probeWithParam, h.probe]
  by_cases inRange : q.InRange
  · rw [if_pos inRange, searchAfter_of_inRange inRange]
  · rw [if_neg inRange, searchAfter_of_not_inRange inRange]

/-- The engine of a table of matches tells. -/
theorem Engine.tells_leftmost (found : Nat → Option Nat) : (leftmost found).Tells where
  whole {past q before} reported := by
    simp only [leftmost] at reported ⊢
    split at reported
    · simp [Region.span?_ofSpans]
    · exact absurd (show (0 : Int32) ≤ mismatchStatus from reported) (by decide)
  probe q := by
    simp only [leftmost]
    split <;> rfl

/-! ## 2. Compiled patterns -/

namespace Matcher

/-- The attempts are given up with a status that says so. -/
theorem tryFrom_givenUp {p : Program} {subject : Subject} {next? : Nat → Option Nat}
    {fuel i : Nat} {best : Option Found} {status : Int32}
    (given : tryFrom p subject next? fuel i best = .givenUp status) : status < 0 := by
  fun_induction tryFrom p subject next? fuel i best with
  | case1 _ best => cases best <;> cases given
  | case6 _ _ _ best => cases best <;> cases given
  | case2 => simp at given
  | case3 | case4 =>
    cases given
    decide
  | case5 _ _ _ _ _ _ _ ih => exact ih given

theorem search_givenUp {p : Program} {text : ByteArray} {first last : Nat}
    {options : SearchOptions} {bounds : Bounds} {status : Int32}
    (given : search p text first last options bounds = .givenUp status) : status < 0 := by
  unfold search at given
  split at given
  · cases given
    decide
  · exact tryFrom_givenUp given

end Matcher

/-- **Compiled patterns tell.** -/
theorem Engine.tells_ofProgram (p : Program) : (ofProgram p).Tells where
  whole {past q before} reported := by
    simp only [ofProgram] at reported ⊢
    split at reported
    · simp [regionOf, Region.span?_ofSpans]
    · rename_i others
      -- Without a match, the status is a negative one.
      cases ended : outcome p q with
      | found f => exact absurd ended (others f)
      | none =>
        rw [ended] at reported
        exact absurd (show (0 : Int32) ≤ mismatchStatus from reported) (by decide)
      | givenUp status =>
        rw [ended] at reported
        exact absurd (Matcher.search_givenUp ended) (Int32.not_lt.mpr reported)
  probe q := by
    simp only [ofProgram]
    split
    · rename_i f ended
      rw [ended]
    · rfl

theorem Engine.steady_ofProgram (p : Program) : (ofProgram p).Steady :=
  fun _ _ _ _ _ => rfl

namespace Regex

variable {pattern : ByteArray} {mask : UInt32} {d : Definition} {re : Regex}

/-- Compiling answers with the regex of a program, if with any. -/
theorem exists_ofProgram_of_compile (ok : compile pattern mask d = .ok re) :
    ∃ p flavour?, re = ofProgram p flavour? := by
  unfold compile compileAnswer at ok
  split at ok
  · rename_i p _
    exact ⟨p, d.flavour?, (Except.ok.inj ok).symm⟩
  · simp [CompileAnswer.toExcept] at ok

theorem tells_of_compile (ok : compile pattern mask d = .ok re) : re.Tells := by
  obtain ⟨p, flavour?, rfl⟩ := exists_ofProgram_of_compile ok
  exact Engine.tells_ofProgram p

theorem steady_of_compile (ok : compile pattern mask d = .ok re) : re.Steady := by
  obtain ⟨p, flavour?, rfl⟩ := exists_ofProgram_of_compile ok
  exact Engine.steady_ofProgram p

end Regex

end PatternSearch
