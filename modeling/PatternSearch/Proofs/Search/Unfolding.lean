/-
PatternSearch.Proofs.Search.Unfolding — a scan as single searches, one after
the other.

A scan can do without remembering where the last match ended (`Scan.Unrolls`),
but it still counts its searches and matches, and makes a trace. `Unfolds` does
without all of this. It knows a cursor and whether a match has just ended there.
If one has, and the answer is the empty match at the cursor, the next search is
made one step further and its answer counts, whatever it is. Anyone who can ask
for a first match can follow these rules, so the answers are a parameter.

* `Unfolds.unique` — the rules leave no choice.
* `Scan.Ends.unfolds` — with a steady engine, whose answers do not depend on
  how many there have been, a run of a scan follows them.
-/
import PatternSearch.Proofs.Search.Effort
import PatternSearch.Proofs.Search.Trace

namespace PatternSearch

open Text

/-! ## 1. The rules -/

/-- What is gathered match by match from a cursor on, and whether it ends
without an error. The flag says that a match has just ended at the cursor. -/
inductive Unfolds {ε ρ : Type} (answer : Nat → Except ε (Option (Span × ρ))) (stop : Nat)
    (width : Nat → Nat) : Bool → Nat → List ρ → Except ε Unit → Prop where
  | past {ended : Bool} {c : Nat} (outside : stop < c) :
      Unfolds answer stop width ended c [] (.ok ())
  | failed {ended : Bool} {c : Nat} {e : ε} (inside : c ≤ stop) (found : answer c = .error e) :
      Unfolds answer stop width ended c [] (.error e)
  | absent {ended : Bool} {c : Nat} (inside : c ≤ stop) (found : answer c = .ok none) :
      Unfolds answer stop width ended c [] (.ok ())
  /-- The empty match where one has just ended does not count. -/
  | again {c : Nat} {item : ρ} {items : List ρ} {outcome : Except ε Unit} (inside : c ≤ stop)
      (found : answer c = .ok (some (⟨c, c⟩, item)))
      (rest : Unfolds answer stop width false (c + width c) items outcome) :
      Unfolds answer stop width true c items outcome
  | take {ended : Bool} {c : Nat} {span : Span} {item : ρ} {items : List ρ}
      {outcome : Except ε Unit} (inside : c ≤ stop)
      (found : answer c = .ok (some (span, item))) (fresh : ended = true → span ≠ ⟨c, c⟩)
      (rest : Unfolds answer stop width true span.stop items outcome) :
      Unfolds answer stop width ended c (item :: items) outcome

namespace Unfolds

variable {ε ρ : Type} {answer : Nat → Except ε (Option (Span × ρ))} {stop : Nat}
  {width : Nat → Nat} {ended : Bool} {c : Nat} {items others : List ρ}
  {outcome other : Except ε Unit}

/-- What is gathered is determined by the answers. -/
theorem unique (h : Unfolds answer stop width ended c items outcome)
    (h' : Unfolds answer stop width ended c others other) : items = others ∧ outcome = other := by
  induction h generalizing others other with
  | past outside =>
    cases h' with
    | past => exact ⟨rfl, rfl⟩
    | failed inside | absent inside | again inside | take inside => omega
  | failed inside found =>
    cases h' with
    | past => omega
    | failed _ found' =>
      rw [found] at found'
      cases found'
      exact ⟨rfl, rfl⟩
    | absent _ found' | again _ found' | take _ found' => simp [found] at found'
  | absent inside found =>
    cases h' with
    | past => omega
    | absent => exact ⟨rfl, rfl⟩
    | failed _ found' | again _ found' | take _ found' => simp [found] at found'
  | again inside found _ ih =>
    cases h' with
    | past => omega
    | failed _ found' | absent _ found' => simp [found] at found'
    | again _ _ rest => exact ih rest
    | take _ found' fresh =>
      rw [found] at found'
      cases found'
      exact absurd rfl (fresh rfl)
  | take inside found fresh _ ih =>
    cases h' with
    | past => omega
    | failed _ found' | absent _ found' => simp [found] at found'
    | again _ found' =>
      rw [found] at found'
      cases found'
      exact absurd rfl (fresh rfl)
    | take _ found' _ rest =>
      rw [found] at found'
      cases found'
      obtain ⟨rfl, same⟩ := ih rest
      exact ⟨rfl, same⟩

/-- An error that ends the search is one of the answers. -/
theorem exists_failed {e : ε} (h : Unfolds answer stop width ended c items (.error e)) :
    ∃ c ≤ stop, answer c = .error e := by
  generalize failed : (.error e : Except ε Unit) = outcome at h
  induction h with
  | past | absent => cases failed
  | failed inside found =>
    cases failed
    exact ⟨_, inside, found⟩
  | again _ _ _ ih | take _ _ _ _ ih => exact ih failed

/-- Answers that say the same in other words gather the same in other words. -/
theorem map {ε' ρ' : Type} {answer' : Nat → Except ε' (Option (Span × ρ'))} (f : ρ → ρ')
    (g : ε → ε')
    (same : ∀ c ≤ stop, answer' c =
      ((answer c).map (Option.map fun found => (found.1, f found.2))).mapError g)
    (h : Unfolds answer stop width ended c items outcome) :
    Unfolds answer' stop width ended c (items.map f) (outcome.mapError g) := by
  induction h with
  | past outside => exact .past outside
  | failed inside found => exact .failed inside (by rw [same _ inside, found]; rfl)
  | absent inside found => exact .absent inside (by rw [same _ inside, found]; rfl)
  | again inside found _ ih =>
    exact .again inside (by rw [same _ inside, found]; rfl) ih
  | take inside found fresh _ ih =>
    exact .take inside (by rw [same _ inside, found]; rfl) fresh ih

end Unfolds

/-! ## 2. Runs of a scan -/

namespace Scan

variable {σ : Type} {s : Scan} {visit : σ → Region → σ × Decision} {P : Nat → Prop}

/-- What a single search from a cursor on is answered. -/
def answer (s : Scan) (cursor : Nat) : Except Error (Option (Span × Region)) :=
  s.ask 0 cursor .empty

/-- A steady engine answers a search within a scan like a single one. -/
theorem Steady.ask_eq (steady : s.Steady) (past cursor : Nat) (before : Region) :
    s.ask past cursor before = s.answer cursor :=
  steady past 0 cursor before .empty

theorem span?_of_answer {c : Nat} {span : Span} {region : Region}
    (found : s.answer c = .ok (some (span, region))) : region.span? 0 = some span :=
  (ask_eq_some_iff.mp found).2

/-- The rules for the searches of a scan. -/
abbrev Unfolded (s : Scan) : Bool → Nat → List Region → Except Error Unit → Prop :=
  Unfolds s.answer s.stop (s.advance.width s.text)

/-- With a steady engine, the rules for a scan without a memory are these. -/
theorem Unrolls.unfolds (steady : s.Steady)
    (resumes : ∀ state region, (visit state region).2 = .resume) {o : Outlook σ} {r : Run σ}
    (unrolls : s.Unrolls visit o r) :
    s.Unfolded o.ended o.cursor r.accepted (r.outcome.map fun _ => ()) := by
  induction unrolls with
  | past outside => exact .past outside
  | failed inside found => exact .failed inside (steady.ask_eq _ _ _ ▸ found)
  | absent inside found => exact .absent inside (steady.ask_eq _ _ _ ▸ found)
  | again ended inside found _ ih =>
    rw [ended]
    exact .again inside (steady.ask_eq _ _ _ ▸ found) ih
  | take inside found fresh _ _ ih =>
    exact .take inside (steady.ask_eq _ _ _ ▸ found) fresh ih
  | halt _ _ _ halts => exact absurd halts (ne_halt_of_resumes resumes)

/-- With a steady engine, what a scan hands over to a visitor that never halts
is what single searches gather. -/
theorem Ends.unfolds (h : s.Closed P) (steady : s.Steady)
    (resumes : ∀ state region, (visit state region).2 = .resume) {st : Standing σ} {r : Run σ}
    (ends : s.Ends visit st r) (hp : P st.cursor) (trails : st.Trails) :
    s.Unfolded (decide (st.last = some st.cursor)) st.cursor r.accepted
      (r.outcome.map fun _ => ()) :=
  (ends.unrolls h hp trails).unfolds steady resumes

section Full

variable {start n : Nat} {full : Run Unit} (made : s.runAll start = some full)

include made

/-- A scan that does not fail was asked for a range within the text. -/
theorem inRange_of_ok (ok : full.outcome = .ok n) : (s.query start).InRange := by
  by_contra outside
  rw [runAll, run_of_not_inRange outside, Option.some.injEq] at made
  subst made
  cases ok

/-- A scan that does not fail answers how many regions it has handed over. -/
theorem runAll_count (ok : full.outcome = .ok n) : n = full.accepted.length := by
  have ends := (run_eq_some_iff (inRange_of_ok made ok)).mp made
  have count := ends.outcome_eq ok
  rw [← ends.length_accepted] at count
  simpa [Standing.first] using count

/-- A run from an offset within the text, as single searches. -/
theorem runAll_unfolds (sound : s.Sound) (steady : s.Steady) (inRange : (s.query start).InRange) :
    s.Unfolded false start full.accepted (full.outcome.map fun _ => ()) :=
  ((run_eq_some_iff inRange).mp made).unfolds sound.closed steady (fun _ _ => rfl) trivial
    (Standing.trails_first start ())

end Full

end Scan

end PatternSearch
