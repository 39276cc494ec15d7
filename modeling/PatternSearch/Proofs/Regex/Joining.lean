/-
PatternSearch.Proofs.Regex.Joining — the parts of a split joined again.

A splitter hands out one part a call, with an offset beyond the text as the
mark that all are gone; a bounded one counts down besides. A replacement goes
through the matches in a loop, with a limit on their number. Both cut the text
the same way: parts joined with a separator are the text with the separator in
the place of the matches (`joined_parts`), `k + 1` parts where `k` matches are
replaced.

What "the parts" are is said by `Yields`, from the answers of `next` alone:
those until it first answers none. The lists a splitter can be drained into
are these parts.
-/
import PatternSearch.Proofs.Regex.Splicing

namespace PatternSearch

open Text

/-! ## 1. Asking until nothing is left -/

/-- What a function answers with, asked again and again until it first answers
none. -/
inductive Yields {σ α : Type} (next : σ → Option α × σ) : σ → List α → Prop where
  /-- Nothing is left. -/
  | done {s : σ} : (next s).1 = none → Yields next s []
  /-- One item, then what is yielded afterwards. -/
  | item {s : σ} {x : α} {xs : List α} :
      (next s).1 = some x → Yields next (next s).2 xs → Yields next s (x :: xs)

namespace Yields

variable {σ α : Type} {next : σ → Option α × σ} {s : σ} {xs ys : List α}

/-- What is yielded is determined. -/
theorem unique (hx : Yields next s xs) (hy : Yields next s ys) : xs = ys := by
  induction hx generalizing ys with
  | done gone =>
    cases hy with
    | done => rfl
    | item here => simp [gone] at here
  | item here _ ih =>
    cases hy with
    | done gone => simp [here] at gone
    | item here' more =>
      obtain rfl := Option.some.inj (here.symm.trans here')
      rw [ih more]

theorem iff_eq (h : Yields next s xs) : Yields next s ys ↔ ys = xs :=
  ⟨fun h' => h'.unique h, fun same => same ▸ h⟩

/-- Taking items one by one, up to a number and as long as there are any, takes
all that is yielded if the number allows. -/
theorem take_eq (h : Yields next s xs) {take : Nat → σ → List α × σ}
    (zero : ∀ s, (take 0 s).1 = [])
    (succ : ∀ n s, (take (n + 1) s).1 =
      match next s with
      | (none, _) => []
      | (some x, s) => x :: (take n s).1)
    {n : Nat} (le : xs.length ≤ n) : (take n s).1 = xs := by
  induction h generalizing n with
  | @done s gone =>
    cases n with
    | zero => exact zero s
    | succ n => rw [succ, ← Prod.mk.eta (p := next s), gone]
  | @item s x xs here _ ih =>
    cases n with
    | zero => simp at le
    | succ n =>
      rw [succ, ← Prod.mk.eta (p := next s), here]
      exact congrArg (x :: ·) (ih (Nat.le_of_succ_le_succ le))

end Yields

/-! ## 2. Splitters -/

variable {text : String} {last : Nat} {spans : List Span}

namespace Splitter

/-- A splitter that has handed out everything. -/
def spent (text : String) : Splitter := ⟨text, [], text.utf8ByteSize + 1⟩

theorem remainder_spent : (spent text).remainder = none := by simp [remainder, isDone, spent]

theorem remainder_eq_suffixSpan (boundary : IsBoundary text last) :
    remainder ⟨text, spans, last⟩ = some (suffixSpan text last) := by
  simp [remainder, isDone, boundary.le]

theorem next_spent : next (spent text) = (none, spent text) := by
  rw [next]
  simp only [spent]
  rw [← spent, remainder_spent]

/-- After the matches the rest of the text is handed out, once. -/
theorem next_last (boundary : IsBoundary text last) :
    next ⟨text, [], last⟩ = (some (suffixSpan text last), spent text) := by
  simp [next, remainder_eq_suffixSpan boundary, spent]

/-- A splitter hands out the stretches between the spans. -/
theorem yields (cuts : Cuts text last spans) :
    Yields next ⟨text, spans, last⟩ (gaps text last spans) := by
  induction spans generalizing last with
  | nil =>
    have asked := next_last cuts.boundary
    refine .item (by rw [asked]) (.done ?_)
    rw [asked, next_spent]
  | cons m spans ih => exact .item rfl (ih cuts.tail)

theorem drain_eq (cuts : Cuts text last spans) :
    (drain ⟨text, spans, last⟩).1 = gaps text last spans := by
  refine (yields cuts).take_eq (fun _ => rfl) (fun n s => ?_) (Nat.le_of_eq length_gaps)
  rw [take]
  split <;> simp [*]

end Splitter

namespace BoundedSplitter

theorem yields_spent (k : Nat) : Yields next ⟨Splitter.spent text, k⟩ [] := by
  match k with
  | 0 => exact .done rfl
  | 1 => exact .done Splitter.remainder_spent
  | k + 2 => exact .done (congrArg Prod.fst Splitter.next_spent)

/-- A bounded splitter hands out the stretches between as many spans as it may
cut at, the last of them to the end of the text. -/
theorem yields (cuts : Cuts text last spans) (k : Nat) :
    Yields next ⟨⟨text, spans, last⟩, k + 1⟩ (gaps text last (spans.take k)) := by
  induction k generalizing last spans with
  | zero => exact .item (Splitter.remainder_eq_suffixSpan cuts.boundary) (.done rfl)
  | succ k ih =>
    cases spans with
    | nil =>
      -- There are fewer matches than allowed: the rest is handed out early, and
      -- the calls still allowed find nothing.
      have asked := Splitter.next_last cuts.boundary
      refine .item (congrArg Prod.fst asked) ?_
      have rest : (next ⟨⟨text, [], last⟩, k + 2⟩).2 = ⟨Splitter.spent text, k + 1⟩ := by
        simp only [next, asked]
      rw [rest]
      exact yields_spent (k + 1)
    | cons m spans => exact .item rfl (ih cuts.tail)

theorem drain_eq (cuts : Cuts text last spans) (k : Nat) :
    (drain ⟨⟨text, spans, last⟩, k + 1⟩).1 = gaps text last (spans.take k) := by
  refine (yields cuts k).take_eq (fun _ => rfl) (fun n s => ?_) (Nat.le_of_eq ?_)
  · rw [take]
    split <;> simp [*]
  · simp only [length_gaps, List.length_take]
    omega

end BoundedSplitter

/-! ## 3. Splitting and replacing -/

/-- Parts of a text with the same text between any two of them. -/
def Text.joined (text r : String) (parts : List Span) : String :=
  r.intercalate (parts.map (fun p => p.slice text))

namespace Regex

variable {re : Regex}

/-- Both go by the same scan, and fail as it does. -/
theorem allSpans_eq_error_iff {e : Error} :
    re.allSpans text = some (.error e) ↔ re.capturesIter text = some (.error e) := by
  rw [allSpans_eq, capturesIter_eq, Eventual.map_eq_error_iff, Eventual.map_eq_error_iff]

/-- Replacing by a text as it stands is cutting and joining. -/
theorem MatchesFit.replacen_verbatim (fit : re.MatchesFit text) (limit : Nat) (r : String) :
    re.replacen text limit (.verbatim r) () =
      (re.allSpans text).map (fun spans => joined text r (gaps text 0 (limited limit spans))) := by
  obtain ⟨found, scanned⟩ := Option.isSome_iff_exists.mp fit.settles.capturesIter
  cases found with
  | error e =>
    rw [(replacen_of_error scanned limit _ ()).2, allSpans_eq_error_iff.mpr scanned]
    rfl
  | ok cs =>
    obtain ⟨spans, wholes, -, all⟩ := fit.wholes scanned
    have length : (limited limit cs.items).length = (limited limit spans).length := by
      simpa using congrArg List.length (limited_wholes wholes limit)
    rw [replacen_of_answers scanned wholes (fun _ _ => rfl) limit (), List.map_const', all, length]
    exact congrArg (some ∘ Except.ok) (spliced_replicate text (limited limit spans) r)

/-- The parts of a split are the stretches between the matches. -/
theorem MatchesFit.split_parts (fit : re.MatchesFit text) {s : Splitter}
    (ok : re.split text = some (.ok s)) :
    Yields Splitter.next s s.drain.1 ∧ ∀ p ∈ s.drain.1, p.Fits text := by
  obtain ⟨spans, all, rfl⟩ := Eventual.map_eq_ok_iff.mp ok
  have cuts := fit.cuts_allSpans all
  rw [Splitter.ofSpans, Splitter.drain_eq cuts]
  exact ⟨Splitter.yields cuts, cuts.gaps_fit⟩

/-- The parts of a bounded split are the stretches between the first matches. -/
theorem MatchesFit.splitn_parts (fit : re.MatchesFit text) {limit : Nat} {s : BoundedSplitter}
    (ok : re.splitn text limit = some (.ok s)) :
    Yields BoundedSplitter.next s s.drain.1 ∧ ∀ p ∈ s.drain.1, p.Fits text := by
  obtain ⟨whole, split, rfl⟩ := Eventual.map_eq_ok_iff.mp ok
  obtain ⟨spans, all, rfl⟩ := Eventual.map_eq_ok_iff.mp split
  have cuts := fit.cuts_allSpans all
  cases limit with
  | zero => exact ⟨.done rfl, by simp [BoundedSplitter.drain, BoundedSplitter.take]⟩
  | succ k =>
    rw [Splitter.ofSpans, BoundedSplitter.drain_eq cuts]
    exact ⟨BoundedSplitter.yields cuts k, (cuts.sublist (List.take_sublist k _)).gaps_fit⟩

/-- **Joining.** Splitting and replacing come to an end. The parts of a split,
those it hands out until it first has none, are what it can be drained into,
and lie between characters. Joined with a separator they are the text with the
separator in the place of all matches, and so are at most `k + 1` parts with
the separator in the place of the first `k` matches. One fails where the other
does, with the same error. -/
theorem joined_parts (re : Regex) (text : String) (fit : re.MatchesFit text) :
    re.Settles text ∧
    (∀ s, re.split text = some (.ok s) →
      (∀ parts, Yields Splitter.next s parts ↔ parts = s.drain.1) ∧
        ∀ p ∈ s.drain.1, p.Fits text) ∧
    (∀ limit s, re.splitn text limit = some (.ok s) →
      (∀ parts, Yields BoundedSplitter.next s parts ↔ parts = s.drain.1) ∧
        ∀ p ∈ s.drain.1, p.Fits text) ∧
    ∀ r : String,
      (∀ e, re.split text = some (.error e) ↔
        re.replaceAll text (.verbatim r) () = some (.error e)) ∧
      re.replaceAll text (.verbatim r) () =
        (re.split text).map (fun s => joined text r s.drain.1) ∧
      ∀ k, 1 ≤ k → re.replacen text k (.verbatim r) () =
        (re.splitn text (k + 1)).map (fun s => joined text r s.drain.1) := by
  refine ⟨fit.settles, fun s ok => ?_, fun limit s ok => ?_, fun r => ?_⟩
  · obtain ⟨yields, fits⟩ := fit.split_parts ok
    exact ⟨fun parts => yields.iff_eq, fits⟩
  · obtain ⟨yields, fits⟩ := fit.splitn_parts ok
    exact ⟨fun parts => yields.iff_eq, fits⟩
  · rw [replaceAll, fit.replacen_verbatim 0 r, split]
    simp only [fit.replacen_verbatim, splitn, split, Eventual.map_eq_error_iff, implies_true,
      true_and]
    rcases all : re.allSpans text with _ | e | spans
    · exact ⟨rfl, fun k _ => rfl⟩
    · exact ⟨rfl, fun k _ => rfl⟩
    · have cuts := fit.cuts_allSpans all
      refine ⟨?_, fun k pos => ?_⟩
      · simp only [Eventual.map, Option.map_some, Except.map, Splitter.ofSpans,
          Splitter.drain_eq cuts, limited, if_pos]
      · have bounded : k ≠ 0 := Nat.ne_of_gt pos
        simp only [Eventual.map, Option.map_some, Except.map, Splitter.ofSpans,
          BoundedSplitter.drain_eq cuts, limited, if_neg bounded]

/-- `éaaé` cut at the matches of `a*`, two of the three of them. -/
theorem joined_parts_star :
    star.MatchesFit "éaaé" ∧ 1 ≤ 2 ∧
      (star.splitn "éaaé" 3).map (fun s => s.drain.1) =
        some (.ok [⟨0, 0⟩, ⟨0, 2⟩, ⟨4, 6⟩]) ∧
      star.replacen "éaaé" 2 (.verbatim "-") () = some (.ok "-é-é") ∧
      star.replacen "éaaé" 2 (.verbatim "-") () =
        (star.splitn "éaaé" 3).map (fun s => joined "éaaé" "-" s.drain.1) :=
  have fit := star_respects.matchesFit
  ⟨fit, by decide, by cbv, by cbv,
    ((joined_parts star "éaaé" fit).2.2.2 "-").2.2 2 (by decide)⟩

end Regex

end PatternSearch
