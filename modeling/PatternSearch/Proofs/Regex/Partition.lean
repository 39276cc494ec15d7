/-
PatternSearch.Proofs.Regex.Partition — the parts of a split and the matches
make up the text.

A splitter walks through the matches with an offset of its own, and a bounded
one counts down on top of that. Which of the two runs out first decides how
many parts there are and what the last of them is. `split_partitions` says
both: there is one part more than matches, parts and matches in turn are the
text, and a limit keeps the first parts and leaves everything after them in one
piece.

An iterator that has answered none once does so for ever (`Fused`). That is a
property of `next` in every state, whatever the matches are.
-/
import PatternSearch.Proofs.Regex.Joining

namespace PatternSearch

open Text

/-! ## 1. After the last part -/

/-- Once the answer is none it is none for ever. -/
def Fused {σ α : Type} (next : σ → Option α × σ) : Prop :=
  ∀ s, (next s).1 = none → ∀ n, (next ((fun s => (next s).2)^[n] s)).1 = none

/-- It is enough that the answer after none is none. -/
theorem Fused.of_step {σ α : Type} {next : σ → Option α × σ}
    (step : ∀ s, (next s).1 = none → (next (next s).2).1 = none) : Fused next := by
  intro s gone n
  induction n generalizing s with
  | zero => exact gone
  | succ n ih => exact ih _ (step s gone)

namespace Splitter

/-- A splitter that answers none has nothing left, and stays as it is. -/
theorem next_eq_none {s : Splitter} (gone : s.next.1 = none) :
    s.remainder = none ∧ s.next.2 = s := by
  unfold next at gone ⊢
  split at gone
  · split at gone
    · rename_i left
      simp [left]
    · simp at gone
  · simp at gone

theorem fused : Fused next :=
  .of_step fun s gone => by rw [(next_eq_none gone).2, gone]

end Splitter

namespace BoundedSplitter

/-- With nothing left, a bounded splitter answers none whatever its count. -/
theorem next_of_next_eq_none {s : Splitter} (gone : s.next.1 = none) (left : Nat) :
    (next ⟨s, left⟩).1 = none := by
  match left with
  | 0 => rfl
  | 1 => exact (Splitter.next_eq_none gone).1
  | left + 2 => exact gone

theorem fused : Fused next := by
  refine .of_step fun s gone => ?_
  obtain ⟨splitter, left⟩ := s
  match left with
  | 0 => rfl
  | 1 => rfl
  | left + 2 =>
    have gone : splitter.next.1 = none := gone
    have stays : (next ⟨splitter, left + 2⟩).2 = ⟨splitter, left + 1⟩ := by
      simp only [next, (Splitter.next_eq_none gone).2]
    rw [stays]
    exact next_of_next_eq_none gone (left + 1)

end BoundedSplitter

/-! ## 2. A limit on the parts -/

namespace Text

/-- What a limit makes of the parts that the spans cut a text into. -/
structure FirstParts (text : String) (spans parts : List Span) (limit : Nat)
    (first : List Span) : Prop where
  length_eq : first.length = min limit parts.length
  /-- All but the last are parts as without a limit. -/
  same : first.dropLast <+: parts
  /-- So is the last, if the limit allows all parts. -/
  all : parts.length ≤ limit → first = parts
  /-- If it allows one, this is the whole text. -/
  whole : limit = 1 → first = [suffixSpan text 0]
  /-- If it allows more, the last is everything after the span before it. -/
  rest : ∀ {k : Nat} {m : Span}, limit = k + 2 → spans[k]? = some m →
    first.getLast? = some (suffixSpan text m.stop)

variable {text : String} {spans : List Span}

theorem firstParts_nil {parts : List Span} : FirstParts text spans parts 0 [] where
  length_eq := by simp
  same := List.nil_prefix
  all none := (List.eq_nil_of_length_eq_zero (Nat.le_zero.mp none)).symm
  whole one := nomatch one
  rest more := nomatch more

/-- Cutting at one span less than parts are allowed gives these parts. -/
theorem firstParts_gaps (k : Nat) :
    FirstParts text spans (gaps text 0 spans) (k + 1) (gaps text 0 (spans.take k)) where
  length_eq := by
    rw [length_gaps, length_gaps, List.length_take]
    omega
  same := dropLast_gaps_take_prefix k
  all enough := by
    rw [length_gaps] at enough
    rw [List.take_of_length_le (Nat.le_of_succ_le_succ enough)]
  whole one := by
    obtain rfl : k = 0 := Nat.succ.inj one
    rfl
  rest := by
    intro k' m more here
    obtain rfl : k = k' + 1 := Nat.succ.inj more
    rw [getLast?_gaps, List.take_add_one, here, Option.toList_some, List.getLast?_concat]
    rfl

end Text

/-! ## 3. Parts and matches -/

namespace Regex

variable {re : Regex} {text : String} {spans : List Span}

/-- A text that can be scanned can be split, and its parts and matches in turn
are the text. -/
theorem split_of_cuts (cuts : Cuts text 0 spans) (all : re.allSpans text = some (.ok spans)) :
    re.split text = some (.ok (.ofSpans text spans)) ∧
      Yields Splitter.next (.ofSpans text spans) (gaps text 0 spans) ∧
      String.join (alternate ((gaps text 0 spans).map (fun p => p.slice text))
        (spans.map (fun m => m.slice text))) = text := by
  refine ⟨by rw [split, all]; rfl, Splitter.yields cuts, ?_⟩
  rw [cuts.join_alternate, Span.slice_suffixSpan_zero]

/-- It can be split into at most any number of parts. -/
theorem splitn_of_cuts (cuts : Cuts text 0 spans) (all : re.allSpans text = some (.ok spans))
    (limit : Nat) : ∃ b first, re.splitn text limit = some (.ok b) ∧
      Yields BoundedSplitter.next b first ∧
      FirstParts text spans (gaps text 0 spans) limit first := by
  have bounded : re.splitn text limit = some (.ok ⟨.ofSpans text spans, limit⟩) := by
    rw [splitn, (split_of_cuts cuts all).1]
    rfl
  cases limit with
  | zero => exact ⟨_, [], bounded, .done rfl, firstParts_nil⟩
  | succ k => exact ⟨_, _, bounded, BoundedSplitter.yields cuts k, firstParts_gaps k⟩

/-- **Partition.** In a text that can be scanned, a split has one part more
than there are matches, and parts and matches in turn are the text. With a
limit there are at most that many parts, the same ones but for the last, which
takes in everything after the last match that was cut at. Neither iterator
answers again after its first none. -/
theorem split_partitions (re : Regex) (text : String) (fit : re.MatchesFit text)
    {ms : Sequence Match} (ok : re.findIter text = some (.ok ms)) :
    (∃ s parts, re.split text = some (.ok s) ∧ Yields Splitter.next s parts ∧
      (∀ p ∈ parts, p.Fits text) ∧ parts.length = ms.length + 1 ∧
      String.join (alternate (parts.map (fun p => p.slice text)) (ms.items.map Match.str)) =
        text ∧
      ∀ limit, ∃ b first, re.splitn text limit = some (.ok b) ∧
        Yields BoundedSplitter.next b first ∧
        FirstParts text (ms.items.map Match.span) parts limit first) ∧
    Fused Splitter.next ∧ Fused BoundedSplitter.next := by
  obtain ⟨spans, all, rfl⟩ := Eventual.map_eq_ok_iff.mp ok
  have cuts := fit.cuts_allSpans all
  obtain ⟨split, yields, join⟩ := split_of_cuts cuts all
  have length : Sequence.length ⟨spans.map (Match.mk text)⟩ = spans.length := List.length_map _
  have texts : (spans.map (Match.mk text)).map Match.str = spans.map (fun m => m.slice text) := by
    rw [List.map_map]
    rfl
  have places : (spans.map (Match.mk text)).map Match.span = spans := by
    rw [List.map_map]
    exact List.map_id spans
  refine ⟨⟨_, _, split, yields, cuts.gaps_fit, ?_, ?_, ?_⟩, Splitter.fused,
    BoundedSplitter.fused⟩
  · rw [length_gaps, length]
  · rw [texts, join]
  · rw [places]
    exact splitn_of_cuts cuts all

/-- `éaaé` cut at the matches of `a*`: four parts around three matches, and two
parts if no more are wanted. -/
theorem split_partitions_star :
    star.MatchesFit "éaaé" ∧
      (star.findIter "éaaé").map (fun ms => ms.items.map Match.span) =
        some (.ok [⟨0, 0⟩, ⟨2, 4⟩, ⟨6, 6⟩]) ∧
      (star.splitn "éaaé" 2).map (fun b => b.drain.1) = some (.ok [⟨0, 0⟩, ⟨0, 6⟩]) ∧
      (∃ s parts, star.split "éaaé" = some (.ok s) ∧ Yields Splitter.next s parts ∧
        parts.length = 4) ∧
      ∃ b first, star.splitn "éaaé" 2 = some (.ok b) ∧ Yields BoundedSplitter.next b first ∧
        first.getLast? = some (suffixSpan "éaaé" 0) := by
  have fit := star_respects.matchesFit
  have found : (star.findIter "éaaé").map (fun ms => ms.items.map Match.span) =
      some (.ok [⟨0, 0⟩, ⟨2, 4⟩, ⟨6, 6⟩]) := by cbv
  obtain ⟨ms, ok, three⟩ := Eventual.map_eq_ok_iff.mp found
  have length : ms.length = 3 := by
    rw [Sequence.length, ← List.length_map Match.span, three]
    rfl
  obtain ⟨⟨s, parts, split, yields, -, count, -, bounded⟩, -⟩ :=
    split_partitions star "éaaé" fit ok
  obtain ⟨b, first, splitn, taken, limited⟩ := bounded 2
  exact ⟨fit, found, by cbv, ⟨s, parts, split, yields, by rw [count, length]⟩,
    b, first, splitn, taken, limited.rest (k := 0) rfl (by rw [three]; rfl)⟩

end Regex

end PatternSearch
