/-
PatternSearch.Proofs.Regex.Cuts — cutting a text at spans that come in order.

Splitting and replacing cut a text at the matches found in it. Both go through
the matches once and remember where the last one ended. `Cuts` is what they
need of the matches that are left, and a step preserves it (`Cuts.tail`), so
every stretch between two matches lies between characters: the parts a
splitter hands out, however often it is asked, and the pieces a replacement
keeps, also when the replacer fails.
-/
import PatternSearch.Proofs.Search.Order
import PatternSearch.Proofs.Text.Boundary
import PatternSearch.Regex.Replace
import PatternSearch.Regex.Split

namespace PatternSearch

open Text

/-! ## 1. Spans to cut at -/

namespace Text

/-- A text can be cut at the spans, one after the other, from an offset on. -/
structure Cuts (text : String) (last : Nat) (spans : List Span) : Prop where
  boundary : IsBoundary text last
  fits : ∀ m ∈ spans, last ≤ m.start ∧ m.Fits text
  ordered : spans.Pairwise Span.Before

namespace Cuts

variable {text : String} {last : Nat} {m : Span} {spans : List Span}

theorem suffix_fits (h : Cuts text last spans) : (suffixSpan text last).Fits text :=
  Span.fits_suffixSpan h.boundary

/-- The stretch before the first span lies between characters. -/
theorem head_fits (h : Cuts text last (m :: spans)) : Span.Fits ⟨last, m.start⟩ text :=
  have first := h.fits m List.mem_cons_self
  ⟨first.1, h.boundary, first.2.2.1⟩

/-- After a cut at the first span, the others are left. -/
theorem tail (h : Cuts text last (m :: spans)) : Cuts text m.stop spans where
  boundary := (h.fits m List.mem_cons_self).2.2.2
  fits n mem :=
    ⟨(List.rel_of_pairwise_cons h.ordered mem).1, (h.fits n (List.mem_cons_of_mem _ mem)).2⟩
  ordered := h.ordered.of_cons

/-- Nothing is lost by making fewer cuts. -/
theorem sublist (h : Cuts text last spans) {fewer : List Span} (sub : fewer.Sublist spans) :
    Cuts text last fewer where
  boundary := h.boundary
  fits m mem := h.fits m (sub.subset mem)
  ordered := h.ordered.sublist sub

end Cuts

end Text

/-! ## 2. Splitters -/

namespace Splitter

/-- The splitter has cuts of the text to make, or it is done. -/
def Ready (text : String) (s : Splitter) : Prop :=
  s.text = text ∧ (Cuts text s.last s.pending ∨ (s.pending = [] ∧ s.isDone))

variable {text : String} {s : Splitter}

theorem ready_ofSpans {spans : List Span} (h : Cuts text 0 spans) :
    (ofSpans text spans).Ready text :=
  ⟨rfl, Or.inl h⟩

theorem Ready.remainder_fits (h : s.Ready text) {part : Span} (left : s.remainder = some part) :
    part.Fits text := by
  obtain ⟨rfl, cuts | ⟨-, done⟩⟩ := h
  · unfold remainder at left
    split at left
    · simp at left
    · obtain rfl := Option.some.inj left
      exact cuts.suffix_fits
  · simp [remainder, done] at left

theorem Ready.part_fits (h : s.Ready text) {part : Span} (part_eq : s.next.1 = some part) :
    part.Fits text := by
  unfold next at part_eq
  split at part_eq
  · split at part_eq
    · simp at part_eq
    · rename_i left
      obtain rfl := Option.some.inj part_eq
      exact h.remainder_fits left
  · rename_i m rest pending
    obtain rfl := Option.some.inj part_eq
    obtain ⟨-, cuts | ⟨none, -⟩⟩ := h
    · rw [pending] at cuts
      exact cuts.head_fits
    · simp [pending] at none

theorem Ready.next (h : s.Ready text) : s.next.2.Ready text := by
  unfold Splitter.next
  split
  · rename_i pending
    split
    · exact h
    · obtain ⟨rfl, -⟩ := h
      exact ⟨rfl, Or.inr ⟨pending, by simp [isDone]⟩⟩
  · rename_i m rest pending
    obtain ⟨rfl, cuts | ⟨none, -⟩⟩ := h
    · rw [pending] at cuts
      exact ⟨rfl, Or.inl cuts.tail⟩
    · simp [pending] at none

/-- Every part of a splitter lies between characters, however often it has
been asked before. -/
theorem Ready.parts_fit (h : s.Ready text) (n : Nat) {part : Span}
    (part_eq : ((fun s => s.next.2)^[n] s).next.1 = some part) : part.Fits text := by
  have ready : ((fun s => s.next.2)^[n] s).Ready text :=
    Function.Iterate.rec (Ready text) h (fun _ => Ready.next) n
  exact ready.part_fits part_eq

end Splitter

namespace BoundedSplitter

variable {text : String} {s : BoundedSplitter}

theorem part_fits (h : s.splitter.Ready text) {part : Span} (part_eq : s.next.1 = some part) :
    part.Fits text := by
  unfold next at part_eq
  split at part_eq
  · simp at part_eq
  · exact h.remainder_fits part_eq
  · exact h.part_fits part_eq

theorem ready_next (h : s.splitter.Ready text) : s.next.2.splitter.Ready text := by
  unfold next
  split
  · exact h
  · exact h
  · exact h.next

/-- Every part of a bounded splitter lies between characters, however often it
has been asked before. -/
theorem parts_fit (h : s.splitter.Ready text) (n : Nat) {part : Span}
    (part_eq : ((fun s => s.next.2)^[n] s).next.1 = some part) : part.Fits text := by
  have ready : ((fun s => s.next.2)^[n] s).splitter.Ready text :=
    Function.Iterate.rec (fun s : BoundedSplitter => s.splitter.Ready text) h
      (fun _ => ready_next) n
  exact part_fits ready part_eq

end BoundedSplitter

/-! ## 3. Replacements -/

/-- Where the whole matches of captures lie. -/
def Captures.wholes (cs : List Captures) : List Span := cs.filterMap (fun c => c.span? 0)

namespace Regex

theorem limited_sublist {α : Type} (limit : Nat) (items : List α) :
    (limited limit items).Sublist items := by
  unfold limited
  split
  · exact List.Sublist.refl _
  · exact List.take_sublist _ _

/-- The pieces kept of a text lie between characters, whatever the replacer
does. -/
theorem spliceFrom_fits {σ : Type} (rep : Replacer σ) (d : Dialect) {text : String}
    (cs : List Captures) {last : Nat} (state : σ) (h : Cuts text last (Captures.wholes cs)) :
    ∀ p ∈ (spliceFrom rep d text cs last state).pieces, p.Fits text := by
  fun_induction spliceFrom rep d text cs last state with
  | case1 last state => simpa [Piece.Fits] using h.suffix_fits
  | case2 c rest last state absent ih =>
    exact ih (by simpa [Captures.wholes, List.filterMap_cons, absent] using h)
  | case3 c rest last state m here state' e failed =>
    have cuts : Cuts text last (m :: Captures.wholes rest) := by
      simpa [Captures.wholes, List.filterMap_cons, here] using h
    simpa [Piece.Fits] using cuts.head_fits
  | case4 c rest last state m here state' t replaced ih =>
    have cuts : Cuts text last (m :: Captures.wholes rest) := by
      simpa [Captures.wholes, List.filterMap_cons, here] using h
    simpa [Splice.after, Piece.Fits] using And.intro cuts.head_fits (ih cuts.tail)

end Regex

end PatternSearch
