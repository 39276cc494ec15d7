/-
PatternSearch.Proofs.Regex.Gaps — the stretches of a text between spans.

A text cut at some spans falls into one more stretch than there are spans:
`gaps`. They are the parts of a split and what a replacement keeps. To put
texts in between is to take from two lists in turn, `alternate`; with the same
text everywhere it is what `String.intercalate` does
(`join_alternate_replicate`).
-/
import PatternSearch.Proofs.Regex.Cuts

namespace PatternSearch

open Text

namespace Text

/-- The stretches between the spans, from an offset to the end of a text. -/
def gaps (text : String) : Nat → List Span → List Span
  | last, [] => [suffixSpan text last]
  | last, m :: spans => ⟨last, m.start⟩ :: gaps text m.stop spans

variable {text : String} {last : Nat} {spans : List Span}

@[simp] theorem gaps_nil : gaps text last [] = [suffixSpan text last] := rfl

@[simp] theorem gaps_cons {m : Span} :
    gaps text last (m :: spans) = ⟨last, m.start⟩ :: gaps text m.stop spans := rfl

@[simp] theorem length_gaps : (gaps text last spans).length = spans.length + 1 := by
  induction spans generalizing last with
  | nil => rfl
  | cons m spans ih => rw [gaps_cons, List.length_cons, ih, List.length_cons]

/-- The last stretch begins where the last span ends. -/
theorem getLast?_gaps : (gaps text last spans).getLast? =
    some (suffixSpan text ((spans.getLast?.map Span.stop).getD last)) := by
  induction spans generalizing last with
  | nil => rfl
  | cons m spans ih =>
    rw [gaps_cons, List.getLast?_cons, ih, List.getLast?_cons]
    cases spans.getLast? <;> rfl

/-- With fewer spans to cut at, the stretches are the same but for the last. -/
theorem dropLast_gaps_take_prefix (k : Nat) :
    (gaps text last (spans.take k)).dropLast <+: gaps text last spans := by
  induction k generalizing last spans with
  | zero => exact List.nil_prefix
  | succ k ih =>
    cases spans with
    | nil => exact List.nil_prefix
    | cons m spans =>
      have more : gaps text m.stop (spans.take k) ≠ [] :=
        List.ne_nil_of_length_pos (by simp)
      rw [List.take_succ_cons, gaps_cons, gaps_cons, List.dropLast_cons_of_ne_nil more,
        List.prefix_cons_inj]
      exact ih

/-- Where a text can be cut at the spans, the stretches between them lie
between characters. -/
theorem Cuts.gaps_fit (h : Cuts text last spans) : ∀ g ∈ gaps text last spans, g.Fits text := by
  induction spans generalizing last with
  | nil => simpa using h.suffix_fits
  | cons m spans ih =>
    rw [gaps_cons, List.forall_mem_cons]
    exact ⟨h.head_fits, ih h.tail⟩

end Text

/-! ## Taking turns -/

/-- The items of two lists in turn, one of the first list at either end. -/
def alternate {α : Type} : List α → List α → List α
  | x :: xs, y :: ys => x :: y :: alternate xs ys
  | xs, [] => xs
  | [], _ => []

variable {α β : Type} {x y : α} {xs ys : List α}

@[simp] theorem alternate_cons_cons :
    alternate (x :: xs) (y :: ys) = x :: y :: alternate xs ys := rfl

@[simp] theorem alternate_nil : alternate xs [] = xs := by cases xs <;> rfl

theorem map_alternate (f : α → β) (xs ys : List α) :
    (alternate xs ys).map f = alternate (xs.map f) (ys.map f) := by
  fun_induction alternate xs ys with
  | case1 x xs y ys ih => simp [ih]
  | case2 xs => simp
  | case3 ys => cases ys <;> rfl

/-- With the same text each time, this is joining with a separator. -/
theorem join_alternate_replicate (r x : String) (xs : List String) :
    String.join (alternate (x :: xs) (List.replicate xs.length r)) = r.intercalate (x :: xs) := by
  induction xs generalizing x with
  | nil => simp
  | cons x' xs ih =>
    rw [List.length_cons, List.replicate_succ, alternate_cons_cons, String.join_cons,
      String.join_cons, ih, String.intercalate_cons_cons, String.append_assoc]

/-- The stretches between the spans and the spans, in turn, are what is cut. -/
theorem Text.Cuts.join_alternate {text : String} {last : Nat} {spans : List Span}
    (h : Cuts text last spans) :
    String.join (alternate ((gaps text last spans).map (fun g => g.slice text))
      (spans.map (fun m => m.slice text))) = (suffixSpan text last).slice text := by
  induction spans generalizing last with
  | nil => simp [String.join_cons]
  | cons m spans ih =>
    have here : m.Fits text := (h.fits m List.mem_cons_self).2
    have after : Span.Fits ⟨m.stop, text.utf8ByteSize⟩ text := h.tail.suffix_fits
    rw [gaps_cons, List.map_cons, List.map_cons, alternate_cons_cons, String.join_cons,
      String.join_cons, ih h.tail, suffixSpan, Span.slice_append_slice here after]
    exact Span.slice_append_slice h.head_fits ⟨Nat.le_trans here.1 after.1, here.2.1, after.2.2⟩

end PatternSearch
