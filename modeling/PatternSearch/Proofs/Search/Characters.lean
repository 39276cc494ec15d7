/-
PatternSearch.Proofs.Search.Characters — going through a text character by
character.

A skip moves the cursor by a width that is read off one byte, and the bytes
after it are not looked at. `Advance.visits` is where such steps lead from an
offset on, until one leads beyond the text. From a place on they lead to all
places that follow and to nothing else (`mem_visits_iff`), since a step leads
to a place and does not pass over one.

Two descriptions of the offsets between the characters of a text do not
mention widths: those among all offsets that are boundaries, and the running
sums of the sizes of its characters. `boundaries_in_order` says that stepping
from the beginning visits the one list as well as the other.

The last step leads from the end of a text to the offset after it, from which
no scan asks again (`Scan.finish_after_end`). So a skip there is the last thing
that happens in a run, whatever the engine answers and the visitor decides.
-/
import PatternSearch.Proofs.Search.Trace

namespace PatternSearch

open Text

/-! ## 1. Step by step -/

namespace Advance

/-- Where a step leads that skips a match. -/
def step (a : Advance) (text : ByteArray) (cursor : Nat) : Nat := cursor + a.width text cursor

theorem lt_step (a : Advance) (text : ByteArray) (cursor : Nat) :
    cursor < a.step text cursor :=
  Nat.lt_add_of_pos_right (a.width_pos text cursor)

/-- The offsets visited from a cursor on, as far as the text goes. -/
def visits (a : Advance) (text : ByteArray) (cursor : Nat) : List Nat :=
  if cursor ≤ text.size then cursor :: visits a text (a.step text cursor) else []
termination_by text.size + 1 - cursor
decreasing_by
  have := a.lt_step text cursor
  omega

variable {a : Advance} {text : ByteArray} {cursor : Nat}

theorem visits_inside (inside : cursor ≤ text.size) :
    a.visits text cursor = cursor :: a.visits text (a.step text cursor) := by
  rw [visits, if_pos inside]

theorem visits_past (past : text.size < cursor) : a.visits text cursor = [] := by
  rw [visits, if_neg (Nat.not_le.mpr past)]

/-- From the end of a text, a step leads to the offset after it. -/
theorem step_end (a : Advance) (text : ByteArray) : a.step text text.size = text.size + 1 := by
  cases a <;> simp [step, width]

theorem visits_end (a : Advance) (text : ByteArray) : a.visits text text.size = [text.size] := by
  rw [visits_inside (Nat.le_refl _), step_end, visits_past (Nat.lt_succ_self _)]

/-- The offsets visited are the places not before the cursor. -/
theorem mem_visits_iff (rests : a.Rests text cursor) {i : Nat} :
    i ∈ a.visits text cursor ↔ cursor ≤ i ∧ a.Place text i := by
  fun_induction visits a text cursor with
  | case1 cursor inside ih =>
    have place := rests inside
    have further := a.lt_step text cursor
    rw [List.mem_cons, ih place.rests_next]
    constructor
    · rintro (rfl | ⟨le, later⟩)
      · exact ⟨Nat.le_refl _, place⟩
      · exact ⟨Nat.le_trans (Nat.le_of_lt further) le, later⟩
    · rintro ⟨le, later⟩
      rcases Nat.eq_or_lt_of_le le with rfl | less
      · exact Or.inl rfl
      · exact Or.inr ⟨place.next_le later less, later⟩
  | case2 cursor past =>
    simp only [List.not_mem_nil, false_iff, not_and]
    intro le later
    exact past (Nat.le_trans le later.le)

/-- They are visited in order, each of them once. -/
theorem pairwise_visits (rests : a.Rests text cursor) :
    (a.visits text cursor).Pairwise (· < ·) := by
  fun_induction visits a text cursor with
  | case1 cursor inside ih =>
    have next := (rests inside).rests_next
    refine List.pairwise_cons.mpr ⟨fun i mem => ?_, ih next⟩
    exact Nat.lt_of_lt_of_le (a.lt_step text cursor) ((mem_visits_iff next).mp mem).1
  | case2 => exact List.Pairwise.nil

/-! ## 2. The boundaries of a text -/

/-- Stepping from the beginning of a text visits its boundaries, in order. -/
theorem visits_eq_boundaries (text : String) :
    Advance.char.visits text.toByteArray 0 =
      (List.range (text.utf8ByteSize + 1)).filter (fun i => IsBoundary text i) := by
  have rests := (place_char_iff.mpr (isBoundary_zero text)).rests
  refine (pairwise_visits rests).eq_of_mem_iff (List.pairwise_lt_range.filter _) fun i => ?_
  rw [mem_visits_iff rests, place_char_iff]
  simp only [Nat.zero_le, true_and, List.mem_filter, List.mem_range, decide_eq_true_eq,
    Nat.lt_succ_iff, iff_and_self]
  exact IsBoundary.le

/-- From where a character begins, a step leads to where it ends. -/
theorem step_character (before after : String) (c : Char) :
    Advance.char.step (before ++ (String.singleton c ++ after)).toByteArray before.utf8ByteSize =
      (before ++ String.singleton c).utf8ByteSize := by
  have boundary : IsBoundary (before ++ (String.singleton c ++ after)) before.utf8ByteSize :=
    String.Pos.Raw.isValid_iff_exists_append.mpr ⟨before, _, rfl, rfl⟩
  have inside : before.utf8ByteSize <
      (before ++ (String.singleton c ++ after)).toByteArray.size := by
    have := c.utf8Size_pos
    simp only [String.size_toByteArray, String.utf8ByteSize_append, String.utf8ByteSize_singleton]
    omega
  -- The position there has `c` next, so the position after it has `c` behind it.
  have splits : String.Pos.Splits (⟨⟨before.utf8ByteSize⟩, boundary⟩ : String.Pos _) before
      (String.singleton c ++ after) := ⟨rfl, rfl⟩
  rw [step, width_char inside, leadWidth_eq _ (boundary.isFirst inside),
    ← boundary.offset_next inside splits.ne_endPos_of_singleton]
  exact congrArg String.Pos.Raw.byteIdx splits.next.offset_eq_rawEndPos

/-- From where some characters begin, stepping visits where each of them
begins and where the last of them ends. -/
theorem visits_eq_scanl (before : String) (cs : List Char) :
    Advance.char.visits (before ++ String.ofList cs).toByteArray before.utf8ByteSize =
      cs.scanl (fun i c => i + c.utf8Size) before.utf8ByteSize := by
  induction cs generalizing before with
  | nil =>
    have whole := visits_end .char before.toByteArray
    rw [String.size_toByteArray] at whole
    simpa using whole
  | cons c cs ih =>
    have inside : before.utf8ByteSize ≤ (before ++ String.ofList (c :: cs)).toByteArray.size := by
      simp
    have first : String.ofList (c :: cs) = String.singleton c ++ String.ofList cs := by
      rw [String.singleton_eq_ofList, ← String.ofList_append, List.singleton_append]
    rw [visits_inside inside, List.scanl_cons, first, step_character, ← String.append_assoc, ih,
      String.utf8ByteSize_append, String.utf8ByteSize_singleton]

end Advance

/-! ## 3. The end of a scan -/

namespace Scan

variable {σ : Type} {s : Scan} {visit : σ → Region → σ × Decision} {st : Standing σ}

/-- After a skip at the end of the text, no scan within it asks again. -/
theorem finish_after_end (within : s.stop ≤ s.text.size) (atEnd : st.cursor = s.text.size)
    (region : Region) : s.Finish visit (s.skip st region) ⟨st.state, [], .ok st.count⟩ := by
  apply Finish.past
  rw [skip_cursor, atEnd]
  exact Nat.lt_of_le_of_lt within (s.advance.lt_step s.text s.text.size)

/-- A skip at the end of the text is the last event of a run, which succeeds. -/
theorem Ends.skip_at_end {r : Run σ} (ends : s.Ends visit st r) (within : s.stop ≤ s.text.size)
    {before later : List Event} {offset : Nat}
    (split : r.trace = before ++ .asked s.text.size :: .skipped offset :: later) :
    later = [] ∧ ∃ n, r.outcome = .ok n := by
  induction ends generalizing before with
  | finish last => cases last <;> simp [List.cons_eq_append_iff] at split
  | @round st _ _ r first rest ih =>
    cases first with
    | @skip span region =>
      rcases cons_cons_eq_append_cons split with ⟨rfl, same⟩ | ⟨-, same⟩ | ⟨more, rfl, next⟩
      · -- This is the skip at the end: the cursor leaves the text, and nothing follows.
        have atEnd : st.cursor = s.text.size := (Event.asked.inj same).symm
        have follows : later = r.trace := (List.cons.inj (List.cons.inj split).2).2.symm
        obtain rfl := rest.unique (.finish (finish_after_end within atEnd region))
        exact ⟨follows, st.count, rfl⟩
      · cases same
      · exact ih next
    | take =>
      rcases cons_cons_eq_append_cons split with ⟨rfl, same⟩ | ⟨-, same⟩ | ⟨more, rfl, next⟩
      · cases (List.cons.inj (List.cons.inj split).2).1
      · cases same
      · exact ih next

end Scan

/-! ## 4. Every boundary in turn -/

namespace Advance

/-- **Stepping by characters.** From a boundary before the end of a text a step
leads to the next one. So stepping from the beginning visits the boundaries of
the text and no other offset, in order: where each of its characters begins,
and where the last of them ends. From there a step leads to the offset after
the text. A scan of the text that skips a match there comes to an end, whatever
it has done before: this is the last event of its run, which succeeds. -/
theorem boundaries_in_order (text : String) :
    (∀ i, IsBoundary text i → i < text.utf8ByteSize →
      let next := i + Advance.char.width text.toByteArray i
      i < next ∧ next ≤ text.utf8ByteSize ∧ IsBoundary text next ∧
        ∀ j, i < j → j < next → ¬ IsBoundary text j) ∧
    Advance.char.visits text.toByteArray 0 =
      (List.range (text.utf8ByteSize + 1)).filter (fun i => IsBoundary text i) ∧
    Advance.char.visits text.toByteArray 0 = text.toList.scanl (fun i c => i + c.utf8Size) 0 ∧
    text.utf8ByteSize + Advance.char.width text.toByteArray text.utf8ByteSize =
      text.utf8ByteSize + 1 ∧
    ∀ (s : Scan) {σ : Type} (visit : σ → Region → σ × Decision), s.text = text.toByteArray →
      (s.stop ≤ text.utf8ByteSize → ∀ (st : Standing σ) (region : Region),
        st.cursor = text.utf8ByteSize →
          s.loop visit (s.skip st region) = some ⟨st.state, [], .ok st.count⟩) ∧
      ∀ (start : Nat) (state : σ) (run : Run σ), s.run visit start state = some run →
        ∀ before offset later,
          run.trace = before ++ .asked text.utf8ByteSize :: .skipped offset :: later →
            later = [] ∧ ∃ n, run.outcome = .ok n := by
  refine ⟨fun i boundary less => ?_, visits_eq_boundaries text, ?_, ?_, ?_⟩
  · have place := place_char_iff.mpr boundary
    have next := place.next (by simpa using less)
    refine ⟨Advance.char.lt_step _ i, (place_char_iff.mp next).le, place_char_iff.mp next, ?_⟩
    intro j after before later
    exact Nat.not_le.mpr before (place.next_le (place_char_iff.mpr later) after)
  · simpa using visits_eq_scanl "" text.toList
  · simpa [step] using step_end .char text.toByteArray
  · intro s σ visit same
    rw [← String.size_toByteArray, ← same]
    refine ⟨fun within st region atEnd => (Scan.finish_after_end within atEnd region).loop_eq, ?_⟩
    intro start state run made before offset later split
    by_cases inRange : (s.query start).InRange
    · exact ((Scan.run_eq_some_iff inRange).mp made).skip_at_end inRange.2 split
    · rw [Scan.run_of_not_inRange inRange, Option.some.injEq] at made
      subst made
      simp at split

/-- Characters of one to four bytes. -/
example : Advance.char.visits "aé€😀".toByteArray 0 = [0, 1, 3, 6, 10] := by cbv

/-- In `éaaé` the second character is a byte wide, and the scan for the matches
of `a*` ends with a skip at the end of the text. -/
theorem boundaries_in_order_star :
    (IsBoundary "éaaé" 2 ∧ 2 < "éaaé".utf8ByteSize ∧
      IsBoundary "éaaé" (2 + Advance.char.width "éaaé".toByteArray 2)) ∧
    Advance.char.visits "éaaé".toByteArray 0 = [0, 2, 3, 4, 6] ∧
    starScan.text = "éaaé".toByteArray ∧ starScan.runAll 0 = some starRun ∧
    starRun.trace = starRun.trace.take 10 ++ [.asked "éaaé".utf8ByteSize, .skipped 6] ∧
    ∃ n, starRun.outcome = .ok n := by
  obtain ⟨steps, -, visited, -, last⟩ := boundaries_in_order "éaaé"
  have boundary : IsBoundary "éaaé" 2 := by decide
  have less : 2 < "éaaé".utf8ByteSize := by decide
  have skipped : starRun.trace =
      starRun.trace.take 10 ++ [.asked "éaaé".utf8ByteSize, .skipped 6] := rfl
  refine ⟨⟨boundary, less, (steps 2 boundary less).2.2.1⟩, ?_, rfl, Scan.runAll_starScan,
    skipped, ?_⟩
  · rw [visited]
    decide
  · exact ((last starScan _ rfl).2 0 () _ Scan.runAll_starScan _ _ _ skipped).2

end Advance

end PatternSearch
