/-
PatternSearch.Proofs.Search.Range — matches at the end of a range.

A scan goes from one offset to another, and its matches start before the
second. All but one do: the scan asks once more when its cursor has come to
the end of the range, as an empty match there is one of the range. Asked from
there, the engine tries the end itself and may answer with a match that
begins where the range ends.

`half_open_range` says when this happens. It takes a search from the end
(`Ends.exists_stop_le_iff`), and the scan makes one only if it is led there, by
a match that ends there or by a skip (`Ends.led_to`). Then the match there is
handed over as the last one (`Ends.start_lt_or_last`), and it belongs to the
next range too.
-/
import PatternSearch.Proofs.Regex.Compiled
import PatternSearch.Proofs.Search.Leftmost
import PatternSearch.Proofs.Search.Unfolding

namespace PatternSearch

open Text

namespace Scan

variable {σ : Type} {s : Scan} {visit : σ → Region → σ × Decision} {P : Nat → Prop}

/-! ## 1. The end of a range -/

/-- Asked from before the end of its range, the scan is answered with a match
that starts before it or with the empty match there; asked from the end, with
one that starts there. -/
structure Bounded (s : Scan) : Prop where
  before : ∀ {past cursor : Nat} {before region : Region} {span : Span}, cursor < s.stop →
    s.ask past cursor before = .ok (some (span, region)) →
    span.start < s.stop ∨ (span.start = s.stop ∧ span.isEmpty)
  at_stop : ∀ {past : Nat} {before region : Region} {span : Span},
    s.ask past s.stop before = .ok (some (span, region)) → span.start = s.stop

/-- Only the search from the end finds a match there that is not empty. -/
theorem Bounded.start_lt_or_eq (h : s.Bounded) {past cursor : Nat} {before region : Region}
    {span : Span} (inside : cursor ≤ s.stop)
    (found : s.ask past cursor before = .ok (some (span, region))) (full : ¬ span.isEmpty) :
    span.start < s.stop ∨ (span.start = s.stop ∧ cursor = s.stop) := by
  rcases Nat.lt_or_eq_of_le inside with less | rfl
  · exact (h.before less found).imp_right fun empty => absurd empty.2 full
  · exact .inr ⟨h.at_stop found, rfl⟩

theorem Bounded.start_le (h : s.Bounded) {past cursor : Nat} {before region : Region} {span : Span}
    (inside : cursor ≤ s.stop) (found : s.ask past cursor before = .ok (some (span, region))) :
    span.start ≤ s.stop := by
  rcases Nat.lt_or_eq_of_le inside with less | rfl
  · rcases h.before less found with lt | ⟨eq, -⟩
    · exact Nat.le_of_lt lt
    · exact Nat.le_of_eq eq
  · exact Nat.le_of_eq (h.at_stop found)

/-! ## 2. Runs within a range -/

/-- A match handed over answers one of the searches. -/
theorem Ends.asked_for {st : Standing σ} {r : Run σ} (ends : s.Ends visit st r) {m : Span}
    (mem : m ∈ r.spans) : ∃ past cursor before region, cursor ∈ r.cursors ∧ cursor ≤ s.stop ∧
      s.ask past cursor before = .ok (some (m, region)) := by
  induction ends with
  | finish last =>
    cases last with
    | halt inside found =>
      obtain rfl : m = _ := by simpa [Run.spans, List.filterMap_cons] using mem
      exact ⟨_, _, _, _, by simp [Run.cursors], inside, found⟩
    | _ => simp [Run.spans, List.filterMap_cons] at mem
  | round first _ ih =>
    cases first with
    | skip =>
      obtain ⟨past, cursor, before, region, asked, found⟩ := ih mem
      exact ⟨past, cursor, before, region, List.mem_cons_of_mem _ asked, found⟩
    | take inside found =>
      rcases List.mem_cons.mp mem with rfl | mem
      · exact ⟨_, _, _, _, List.mem_cons_self, inside, found⟩
      · obtain ⟨past, cursor, before, region, asked, found⟩ := ih mem
        exact ⟨past, cursor, before, region, List.mem_cons_of_mem _ asked, found⟩

/-- A match that is not empty starts before the end of the range, or it is the
last one and the engine was asked from there. -/
theorem Ends.start_lt_or_last (h : s.Closed P) (bounded : s.Bounded) {st : Standing σ} {r : Run σ}
    (ends : s.Ends visit st r) (hp : P st.cursor) (trails : st.Trails) {m : Span}
    (mem : m ∈ r.spans) (full : ¬ m.isEmpty) :
    m.start < s.stop ∨ (m.start = s.stop ∧ r.spans.getLast? = some m ∧ s.stop ∈ r.cursors) := by
  obtain ⟨past, cursor, before, region, asked, inside, found⟩ := ends.asked_for mem
  refine (bounded.start_lt_or_eq inside found full).imp_right fun ⟨start, here⟩ =>
    ⟨start, ?_, here ▸ asked⟩
  obtain ⟨admitted, ordered⟩ := ends.ordered h hp trails
  obtain ⟨earlier, later, split⟩ := List.append_of_mem mem
  -- A match after this one would start outside the range.
  have last : later = [] := by
    refine List.eq_nil_iff_forall_not_mem.mpr fun next follows => ?_
    have before : m.Before next := by
      rw [split] at ordered
      exact (List.pairwise_cons.mp (List.pairwise_append.mp ordered).2.1).1 next follows
    obtain ⟨_, _, _, _, -, inside', found'⟩ := ends.asked_for (m := next) (by simp [split, follows])
    have within := bounded.start_le inside' found'
    have wide := (admitted m mem).2.1
    have ne := mt Span.isEmpty_iff.mpr full
    have after := before.1
    omega
  rw [split, last, List.getLast?_concat]

/-- A match found from the end of the range, if it is not empty, is handed
over: it repeats none. -/
theorem Ends.mem_of_asked (steady : s.Steady) {st : Standing σ} {r : Run σ}
    (ends : s.Ends visit st r) {c : Nat} (asked : c ∈ r.cursors) {m : Span} {region : Region}
    (found : s.answer c = .ok (some (m, region))) (full : ¬ m.isEmpty) : m ∈ r.spans := by
  have here {past : Nat} {before : Region} {x : Except Error (Option (Span × Region))}
      (answered : s.ask past c before = x) : x = .ok (some (m, region)) :=
    answered.symm.trans ((steady.ask_eq _ _ _).trans found)
  induction ends with
  | finish last =>
    cases last with
    | past => simp [Run.cursors] at asked
    | failed _ answered | absent _ answered =>
      obtain rfl : c = _ := by simpa [Run.cursors, List.filterMap_cons] using asked
      exact nomatch here answered
    | halt _ answered =>
      obtain rfl : c = _ := by simpa [Run.cursors, List.filterMap_cons] using asked
      cases here answered
      simp [Run.spans, List.filterMap_cons]
  | round first _ ih =>
    cases first with
    | skip _ answered repeats =>
      rcases List.mem_cons.mp asked with rfl | asked
      · cases here answered
        exact absurd repeats.1 full
      · exact ih asked
    | take _ answered =>
      rcases List.mem_cons.mp asked with rfl | asked
      · cases here answered
        exact List.mem_cons_self
      · exact List.mem_cons_of_mem _ (ih asked)

/-- A match that is not empty starts at the end of the range if and only if
the engine was asked from there and finds it. -/
theorem Ends.exists_stop_le_iff (steady : s.Steady) (bounded : s.Bounded) {st : Standing σ}
    {r : Run σ} (ends : s.Ends visit st r) :
    (∃ m ∈ r.spans, ¬ m.isEmpty ∧ s.stop ≤ m.start) ↔ s.stop ∈ r.cursors ∧
      ∃ m region, s.answer s.stop = .ok (some (m, region)) ∧ ¬ m.isEmpty := by
  constructor
  · rintro ⟨m, mem, full, outside⟩
    obtain ⟨past, cursor, before, region, asked, inside, found⟩ := ends.asked_for mem
    obtain ⟨-, rfl⟩ :=
      (bounded.start_lt_or_eq inside found full).resolve_left (Nat.not_lt.mpr outside)
    exact ⟨asked, m, region, (steady.ask_eq _ _ _).symm.trans found, full⟩
  · rintro ⟨asked, m, region, found, full⟩
    have start := bounded.at_stop found
    exact ⟨m, ends.mem_of_asked steady asked found full, full, Nat.le_of_eq start.symm⟩

/-- What leads a scan to a cursor: it begins there, a match ends there, or a
skip goes there. -/
theorem Ends.led_to (h : s.Closed P) {st : Standing σ} {r : Run σ} (ends : s.Ends visit st r)
    (hp : P st.cursor) (trails : st.Trails) {c : Nat} (asked : c ∈ r.cursors) :
    c = st.cursor ∨ (∃ m ∈ r.spans, m.stop = c) ∨
      ∃ i, .skipped i ∈ r.trace ∧ i + s.advance.width s.text i = c := by
  induction ends with
  | finish last =>
    cases last with
    | past => simp [Run.cursors] at asked
    | _ => exact .inl (by simpa [Run.cursors, List.filterMap_cons] using asked)
  | @round st _ _ _ first _ ih =>
    have later := ih (first.cursor_mem h hp) (first.trails trails)
    cases first with
    | skip inside found repeats =>
      obtain ⟨start_le, le_stop, -⟩ := h.found hp inside found
      obtain ⟨-, rfl⟩ := (Standing.repeats_iff trails start_le le_stop).mp repeats
      rcases List.mem_cons.mp asked with rfl | asked
      · exact .inl rfl
      · rcases later asked with rfl | matched | ⟨i, skipped, same⟩
        · exact .inr (.inr ⟨st.cursor, by simp [Run.after], rfl⟩)
        · exact .inr (.inl matched)
        · exact .inr (.inr ⟨i, List.mem_append_right _ skipped, same⟩)
    | take inside found =>
      rcases List.mem_cons.mp asked with rfl | asked
      · exact .inl rfl
      · rcases later asked with rfl | ⟨m, mem, stop⟩ | ⟨i, skipped, same⟩
        · exact .inr (.inl ⟨_, List.mem_cons_self, rfl⟩)
        · exact .inr (.inl ⟨m, List.mem_cons_of_mem _ mem, stop⟩)
        · exact .inr (.inr ⟨i, List.mem_append_right _ skipped, same⟩)

/-! ## 3. An example

A letter is looked for in `aaa`, in the first byte of the text and in the
second. -/

/-- The scan of a text by bytes, up to an offset. -/
def bytesOf (re : Regex) (text : String) (stop : Nat) : Scan :=
  ⟨re.toEngine, text.toByteArray, stop, .none, .standard, .byte⟩

/-- The answer that the letter is right there. -/
def letterAt (c : Nat) : Except Error (Option (Span × Region)) :=
  .ok (some (⟨c, c + 1⟩, .ofSpans [some ⟨c, c + 1⟩]))

/-- There are letters at both ends of either range, and each scan reports both
of them. -/
theorem exists_letter_scans :
    ∃ re, Regex.ofPattern "a" = .ok re ∧
      (∀ c ≤ 1, (bytesOf re "aaa" 1).answer c = letterAt c) ∧
      (∀ c ≤ 2, (bytesOf re "aaa" 2).answer c = letterAt c) ∧
      (∃ run, (bytesOf re "aaa" 1).runAll 0 = some run ∧ run.spans = [⟨0, 1⟩, ⟨1, 2⟩]) ∧
      ∃ run, (bytesOf re "aaa" 2).runAll 1 = some run ∧ run.spans = [⟨1, 2⟩, ⟨2, 3⟩] := by
  have computed : (Regex.ofPattern "a").map (fun re =>
      ((List.range 2).map (bytesOf re "aaa" 1).answer,
        (List.range 3).map (bytesOf re "aaa" 2).answer,
        ((bytesOf re "aaa" 1).runAll 0).map Run.spans,
        ((bytesOf re "aaa" 2).runAll 1).map Run.spans)) =
      .ok ((List.range 2).map letterAt, (List.range 3).map letterAt,
        some [⟨0, 1⟩, ⟨1, 2⟩], some [⟨1, 2⟩, ⟨2, 3⟩]) := by
    cbv
  obtain ⟨re, compiled, same⟩ := map_eq_ok_iff.mp computed
  simp only [Prod.mk.injEq, List.map_inj_left, List.mem_range, Nat.lt_succ_iff,
    Option.map_eq_some_iff] at same
  exact ⟨re, compiled, same⟩

/-- Scans that find the letter wherever they ask for it keep to their range. -/
theorem bounded_of_letterAt {re : Regex} (compiled : Regex.ofPattern "a" = .ok re) {stop : Nat}
    (inside : stop < 3) (answers : ∀ c ≤ stop, (bytesOf re "aaa" stop).answer c = letterAt c) :
    (bytesOf re "aaa" stop).Sound ∧ (bytesOf re "aaa" stop).Steady ∧
      (bytesOf re "aaa" stop).Bounded := by
  rw [Regex.ofPattern, Regex.withOptions] at compiled
  have steady : (bytesOf re "aaa" stop).Steady :=
    steady_of_engine (Regex.steady_of_compile compiled)
  have there {past c : Nat} {before region : Region} {m : Span} (le : c ≤ stop)
      (found : (bytesOf re "aaa" stop).ask past c before = .ok (some (m, region))) :
      m = ⟨c, c + 1⟩ := by
    rw [steady.ask_eq, answers c le] at found
    cases found
    rfl
  refine ⟨?_, steady, ?_, ?_⟩
  · intro past c before region m le found
    obtain rfl := there le found
    have within : c + 1 ≤ 3 := Nat.succ_le_of_lt (Nat.lt_of_le_of_lt le inside)
    exact ⟨Nat.le_refl _, Nat.le_succ _, within⟩
  · intro past c before region m less found
    obtain rfl := there (Nat.le_of_lt less) found
    exact .inl less
  · intro past before region m found
    obtain rfl := there (Nat.le_refl _) found
    rfl

/-! ## 4. Ranges next to each other -/

/-- The scan of another range of the text. -/
def stoppingAt (s : Scan) (stop : Nat) : Scan := { s with stop }

/-- **Ranges.** Let the engine answer within the text, from the cursor on and
always the same, and let it keep to the end of the range as long as it is not
asked from there. Then the scan comes to an end, and every match of it that is
not empty starts before the end of the range, except that the last one may
start right there. It does if and only if the scan asks from the end and the
engine finds it there. The scan does so only if it starts there, a match ends
there or a skip goes there.

Scans of ranges next to each other share no match but this one, provided it
is not empty. -/
theorem half_open_range (s : Scan) (sound : s.Sound) (steady : s.Steady) (bounded : s.Bounded)
    (visit : σ → Region → σ × Decision) (start : Nat) (state : σ) :
    ∃ run, s.run visit start state = some run ∧
    (∀ m ∈ run.spans, ¬ m.isEmpty → m.start < s.stop ∨
      (m.start = s.stop ∧ run.spans.getLast? = some m ∧ s.stop ∈ run.cursors)) ∧
    ((∃ m ∈ run.spans, ¬ m.isEmpty ∧ s.stop ≤ m.start) ↔ s.stop ∈ run.cursors ∧
      ∃ m region, s.answer s.stop = .ok (some (m, region)) ∧ ¬ m.isEmpty) ∧
    (∀ c ∈ run.cursors, c = start ∨ (∃ m ∈ run.spans, m.stop = c) ∨
      ∃ i, .skipped i ∈ run.trace ∧ i + s.advance.width s.text i = c) ∧
    ∀ (stop : Nat), (s.stoppingAt stop).Sound → ∀ {τ : Type} (other : τ → Region → τ × Decision)
      (init : τ), ∃ next, (s.stoppingAt stop).run other s.stop init = some next ∧
        ∀ m ∈ run.spans, m ∈ next.spans → ¬ m.isEmpty →
          m.start = s.stop ∧ run.spans.getLast? = some m ∧ s.stop ∈ run.cursors := by
  have next {stop : Nat} (sound' : (s.stoppingAt stop).Sound) {τ : Type}
      (other : τ → Region → τ × Decision) (init : τ) :
      ∃ next, (s.stoppingAt stop).run other s.stop init = some next ∧
        ∀ m ∈ next.spans, s.stop ≤ m.start := by
    obtain ⟨next, made⟩ := Sound.exists_run sound' other s.stop init
    exact ⟨next, made, fun m mem => start_le_of_run sound' made mem⟩
  by_cases inRange : (s.query start).InRange
  · have closed := sound.closed
    have trails := Standing.trails_first start state
    obtain ⟨run, made, ends⟩ := exists_run closed visit state trivial inRange
    have within {m : Span} (mem : m ∈ run.spans) (full : ¬ m.isEmpty) :
        m.start < s.stop ∨
          (m.start = s.stop ∧ run.spans.getLast? = some m ∧ s.stop ∈ run.cursors) :=
      ends.start_lt_or_last closed bounded trivial trails mem full
    refine ⟨run, made, fun m => within, ends.exists_stop_le_iff steady bounded,
      fun c asked => ends.led_to closed trivial trails asked, fun stop sound' τ other init => ?_⟩
    obtain ⟨adjacent, made', after⟩ := next sound' other init
    exact ⟨adjacent, made', fun m mem mem' full =>
      (within mem full).resolve_left (Nat.not_lt.mpr (after m mem'))⟩
  · refine ⟨_, run_of_not_inRange inRange state, ?_⟩
    simp only [Run.spans, Run.cursors, List.filterMap_nil, List.not_mem_nil, false_and,
      exists_false, false_imp_iff, implies_true, true_and]
    intro stop sound' τ other init
    obtain ⟨adjacent, made', -⟩ := next sound' other init
    exact ⟨adjacent, made', trivial⟩

/-- **A match at the end of a range.** In `aaa`, the scan of the first byte
reports the letter in the second one, and so does the scan of the second. -/
theorem range_overrun :
    ∃ re, Regex.ofPattern "a" = .ok re ∧
      (bytesOf re "aaa" 1).Sound ∧ (bytesOf re "aaa" 1).Steady ∧ (bytesOf re "aaa" 1).Bounded ∧
      ∃ run next, (bytesOf re "aaa" 1).runAll 0 = some run ∧
        ((bytesOf re "aaa" 1).stoppingAt 2).runAll 1 = some next ∧
        ∃ m ∈ run.spans, ¬ m.isEmpty ∧ (bytesOf re "aaa" 1).stop ≤ m.start ∧
          m ∈ next.spans := by
  obtain ⟨re, compiled, answers, -, ⟨run, made, first⟩, next, again, second⟩ :=
    exists_letter_scans
  obtain ⟨sound, steady, bounded⟩ := bounded_of_letterAt compiled (by decide) answers
  exact ⟨re, compiled, sound, steady, bounded, run, next, made, again, ⟨1, 2⟩, by simp [first],
    by decide, Nat.le_refl _, by simp [second]⟩

/-- The scan of the first byte asks from its end, where it finds its last
match. -/
theorem half_open_range_letter :
    ∃ re, Regex.ofPattern "a" = .ok re ∧
      (bytesOf re "aaa" 1).Sound ∧ (bytesOf re "aaa" 1).Steady ∧ (bytesOf re "aaa" 1).Bounded ∧
      ((bytesOf re "aaa" 1).stoppingAt 2).Sound ∧
      ∃ run, (bytesOf re "aaa" 1).runAll 0 = some run ∧ run.spans.getLast? = some ⟨1, 2⟩ ∧
        1 ∈ run.cursors := by
  obtain ⟨re, compiled, answers, more, ⟨_, made, first⟩, _, again, second⟩ :=
    exists_letter_scans
  obtain ⟨sound, steady, bounded⟩ := bounded_of_letterAt compiled (by decide) answers
  have following : ((bytesOf re "aaa" 1).stoppingAt 2).Sound :=
    (bounded_of_letterAt compiled (by decide) more).1
  obtain ⟨run, made', -, -, -, shared⟩ := half_open_range (bytesOf re "aaa" 1) sound steady
    bounded (fun u _ => (u, .resume)) 0 ()
  obtain ⟨next, again', shared⟩ := shared 2 following (fun u _ => (u, .resume)) ()
  obtain rfl := Option.some.inj (made.symm.trans made')
  obtain rfl := Option.some.inj (again.symm.trans again')
  have last := shared ⟨1, 2⟩ (by simp [first]) (by simp [second]) (by decide)
  exact ⟨re, compiled, sound, steady, bounded, following, _, made, last.2⟩

end Scan

end PatternSearch
