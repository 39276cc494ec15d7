/-
PatternSearch.Proofs.Search.Truncation — scans that are cut short.

A visitor has no influence on what a scan finds. All it can do is to end it.
So there is one full run, that of a visitor which never halts, and the run of
any other visitor is a part of it: as far as the first region the visitor
halts at, or all of it (`Ends.cut`). An error ends the full run where it
happens. A visitor that has halted before does not get to know of it.

Errors come from the engine alone. The range is looked at before the first
search, and no later search leads out of it, so the check each search makes
for itself never fails.

`truncated_run` has all of this for a visitor that halts at its `k`-th call.
-/
import PatternSearch.Proofs.Search.Order
import PatternSearch.Proofs.Search.Watching

namespace PatternSearch

open Text

/-! ## 1. The answers of a visitor -/

variable {σ : Type}

/-- What a visitor answers to regions it is handed one after the other. -/
def decisions (visit : σ → Region → σ × Decision) : σ → List Region → List Decision
  | _, [] => []
  | state, region :: rest =>
    (visit state region).2 :: decisions visit (visit state region).1 rest

variable {visit : σ → Region → σ × Decision} {state : σ} {regions : List Region}

@[simp] theorem length_decisions : (decisions visit state regions).length = regions.length := by
  induction regions generalizing state with
  | nil => rfl
  | cons region rest ih => rw [decisions, List.length_cons, ih, List.length_cons]

/-- Handed the regions one after the other, the visitor halts at the `k`-th,
counting from 1, and at none before it. There may be fewer regions than that. -/
structure HaltsAt (visit : σ → Region → σ × Decision) (state : σ) (regions : List Region)
    (k : Nat) : Prop where
  before : .halt ∉ (decisions visit state regions).take (k - 1)
  there : k ≤ regions.length → (decisions visit state regions)[k - 1]? = some .halt

namespace HaltsAt

variable {k : Nat} (h : HaltsAt visit state regions k)

include h

/-- With enough regions, the `k`-th is the first the visitor halts at. -/
theorem idxOf_eq (pos : 1 ≤ k) (enough : k ≤ regions.length) :
    .halt ∈ decisions visit state regions ∧
      (decisions visit state regions).idxOf .halt + 1 = k := by
  obtain ⟨inside, here⟩ := List.getElem?_eq_some_iff.mp (h.there enough)
  have split : decisions visit state regions = (decisions visit state regions).take (k - 1) ++
      .halt :: (decisions visit state regions).drop (k - 1 + 1) := by
    rw [← here, ← List.drop_eq_getElem_cons inside, List.take_append_drop]
  have index : (decisions visit state regions).idxOf .halt = k - 1 := by
    rw [split, List.idxOf_append_of_notMem h.before, List.idxOf_cons_self, List.length_take]
    omega
  exact ⟨List.mem_of_getElem here, by omega⟩

/-- With fewer, it halts at none. -/
theorem notMem (fewer : regions.length < k) : .halt ∉ decisions visit state regions := by
  have all : (decisions visit state regions).take (k - 1) = decisions visit state regions :=
    List.take_of_length_le (by rw [length_decisions]; omega)
  exact all ▸ h.before

end HaltsAt

/-! ## 2. Part of a run -/

namespace Run

/-- A run is a full one up to where a visitor halts. `count` is the number of
matches before both. -/
structure IsCut (r : Run σ) (full : Run Unit) (visit : σ → Region → σ × Decision) (state : σ)
    (count : Nat) : Prop where
  accepted_eq : r.accepted =
    full.accepted.take ((decisions visit state full.accepted).idxOf .halt + 1)
  outcome_eq : r.outcome =
    if .halt ∈ decisions visit state full.accepted then
      .ok (count + ((decisions visit state full.accepted).idxOf .halt + 1))
    else full.outcome
  trace_prefix : r.trace <+: full.trace
  trace_eq : .halt ∉ decisions visit state full.accepted → r.trace = full.trace

namespace IsCut

variable {r : Run σ} {full : Run Unit} {count cursor start : Nat} {span : Span} {region : Region}
  {state' : σ}

/-- A run in which nothing is handed over is not cut. -/
theorem of_nil {trace : List Event} {outcome : Except Error Nat}
    (none : trace.filterMap Event.region? = []) :
    IsCut ⟨state, trace, outcome⟩ ⟨(), trace, outcome⟩ visit state count where
  accepted_eq := by simp [accepted, none]
  outcome_eq := by simp [accepted, none, decisions]
  trace_prefix := List.prefix_rfl
  trace_eq _ := rfl

theorem skip (h : r.IsCut full visit state count) :
    IsCut (r.after [.asked cursor, .skipped start]) (full.after [.asked cursor, .skipped start])
      visit state count where
  accepted_eq := h.accepted_eq
  outcome_eq := h.outcome_eq
  trace_prefix := (List.prefix_append_right_inj _).mpr h.trace_prefix
  trace_eq none := congrArg (_ ++ ·) (h.trace_eq none)

/-- The visitor halts at the first region. -/
theorem halt (halts : visit state region = (state', .halt)) :
    IsCut ⟨state', [.asked cursor, .accepted count span region], .ok (count + 1)⟩
      (full.after [.asked cursor, .accepted count span region]) visit state count where
  accepted_eq := by simp [accepted, List.filterMap_cons, decisions, halts, after]
  outcome_eq := by simp [decisions, halts]
  trace_prefix := List.prefix_append _ _
  trace_eq none := by simp [decisions, halts] at none

/-- The visitor goes on after the first region. -/
theorem take (resumes : visit state region = (state', .resume))
    (h : r.IsCut full visit state' (count + 1)) :
    IsCut (r.after [.asked cursor, .accepted count span region])
      (full.after [.asked cursor, .accepted count span region]) visit state count := by
  have shown : decisions visit state
      (full.after [.asked cursor, .accepted count span region]).accepted =
        .resume :: decisions visit state' full.accepted := by
    simp [decisions, resumes]
  have index : (Decision.resume :: decisions visit state' full.accepted).idxOf .halt =
      (decisions visit state' full.accepted).idxOf .halt + 1 :=
    List.idxOf_cons_ne _ (by decide)
  have halts : .halt ∈ Decision.resume :: decisions visit state' full.accepted ↔
      .halt ∈ decisions visit state' full.accepted := by simp
  constructor
  · rw [shown, index, accepted_after_take, accepted_after_take, List.take_succ_cons,
      h.accepted_eq]
  · simp only [shown, index, halts, after_outcome, h.outcome_eq]
    split
    · rw [Nat.add_right_comm, Nat.add_assoc count]
    · rfl
  · exact (List.prefix_append_right_inj _).mpr h.trace_prefix
  · intro none
    rw [shown, halts] at none
    exact congrArg (_ ++ ·) (h.trace_eq none)

/-- With enough regions, the run ends with the `k`-th. -/
theorem of_enough (h : r.IsCut full visit state count) {k : Nat}
    (halts : HaltsAt visit state full.accepted k) (pos : 1 ≤ k)
    (enough : k ≤ full.accepted.length) :
    r.outcome = .ok (count + k) ∧ r.accepted = full.accepted.take k := by
  obtain ⟨mem, index⟩ := halts.idxOf_eq pos enough
  rw [h.outcome_eq, if_pos mem, h.accepted_eq, index]
  exact ⟨rfl, rfl⟩

/-- With fewer, it is the full run. -/
theorem of_fewer (h : r.IsCut full visit state count) {k : Nat}
    (halts : HaltsAt visit state full.accepted k) (fewer : full.accepted.length < k) :
    r.outcome = full.outcome ∧ r.accepted = full.accepted ∧ r.trace = full.trace := by
  have none := halts.notMem fewer
  have same := h.trace_eq none
  exact ⟨by rw [h.outcome_eq, if_neg none], congrArg (List.filterMap Event.region?) same, same⟩

end IsCut

end Run

namespace Scan

variable {s : Scan}

/-- Where a visitor that never halts makes a full run, any other makes a part
of it. -/
theorem Ends.cut {st : Standing Unit} {full : Run Unit}
    (ends : s.Ends (fun u _ => (u, .resume)) st full) (visit : σ → Region → σ × Decision)
    (state : σ) :
    ∃ r, s.Ends visit (st.withState state) r ∧ r.IsCut full visit state st.count := by
  induction ends generalizing state with
  | finish last =>
    cases last with
    | past outside => exact ⟨_, .finish (.past outside), .of_nil rfl⟩
    | failed inside found => exact ⟨_, .finish (.failed inside found), .of_nil rfl⟩
    | absent inside found => exact ⟨_, .finish (.absent inside found), .of_nil rfl⟩
    | halt _ _ _ halts => simp at halts
  | round first _ ih =>
    cases first with
    | skip inside found repeats =>
      obtain ⟨r, rest, cut⟩ := ih state
      exact ⟨_, .round (.skip inside found repeats) rest, cut.skip⟩
    | @take span region _ inside found fresh =>
      rcases answer : visit state region with ⟨state', _ | _⟩
      · obtain ⟨r, rest, cut⟩ := ih state'
        exact ⟨_, .round (.take inside found fresh answer) rest, cut.take answer⟩
      · exact ⟨_, .finish (.halt inside found fresh answer), .halt answer⟩

/-- An error that ends a run is an answer of the engine, from within the range. -/
theorem Ends.exists_failed {st : Standing σ} {r : Run σ} (ends : s.Ends visit st r) {e : Error}
    (failed : r.outcome = .error e) :
    ∃ past cursor before, cursor ≤ s.stop ∧ s.ask past cursor before = .error e := by
  induction ends with
  | finish last =>
    cases last with
    | failed inside found => exact ⟨_, _, _, inside, Except.error.inj failed ▸ found⟩
    | _ => simp at failed
  | round _ _ ih => exact ih failed

/-- Within the range, all a search can fail with is a status of the engine. -/
theorem exists_ofCode_of_ask {past cursor : Nat} {before : Region} {e : Error}
    (inRange : (s.query cursor).InRange) (failed : s.ask past cursor before = .error e) :
    ∃ status, e = .ofCode status := by
  rw [ask, Engine.searchAfter_of_inRange inRange] at failed
  split at failed
  · rename_i e' _ answered
    obtain rfl := Except.error.inj failed
    exact ⟨_, eq_ofCode_of_answerOfStatus (congrArg Prod.fst answered)⟩
  · simp at failed
  · simp at failed

/-- The searches of a scan stay within the range it was given. -/
theorem inRange_of_le {start cursor : Nat} (inRange : (s.query start).InRange)
    (inside : cursor ≤ s.stop) : (s.query cursor).InRange :=
  ⟨Nat.le_trans inside inRange.2, inRange.2⟩

/-- A run within the text does not fail for a range. -/
theorem Ends.outcome_ne_invalidRange {start : Nat} (inRange : (s.query start).InRange)
    {st : Standing σ} {r : Run σ} (ends : s.Ends visit st r) {a b length : Nat} :
    r.outcome ≠ .error (.invalidRange a b length) := by
  intro failed
  obtain ⟨past, cursor, before, inside, found⟩ := ends.exists_failed failed
  obtain ⟨status, same⟩ := exists_ofCode_of_ask (inRange_of_le inRange inside) found
  simp [Error.ofCode] at same

/-! ## 3. Whole runs -/

/-- A run within the text is a part of the full one. -/
theorem exists_cut (sound : s.Sound) {start : Nat} (inRange : (s.query start).InRange)
    (visit : σ → Region → σ × Decision) (state : σ) :
    ∃ full run, s.runAll start = some full ∧ s.run visit start state = some run ∧
      s.Ends visit (.first start state) run ∧ run.IsCut full visit state 0 := by
  obtain ⟨full, made, always⟩ :=
    exists_run sound.closed (fun (u : Unit) _ => (u, .resume)) () trivial inRange
  obtain ⟨run, ends, cut⟩ := always.cut visit state
  exact ⟨full, run, made, (run_eq_some_iff inRange).mpr ends, ends, cut⟩

/-- **Truncation.** Let the engine answer within the text, from the cursor on,
and let the regions of the full run be those handed to a visitor that never
halts, before that run ends or fails. A visitor that halts at its `k`-th call
is handed the first `k` of them if there are as many, and the answer is `k`,
even if the full run fails later. If there are fewer, it is handed all of them
and everything is as in the full run. An answer is always the number of calls.

A range that does not lie within the text is refused, without a call and
without a search. No search is ever refused for its range. -/
theorem truncated_run (s : Scan) (sound : s.Sound) (visit : σ → Region → σ × Decision)
    (start : Nat) (state : σ) :
    ∃ full run, s.runAll start = some full ∧ s.run visit start state = some run ∧
      (∀ k, 1 ≤ k → HaltsAt visit state full.accepted k →
        (k ≤ full.accepted.length → run.outcome = .ok k ∧
          run.accepted = full.accepted.take k ∧ run.trace <+: full.trace) ∧
        (full.accepted.length < k → run.outcome = full.outcome ∧
          run.accepted = full.accepted ∧ run.trace = full.trace)) ∧
      run.state = run.accepted.foldl (fun state region => (visit state region).1) state ∧
      (∀ n, run.outcome = .ok n → n = run.accepted.length) ∧
      ((∃ a b length, run.outcome = .error (.invalidRange a b length)) ↔
        s.text.size < start ∨ s.text.size < s.stop) ∧
      (s.text.size < start ∨ s.text.size < s.stop →
        run = ⟨state, [], .error (.invalidRange start s.stop s.text.size)⟩) ∧
      ∀ cursor ∈ run.cursors, (s.query cursor).InRange := by
  have outside_iff : (s.text.size < start ∨ s.text.size < s.stop) ↔ ¬ (s.query start).InRange := by
    simp only [Query.InRange, query]
    omega
  rw [outside_iff]
  by_cases inRange : (s.query start).InRange
  · obtain ⟨full, run, made, went, ends, cut⟩ := exists_cut sound inRange visit state
    refine ⟨full, run, made, went,
      fun k pos halts => ⟨fun enough => ?_, fun fewer => cut.of_fewer halts fewer⟩,
      ends.state_eq_foldl, fun n ok => ?_, ⟨fun refused => ?_, fun outside => ?_⟩,
      fun outside => absurd inRange outside, fun cursor mem => ?_⟩
    · obtain ⟨outcome, accepted⟩ := cut.of_enough halts pos enough
      exact ⟨by rw [outcome, Nat.zero_add], accepted, cut.trace_prefix⟩
    · rw [ends.length_accepted, ends.outcome_eq ok]
      simp [Standing.first]
    · obtain ⟨a, b, length, failed⟩ := refused
      exact absurd failed (ends.outcome_ne_invalidRange inRange)
    · exact absurd inRange outside
    · exact inRange_of_le inRange (ends.cursor_mem sound.closed trivial mem).2
  · refine ⟨_, _, run_of_not_inRange inRange (), run_of_not_inRange inRange state,
      fun k pos halts => ?_, rfl, ?_, ?_, fun _ => rfl, ?_⟩
    · simp [Run.accepted]
      omega
    · simp
    · simp [inRange, Engine.rangeError]
    · simp [Run.cursors]

/-- A visitor that wants two matches of `a*` in `éaaé` is handed two of the
three there are. One that wants four is handed all. -/
theorem truncated_run_star :
    starScan.Sound ∧ starScan.runAll 0 = some starRun ∧ 1 ≤ 2 ∧
      HaltsAt (upTo (some 2)) 0 starRun.accepted 2 ∧ 2 ≤ starRun.accepted.length ∧
      HaltsAt (upTo (some 4)) 0 starRun.accepted 4 ∧ starRun.accepted.length < 4 ∧
      (∃ run, starScan.run (upTo (some 2)) 0 0 = some run ∧ run.outcome = .ok 2 ∧
        run.accepted = [.ofSpans [some ⟨0, 0⟩], .ofSpans [some ⟨2, 4⟩]]) ∧
      ∃ run, starScan.run (upTo (some 4)) 0 0 = some run ∧ run.outcome = .ok 3 ∧
        run.accepted = starRun.accepted := by
  have two : HaltsAt (upTo (some 2)) 0 starRun.accepted 2 := ⟨by decide, fun _ => rfl⟩
  have four : HaltsAt (upTo (some 4)) 0 starRun.accepted 4 := ⟨by decide, by decide⟩
  refine ⟨starScan_sound, runAll_starScan, by decide, two, by decide, four, by decide, ?_, ?_⟩
  · obtain ⟨full, run, made, went, halted, -⟩ :=
      truncated_run starScan starScan_sound (upTo (some 2)) 0 0
    obtain rfl := Option.some.inj (runAll_starScan.symm.trans made)
    obtain ⟨outcome, accepted, -⟩ := (halted 2 (by decide) two).1 (by decide)
    exact ⟨run, went, outcome, accepted⟩
  · obtain ⟨full, run, made, went, halted, -⟩ :=
      truncated_run starScan starScan_sound (upTo (some 4)) 0 0
    obtain rfl := Option.some.inj (runAll_starScan.symm.trans made)
    obtain ⟨outcome, accepted, -⟩ := (halted 4 (by decide) four).2 (by decide)
    exact ⟨run, went, outcome, accepted⟩

end Scan

end PatternSearch
