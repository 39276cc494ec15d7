/-
PatternSearch.Proofs.Search.Reuse — one region and one set of limits for many
searches.

A session keeps a region from one search to the next, and the searches may be
for patterns with any number of groups. What keeps an offset of an earlier
match from being taken for a group of a later one is not the session: it hands
the region on as it is. It is the engine, which writes every entry of a region
it is handed (`Engine.Overwrites`), and the order of things in a search, which
looks at the range before it hands the region to the engine.

So a search within the text does not depend on the region (`search_inRange`),
and one that is not changes nothing at all (`search_not_inRange`). From these
two, `steps_forget` says that sessions which began with different regions are
the same after the first search within the text, and `keeps_no_history` what
holds after any sequence of steps.

Compiled patterns overwrite (`Engine.overwrites_ofProgram`), so nothing has to
be assumed of them.
-/
import PatternSearch.Proofs.Regex.Compiled
import PatternSearch.Search.Session

namespace PatternSearch

open Text

/-! ## 1. Engines that overwrite -/

/-- Handed a region, the engine makes it one entry larger than its number of
groups and writes all of them. What was in the region before makes no
difference, neither to an entry nor to the status. -/
structure Engine.Overwrites (e : Engine) (groups : Nat) : Prop where
  length_starts : ∀ past q before, (e.search past q before).2.starts.length = groups + 1
  length_ends : ∀ past q before, (e.search past q before).2.ends.length = groups + 1
  start_eq : ∀ past q before before' i, i < groups + 1 →
    (e.search past q before).2.starts[i]? = (e.search past q before').2.starts[i]?
  end_eq : ∀ past q before before' i, i < groups + 1 →
    (e.search past q before).2.ends[i]? = (e.search past q before').2.ends[i]?
  status_eq : ∀ past q before before',
    (e.search past q before).1 = (e.search past q before').1

namespace Engine

variable {e : Engine} {groups : Nat}

/-- Neither the status nor the region depends on the region handed in. -/
theorem Overwrites.search_eq (h : e.Overwrites groups) (past : Nat) (q : Query)
    (before before' : Region) : e.search past q before = e.search past q before' := by
  have hstarts : (e.search past q before).2.starts = (e.search past q before').2.starts := by
    refine List.ext_getElem?' fun i hi => h.start_eq past q before before' i ?_
    simpa only [h.length_starts, Nat.max_self] using hi
  have hends : (e.search past q before).2.ends = (e.search past q before').2.ends := by
    refine List.ext_getElem?' fun i hi => h.end_eq past q before before' i ?_
    simpa only [h.length_ends, Nat.max_self] using hi
  have hregion : (e.search past q before).2 = (e.search past q before').2 := by
    cases hb : (e.search past q before).2
    cases hb' : (e.search past q before').2
    simp_all
  exact Prod.ext (h.status_eq past q before before') hregion

/-- A compiled pattern fills a region anew for every query. -/
theorem overwrites_ofProgram (p : Pattern.Program) : (ofProgram p).Overwrites p.groups where
  length_starts past q before := by
    simp only [ofProgram]
    split <;> simp [regionOf, Region.ofSpans, Region.absent]
  length_ends past q before := by
    simp only [ofProgram]
    split <;> simp [regionOf, Region.ofSpans, Region.absent]
  start_eq _ _ _ _ _ _ := rfl
  end_eq _ _ _ _ _ _ := rfl
  status_eq _ _ _ _ := rfl

end Engine

theorem Regex.overwrites_of_compile {pattern : ByteArray} {mask : UInt32}
    {d : Pattern.Definition} {re : Regex} (ok : compile pattern mask d = .ok re) :
    re.Overwrites re.groupCount := by
  obtain ⟨p, flavour?, rfl⟩ := exists_ofProgram_of_compile ok
  exact Engine.overwrites_ofProgram p

/-! ## 2. One step -/

namespace SessionStep

/-- A step that searches does so with an engine that overwrites. -/
def Overwrites : SessionStep → Prop
  | search e _ _ _ _ => ∃ groups, e.Overwrites groups
  | _ => True

/-- A search between two offsets of its text. -/
def Searches : SessionStep → Prop
  | search _ text start stop _ => start ≤ text.size ∧ stop ≤ text.size
  | _ => False

/-- The limits a step sets. -/
def stackLimit? : SessionStep → Option Nat
  | stackLimit n => some n
  | _ => none

def retryLimit? : SessionStep → Option Nat
  | retryLimit n => some n
  | _ => none

end SessionStep

namespace Region

/-- A region has an end for every start. -/
def Even (r : Region) : Prop := r.starts.length = r.ends.length

theorem even_clear {r : Region} (h : r.Even) : r.clear.Even := by
  simpa [Even, clear] using h

@[simp] theorem length_clear (r : Region) : r.clear.length = r.length := by
  simp [length, clear]

/-- No group of a cleared region took part. -/
theorem span?_clear (r : Region) (group : Nat) : r.clear.span? group = none := by
  simp only [span?, clear, List.getElem?_map]
  cases r.starts[group]? <;> cases r.ends[group]? <;> simp [noOffset]

end Region

namespace Session

variable {s s' : Session} {e : Engine} {text : ByteArray} {start stop : Nat}
  {options : SearchOptions}

/-- A search within the text is what the engine makes of it. -/
theorem search_eq (inRange : start ≤ text.size ∧ stop ≤ text.size) :
    s.search e text start stop options =
      (answerOfStatus (e.search 0 ⟨text, start, stop, options, s.param⟩ s.region).1,
        ⟨(e.search 0 ⟨text, start, stop, options, s.param⟩ s.region).2, s.param⟩) := by
  have hq : (⟨text, start, stop, options, s.param⟩ : Query).InRange := inRange
  simp only [search, Engine.searchWithParam, Engine.searchAfter_of_inRange hq]

/-- A search within the text answers and leaves what it would with any other
region. -/
theorem search_inRange {groups : Nat} (h : e.Overwrites groups)
    (inRange : start ≤ text.size ∧ stop ≤ text.size) (region : Region) :
    s.search e text start stop options =
      (⟨region, s.param⟩ : Session).search e text start stop options := by
  rw [search_eq inRange, search_eq inRange, h.search_eq 0 _ s.region region]

/-- A search that is not within the text is refused and changes nothing. -/
theorem search_not_inRange (outside : ¬ (start ≤ text.size ∧ stop ≤ text.size)) :
    s.search e text start stop options = (.error (.invalidRange start stop text.size), s) := by
  have hq : ¬ (⟨text, start, stop, options, s.param⟩ : Query).InRange := outside
  simp only [search, Engine.searchWithParam, Engine.searchAfter_of_not_inRange hq]
  rfl

theorem search_even (h : s.region.Even) {groups : Nat} (he : e.Overwrites groups) :
    (s.search e text start stop options).2.region.Even := by
  by_cases inRange : start ≤ text.size ∧ stop ≤ text.size
  · rw [search_eq inRange]
    show Region.Even (e.search 0 _ s.region).2
    rw [Region.Even, he.length_starts, he.length_ends]
  · rw [search_not_inRange inRange]
    exact h

/-- After a step, a region has an end for every start if it had before. -/
theorem step_even (h : s.region.Even) {step : SessionStep} (hstep : step.Overwrites) :
    (s.step step).region.Even := by
  cases step with
  | search e text start stop options =>
    obtain ⟨groups, he⟩ := hstep
    exact search_even h he
  | clear => exact Region.even_clear h
  | stackLimit n => exact h
  | retryLimit n => exact h

/-- Sessions with the same limits have the same limits after a step. -/
theorem step_param (same : s.param = s'.param) (step : SessionStep) :
    (s.step step).param = (s'.step step).param := by
  cases step with
  | search => exact same
  | clear => exact same
  | stackLimit n => simp [Session.step, same]
  | retryLimit n => simp [Session.step, same]

/-- After a search within the text, sessions with the same limits are the same. -/
theorem step_forget (same : s.param = s'.param) {step : SessionStep} (hstep : step.Overwrites)
    (searches : step.Searches) : s.step step = s'.step step := by
  cases step with
  | search e text start stop options =>
    obtain ⟨groups, he⟩ := hstep
    show (s.search e text start stop options).2 = (s'.search e text start stop options).2
    rw [search_inRange he searches s'.region, same]
  | clear => exact searches.elim
  | stackLimit n => exact searches.elim
  | retryLimit n => exact searches.elim

/-! ## 3. Any number of steps -/

theorem steps_cons (step : SessionStep) (rest : List SessionStep) :
    s.steps (step :: rest) = (s.step step).steps rest := rfl

theorem steps_append_singleton (list : List SessionStep) (step : SessionStep) :
    s.steps (list ++ [step]) = (s.steps list).step step := by
  simp [steps]

theorem steps_even (h : s.region.Even) {list : List SessionStep}
    (hlist : ∀ step ∈ list, step.Overwrites) : (s.steps list).region.Even := by
  induction list generalizing s with
  | nil => exact h
  | cons step rest ih =>
    rw [steps_cons]
    apply ih (step_even h (hlist step (by simp)))
    intro later hlater
    exact hlist later (by simp [hlater])

/-- **No trace of the beginning.** Sessions that begin with the same limits are
the same after steps among which there is a search within the text, whatever
their regions were. -/
theorem steps_forget (same : s.param = s'.param) {list : List SessionStep}
    (hlist : ∀ step ∈ list, step.Overwrites) (searched : ∃ step ∈ list, step.Searches) :
    s.steps list = s'.steps list := by
  induction list generalizing s s' with
  | nil => simp at searched
  | cons step rest ih =>
    rw [steps_cons, steps_cons]
    by_cases first : step.Searches
    · rw [step_forget same (hlist step (by simp)) first]
    · apply ih (step_param same step)
      · intro later hlater
        exact hlist later (by simp [hlater])
      · obtain ⟨found, mem, hfound⟩ := searched
        rcases List.mem_cons.mp mem with rfl | mem
        · exact absurd hfound first
        · exact ⟨found, mem, hfound⟩

/-- The limits that some steps leave in force: of each kind the one set last. -/
def limitsAfter (list : List SessionStep) : Limits :=
  ⟨(list.filterMap SessionStep.stackLimit?).getLast?,
    (list.filterMap SessionStep.retryLimit?).getLast?⟩

theorem limitsAfter_stackLimit (list : List SessionStep) (n : Nat) :
    limitsAfter (list ++ [.stackLimit n]) = { limitsAfter list with maxStackSize := some n } := by
  simp [limitsAfter, SessionStep.stackLimit?, SessionStep.retryLimit?]

theorem limitsAfter_retryLimit (list : List SessionStep) (n : Nat) :
    limitsAfter (list ++ [.retryLimit n]) = { limitsAfter list with retryLimit := some n } := by
  simp [limitsAfter, SessionStep.stackLimit?, SessionStep.retryLimit?]

/-- A step that sets no limit leaves those that were set. -/
theorem limitsAfter_append (list : List SessionStep) {step : SessionStep}
    (noStack : step.stackLimit? = none) (noRetry : step.retryLimit? = none) :
    limitsAfter (list ++ [step]) = limitsAfter list := by
  simp [limitsAfter, noStack, noRetry]

/-- The limits a session searches under are the ones set last, and the standard
ones where none have been set. -/
theorem fresh_steps_param (list : List SessionStep) :
    (fresh.steps list).param = (limitsAfter list).param := by
  induction list using List.reverseRecOn with
  | nil => rfl
  | append_singleton list step ih =>
    rw [steps_append_singleton]
    cases step with
    | search e text start stop options =>
      rw [limitsAfter_append list rfl rfl]
      exact ih
    | clear =>
      rw [limitsAfter_append list rfl rfl]
      exact ih
    | stackLimit n =>
      rw [limitsAfter_stackLimit]
      show (fresh.steps list).param.setStackLimit n = _
      rw [ih]
      simp only [Limits.param]
      cases (limitsAfter list).maxStackSize <;> cases (limitsAfter list).retryLimit <;> rfl
    | retryLimit n =>
      rw [limitsAfter_retryLimit]
      show (fresh.steps list).param.setRetryLimit n = _
      rw [ih]
      simp only [Limits.param]
      cases (limitsAfter list).maxStackSize <;> cases (limitsAfter list).retryLimit <;> rfl

/-- **A region carries no history.** After any steps with one region and one
set of limits, the region has an end for every start, and the limits are those
set last. A search within a text then answers and leaves what it would with an
unused region and these limits. One that is not within its text is refused, and
region and limits stay as they are. A cleared region keeps its length, and no
group of it took part. -/
theorem keeps_no_history (list : List SessionStep) (hlist : ∀ step ∈ list, step.Overwrites) :
    let s := fresh.steps list
    s.region.starts.length = s.region.ends.length ∧
      s.param = (limitsAfter list).param ∧
      (∀ (e : Engine) (text : ByteArray) (start stop : Nat) (options : SearchOptions),
        ((∃ groups, e.Overwrites groups) → start ≤ text.size ∧ stop ≤ text.size →
          s.search e text start stop options =
            (⟨.empty, (limitsAfter list).param⟩ : Session).search e text start stop options) ∧
        (¬ (start ≤ text.size ∧ stop ≤ text.size) →
          s.search e text start stop options =
            (.error (.invalidRange start stop text.size), s))) ∧
      (s.step .clear).region.length = s.region.length ∧
      ∀ group, (s.step .clear).region.span? group = none := by
  intro s
  have hparam : s.param = (limitsAfter list).param := fresh_steps_param list
  have heven : fresh.region.Even := rfl
  refine ⟨steps_even heven hlist, hparam, ?_, ?_, ?_⟩
  · intro e text start stop options
    constructor
    · rintro ⟨groups, he⟩ inRange
      rw [search_inRange he inRange .empty, hparam]
    · exact search_not_inRange
  · exact Region.length_clear _
  · exact Region.span?_clear _

/-- The engine of a pattern with two groups. -/
def pairs : Engine :=
  .ofProgram ((Pattern.Program.compile "(a)|(b)".toByteArray 0
    (Pattern.Definition.ofFlavour .ruby).grammar).toOption.get (by cbv))

/-- The engine of a pattern without groups. -/
def single : Engine :=
  .ofProgram ((Pattern.Program.compile "b".toByteArray 0
    (Pattern.Definition.ofFlavour .ruby).grammar).toOption.get (by cbv))

/-- A match with two groups, limits, and a search that is not within its text. -/
def mixedSteps : List SessionStep :=
  [.search pairs "ab".toByteArray 0 2 .none, .stackLimit 9,
    .search single "ab".toByteArray 3 1 .none, .retryLimit 5, .stackLimit 700]

/-- The match of the pattern with two groups is still there when the one without
is searched for, and the search does not see it. -/
theorem keeps_no_history_pairs :
    (∀ step ∈ mixedSteps, step.Overwrites) ∧
      fresh.steps mixedSteps = ⟨⟨[0, 0, -1], [1, 1, -1]⟩, ⟨700, 5⟩⟩ ∧
      (fresh.steps mixedSteps).search single "ab".toByteArray 0 2 .none =
        (.ok (some 1), ⟨⟨[1], [2]⟩, ⟨700, 5⟩⟩) := by
  have overwrites : ∀ step ∈ mixedSteps, step.Overwrites := by
    simp only [mixedSteps, List.mem_cons, List.not_mem_nil, or_false, forall_eq_or_imp, forall_eq]
    exact ⟨⟨_, Engine.overwrites_ofProgram _⟩, trivial, ⟨_, Engine.overwrites_ofProgram _⟩, trivial,
      trivial⟩
  obtain ⟨-, -, searches, -, -⟩ := keeps_no_history mixedSteps overwrites
  have again := (searches single "ab".toByteArray 0 2 .none).1 ⟨_, Engine.overwrites_ofProgram _⟩
    (by decide)
  refine ⟨overwrites, by cbv, ?_⟩
  rw [again]
  cbv

end Session

end PatternSearch
