/-
PatternSearch.Proofs.Regex.Building — which call on a builder counts.

The calls a builder has had are its history, and a clone begins with that of its
original. Everything a builder compiles with can be told from its history: the
last call that says something about a flag, or about the flavour, is the one that
counts (`applyAll_eq`).

Several builders are looked at together, as somebody uses them who calls, clones
and builds in any order. `Workshop` is what there is of them at one time. It is
kept open what an item of it is: with builders for items it does what is done with
builders, and with histories for items it only writes the calls down. The latter
tells of every builder which history it has, and `Workshop.map_run` that the two
go together step by step.

`last_call_counts` puts this together.
-/
import Mathlib.Data.List.DropRight
import PatternSearch.Regex.Builder

namespace PatternSearch

/-! ## 1. What a call says -/

/-- The toggle of a flag, for those that have one. -/
def Flag.toggle? : Flag → Option Toggle
  | ignoreCase => some .caseInsensitive
  | extended => some .extended
  | multiLine => some .multiLine
  | singleLine => some .singleLine
  | findLongest => some .findLongest
  | findNotEmpty => some .findNotEmpty
  | negateSingleLine => none
  | dontCaptureGroup => some .dontCaptureGroup
  | captureGroup => some .captureGroup

namespace BuilderCall

/-- What a call turns a flag to, if it is a call of its toggle. -/
def toggled? (f : Flag) : BuilderCall → Option Bool
  | toggle t yes => if f.toggle? = some t then some yes else none
  | _ => none

/-- What a call replaces all options by. -/
def options? : BuilderCall → Option OptionSet
  | options o => some o
  | _ => none

/-- The flavour a call chooses. -/
def flavour? : BuilderCall → Option Flavour
  | flavour f => some f
  | _ => none

end BuilderCall

/-- Every toggle turns the flag it is the toggle of. -/
theorem Toggle.flag_eq_iff {t : Toggle} {f : Flag} : t.flag = f ↔ f.toggle? = some t := by
  constructor
  · rintro rfl
    cases t <;> rfl
  · intro own
    cases f <;> cases own <;> rfl

namespace RegexBuilder

/-! ## 2. What a history comes to -/

variable (calls : List BuilderCall)

/-- The options that the last replacement of all left, or none. -/
def lastOptions : OptionSet := (calls.filterMap BuilderCall.options?).getLast?.getD .empty

/-- The calls since then. -/
def sinceOptions : List BuilderCall := calls.rtakeWhile fun c => c.options?.isNone

/-- A flag has the value of its last toggle since then, or that of then. -/
def optionsAfter : OptionSet :=
  ⟨fun f => ((sinceOptions calls).filterMap (BuilderCall.toggled? f)).getLast?.getD
    ((lastOptions calls).has f)⟩

/-- The last flavour chosen, or the one that is standard. -/
def flavourAfter : Flavour := (calls.filterMap BuilderCall.flavour?).getLast?.getD .ruby

/-- A call that does not replace all options only says something about the flag
it toggles. -/
theorem has_optionsAfter_concat {c : BuilderCall} (keeps : c.options? = none) (f : Flag) :
    (optionsAfter (calls ++ [c])).has f = (c.toggled? f).getD ((optionsAfter calls).has f) := by
  have since : sinceOptions (calls ++ [c]) = sinceOptions calls ++ [c] :=
    List.rtakeWhile_concat_pos _ _ _ (by simp [keeps])
  have last : lastOptions (calls ++ [c]) = lastOptions calls := by
    simp [lastOptions, keeps]
  simp only [optionsAfter, since, last, List.filterMap_append]
  cases said : c.toggled? f with
  | none => simp [said]
  | some yes => simp [said]

theorem optionsAfter_toggle (t : Toggle) (yes : Bool) :
    optionsAfter (calls ++ [.toggle t yes]) = (optionsAfter calls).setFlag t.flag yes := by
  ext f
  rw [has_optionsAfter_concat calls rfl, BuilderCall.toggled?, OptionSet.setFlag]
  by_cases own : f.toggle? = some t
  · have same : t.flag = f := Toggle.flag_eq_iff.mpr own
    simp [own, same]
  · have other : f ≠ t.flag := fun same => own (Toggle.flag_eq_iff.mp same.symm)
    simp [own, other]

theorem optionsAfter_options (o : OptionSet) : optionsAfter (calls ++ [.options o]) = o := by
  have since : sinceOptions (calls ++ [.options o]) = [] :=
    List.rtakeWhile_concat_neg _ _ _ (by simp [BuilderCall.options?])
  have last : lastOptions (calls ++ [.options o]) = o := by
    simp [lastOptions, BuilderCall.options?]
  simp [optionsAfter, since, last]

theorem optionsAfter_flavour (f : Flavour) :
    optionsAfter (calls ++ [.flavour f]) = optionsAfter calls := by
  ext g
  rw [has_optionsAfter_concat calls rfl]
  rfl

/-- The flag without a toggle is as the last replacement of all options left it. -/
theorem optionsAfter_negateSingleLine : (optionsAfter calls).has .negateSingleLine =
    (lastOptions calls).has .negateSingleLine := by
  have never (c : BuilderCall) : c.toggled? .negateSingleLine = none := by
    cases c <;> simp [BuilderCall.toggled?, Flag.toggle?]
  have none : (sinceOptions calls).filterMap (BuilderCall.toggled? .negateSingleLine) = [] :=
    List.filterMap_eq_nil_iff.mpr fun c _ => never c
  simp only [optionsAfter, none, List.getLast?_nil, Option.getD_none]

/-- **The last call counts.** What a builder has been brought to can be told from
the calls, for each flag and for the flavour by itself. -/
theorem applyAll_eq (pattern : String) :
    (ofPattern pattern).applyAll calls = ⟨pattern, optionsAfter calls, flavourAfter calls⟩ := by
  induction calls using List.reverseRecOn with
  | nil => rfl
  | append_singleton calls c ih =>
    rw [applyAll, List.foldl_concat, ← applyAll, ih]
    cases c with
    | toggle t yes =>
      simp [apply, optionsAfter_toggle, flavourAfter, BuilderCall.flavour?]
    | options o =>
      simp [apply, optionsAfter_options, flavourAfter, BuilderCall.flavour?]
    | flavour f =>
      simp [apply, optionsAfter_flavour, flavourAfter, BuilderCall.flavour?]

end RegexBuilder

/-! ## 3. Several builders -/

/-- What can be done where builders are numbered in the order in which they come
to be there. -/
inductive BuilderStep where
  /-- A call on a builder. -/
  | call (i : Nat) (c : BuilderCall)
  /-- A clone of a builder, which comes after those there are. -/
  | clone (i : Nat)
  /-- Building with a builder. -/
  | build (i : Nat)

namespace BuilderStep

/-- The call that a step makes on a builder. -/
def callOn? (i : Nat) : BuilderStep → Option BuilderCall
  | call j c => if j = i then some c else none
  | _ => none

/-- Whether a step builds. -/
def isBuild : BuilderStep → Bool
  | build _ => true
  | _ => false

end BuilderStep

/-- The builders there are, or whatever is kept in the place of each, and what has
been built. -/
structure Workshop (α β : Type) where
  items : List α
  built : List β

namespace Workshop

variable {α β α' β' : Type}

/-- The workshop after a step. `apply` is what a call does to an item and `finish`
what is built with one. -/
def step (apply : α → BuilderCall → α) (finish : α → β) (w : Workshop α β) :
    BuilderStep → Workshop α β
  | .call i c => { w with items := w.items.modify i (apply · c) }
  | .clone i => { w with items := w.items ++ w.items[i]?.toList }
  | .build i => { w with built := w.built ++ (w.items[i]?.map finish).toList }

/-- The workshop after several steps. -/
def run (apply : α → BuilderCall → α) (finish : α → β) (w : Workshop α β)
    (steps : List BuilderStep) : Workshop α β :=
  steps.foldl (step apply finish) w

/-- A workshop with other things in the place of its items and of what was built. -/
def map (f : α → α') (g : β → β') (w : Workshop α β) : Workshop α' β' :=
  ⟨w.items.map f, w.built.map g⟩

/-- One builder without a call, and what is kept is the calls. -/
def histories (steps : List BuilderStep) : Workshop (List BuilderCall) (List BuilderCall) :=
  run (fun calls c => calls ++ [c]) id ⟨[[]], []⟩ steps

section Steps

variable {apply : α → BuilderCall → α} {finish : α → β} {apply' : α' → BuilderCall → α'}
  {finish' : α' → β'} {f : α → α'} {g : β → β'}

/-- **One step.** Two ways of keeping items that go together before a step do so
after it, if calls and building agree on an item. -/
theorem map_step (calls : ∀ a c, f (apply a c) = apply' (f a) c)
    (builds : ∀ a, g (finish a) = finish' (f a)) (w : Workshop α β) (s : BuilderStep) :
    (w.step apply finish s).map f g = (w.map f g).step apply' finish' s := by
  cases s with
  | call i c =>
    have same : (w.items.modify i (apply · c)).map f = (w.items.map f).modify i (apply' · c) := by
      apply List.ext_getElem?
      intro j
      simp only [List.getElem?_map, List.getElem?_modify]
      cases w.items[j]? with
      | none => rfl
      | some a => by_cases here : i = j <;> simp [here, calls]
    simp [map, step, same]
  | clone i =>
    cases there : w.items[i]? with
    | none => simp [map, step, there]
    | some a => simp [map, step, there]
  | build i =>
    cases there : w.items[i]? with
    | none => simp [map, step, there]
    | some a => simp [map, step, there, builds]

/-- **All steps.** So they go together from beginning to end. -/
theorem map_run (calls : ∀ a c, f (apply a c) = apply' (f a) c)
    (builds : ∀ a, g (finish a) = finish' (f a)) (w : Workshop α β) (steps : List BuilderStep) :
    (w.run apply finish steps).map f g = (w.map f g).run apply' finish' steps := by
  induction steps generalizing w with
  | nil => rfl
  | cons s steps ih =>
    show ((w.step apply finish s).run apply finish steps).map f g = _
    rw [ih, map_step calls builds]
    rfl

/-- Building changes no item. -/
theorem items_run_filter (w w' : Workshop α β) (same : w.items = w'.items)
    (steps : List BuilderStep) : (w.run apply finish steps).items =
      (w'.run apply finish (steps.filter (!·.isBuild))).items := by
  -- After a build that is left out, the two have the same items but have not built the same.
  induction steps generalizing w w' with
  | nil => exact same
  | cons s steps ih =>
    cases s with
    | call i c => exact ih _ _ (by simp [step, same])
    | clone i => exact ih _ _ (by simp [step, same])
    | build i => exact ih _ _ (by simp [step, same])

/-- A step changes an item only if it is a call on it. -/
theorem getElem?_step (w : Workshop α β) (s : BuilderStep) {i : Nat} (there : i < w.items.length) :
    (w.step apply finish s).items[i]? =
      w.items[i]?.map fun a => (s.callOn? i).toList.foldl apply a := by
  cases s with
  | call j c =>
    rw [step, List.getElem?_modify]
    by_cases here : j = i
    · simp [BuilderStep.callOn?, here]
    · simp [BuilderStep.callOn?, here]
  | clone j =>
    rw [step, List.getElem?_append_left there]
    simp [BuilderStep.callOn?]
  | build j => simp [step, BuilderStep.callOn?]

theorem length_le_step (w : Workshop α β) (s : BuilderStep) :
    w.items.length ≤ (w.step apply finish s).items.length := by
  cases s <;> simp [step]

/-- An item comes to what the calls on it make of it, whatever is done in between. -/
theorem getElem?_run (w : Workshop α β) (steps : List BuilderStep) {i : Nat}
    (there : i < w.items.length) : (w.run apply finish steps).items[i]? =
      w.items[i]?.map fun a => (steps.filterMap (BuilderStep.callOn? i)).foldl apply a := by
  induction steps generalizing w with
  | nil => simp [run]
  | cons s steps ih =>
    have still : i < (w.step apply finish s).items.length :=
      there.trans_le (length_le_step w s)
    show ((w.step apply finish s).run apply finish steps).items[i]? = _
    rw [ih _ still, getElem?_step w s there, Option.map_map]
    cases called : s.callOn? i with
    | none => simp [called, Function.comp_def]
    | some c => simp [called, Function.comp_def]

end Steps

end Workshop

/-! ## 4. The last call counts -/

namespace RegexBuilder

open Workshop

/-- The workshop after steps taken with builders. -/
def work (w : Workshop RegexBuilder (Except Error Regex)) (steps : List BuilderStep) :
    Workshop RegexBuilder (Except Error Regex) :=
  w.run apply build steps

/-- Builders are what their histories make of one without a call. -/
theorem map_histories (b : RegexBuilder) (steps : List BuilderStep) :
    (histories steps).map b.applyAll (fun calls => (b.applyAll calls).build) =
      work ⟨[b], []⟩ steps := by
  have calls (calls : List BuilderCall) (c : BuilderCall) :
      b.applyAll (calls ++ [c]) = (b.applyAll calls).apply c := List.foldl_concat _ _ _ _
  exact map_run (f := b.applyAll) (g := fun calls => (b.applyAll calls).build) calls
    (fun calls => rfl) ⟨[[]], []⟩ steps

/-- Toggles of different flags come to the same in either order. -/
theorem apply_toggle_comm (b : RegexBuilder) {t t' : Toggle} (different : t ≠ t')
    (yes yes' : Bool) : (b.apply (.toggle t yes)).apply (.toggle t' yes') =
      (b.apply (.toggle t' yes')).apply (.toggle t yes) := by
  have apart : t.flag ≠ t'.flag := by
    intro same
    have own := Toggle.flag_eq_iff.mp (rfl : t.flag = t.flag)
    rw [same, Toggle.flag_eq_iff.mp rfl] at own
    exact different (Option.some.inj own).symm
  simp only [apply, OptionSet.setFlag, mk.injEq, OptionSet.mk.injEq, true_and, and_true]
  funext f
  by_cases here : f = t.flag
  · simp [here, apart]
  · simp [here]

/-- What is built with a pattern and options is compiled from its bytes, with the
flags as a mask and the grammar of the flavour. -/
theorem build_eq (pattern : String) (options : OptionSet) (flavour : Flavour) :
    build ⟨pattern, options, flavour⟩ = Regex.compile pattern.toByteArray options.toMask
      ⟨.ofFlavour flavour, some flavour⟩ := rfl

/-- **The last call counts.** Each builder that comes from one for a pattern, by
calls and by cloning, has the pattern, the options and the flavour that its
history comes to: every flag has the value of its last toggle, or what the last
replacement of all options made of it if there is no toggle since then, and the
flag without a toggle always the latter. What is built is compiled from the bytes
of the pattern in the grammar of the flavour, with a mask in which the bit of
every flag has the flag's value, and no other bit is on.

Toggles of different flags come to the same in either order. Building changes no
builder, a clone is at first what its original is, and from then on each of the
two comes to what the calls on it alone make of it. -/
theorem last_call_counts (pattern : String) (steps : List BuilderStep) :
    (work ⟨[ofPattern pattern], []⟩ steps).items =
        (histories steps).items.map (fun calls =>
          ⟨pattern, optionsAfter calls, flavourAfter calls⟩) ∧
      (work ⟨[ofPattern pattern], []⟩ steps).built =
        (histories steps).built.map (fun calls =>
          Regex.compile pattern.toByteArray (optionsAfter calls).toMask
            ⟨.ofFlavour (flavourAfter calls), some (flavourAfter calls)⟩) ∧
      (∀ calls, (optionsAfter calls).toMask < 512 ∧ ∀ f : Flag,
        (optionsAfter calls).toMask.toNat.testBit f.index = (optionsAfter calls).has f) ∧
      (∀ calls, (optionsAfter calls).has .negateSingleLine =
        (lastOptions calls).has .negateSingleLine) ∧
      (∀ (b : RegexBuilder) (t t' : Toggle) (yes yes' : Bool), t ≠ t' →
        (b.apply (.toggle t yes)).apply (.toggle t' yes') =
          (b.apply (.toggle t' yes')).apply (.toggle t yes)) ∧
      ∀ w, (work w steps).items = (work w (steps.filter (!·.isBuild))).items ∧
        (∀ i b, w.items[i]? = some b → (work w [.clone i]).items = w.items ++ [b]) ∧
        ∀ i, i < w.items.length → (work w steps).items[i]? =
          w.items[i]?.map (·.applyAll (steps.filterMap (BuilderStep.callOn? i))) := by
  have together := map_histories (ofPattern pattern) steps
  refine ⟨?_, ?_, ?_, ?_, ?_, ?_⟩
  · rw [← together]
    exact List.map_congr_left fun calls _ => applyAll_eq calls pattern
  · rw [← together]
    simp only [map, applyAll_eq, build_eq]
  · intro calls
    exact ⟨OptionSet.toMask_lt _, OptionSet.testBit_index_toMask _⟩
  · intro calls
    exact optionsAfter_negateSingleLine calls
  · intro b t t' yes yes' different
    exact apply_toggle_comm b different yes yes'
  · intro w
    refine ⟨items_run_filter w w rfl steps, ?_, ?_⟩
    · intro i b here
      simp [work, run, step, here]
    · intro i there
      exact getElem?_run w steps there

/-- A builder that is cloned after a call, and a clone whose options are replaced
while its original goes on. -/
def twoBuilders : List BuilderStep :=
  [.call 0 (.toggle .extended true), .clone 0, .call 1 (.options (.single .negateSingleLine)),
    .call 1 (.toggle .multiLine true), .call 0 (.toggle .extended false), .build 1,
    .call 0 (.toggle .singleLine true), .build 0]

/-- The clone is compiled with the bits 64 and 4, its original with the bit 8. -/
theorem last_call_counts_two :
    (work ⟨[ofPattern "a"], []⟩ twoBuilders).built =
        [Regex.compile "a".toByteArray 68 (.ofFlavour .ruby),
          Regex.compile "a".toByteArray 8 (.ofFlavour .ruby)] ∧
      Toggle.extended ≠ .multiLine ∧
      ((ofPattern "a").apply (.toggle .extended true)).apply (.toggle .multiLine false) =
        ((ofPattern "a").apply (.toggle .multiLine false)).apply (.toggle .extended true) := by
  obtain ⟨-, built, -, -, commute, -⟩ := last_call_counts "a" twoBuilders
  refine ⟨?_, by decide, commute _ _ _ _ _ (by decide)⟩
  have histories : (histories twoBuilders).built =
      [[.toggle .extended true, .options (.single .negateSingleLine), .toggle .multiLine true],
        [.toggle .extended true, .toggle .extended false, .toggle .singleLine true]] := rfl
  have clone : optionsAfter [.toggle .extended true, .options (.single .negateSingleLine),
      .toggle .multiLine true] = .union (.single .negateSingleLine) (.single .multiLine) := by
    ext f
    cases f <;> rfl
  have original : optionsAfter [.toggle .extended true, .toggle .extended false,
      .toggle .singleLine true] = .single .singleLine := by
    ext f
    cases f <;> rfl
  rw [built, histories]
  simp only [List.map_cons, List.map_nil, clone, original]
  rfl

end RegexBuilder

end PatternSearch
