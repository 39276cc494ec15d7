/-
PatternSearch.Proofs.Regex.Enumeration — going through the names of a pattern.

Every question about names is a callback that the table calls with one entry
after the other, until its answer says to stop. What a callback keeps from one
call to the next is its state. What it answers to a whole list is `answers`,
the state it is left in is `leaves`, and `callsUntil` is as much of the list as
it gets to see. In these words:

* `enumerate_eq`, `forEachBytes_eq`, `forEach_eq` — which calls are made, what
  they leave behind and what is answered.
* `groupNames_eq`, `captureNames_eq`, `groupNumbers_eq` — what the questions
  come to. The callback of the first stops at a count, that of the second never,
  that of the third where it has found something.

The proofs go by the entries of the table. What a callback means for the first
of them is said once for each enumeration (`enumerate_cons`,
`forEachBytes_cons`, `forEach_cons`); the statuses that pass between the layers
are seen nowhere else.
-/
import PatternSearch.Regex.Names
import Mathlib.Data.List.Basic

namespace PatternSearch

open Pattern Text

/-! ## 1. Callbacks -/

variable {σ ν β : Type}

/-- What a callback answers to names it is called with one after the other. -/
def answers (call : σ → ν → List Nat → σ × β) : σ → List (ν × List Nat) → List β
  | _, [] => []
  | state, (name, groups) :: rest =>
    (call state name groups).2 :: answers call (call state name groups).1 rest

/-- The state they leave it in. -/
def leaves (call : σ → ν → List Nat → σ × β) (state : σ) (names : List (ν × List Nat)) : σ :=
  names.foldl (fun state entry => (call state entry.1 entry.2).1) state

/-- The names up to and including the first whose answer is one to stop at. -/
def callsUntil (stop : β → Bool) (call : σ → ν → List Nat → σ × β) (state : σ)
    (names : List (ν × List Nat)) : List (ν × List Nat) :=
  names.take ((answers call state names).findIdx stop + 1)

/-- The callback that also keeps a list of what it is called with. -/
def recording (call : σ → ν → List Nat → σ × β) :
    σ × List (ν × List Nat) → ν → List Nat → (σ × List (ν × List Nat)) × β :=
  fun state name groups =>
    (((call state.1 name groups).1, state.2 ++ [(name, groups)]), (call state.1 name groups).2)

variable (call : σ → ν → List Nat → σ × β) (state : σ) (stop : β → Bool) (name : ν)
  (groups : List Nat) (names : List (ν × List Nat))

@[simp] theorem answers_nil : answers call state [] = [] := rfl

@[simp] theorem answers_cons : answers call state ((name, groups) :: names) =
    (call state name groups).2 :: answers call (call state name groups).1 names := rfl

@[simp] theorem leaves_nil : leaves call state [] = state := rfl

@[simp] theorem leaves_cons : leaves call state ((name, groups) :: names) =
    leaves call (call state name groups).1 names := rfl

/-- The first name is always called with, the others if its answer is not one
to stop at. -/
theorem callsUntil_cons : callsUntil stop call state ((name, groups) :: names) =
    (name, groups) :: if stop (call state name groups).2 then [] else
      callsUntil stop call (call state name groups).1 names := by
  rw [callsUntil, answers_cons, List.findIdx_cons, List.take_succ_cons]
  cases stop (call state name groups).2 <;> rfl

/-- Recording changes no answer. -/
theorem answers_recording (log : List (ν × List Nat)) :
    answers (recording call) (state, log) names = answers call state names := by
  induction names generalizing state log with
  | nil => rfl
  | cons entry names ih => exact congrArg (_ :: ·) (ih _ _)

/-- What is recorded is what the callback is called with. -/
theorem leaves_recording (log : List (ν × List Nat)) :
    leaves (recording call) (state, log) names = (leaves call state names, log ++ names) := by
  induction names generalizing state log with
  | nil => simp
  | cons entry names ih =>
    rw [leaves_cons, leaves_cons, recording, ih, List.append_assoc]
    rfl

theorem callsUntil_recording (log : List (ν × List Nat)) :
    callsUntil stop (recording call) (state, log) names = callsUntil stop call state names := by
  rw [callsUntil, answers_recording, callsUntil]

/-! ## 2. Entry by entry -/

namespace NameTable

/-- The names as bytes, with their groups. -/
def raw (t : NameTable) : List (ByteArray × List Nat) := t.entries.map fun e => (e.name, e.groups)

/-- The names as text, with their groups. -/
def decoded (t : NameTable) : List (String × List Nat) :=
  t.entries.map fun e => (lossy e.name, e.groups)

section Equations

variable {σ : Type} (state : σ) (entry : NamedGroup) (rest : List NamedGroup)

theorem raw_cons : raw ⟨entry :: rest⟩ = (entry.name, entry.groups) :: raw ⟨rest⟩ := rfl

theorem enumerate_cons (visit : σ → NamedGroup → σ × Int32) :
    enumerate ⟨entry :: rest⟩ visit state =
      if (visit state entry).2 = 0 then enumerate ⟨rest⟩ visit (visit state entry).1
      else visit state entry := rfl

theorem forEachBytes_nil (visit : σ → ByteArray → List Nat → σ × Bool) :
    forEachBytes ⟨[]⟩ visit state = (state, true) := rfl

theorem forEachBytes_cons (visit : σ → ByteArray → List Nat → σ × Bool) :
    forEachBytes ⟨entry :: rest⟩ visit state =
      if (visit state entry.name entry.groups).2 then
        forEachBytes ⟨rest⟩ visit (visit state entry.name entry.groups).1
      else visit state entry.name entry.groups := by
  rw [forEachBytes, enumerate_cons]
  rcases visit state entry.name entry.groups with ⟨next, _ | _⟩ <;> rfl

theorem forEach_cons (visit : σ → String → List Nat → σ × Bool) :
    forEach ⟨entry :: rest⟩ visit state =
      if (visit state (lossy entry.name) entry.groups).2 then
        forEach ⟨rest⟩ visit (visit state (lossy entry.name) entry.groups).1
      else visit state (lossy entry.name) entry.groups :=
  forEachBytes_cons state entry rest _

end Equations

/-! ## 3. Which calls are made -/

variable {σ : Type}

/-- The callback is called up to its first status that is not 0, and that is
the answer; 0 if there is none. -/
theorem enumerate_eq (t : NameTable) (call : σ → ByteArray → List Nat → σ × Int32) (state : σ) :
    t.enumerate (fun state entry => call state entry.name entry.groups) state =
      let called := callsUntil (· != 0) call state t.raw
      (leaves call state called, ((answers call state called).find? (· != 0)).getD 0) := by
  obtain ⟨entries⟩ := t
  induction entries generalizing state with
  | nil => rfl
  | cons entry rest ih =>
    rw [enumerate_cons, raw_cons, callsUntil_cons]
    simp only [answers_cons, leaves_cons]
    rcases call state entry.name entry.groups with ⟨next, status⟩
    by_cases ok : status = 0
    · simp [ok, ih]
    · simp [ok]

/-- The callback is called up to where it first answers `false`, and the answer
is whether it has not. `read` is how it is told the names. -/
theorem forEachBytes_read {ν : Type} (read : ByteArray → ν) (t : NameTable)
    (call : σ → ν → List Nat → σ × Bool) (state : σ) :
    t.forEachBytes (fun state name groups => call state (read name) groups) state =
      let called := callsUntil (! ·) call state (t.entries.map fun e => (read e.name, e.groups))
      (leaves call state called, (answers call state called).all id) := by
  obtain ⟨entries⟩ := t
  induction entries generalizing state with
  | nil => rfl
  | cons entry rest ih =>
    rw [forEachBytes_cons, List.map_cons, callsUntil_cons]
    simp only [answers_cons, leaves_cons]
    rcases call state (read entry.name) entry.groups with ⟨next, _ | _⟩
    · rfl
    · simpa using ih next

theorem forEachBytes_eq (t : NameTable) (call : σ → ByteArray → List Nat → σ × Bool) (state : σ) :
    t.forEachBytes call state =
      let called := callsUntil (! ·) call state t.raw
      (leaves call state called, (answers call state called).all id) :=
  forEachBytes_read id t call state

theorem forEach_eq (t : NameTable) (call : σ → String → List Nat → σ × Bool) (state : σ) :
    t.forEach call state =
      let called := callsUntil (! ·) call state t.decoded
      (leaves call state called, (answers call state called).all id) :=
  forEachBytes_read lossy t call state

/-! ## 4. What the questions come to -/

/-- A callback that gathers an item from each name, and does not stop with
fewer items than there are names, gathers all of them. -/
theorem gathered_eq {γ : Type} (f : ByteArray → List Nat → γ) (goesOn : List γ → Bool)
    (entries : List NamedGroup) (items : List γ)
    (patient : ∀ gathered : List γ, gathered.length < items.length + entries.length →
      goesOn gathered) :
    (forEachBytes ⟨entries⟩ (fun items name groups =>
      (items ++ [f name groups], goesOn (items ++ [f name groups]))) items).1 =
      items ++ entries.map fun e => f e.name e.groups := by
  induction entries generalizing items with
  | nil => simp [forEachBytes_nil]
  | cons entry rest ih =>
    have length : (items ++ [f entry.name entry.groups]).length = items.length + 1 := by simp
    rw [List.length_cons] at patient
    rw [forEachBytes_cons]
    cases more : goesOn (items ++ [f entry.name entry.groups]) with
    | true =>
      have others := ih (items ++ [f entry.name entry.groups])
        fun gathered less => patient gathered (by omega)
      exact others.trans (List.append_assoc _ _ _)
    | false =>
      -- The callback only stops if it has been called with the last name.
      have none : rest = [] := by
        by_contra some
        have pos := List.length_pos_of_ne_nil some
        simp [patient _ (show (items ++ [f entry.name entry.groups]).length < _ by omega)] at more
      simp [none]

/-- A callback that counts stops with the last name. -/
theorem counted_eq {γ : Type} (f : ByteArray → List Nat → γ) (t : NameTable) :
    (t.forEachBytes (fun items name groups =>
      (items ++ [f name groups], decide ((items ++ [f name groups]).length < t.count))) []).1 =
      t.entries.map fun e => f e.name e.groups :=
  gathered_eq f (fun items => decide (items.length < t.count)) t.entries []
    fun gathered less => decide_eq_true (by simpa [count] using less)

theorem groupNames_eq (t : NameTable) :
    t.groupNames = t.entries.map fun e => ⟨lossy e.name, e.groups⟩ :=
  counted_eq (fun name groups => (⟨lossy name, groups⟩ : GroupName)) t

theorem captureNames_eq (t : NameTable) :
    t.captureNames = t.entries.map fun e => lossy e.name :=
  gathered_eq (fun name _ => lossy name) (fun _ => true) t.entries [] fun _ _ => rfl

/-- The first entry that bears the name as text has the groups. -/
theorem groupNumbers_eq (t : NameTable) (name : String) :
    t.groupNumbers name = (GroupName.get? t.groupNames name).getD [] := by
  rw [groupNames_eq, GroupName.get?, groupNumbers]
  obtain ⟨entries⟩ := t
  induction entries with
  | nil => rfl
  | cons entry rest ih =>
    rw [forEach_cons, List.map_cons, List.find?_cons]
    by_cases here : lossy entry.name = name
    · simp [here]
    · simpa [here] using ih

end NameTable

end PatternSearch
