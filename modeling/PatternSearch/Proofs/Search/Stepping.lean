/-
PatternSearch.Proofs.Search.Stepping — the same scan, by bytes and by
characters.

How far a scan steps counts only where it skips a match, and there the match
is the empty one at the cursor. So two scans that differ in nothing else do
the same until one skips at a byte that leads several (`LeadsMany`): there one
of them goes on in the middle of a character.

`Run.InStep` says this of two runs. `Ends.inStep` goes along a run by bytes
and builds the one by characters beside it. What comes after the skip that
parts them may be anything. That there is something, that the other run comes
to its end as well, is `exists_ends`.
-/
import PatternSearch.Proofs.Search.Unfolding

namespace PatternSearch

open Text

/-! ## 1. Where the two part -/

/-- The byte at an offset is one that a step by characters takes for the first
of several. -/
def LeadsMany (text : ByteArray) (i : Nat) : Prop := ∃ inside : i < text.size, 0xC0 ≤ text[i]

namespace Advance

variable {text : ByteArray} {i : Nat}

theorem leadWidth_of_lt {b : UInt8} (small : b < 0xC0) : leadWidth b = 1 := by
  rw [UInt8.lt_iff_toNat_lt] at small
  simp only [leadWidth, UInt8.le_iff_toNat_le]
  have three : (0xC0 : UInt8).toNat = 192 ∧ (0xE0 : UInt8).toNat = 224 ∧
      (0xF0 : UInt8).toNat = 240 := by decide
  rw [if_neg (by omega), if_neg (by omega), if_neg (by omega)]

/-- At any other offset a step by characters is one byte wide. -/
theorem width_char_of_not_leadsMany (few : ¬ LeadsMany text i) : Advance.char.width text i = 1 := by
  rw [width]
  split
  · rename_i inside
    exact leadWidth_of_lt (UInt8.not_le.mp fun many => few ⟨inside, many⟩)
  · rfl

end Advance

/-- Two runs do the same, searches, skips and calls, up to and with the first
skip at a byte that leads several; if there is none, they are the same
altogether. -/
inductive Run.InStep {σ : Type} (text : ByteArray) (a b : Run σ) : Prop where
  | same (eq : a = b) (none : ∀ i, .skipped i ∈ a.trace → ¬ LeadsMany text i)
  | parted (shared : List Event) {rest rest' : List Event} {cursor : Nat}
      (many : LeadsMany text cursor)
      (none : ∀ i, .skipped i ∈ shared → ¬ LeadsMany text i)
      (left : a.trace = shared ++ .asked cursor :: .skipped cursor :: rest)
      (right : b.trace = shared ++ .asked cursor :: .skipped cursor :: rest')

namespace Run.InStep

variable {σ : Type} {text : ByteArray} {a b : Run σ}

/-- Runs stay in step with something that happens before both. -/
theorem after (h : InStep text a b) {events : List Event}
    (none : ∀ i, .skipped i ∈ events → ¬ LeadsMany text i) :
    InStep text (a.after events) (b.after events) := by
  cases h with
  | same eq few =>
    refine .same (congrArg _ eq) fun i mem => ?_
    exact (List.mem_append.mp mem).elim (none i) (few i)
  | parted shared many few left right =>
    have ahead {r : Run σ} {more : List Event} (eq : r.trace = shared ++ more) :
        (r.after events).trace = (events ++ shared) ++ more := by
      rw [Run.after, eq, List.append_assoc]
    exact .parted (events ++ shared) many
      (fun i mem => (List.mem_append.mp mem).elim (none i) (few i)) (ahead left) (ahead right)

/-- Runs in step are the same if no skip is at a byte that leads several. -/
theorem eq (h : InStep text a b) (none : ∀ i, .skipped i ∈ a.trace → ¬ LeadsMany text i) :
    a = b := by
  cases h with
  | same eq => exact eq
  | parted shared many _ left => exact absurd many (none _ (by simp [left]))

end Run.InStep

/-! ## 2. The run by characters, beside the one by bytes -/

namespace Scan

variable {σ : Type} {s : Scan} {visit : σ → Region → σ × Decision}

/-- The scan with another way of stepping. -/
def stepping (s : Scan) (a : Advance) : Scan := { s with advance := a }

/-- The engine is asked the same, so it can be relied on as much. -/
theorem Sound.closed_stepping (sound : s.Sound) (a : Advance) :
    (s.stepping a).Closed fun _ => True :=
  Sound.closed (s := s.stepping a) fun inside found => sound inside found

/-- The round a scan ends with does not step. -/
theorem Finish.stepping {a : Advance} {st : Standing σ} {r : Run σ}
    (last : (s.stepping a).Finish visit st r) (b : Advance) :
    (s.stepping b).Finish visit st r := by
  cases last with
  | past outside => exact .past outside
  | failed inside found => exact .failed inside found
  | absent inside found => exact .absent inside found
  | halt inside found fresh halts => exact .halt inside found fresh halts

/-- Nothing is skipped in the round a scan ends with. -/
theorem Finish.not_skipped {st : Standing σ} {r : Run σ} (last : s.Finish visit st r) {i : Nat} :
    .skipped i ∉ r.trace := by
  cases last <;> simp

theorem Ends.inStep (sound : s.Sound) {st : Standing σ} {bytes : Run σ}
    (ends : (s.stepping .byte).Ends visit st bytes) (trails : st.Trails) :
    ∃ chars, (s.stepping .char).Ends visit st chars ∧ bytes.InStep s.text chars := by
  induction ends with
  | @finish st r last =>
    exact ⟨r, .finish (last.stepping .char), .same rfl fun i mem => absurd mem last.not_skipped⟩
  | @round st _ _ r first _ ih =>
    have ahead := ih (first.trails trails)
    cases first with
    | @skip span region inside found repeats =>
      obtain ⟨start_le, le_stop, -⟩ := sound inside found
      obtain ⟨-, rfl⟩ := (Standing.repeats_iff trails start_le le_stop).mp repeats
      by_cases many : LeadsMany s.text st.cursor
      · obtain ⟨_, rest⟩ := exists_ends (sound.closed_stepping .char) visit
          ((s.stepping .char).skip st region) trivial
        exact ⟨_, .round (.skip inside found repeats) rest,
          .parted [] many (by simp) rfl rfl⟩
      · have width : (s.stepping .char).skip st region = (s.stepping .byte).skip st region := by
          have one := Advance.width_char_of_not_leadsMany many
          simp only [skip, stepping, one]
          rfl
        obtain ⟨chars, rest, inStep⟩ := ahead
        refine ⟨_, .round (.skip inside found repeats) (width ▸ rest), inStep.after fun i mem => ?_⟩
        obtain rfl : i = st.cursor := by simpa using mem
        exact many
    | take inside found fresh resumes =>
      obtain ⟨chars, rest, inStep⟩ := ahead
      exact ⟨_, .round (.take inside found fresh resumes) rest, inStep.after (by simp)⟩

/-- Where the engine answers within the text, from the cursor on, the runs by
bytes and by characters are in step. -/
theorem run_inStep (sound : s.Sound) (visit : σ → Region → σ × Decision) (start : Nat)
    (state : σ) :
    ∃ bytes chars, (s.stepping .byte).run visit start state = some bytes ∧
      (s.stepping .char).run visit start state = some chars ∧ bytes.InStep s.text chars := by
  by_cases inRange : (s.query start).InRange
  · obtain ⟨bytes, made, ends⟩ :=
      exists_run (sound.closed_stepping .byte) visit state trivial inRange
    obtain ⟨chars, other, inStep⟩ := ends.inStep sound (Standing.trails_first start state)
    exact ⟨bytes, chars, made, (run_eq_some_iff (s := s.stepping .char) inRange).mpr other, inStep⟩
  · have refused (a : Advance) : (s.stepping a).run visit start state =
        some ⟨state, [], .error (Engine.rangeError (s.query start))⟩ :=
      run_of_not_inRange (s := s.stepping a) inRange state
    exact ⟨_, _, refused .byte, refused .char, .same rfl (by simp)⟩

end Scan

end PatternSearch
