/-
PatternSearch.Proofs.Host.Readings — the ways to read the groups of a region.

The groups of a match are kept as two lists of offsets, one of them negative
where a group took no part. They can be asked for one at a time, gone through
by a walk that counts what is still to come, kept with the text as captures,
and copied for a host, who goes by a pointer and a count.

What a region says of a group is `Region.span?`: `Region.span?_eq_some_iff` and
`Region.span?_eq_none_iff` say which span that is, and when it is none. A walk
is at the group after as many as it has been asked for, or at the end
(`Positions.after_ofRegion`), so that every answer of it and every count is one
about the region. `readings_agree` puts the four ways side by side.
-/
import PatternSearch.Host.Types
import PatternSearch.Proofs.Regex.FirstMatch
import PatternSearch.Proofs.Regex.Joining
import PatternSearch.Proofs.Search.Reuse

namespace PatternSearch

open Text

/-! ## 1. One group -/

namespace Region

variable {r : Region} {i : Nat}

/-- A group lies between its two offsets, neither of which is negative. -/
theorem span?_eq_some_iff {span : Span} :
    r.span? i = some span ↔
      r.starts[i]? = some (span.start : Int) ∧ r.ends[i]? = some (span.stop : Int) := by
  rw [span?]
  rcases r.starts[i]? with _ | s
  · simp
  rcases r.ends[i]? with _ | e
  · simp
  obtain ⟨start, stop⟩ := span
  simp only [ite_eq_iff, reduceCtorEq, and_false, false_or, not_or, Int.not_lt, Option.some.injEq,
    Span.mk.injEq]
  omega

/-- It took no part if there is no such group or one of its offsets is
negative. -/
theorem span?_eq_none_iff (even : r.Even) :
    r.span? i = none ↔
      r.length ≤ i ∨ ∃ o, (r.starts[i]? = some o ∨ r.ends[i]? = some o) ∧ o < 0 := by
  rcases Nat.lt_or_ge i r.length with inside | beyond
  · have inside' : i < r.ends.length := even ▸ inside
    rw [span?, List.getElem?_eq_getElem inside, List.getElem?_eq_getElem inside']
    simp only [ite_eq_left_iff, reduceCtorEq, imp_false, not_not, Nat.not_le.mpr inside, false_or,
      Option.some.injEq, or_and_right, exists_or, exists_eq_left']
  · have none : r.starts[i]? = none := List.getElem?_eq_none beyond
    simp [span?, none, beyond]

end Region

/-! ## 2. A walk -/

namespace Positions

/-- The walk after a number of calls. -/
def after (p : Positions) (calls : Nat) : Positions := (fun p => p.next.2)^[calls] p

theorem next_of_lt {r : Region} {i : Nat} (inside : i < r.length) :
    next ⟨r, i⟩ = (some (r.span? i), ⟨r, i + 1⟩) := if_pos inside

theorem next_of_le {r : Region} {i : Nat} (beyond : r.length ≤ i) :
    next ⟨r, i⟩ = (none, ⟨r, i⟩) := if_neg (Nat.not_lt.mpr beyond)

/-- A walk has passed as many groups as it has been asked for, or all. -/
theorem after_ofRegion (r : Region) (calls : Nat) :
    (ofRegion r).after calls = ⟨r, min calls r.length⟩ := by
  induction calls with
  | zero => simp [after, ofRegion]
  | succ calls ih =>
    rw [after, Function.iterate_succ_apply', ← after, ih]
    rcases Nat.lt_or_ge calls r.length with inside | beyond
    · rw [Nat.min_eq_left (Nat.le_of_lt inside), next_of_lt inside, Nat.min_eq_left inside]
    · rw [Nat.min_eq_right beyond, next_of_le (Nat.le_refl _),
        Nat.min_eq_right (Nat.le_succ_of_le beyond)]

/-- A walk that has come to some group yields that group and all after it. -/
theorem yields_from {r : Region} {rest i : Nat} (all : i + rest = r.length) :
    Yields next ⟨r, i⟩ ((List.range' i rest).map r.span?) := by
  induction rest generalizing i with
  | zero => exact .done (congrArg Prod.fst (next_of_le (Nat.le_of_eq all.symm)))
  | succ rest ih =>
    have step := next_of_lt (r := r) (i := i) (by omega)
    rw [List.range'_succ, List.map_cons]
    refine .item (congrArg Prod.fst step) ?_
    rw [step]
    exact ih (by omega)

/-- A walk yields all groups. -/
theorem yields (r : Region) : Yields next (ofRegion r) r.spans := by
  rw [Region.spans, List.range_eq_range']
  exact yields_from (Nat.zero_add _)

end Positions

/-! ## 3. Copies -/

namespace Captures

@[simp] theorem length_ofRegion (text : String) (names : NameTable) (r : Region) :
    (ofRegion text names r).length = r.length := by
  simp [length, ofRegion, Region.spans]

/-- The groups of captures are those of the region, as matches. -/
theorem items_ofRegion (text : String) (names : NameTable) (r : Region) :
    (ofRegion text names r).items = r.spans.map (Option.map (Match.mk text)) := by
  rw [items, length_ofRegion, Region.spans, List.map_map]
  exact List.map_congr_left fun i _ => get_ofRegion text names r i

end Captures

namespace Host

/-- What a host is handed for a region: its offsets, null if there are no
groups, and how many groups there are if 32 bits can tell. They can for every
region an engine fills in, which counts its groups with a sign. -/
structure HostRegion.Copies (h : HostRegion) (r : Region) : Prop where
  starts : h.starts.getD [] = r.starts
  starts_null : h.starts = none ↔ r.length = 0
  ends : h.ends.getD [] = r.ends
  ends_null : h.ends = none ↔ r.length = 0
  count : r.length < UInt32.size → h.count.toNat = r.length

theorem HostRegion.copies_ofRegion {r : Region} (even : r.Even) : (ofRegion r).Copies r where
  starts := getD_listPointer _
  starts_null := by
    rw [ofRegion, listPointer_eq_none_iff, ← List.length_eq_zero_iff]
    rfl
  ends := getD_listPointer _
  ends_null := by
    rw [ofRegion, listPointer_eq_none_iff, ← List.length_eq_zero_iff, ← even]
    rfl
  count few := UInt32.toNat_ofNat_of_lt' few

/-! ## 4. All readings -/

/-- **Readings of a region.** Let a region have an end for every start, and any
offsets. A walk through its groups tells how many are still to come, whatever
it has been asked for so far, and answers with one group a call, in order, and
with none ever after. A group is none if there is no such group or one of its
offsets is negative, and lies between its offsets otherwise. The captures of
the region hold what the walk yields, as many groups at the same places, and no
others. The copy for a host has the same offsets, the number of groups if 32 bits
can tell it, and null pointers if there are no groups and only then. -/
theorem readings_agree (r : Region) (even : r.Even) (text : String) (names : NameTable) :
    (∀ calls, ((Positions.ofRegion r).after calls).sizeHint =
      (r.length - min calls r.length, some (r.length - min calls r.length))) ∧
    (∀ i, ((Positions.ofRegion r).after i).next.1 =
      if i < r.length then some (r.span? i) else none) ∧
    (∀ i, r.span? i = none ↔
      r.length ≤ i ∨ ∃ o, (r.starts[i]? = some o ∨ r.ends[i]? = some o) ∧ o < 0) ∧
    (∀ i span, r.span? i = some span ↔
      r.starts[i]? = some (span.start : Int) ∧ r.ends[i]? = some (span.stop : Int)) ∧
    (let captures := Captures.ofRegion text names r
     Yields Positions.next (.ofRegion r) captures.spans ∧
      captures.length = r.length ∧ (∀ i, captures.span? i = r.span? i) ∧
      captures.items = r.spans.map (Option.map (Match.mk text))) ∧
    (HostRegion.ofRegion r).Copies r := by
  refine ⟨fun calls => ?_, fun i => ?_, fun i => Region.span?_eq_none_iff even,
    fun i span => Region.span?_eq_some_iff, ⟨Positions.yields r, ?_, ?_, ?_⟩,
    HostRegion.copies_ofRegion even⟩
  · rw [Positions.after_ofRegion]
    rfl
  · rw [Positions.after_ofRegion]
    split_ifs with inside
    · rw [Nat.min_eq_left (Nat.le_of_lt inside), Positions.next_of_lt inside]
    · rw [Nat.min_eq_right (Nat.le_of_not_lt inside), Positions.next_of_le (Nat.le_refl _)]
  · exact Captures.length_ofRegion text names r
  · exact Captures.span?_ofRegion text names r
  · exact Captures.items_ofRegion text names r

/-- A region two of whose groups have one negative offset each. -/
def mixedRegion : Region := ⟨[1, 2, -1, 5], [4, -1, 3, 7]⟩

/-- The second and the third group took no part, and there is no fifth. -/
theorem readings_agree_mixed :
    mixedRegion.Even ∧
      ((Positions.ofRegion mixedRegion).after 3).sizeHint = (1, some 1) ∧
      ((Positions.ofRegion mixedRegion).after 2).next.1 = some none ∧
      ((Positions.ofRegion mixedRegion).after 3).next.1 = some (some ⟨5, 7⟩) ∧
      ((Positions.ofRegion mixedRegion).after 9).next.1 = none ∧
      Yields Positions.next (.ofRegion mixedRegion) [some ⟨1, 4⟩, none, none, some ⟨5, 7⟩] ∧
      (HostRegion.ofRegion mixedRegion).count.toNat = 4 := by
  have even : mixedRegion.Even := rfl
  obtain ⟨hints, answers, -, -, ⟨yields, -⟩, copy⟩ := readings_agree mixedRegion even "" ⟨[]⟩
  exact ⟨even, hints 3, answers 2, answers 3, answers 9, yields, copy.count (by decide)⟩

end Host

end PatternSearch
