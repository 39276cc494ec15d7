/-
PatternSearch.Proofs.Pattern.Letters — options as words of letters.

Six of the nine flags have a letter. `Flag.letter?` is the table of them, and the
reader of a word and its printer are both compared with it: a letter is read as
the flag it belongs to (`ofLetter?_eq_some_iff`), and what is printed are the
letters of the flags that are on (`toList_letters`).

A word is read from left to right, each flag being added to those before it. What
comes out has the flags whose letters are in the word, wherever and however often
(`parse_eq`). So the order of the letters can only matter for which of several
wrong ones is reported.

`letters_round_trip` says all of this, and that reading what has been printed
gives back the flags that have a letter.
-/
import Mathlib.Data.List.Basic
import PatternSearch.Pattern.Options

namespace PatternSearch

/-! ## 1. The alphabet -/

/-- The letter of a flag, for those that have one. -/
def Flag.letter? : Flag → Option Char
  | ignoreCase => some 'i'
  | extended => some 'x'
  | multiLine => some 'm'
  | singleLine => some 's'
  | findLongest => some 'l'
  | findNotEmpty => some 'E'
  | negateSingleLine | dontCaptureGroup | captureGroup => none

namespace OptionSet

/-- The letters there are, in the order in which they are printed. -/
def alphabet : List Char := Flag.all.filterMap Flag.letter?

/-- The flags that have a letter. -/
def lettered : OptionSet := ⟨fun f => f.letter?.isSome⟩

/-- The flags whose letters are in a word. -/
def ofWord (cs : List Char) : OptionSet := ⟨fun f => f.letter?.any (· ∈ cs)⟩

variable {c : Char} {f : Flag} {cs : List Char}

theorem alphabet_eq : alphabet = "ixmslE".toList := by decide

theorem mem_alphabet_iff : c ∈ alphabet ↔ ∃ f : Flag, f.letter? = some c := by
  simp [alphabet, Flag.mem_all]

theorem has_ofWord_iff : (ofWord cs).has f ↔ ∃ c ∈ cs, f.letter? = some c := by
  cases letter : f.letter? with
  | none => simp [ofWord, letter]
  | some c => simp [ofWord, letter]

/-! ## 2. Reading -/

/-- A letter is read as the flag it belongs to. -/
theorem ofLetter?_eq_some_iff : ofLetter? c = some f ↔ f.letter? = some c := by
  constructor
  · intro read
    unfold ofLetter? at read
    split at read <;> cases read <;> rfl
  · intro letter
    cases f <;> cases letter <;> rfl

theorem ofLetter?_eq_none_iff : ofLetter? c = none ↔ c ∉ alphabet := by
  rw [mem_alphabet_iff, Option.eq_none_iff_forall_ne_some]
  simp [ofLetter?_eq_some_iff]

/-- One letter more adds its flag. -/
theorem union_ofWord_cons (o : OptionSet) (letter : f.letter? = some c) :
    (o.union (single f)).union (ofWord cs) = o.union (ofWord (c :: cs)) := by
  ext g
  have same : (single f).has g ↔ g.letter? = some c := by
    rw [← ofLetter?_eq_some_iff, ofLetter?_eq_some_iff.mpr letter]
    simp [single, eq_comm]
  rw [Bool.eq_iff_iff]
  simp only [union, Bool.or_eq_true, same, has_ofWord_iff, List.exists_mem_cons_iff, or_assoc]

/-- **Reading from left to right.** The flags of the letters are added, or the
first character that is no letter is reported. -/
theorem parseFrom_eq (o : OptionSet) (cs : List Char) :
    parseFrom o cs = match cs.find? (· ∉ alphabet) with
      | some c => .error (.invalidOption c)
      | none => .ok (o.union (ofWord cs)) := by
  induction cs generalizing o with
  | nil =>
    have nothing : o.union (ofWord []) = o := by
      ext f
      simp [union, ofWord]
    simp [parseFrom, nothing]
  | cons c cs ih =>
    rw [parseFrom]
    cases read : ofLetter? c with
    | none =>
      have wrong := ofLetter?_eq_none_iff.mp read
      simp [wrong]
    | some f =>
      have letter := ofLetter?_eq_some_iff.mp read
      have right : c ∈ alphabet := mem_alphabet_iff.mpr ⟨f, letter⟩
      simp [ih, right, union_ofWord_cons o letter]

theorem parse_eq (s : String) :
    parse s = match s.toList.find? (· ∉ alphabet) with
      | some c => .error (.invalidOption c)
      | none => .ok (ofWord s.toList) := by
  rw [parse, parseFrom_eq]
  rfl

theorem parse_eq_ok_iff {s : String} {o : OptionSet} :
    parse s = .ok o ↔ (∀ c ∈ s.toList, c ∈ alphabet) ∧ o = ofWord s.toList := by
  rw [parse_eq]
  cases wrong : s.toList.find? (· ∉ alphabet) with
  | none =>
    have right : ∀ c ∈ s.toList, c ∈ alphabet := by simpa using wrong
    simp only [Except.ok.injEq, eq_comm (a := o)]
    exact ⟨fun same => ⟨right, same⟩, And.right⟩
  | some c =>
    have mem := List.mem_of_find?_eq_some wrong
    have foreign : c ∉ alphabet := by simpa using List.find?_some wrong
    constructor
    · intro read
      cases read
    · rintro ⟨right, -⟩
      exact absurd (right c mem) foreign

/-- The error is about the first character that is no letter. -/
theorem parse_eq_error_iff {s : String} {e : Error} :
    parse s = .error e ↔ ∃ before c after, s.toList = before ++ c :: after ∧
      (∀ d ∈ before, d ∈ alphabet) ∧ c ∉ alphabet ∧ e = .invalidOption c := by
  have first (c : Char) : s.toList.find? (· ∉ alphabet) = some c ↔
      c ∉ alphabet ∧ ∃ before after, s.toList = before ++ c :: after ∧
        ∀ d ∈ before, d ∈ alphabet := by
    simp [List.find?_eq_some_iff_append]
  rw [parse_eq]
  constructor
  · intro failed
    cases found : s.toList.find? (· ∉ alphabet) with
    | none =>
      rw [found] at failed
      cases failed
    | some c =>
      obtain ⟨foreign, before, after, split, right⟩ := (first c).mp found
      rw [found] at failed
      obtain rfl : .invalidOption c = e := Except.error.inj failed
      exact ⟨before, c, after, split, right, foreign, rfl⟩
  · rintro ⟨before, c, after, split, right, foreign, rfl⟩
    rw [(first c).mpr ⟨foreign, before, after, split, right⟩]

/-! ## 3. Printing -/

/-- The letters of the flags that are on are printed. -/
theorem toList_letters (o : OptionSet) :
    o.letters.toList = Flag.all.filterMap fun f => f.letter?.filter fun _ => o.has f := by
  rw [List.filterMap_eq_flatMap_toList]
  simp [letters, Flag.all, Flag.letter?, Option.filter_some, apply_ite String.toList,
    apply_ite Option.toList]

theorem mem_letters_iff {o : OptionSet} :
    c ∈ o.letters.toList ↔ ∃ f : Flag, f.letter? = some c ∧ o.has f := by
  simp [toList_letters, Flag.mem_all, Option.filter_eq_some_iff]

theorem letters_ofWord (cs : List Char) :
    (ofWord cs).letters = .ofList (alphabet.filter (· ∈ cs)) := by
  rw [← String.toList_inj, toList_letters, String.toList_ofList, alphabet, List.filter_filterMap]
  apply List.filterMap_congr
  intro f mem
  cases letter : f.letter? with
  | none => rfl
  | some c => simp [Option.filter_some, ofWord, letter]

/-- Flags without a letter are not printed. -/
theorem letters_inter_lettered (o : OptionSet) : (o.inter lettered).letters = o.letters := by
  rw [← String.toList_inj, toList_letters, toList_letters]
  apply List.filterMap_congr
  intro f mem
  cases letter : f.letter? with
  | none => rfl
  | some c => simp [inter, lettered, letter]

/-! ## 4. There and back -/

/-- What has been printed is read as the flags that have a letter. -/
theorem parse_letters (o : OptionSet) : parse o.letters = .ok (o.inter lettered) := by
  rw [parse_eq_ok_iff]
  constructor
  · intro c mem
    obtain ⟨f, letter, -⟩ := mem_letters_iff.mp mem
    exact mem_alphabet_iff.mpr ⟨f, letter⟩
  · ext f
    rw [Bool.eq_iff_iff, has_ofWord_iff]
    simp only [mem_letters_iff, inter, lettered, Bool.and_eq_true, Option.isSome_iff_exists]
    constructor
    · rintro ⟨on, c, letter⟩
      exact ⟨c, ⟨f, letter, on⟩, letter⟩
    · rintro ⟨c, ⟨g, letter', on⟩, letter⟩
      -- A letter that is printed for one flag is not read as another.
      rw [← ofLetter?_eq_some_iff] at letter letter'
      obtain rfl : g = f := Option.some.inj (letter'.symm.trans letter)
      exact ⟨on, c, ofLetter?_eq_some_iff.mp letter⟩

/-- **Options as words of letters.** A word is read if all its characters are
letters, and otherwise its first other character is reported. What is read are
the flags of the letters: for two words in a row those of either, and the same
for any words with the same letters in them. Printed, they are these letters, each
once and in the order of the alphabet. A set that is printed and read again keeps
the flags that have a letter, and is printed in the same way. -/
theorem letters_round_trip :
    (∀ s, (∃ o, parse s = .ok o) ↔ ∀ c ∈ s.toList, c ∈ "ixmslE".toList) ∧
      (∀ s e, parse s = .error e ↔ ∃ before c after, s.toList = before ++ c :: after ∧
        (∀ d ∈ before, d ∈ "ixmslE".toList) ∧ c ∉ "ixmslE".toList ∧ e = .invalidOption c) ∧
      (∀ s o, parse s = .ok o → (∀ f, o.has f ↔ ∃ c ∈ s.toList, f.letter? = some c) ∧
        o.letters = .ofList ("ixmslE".toList.filter (· ∈ s.toList))) ∧
      (∀ s t a b, parse s = .ok a → parse t = .ok b → parse (s ++ t) = .ok (a.union b)) ∧
      (∀ s t o, (∀ c, c ∈ s.toList ↔ c ∈ t.toList) → parse s = .ok o → parse t = .ok o) ∧
      ∀ o : OptionSet, parse o.letters = .ok (o.inter lettered) ∧
        (o.inter lettered).letters = o.letters := by
  simp only [← alphabet_eq]
  refine ⟨?_, ?_, ?_, ?_, ?_, ?_⟩
  · intro s
    simp [parse_eq_ok_iff]
  · intro s e
    exact parse_eq_error_iff
  · intro s o read
    obtain ⟨-, rfl⟩ := parse_eq_ok_iff.mp read
    exact ⟨fun f => has_ofWord_iff, letters_ofWord _⟩
  · intro s t a b
    simp only [parse_eq_ok_iff, String.toList_append, List.mem_append]
    rintro ⟨right, rfl⟩ ⟨right', rfl⟩
    refine ⟨fun c mem => mem.elim (right c) (right' c), ?_⟩
    ext f
    rw [Bool.eq_iff_iff]
    simp only [union, Bool.or_eq_true, has_ofWord_iff, List.mem_append, or_and_right, exists_or]
  · intro s t o same
    simp only [parse_eq_ok_iff]
    rintro ⟨right, rfl⟩
    refine ⟨fun c mem => right c ((same c).mpr mem), ?_⟩
    ext f
    rw [Bool.eq_iff_iff]
    simp only [has_ofWord_iff, same]
  · intro o
    exact ⟨parse_letters o, letters_inter_lettered o⟩

/-- Two words with letters in common, in two orders. -/
theorem letters_round_trip_ixm :
    parse "xix" = .ok (ofWord ['i', 'x']) ∧ parse "mi" = .ok (ofWord ['i', 'm']) ∧
      parse ("xix" ++ "mi") = .ok ((ofWord ['i', 'x']).union (ofWord ['i', 'm'])) ∧
      parse "mixxi" = .ok ((ofWord ['i', 'x']).union (ofWord ['i', 'm'])) ∧
      ((ofWord ['i', 'x']).union (ofWord ['i', 'm'])).letters = "ixm" ∧
      parse "mixz" = .error (.invalidOption 'z') := by
  obtain ⟨-, errors, read, both, order, -⟩ := letters_round_trip
  have first : parse "xix" = .ok (ofWord ['i', 'x']) := by
    refine parse_eq_ok_iff.mpr ⟨by simp [alphabet_eq], ?_⟩
    ext f
    cases f <;> decide
  have second : parse "mi" = .ok (ofWord ['i', 'm']) := by
    refine parse_eq_ok_iff.mpr ⟨by simp [alphabet_eq], ?_⟩
    ext f
    cases f <;> decide
  have together := both _ _ _ _ first second
  have mixed := order _ "mixxi" _ (by simp; tauto) together
  refine ⟨first, second, together, mixed, (read _ _ mixed).2.trans (by decide), ?_⟩
  exact (errors _ _).mpr ⟨"mix".toList, 'z', [], by simp, by simp, by decide, rfl⟩

end OptionSet

end PatternSearch
