/-
PatternSearch.Proofs.Regex.SharedNames — names that several groups bear.

A name is looked up in the table, which has its groups in increasing order, and
these are asked from the last to the first. The first of them that took part is
then the greatest that did, and it answers for the name
(`findSome?_reverse_eq_some_iff` is this for any list in increasing order). A
group that the match does not even have took no part.

The table has names as bytes. That the bytes are those of a text, and that no two
entries have the same, is what makes the entry of a name the only one
(`NameTable.find?_eq_some_iff`); without it, the first entry that reads like the
name would answer, also if its bytes are damaged.

`highest_group_answers` says this for the match, its text and the references of
templates. Not every name can be written in braces: `braces_exclude_letter` is a
declared one that cannot.
-/
import Mathlib
import PatternSearch.Proofs.Regex.Enumeration
import PatternSearch.Proofs.Template.Concatenation

namespace PatternSearch

open Pattern Text

/-! ## 1. Tables in order -/

/-- A list searched from its end, if it is in increasing order, is asked for the
greatest of its numbers that has an answer. -/
theorem findSome?_reverse_eq_some_iff {α : Type} {f : Nat → Option α} {xs : List Nat}
    (increasing : xs.Pairwise (· < ·)) {a : α} :
    xs.reverse.findSome? f = some a ↔
      ∃ i, IsGreatest {i | i ∈ xs ∧ (f i).isSome} i ∧ f i = some a := by
  rw [List.findSome?_eq_some_iff]
  constructor
  · rintro ⟨above, i, below, split, found, none⟩
    obtain rfl : xs = below.reverse ++ i :: above.reverse := by
      simpa using congrArg List.reverse split
    refine ⟨i, ⟨⟨by simp, by simp [found]⟩, ?_⟩, found⟩
    -- What has an answer is below `i`: all above it have been asked in vain.
    rintro j ⟨mem, some⟩
    have before : ∀ j ∈ below, j < i := by
      intro j hj
      exact (List.pairwise_append.mp increasing).2.2 j (by simpa using hj) i (by simp)
    rcases List.mem_append.mp mem with hj | hj
    · exact (before j (by simpa using hj)).le
    · rcases List.mem_cons.mp hj with rfl | hj
      · exact le_rfl
      · simp [none j (by simpa using hj)] at some
  · rintro ⟨i, ⟨⟨mem, -⟩, greatest⟩, found⟩
    obtain ⟨below, above, rfl⟩ := List.append_of_mem mem
    refine ⟨above.reverse, i, below.reverse, by simp, found, ?_⟩
    -- Nothing above `i` has an answer, or `i` would not be the greatest.
    intro j hj
    have after : i < j := by
      have tail := (List.pairwise_append.mp increasing).2.1
      exact List.rel_of_pairwise_cons tail (by simpa using hj)
    by_contra some
    have mem : j ∈ below ++ i :: above := by simp [List.mem_reverse.mp hj]
    have := greatest ⟨mem, Option.isSome_iff_ne_none.mpr some⟩
    omega

/-- The bytes of a text read as that text. -/
theorem lossy_eq_iff {bytes : ByteArray} (valid : bytes.IsValidUTF8) {s : String} :
    lossy bytes = s ↔ bytes = s.toByteArray := by
  have read : lossy bytes = String.fromUTF8 bytes valid := by
    simp [lossy, String.fromUTF8?, valid]
  rw [read, ← String.toByteArray_inj]
  rfl

namespace NameTable

/-- Every entry has a name of its own, which is a text, and its groups in
increasing order. -/
structure Proper (t : NameTable) : Prop where
  distinct : (t.entries.map NamedGroup.name).Nodup
  readable : ∀ e ∈ t.entries, e.name.IsValidUTF8
  increasing : ∀ e ∈ t.entries, e.groups.Pairwise (· < ·)

/-- A name is declared. -/
def Declares (t : NameTable) (n : String) : Prop := ∃ e ∈ t.entries, e.name = n.toByteArray

/-- A group is declared under a name. -/
def Bears (t : NameTable) (n : String) (i : Nat) : Prop :=
  ∃ e ∈ t.entries, e.name = n.toByteArray ∧ i ∈ e.groups

variable {t : NameTable} {n : String}

/-- Looking a name up finds its entry, wherever it stands. -/
theorem find?_eq_some_iff (proper : t.Proper) {e : NamedGroup} :
    t.entries.find? (fun e => lossy e.name = n) = some e ↔
      e ∈ t.entries ∧ e.name = n.toByteArray := by
  have reads : ∀ e ∈ t.entries, lossy e.name = n ↔ e.name = n.toByteArray := fun e mem =>
    lossy_eq_iff (proper.readable e mem)
  constructor
  · intro found
    have mem := List.mem_of_find?_eq_some found
    exact ⟨mem, (reads e mem).mp (by simpa using List.find?_some found)⟩
  · rintro ⟨mem, named⟩
    cases found : t.entries.find? (fun e => lossy e.name = n) with
    | none =>
      have missed := List.find?_eq_none.mp found e mem
      simp [(reads e mem).mpr named] at missed
    | some e' =>
      have mem' := List.mem_of_find?_eq_some found
      have named' := (reads e' mem').mp (by simpa using List.find?_some found)
      rw [List.inj_on_of_nodup_map proper.distinct mem' mem (named'.trans named.symm)]

/-- The groups of a name are those of its entry, if it has one. -/
theorem groupNumbers_eq_find? (t : NameTable) (n : String) : t.groupNumbers n =
    ((t.entries.find? (fun e => lossy e.name = n)).map NamedGroup.groups).getD [] := by
  rw [groupNumbers_eq, groupNames_eq, GroupName.get?, List.find?_map, Option.map_map]
  rfl

theorem mem_groupNumbers_iff (proper : t.Proper) {i : Nat} :
    i ∈ t.groupNumbers n ↔ t.Bears n i := by
  rw [groupNumbers_eq_find?]
  constructor
  · intro mem
    cases found : t.entries.find? (fun e => lossy e.name = n) with
    | none => simp [found] at mem
    | some e =>
      obtain ⟨entry, named⟩ := (find?_eq_some_iff proper).mp found
      exact ⟨e, entry, named, by simpa [found] using mem⟩
  · rintro ⟨e, entry, named, mem⟩
    simpa [(find?_eq_some_iff proper).mpr ⟨entry, named⟩] using mem

theorem groupNumbers_increasing (proper : t.Proper) : (t.groupNumbers n).Pairwise (· < ·) := by
  rw [groupNumbers_eq_find?]
  cases found : t.entries.find? (fun e => lossy e.name = n) with
  | none => exact List.Pairwise.nil
  | some e => exact proper.increasing e (List.mem_of_find?_eq_some found)

end NameTable

/-! ## 2. Who answers -/

namespace Captures

variable {c : Captures} {n : String}

/-- A group took part in the match. -/
def TookPart (c : Captures) (i : Nat) : Prop := ∃ span, c.spans[i]? = some (some span)

theorem get_eq_some_iff {i : Nat} {m : Match} :
    c.get i = some m ↔ ∃ span, c.spans[i]? = some (some span) ∧ m = ⟨c.text, span⟩ := by
  simp only [get, span?, Option.map_eq_some_iff, Option.join_eq_some_iff, eq_comm (b := m)]

theorem isSome_get_iff {i : Nat} : (c.get i).isSome ↔ c.TookPart i := by
  rw [Option.isSome_iff_exists]
  constructor
  · rintro ⟨m, hm⟩
    obtain ⟨span, here, -⟩ := get_eq_some_iff.mp hm
    exact ⟨span, here⟩
  · rintro ⟨span, here⟩
    exact ⟨_, get_eq_some_iff.mpr ⟨span, here, rfl⟩⟩

/-- The greatest group of a name that took part answers. -/
theorem name_eq_some_iff (proper : c.names.Proper) {m : Match} :
    c.name n = some m ↔ ∃ i, IsGreatest {i | c.names.Bears n i ∧ c.TookPart i} i ∧
      c.get i = some m := by
  rw [name, findSome?_reverse_eq_some_iff (NameTable.groupNumbers_increasing proper)]
  simp only [NameTable.mem_groupNumbers_iff proper, isSome_get_iff]

/-- Nobody answers for a name none of whose groups took part. -/
theorem name_eq_none_iff (proper : c.names.Proper) :
    c.name n = none ↔ ∀ i, c.names.Bears n i → ¬ c.TookPart i := by
  simp only [name, List.findSome?_eq_none_iff, List.mem_reverse,
    NameTable.mem_groupNumbers_iff proper, ← isSome_get_iff, Option.not_isSome_iff_eq_none]

end Captures

/-! ## 3. References by name -/

namespace Dialect

open Template

/-- A template that is a reference by a name. Between angle brackets opening
ones do not count, and a number is no name; between braces only letters, digits
and underscores may stand. -/
inductive NameReference (n : String) : Dialect → String → Prop where
  | escaped {d : Dialect} {letter : Char} {inner : List Char} (kind : d.letter? = some letter)
      (closed : '>' ∉ inner) (named : n.toList = inner.filter (· ≠ '<'))
      (not_number : ∀ k, ¬ NumberedName n.toList k) :
      NameReference n d (.ofList ('\\' :: letter :: '<' :: (inner ++ ['>'])))
  | braced (writable : ∀ ch ∈ n.toList, ch.isAlphanum = true ∨ ch = '_') :
      NameReference n java (.ofList ('$' :: '\x7b' :: (n.toList ++ ['\x7d'])))

variable {d : Dialect} {n ref : String}

/-- A reference is expanded to the text of its name, before what comes after it. -/
theorem NameReference.expand (h : NameReference n d ref) (c : Captures) (after dst : String) :
    d.expand (ref ++ after) c.texts dst = d.expand after c.texts (dst ++ c.named n) := by
  cases h with
  | @escaped _ letter inner kind closed named not_number =>
    have hletter := isLetter_of_letter? kind
    have fits : (Escaped.lexicon letter).Fits (.reference inner) after.toList := closed
    have token := Escaped.expandFrom_token (g := c.texts) hletter dst fits
    have name : Escaped.nameOf inner = n := by
      rw [Escaped.nameOf, ← named, String.ofList_toList]
    have means : Escaped.Token.meaning c.texts (.reference inner) = c.named n := by
      rw [Escaped.Token.meaning, name, GroupTexts.referred_of_not_numberedName not_number]
      rfl
    rw [means] at token
    rw [expand_of_letter? kind, expand_of_letter? kind, Escaped.expand_eq_expandFrom,
      Escaped.expand_eq_expandFrom, String.toList_append, String.toList_ofList, ← token]
    rfl
  | braced writable =>
    have fits : Dollar.lexicon.Fits (.braced n.toList) after.toList := writable
    have token := Dollar.expandFrom_token (g := c.texts) dst fits
    have means : Dollar.Token.meaning c.texts (.braced n.toList) = c.named n := by
      rw [Dollar.Token.meaning, String.ofList_toList]
      rfl
    rw [means] at token
    show Dollar.expand _ _ _ = Dollar.expand _ _ _
    rw [Dollar.expand_eq_expandFrom, Dollar.expand_eq_expandFrom, String.toList_append,
      String.toList_ofList]
    exact token

theorem expand_empty (d : Dialect) (g : GroupTexts) (dst : String) :
    d.expand "" g dst = (dst, .ok ()) := by
  cases d with
  | ruby => rfl
  | python => rfl
  | java => simp [expand, Dollar.expand, Dollar.finish]

theorem NameReference.expand_self (h : NameReference n d ref) (c : Captures) (dst : String) :
    d.expand ref c.texts dst = (dst ++ c.named n, .ok ()) := by
  have alone := h.expand c "" dst
  rw [String.append_empty] at alone
  rw [alone, d.expand_empty]

end Dialect

/-! ## 4. The highest group answers -/

/-- **Names that several groups bear.** Of the groups declared under a name, the
greatest that took part answers for it; nobody does if the name is not declared or
none of its groups took part. The text of a name is that of the group that
answers, or nothing, and a reference by the name is expanded to it, wherever it
stands in a template. -/
theorem Captures.highest_group_answers (c : Captures) (proper : c.names.Proper) (n : String) :
    (∀ m, c.name n = some m ↔ ∃ i span,
        IsGreatest {i | c.names.Bears n i ∧ c.TookPart i} i ∧
          c.spans[i]? = some (some span) ∧ m = ⟨c.text, span⟩) ∧
      (c.name n = none ↔
        ¬ c.names.Declares n ∨ ∀ i, c.names.Bears n i → ¬ c.TookPart i) ∧
      (∀ m, c.name n = some m → c.named n = m.str) ∧
      (c.name n = none → c.named n = "") ∧
      ∀ d ref, Dialect.NameReference n d ref →
        (∀ dst, d.expand ref c.texts dst = (dst ++ c.named n, .ok ())) ∧
          ∀ before after dst, (d.expand before c.texts "").2 = .ok () →
            d.EndsBefore before (ref ++ after) →
              d.expand (before ++ (ref ++ after)) c.texts dst =
                d.expand after c.texts ((d.expand before c.texts dst).1 ++ c.named n) := by
  refine ⟨?_, ?_, ?_, ?_, ?_⟩
  · intro m
    rw [name_eq_some_iff proper]
    constructor
    · rintro ⟨i, greatest, here⟩
      obtain ⟨span, lies, rfl⟩ := get_eq_some_iff.mp here
      exact ⟨i, span, greatest, lies, rfl⟩
    · rintro ⟨i, span, greatest, lies, rfl⟩
      exact ⟨i, greatest, get_eq_some_iff.mpr ⟨span, lies, rfl⟩⟩
  · rw [name_eq_none_iff proper]
    constructor
    · intro absent
      exact Or.inr absent
    · rintro (undeclared | absent)
      · rintro i ⟨e, mem, named, -⟩
        exact absurd ⟨e, mem, named⟩ undeclared
      · exact absent
  · intro m here
    rw [named, here]
  · intro nobody
    rw [named, nobody]
  · intro d ref reference
    refine ⟨reference.expand_self c, ?_⟩
    intro before after dst ok ends
    rw [Dialect.expand_append ok ends, reference.expand]

/-- A name of four groups, beside another name. Of the four, group 4 took no part
and the match does not have group 9. -/
def Captures.shared : Captures :=
  ⟨"2024-05", ⟨[⟨"date".toByteArray, [1, 3, 4, 9]⟩, ⟨"year".toByteArray, [2]⟩]⟩,
    [some ⟨0, 7⟩, some ⟨0, 7⟩, some ⟨0, 4⟩, some ⟨5, 7⟩, none]⟩

/-- Group 3 answers, also in the middle of a template. -/
theorem Captures.highest_group_answers_shared :
    shared.names.Proper ∧ shared.name "date" = some ⟨"2024-05", ⟨5, 7⟩⟩ ∧
      Dialect.NameReference "date" .python "\\g<date>" ∧
      Dialect.python.expand ("in " ++ ("\\g<date>" ++ "!")) shared.texts "> " =
        ("> in 05!", .ok ()) := by
  have proper : shared.names.Proper := by
    refine ⟨by decide, ?_, by decide⟩
    simp [shared, String.isValidUTF8]
  have reference : Dialect.NameReference "date" .python "\\g<date>" := by
    have spelled : "\\g<date>" = .ofList ('\\' :: 'g' :: '<' :: ("date".toList ++ ['>'])) := by cbv
    rw [spelled]
    refine .escaped rfl (by decide) (by decide) ?_
    rintro k ⟨digits, rfl | same, run, -⟩
    · simpa using run.2 'd' (by simp)
    · simp at same
  have greatest : IsGreatest {i | shared.names.Bears "date" i ∧ shared.TookPart i} 3 := by
    have groups : shared.names.groupNumbers "date" = [1, 3, 4, 9] := by cbv
    simp only [← NameTable.mem_groupNumbers_iff proper, groups]
    refine ⟨⟨by simp, ⟨5, 7⟩, rfl⟩, ?_⟩
    rintro i ⟨mem, span, here⟩
    rcases (by simpa using mem : i = 1 ∨ i = 3 ∨ i = 4 ∨ i = 9) with rfl | rfl | rfl | rfl
    · decide
    · decide
    · simp [shared] at here
    · simp [shared] at here
  have well : (Dialect.python.expand "in " shared.texts "").2 = .ok () := by cbv
  have apart : Dialect.python.EndsBefore "in " ("\\g<date>" ++ "!") := by
    have plain : (Template.Escaped.lexicon 'g').Reads "in ".toList
        [.plain 'i', .plain 'n', .plain ' '] [] := by
      refine Template.Lexicon.reads_iff.mpr ⟨by cbv, ?_⟩
      simp [Template.Lexicon.Fitting, Template.Escaped.lexicon]
    intro tokens reads last mem
    obtain rfl := (Template.Escaped.existsUnique_reads ⟨by decide, by decide⟩ _).unique reads plain
    obtain rfl : .plain ' ' = last := Option.some.inj mem
    trivial
  obtain ⟨answers, -, -, -, references⟩ := highest_group_answers shared proper "date"
  refine ⟨proper, (answers _).mpr ⟨3, ⟨5, 7⟩, greatest, rfl, rfl⟩, reference, ?_⟩
  rw [(references .python _ reference).2 "in " "!" "> " well apart]
  cbv

/-- A name with a letter that may not stand in braces. -/
def Captures.accented : Captures :=
  ⟨"hello", ⟨[⟨"é".toByteArray, [1]⟩]⟩, [some ⟨0, 5⟩, some ⟨0, 5⟩]⟩

/-- It is declared and has a text, but a template cannot ask for it with a dollar
sign. -/
theorem Captures.braces_exclude_letter :
    accented.names.Proper ∧ accented.named "é" = "hello" ∧
      Dialect.java.expand "$\x7bé\x7d" accented.texts "" =
        ("", .error .missingClosingBrace) := by
  refine ⟨⟨by decide, ?_, by decide⟩, by cbv, by cbv⟩
  simp [accented, String.isValidUTF8]

end PatternSearch
