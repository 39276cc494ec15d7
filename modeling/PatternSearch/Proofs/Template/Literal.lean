/-
PatternSearch.Proofs.Template.Literal — templates with backslash references in
which nothing is referred to.

A template is `Literal` if no backslash in it is followed by a digit, by another
backslash or by a whole reference. One would expect such a template to be
written out as it stands, since an escape that is no reference is kept. That
holds of every escape but those at the end: the reader writes an escape when it
leaves it, and the end of the template is no character it could leave it by.
`Dangling` are the two ends it does not leave, a lone backslash and a reference
that is not closed.

`literal_template_kept` says that these are all there is to lose: everything
before the longest dangling end is kept, and a literal template is written out
as it stands exactly if it has none. `dangling_text_lost` has one template of
either kind.

The proof goes by the tokens of the template. Those of a literal template are
written as what they mean, except for the last.
-/
import PatternSearch.Proofs.Template.Escaped

namespace PatternSearch

open Text

namespace Template.Escaped

variable {letter : Char}

/-! ## 1. What is literal, and what dangles -/

/-- A whole reference comes next. -/
def ReferenceNext (letter : Char) (after : List Char) : Prop :=
  ∃ inner, after = letter :: '<' :: inner ∧ '>' ∈ inner

/-- No backslash of a template is followed by a digit, a backslash or a whole
reference. -/
def Literal (letter : Char) (cs : List Char) : Prop :=
  ∀ after, '\\' :: after <:+ cs →
    NoDigitNext after ∧ after.head? ≠ some '\\' ∧ ¬ ReferenceNext letter after

/-- An end that the reader does not leave. -/
inductive Dangling (letter : Char) : List Char → Prop where
  | backslash : Dangling letter ['\\']
  | reference {inner : List Char} (unclosed : '>' ∉ inner) :
      Dangling letter ('\\' :: letter :: '<' :: inner)

theorem Literal.suffix {cs rest : List Char} (h : Literal letter cs) (part : rest <:+ cs) :
    Literal letter rest := by
  intro after here
  exact h after (here.trans part)

theorem literal_nil : Literal letter [] := by
  intro after here
  simp at here

theorem literal_cons {c : Char} {cs : List Char} :
    Literal letter (c :: cs) ↔
      (c = '\\' → NoDigitNext cs ∧ cs.head? ≠ some '\\' ∧ ¬ ReferenceNext letter cs) ∧
        Literal letter cs := by
  constructor
  · intro h
    refine ⟨?_, h.suffix (List.suffix_cons c cs)⟩
    rintro rfl
    exact h cs List.suffix_rfl
  · rintro ⟨first, others⟩ after here
    rcases List.suffix_cons_iff.mp here with same | here
    · obtain ⟨rfl, rfl⟩ := List.cons.inj same
      exact first rfl
    · exact others after here

theorem Dangling.head?_eq {lost : List Char} (h : Dangling letter lost) :
    lost.head? = some '\\' := by
  cases h with
  | backslash => rfl
  | reference => rfl

/-- The longest end that dangles. -/
structure Lost (letter : Char) (cs lost : List Char) : Prop where
  suffix : lost <:+ cs
  dangles : Dangling letter lost
  longest : ∀ {other : List Char}, other <:+ cs → Dangling letter other →
    other.length ≤ lost.length

theorem Lost.ne_nil {cs lost : List Char} (h : Lost letter cs lost) : lost ≠ [] := by
  rintro rfl
  simpa using h.dangles.head?_eq

theorem Lost.unique {cs lost lost' : List Char} (h : Lost letter cs lost)
    (h' : Lost letter cs lost') : lost = lost' := by
  have le := h'.longest h.suffix h.dangles
  have ge := h.longest h'.suffix h'.dangles
  exact (List.suffix_of_suffix_length_le h.suffix h'.suffix le).eq_of_length (Nat.le_antisymm le ge)

/-! ## 2. The tokens of a literal template -/

/-- A token written as it stands. -/
inductive Token.Verbatim : Token → Prop where
  | plain (c : Char) : Verbatim (.plain c)
  | escape (c : Char) : Verbatim (.escape c)

variable {g : GroupTexts} {t : Token} {rest : List Char}

theorem Token.Verbatim.meaning_eq (h : t.Verbatim) (letter : Char) :
    t.meaning g = .ofList ((lexicon letter).spelling t) := by
  cases h with
  | plain c =>
    rw [← String.toList_inj]
    simp [Token.meaning, lexicon]
  | escape c => rfl

/-- Nothing dangles from a token written as it stands: its first backslash opens
no reference, and it has no other one. -/
theorem Token.Verbatim.suffix (h : t.Verbatim) (fits : (lexicon letter).Fits t rest)
    {lost : List Char} (part : lost <:+ (lexicon letter).spelling t ++ rest)
    (dangles : Dangling letter lost) : lost <:+ rest := by
  cases h with
  | plain c =>
    have hc : c ≠ '\\' := fits
    rcases List.suffix_cons_iff.mp part with rfl | part
    · exact absurd (by simpa using dangles.head?_eq) hc
    · exact part
  | escape c =>
    obtain ⟨-, hbackslash, hreference⟩ := fits
    rcases List.suffix_cons_iff.mp part with rfl | part
    · cases dangles with
      | reference unclosed => exact absurd rfl (hreference rfl)
    rcases List.suffix_cons_iff.mp part with rfl | part
    · exact absurd (by simpa using dangles.head?_eq) hbackslash
    · exact part

/-- A token of a literal template is written as it stands, or it is the last one
and lost. -/
theorem verbatim_or_dangling (fits : (lexicon letter).Fits t rest)
    (literal : Literal letter ((lexicon letter).spelling t ++ rest)) :
    t.Verbatim ∨ rest = [] ∧ Dangling letter ((lexicon letter).spelling t) ∧
      t.meaning g = "" := by
  cases t with
  | plain c => exact Or.inl (.plain c)
  | escape c => exact Or.inl (.escape c)
  | lone =>
    obtain rfl : rest = [] := fits
    exact Or.inr ⟨rfl, .backslash, rfl⟩
  | unclosed inner =>
    obtain ⟨hopen, rfl⟩ := fits
    exact Or.inr ⟨rfl, .reference hopen, rfl⟩
  | digit c =>
    have hc : c.isDigit = true := fits
    have next := (literal (c :: rest) List.suffix_rfl).1
    rw [noDigitNext_cons.mp next] at hc
    simp at hc
  | backslash =>
    have next := (literal ('\\' :: rest) List.suffix_rfl).2.1
    simp at next
  | reference inner =>
    have none := (literal (letter :: '<' :: (inner ++ ['>'] ++ rest)) List.suffix_rfl).2.2
    exact absurd ⟨_, rfl, by simp⟩ none

/-- What a literal template is written as, and what is lost of it. -/
theorem exists_kept {cs : List Char} {ts : List Token} (h : (lexicon letter).Reads cs ts [])
    (literal : Literal letter cs) :
    ∃ kept lost, cs = kept ++ lost ∧ Lexicon.written (Token.meaning g) ts = .ofList kept ∧
      ((lost = [] ∧ ∀ other, other <:+ cs → ¬ Dangling letter other) ∨ Lost letter cs lost) := by
  induction ts generalizing cs with
  | nil =>
    obtain rfl := Lexicon.reads_nil_iff.mp h
    refine ⟨[], [], rfl, rfl, Or.inl ⟨rfl, ?_⟩⟩
    intro other part dangles
    obtain rfl := List.suffix_nil.mp part
    simpa using dangles.head?_eq
  | cons t ts ih =>
    obtain ⟨rest, rfl, fits, others⟩ := Lexicon.reads_cons_iff.mp h
    obtain ⟨kept, lost, cut, written, ended⟩ :=
      ih others (literal.suffix (List.suffix_append _ _))
    rcases verbatim_or_dangling (g := g) fits literal with verbatim | ⟨rfl, dangles, nothing⟩
    · refine ⟨(lexicon letter).spelling t ++ kept, lost, by simp [cut], ?_, ?_⟩
      · rw [Lexicon.written_cons, written, verbatim.meaning_eq letter, String.ofList_append]
      · rcases ended with ⟨none, not⟩ | ended
        · refine Or.inl ⟨none, ?_⟩
          intro other part dangles
          exact not other (verbatim.suffix fits part dangles) dangles
        · refine Or.inr ⟨ended.suffix.trans (List.suffix_append _ _), ended.dangles, ?_⟩
          intro other part dangles
          exact ended.longest (verbatim.suffix fits part dangles) dangles
    · obtain ⟨rfl, rfl⟩ := List.append_eq_nil_iff.mp cut.symm
      rw [List.append_nil]
      refine ⟨[], (lexicon letter).spelling t, rfl, ?_, Or.inr ⟨List.suffix_rfl, dangles, ?_⟩⟩
      · rw [Lexicon.written_cons, written, nothing]
        rfl
      · intro other part _
        exact part.length_le

end Template.Escaped

/-! ## 3. The dialects -/

namespace Dialect

open Template

variable {d : Dialect} {letter : Char}

/-- **Literal templates.** A template in which nothing is referred to is written
out as it stands exactly if nothing dangles at its end. Otherwise the longest
end that dangles is lost, and everything before it is kept. -/
theorem literal_template_kept (h : d.letter? = some letter) (template : String)
    (literal : Escaped.Literal letter template.toList) (c : Captures) (dst : String) :
    (d.expand template c.texts dst = (dst ++ template, .ok ()) ↔
      ∀ lost, lost <:+ template.toList → ¬ Escaped.Dangling letter lost) ∧
    ∀ kept lost, template.toList = kept ++ lost → Escaped.Lost letter template.toList lost →
      d.expand template c.texts dst = (dst ++ .ofList kept, .ok ()) := by
  have hletter := isLetter_of_letter? h
  obtain ⟨ts, reads, -⟩ := Escaped.existsUnique_reads hletter template.toList
  obtain ⟨kept, lost, cut, written, ended⟩ := Escaped.exists_kept (g := c.texts) reads literal
  rw [expand_of_letter? h, Escaped.expand_of_reads hletter reads, written]
  refine ⟨⟨?_, ?_⟩, ?_⟩
  · intro same
    have all : kept = template.toList := by
      have same := congrArg (fun r => r.1.toList) same
      simpa using same
    have none : lost = [] := by simpa [all] using cut
    exact (ended.resolve_right (fun ended => ended.ne_nil none)).2
  · intro not
    obtain ⟨rfl, -⟩ := ended.resolve_right (fun ended => not lost ended.suffix ended.dangles)
    have all : template = .ofList kept := by
      rw [← String.toList_inj]
      simpa using cut
    rw [all]
  · intro kept' lost' cut' ended'
    obtain rfl := (ended.resolve_left (fun ended =>
      ended.2 lost' ended'.suffix ended'.dangles)).unique ended'
    rw [List.append_cancel_right (cut.symm.trans cut')]

/-- A path with a backslash at its end and a reference that is not closed: both
templates are literal, and neither is written out as it stands. -/
theorem dangling_text_lost :
    ruby.letter? = some 'k' ∧ Escaped.Literal 'k' "C:\\temp\\".toList ∧
      ruby.expand "C:\\temp\\" Captures.hello.texts "" ≠ ("C:\\temp\\", .ok ()) ∧
    python.letter? = some 'g' ∧ Escaped.Literal 'g' "see \\g<1 for more".toList ∧
      python.expand "see \\g<1 for more" Captures.hello.texts "" ≠
        ("see \\g<1 for more", .ok ()) := by
  have lone : ruby.expand "C:\\temp\\" Captures.hello.texts "" = ("C:\\temp", .ok ()) := by cbv
  have unclosed :
      python.expand "see \\g<1 for more" Captures.hello.texts "" = ("see ", .ok ()) := by cbv
  refine ⟨rfl, ?_, ?_, rfl, ?_, ?_⟩
  · simp [Escaped.literal_cons, Escaped.literal_nil, NoDigitNext, Escaped.ReferenceNext]
  · rw [lone]
    decide
  · simp [Escaped.literal_cons, Escaped.literal_nil, NoDigitNext, Escaped.ReferenceNext]
  · rw [unclosed]
    decide

/-- The backslash in the middle of the path is kept, the one at its end is lost. -/
theorem literal_template_kept_path :
    ruby.letter? = some 'k' ∧ Escaped.Literal 'k' "C:\\temp\\".toList ∧
      ruby.expand "C:\\temp\\" Captures.hello.texts "> " = ("> C:\\temp", .ok ()) ∧
      Escaped.Literal 'k' "C:\\temp".toList ∧
      ruby.expand "C:\\temp" Captures.hello.texts "> " = ("> C:\\temp", .ok ()) := by
  have path : Escaped.Literal 'k' "C:\\temp\\".toList := by
    simp [Escaped.literal_cons, Escaped.literal_nil, NoDigitNext, Escaped.ReferenceNext]
  have inner : Escaped.Literal 'k' "C:\\temp".toList := by
    simp [Escaped.literal_cons, Escaped.literal_nil, NoDigitNext, Escaped.ReferenceNext]
  refine ⟨rfl, path, ?_, inner, ?_⟩
  · refine (literal_template_kept rfl _ path Captures.hello "> ").2 "C:\\temp".toList ['\\']
      (by simp) ⟨by simp [List.suffix_cons_iff], .backslash, ?_⟩
    intro other part dangles
    cases dangles with
    | backslash => exact Nat.le_refl 1
    | reference => simp [List.suffix_cons_iff] at part
  · refine (literal_template_kept rfl _ inner Captures.hello "> ").1.mpr ?_
    intro lost part dangles
    cases dangles <;> simp [List.suffix_cons_iff] at part

end Dialect

end PatternSearch
