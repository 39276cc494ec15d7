/-
PatternSearch.Proofs.Template.Concatenation — templates one after the other.

Expanding a template only adds to what has been written before, whatever that
is and however the expansion ends. So two templates in a row come to what each
of them comes to alone, one after the other, unless a token of the first would
go on into the second. Three kinds of token can: an end that the reader of
backslash references does not leave, the letter of named references before an
opening bracket, and a number before a digit. `Dialect.EndsBefore` excludes
them, and `expansion_appends` says that nothing else has to be excluded.

Only the last token matters. All others have the same tokens after them as
before, and see no further than these (`Lexicon.Reads.append`).
-/
import PatternSearch.Proofs.Template.Dollar
import PatternSearch.Proofs.Template.Escaped

namespace PatternSearch

open Text

namespace Template

/-! ## 1. Backslash references -/

namespace Escaped

variable {letter : Char} {g : GroupTexts} {next : List Char}

/-- A token is over before what comes next: it is no escape or reference left
open, and what comes next does not make a reference of it. -/
def Token.EndsBefore (letter : Char) (next : List Char) : Token → Prop
  | lone => False
  | unclosed _ => False
  | escape c => c = letter → next.head? ≠ some '<'
  | _ => True

theorem reads_append (hletter : IsLetter letter) {cs : List Char} {ts : List Token}
    (h : (lexicon letter).Reads cs ts []) (ends : ∀ t ∈ ts.getLast?, t.EndsBefore letter next) :
    (lexicon letter).Reads (cs ++ next) ts next := by
  refine h.append (unambiguous hletter) ?_ ?_
  · intro t rest more fits
    cases t with
    | escape c =>
      obtain ⟨hdigit, hbackslash, hreference⟩ := fits
      refine ⟨hdigit, hbackslash, ?_⟩
      rwa [List.head?_append_of_ne_nil _ more]
    | lone => exact absurd fits more
    | unclosed inner => exact absurd fits.2 more
    | _ => exact fits
  · intro t last fits
    have ends := ends t last
    cases t with
    | escape c => exact ⟨fits.1, fits.2.1, ends⟩
    | lone => exact absurd ends id
    | unclosed inner => exact absurd ends id
    | _ => exact fits

theorem expand_append (hletter : IsLetter letter) {t₁ t₂ : String} {ts : List Token}
    (h : (lexicon letter).Reads t₁.toList ts [])
    (ends : ∀ t ∈ ts.getLast?, t.EndsBefore letter t₂.toList) (dst : String) :
    expand letter (t₁ ++ t₂) g dst = expand letter t₂ g (expand letter t₁ g dst) := by
  have both := (reads_append hletter h ends).expand_eq (expandFrom letter g .text)
    (Token.meaning g) (fun dst fits => expandFrom_token hletter dst fits) dst
  rw [expand_eq_expandFrom, String.toList_append, both, expand_of_reads hletter h,
    expand_eq_expandFrom]

/-- Expanding adds to what has been written before. -/
theorem expand_eq_append (hletter : IsLetter letter) (t dst : String) :
    expand letter t g dst = dst ++ expand letter t g "" := by
  obtain ⟨ts, h, -⟩ := existsUnique_reads hletter t.toList
  rw [expand_of_reads hletter h, expand_of_reads hletter h, String.empty_append]

end Escaped

/-! ## 2. Dollar references -/

namespace Dollar

variable {g : GroupTexts} {next : List Char}

/-- A token is over before what comes next: if it is a number, no digit does. -/
def Token.EndsBefore (next : List Char) : Token → Prop
  | number _ => NoDigitNext next
  | _ => True

theorem reads_append {cs : List Char} {ts : List Token} (h : lexicon.Reads cs ts [])
    (ends : ∀ t ∈ ts.getLast?, t.EndsBefore next) : lexicon.Reads (cs ++ next) ts next := by
  refine h.append unambiguous ?_ ?_
  · intro t rest more fits
    cases t with
    | number digits =>
      obtain ⟨run, longest, small⟩ := fits
      refine ⟨run, ?_, small⟩
      rwa [NoDigitNext, List.head?_append_of_ne_nil _ more]
    | _ => exact fits
  · intro t last fits
    have ends := ends t last
    cases t with
    | number digits => exact ⟨fits.1, ends, fits.2.2⟩
    | _ => exact fits

theorem expand_append {t₁ t₂ : String} {ts : List Token} (h : lexicon.Reads t₁.toList ts [])
    (ends : ∀ t ∈ ts.getLast?, t.EndsBefore t₂.toList) (dst : String) :
    expand (t₁ ++ t₂) g dst = expand t₂ g (expand t₁ g dst).1 := by
  have both := (reads_append h ends).expand_eq (expandFrom g .text) (Token.meaning g)
    (fun dst fits => expandFrom_token dst fits) dst
  rw [expand_eq_expandFrom, String.toList_append, both, expand_of_reads h, expand_eq_expandFrom]

/-- Expanding adds to what has been written before, also where it fails, and what
has been written before does not decide whether it does. -/
theorem expand_eq_append (t dst : String) :
    expand t g dst = (dst ++ (expand t g "").1, (expand t g "").2) := by
  obtain ⟨⟨ts, left⟩, ⟨h, rfl | ⟨e, fault⟩⟩, -⟩ := existsUnique_reads t.toList
  · rw [expand_of_reads h, expand_of_reads h, String.empty_append]
  · rw [expand_of_malformed h fault, expand_of_malformed h fault, String.empty_append]

end Dollar

end Template

/-! ## 3. The dialects -/

namespace Dialect

open Template

/-- The last token of a template is over before another template. -/
def EndsBefore (d : Dialect) (t next : String) : Prop :=
  match d.letter? with
  | some letter => ∀ tokens, (Escaped.lexicon letter).Reads t.toList tokens [] →
      ∀ last ∈ tokens.getLast?, last.EndsBefore letter next.toList
  | none => ∀ tokens, Dollar.lexicon.Reads t.toList tokens [] →
      ∀ last ∈ tokens.getLast?, last.EndsBefore next.toList

variable {d : Dialect} {g : GroupTexts}

theorem expand_eq_append (d : Dialect) (t : String) (g : GroupTexts) (dst : String) :
    d.expand t g dst = (dst ++ (d.expand t g "").1, (d.expand t g "").2) := by
  cases kind : d.letter? with
  | some letter =>
    simp only [expand_of_letter? kind]
    rw [Escaped.expand_eq_append (isLetter_of_letter? kind)]
  | none =>
    obtain rfl := letter?_eq_none_iff.mp kind
    exact Dollar.expand_eq_append t dst

theorem expand_append {t₁ t₂ : String} (ok : (d.expand t₁ g "").2 = .ok ())
    (ends : d.EndsBefore t₁ t₂) (dst : String) :
    d.expand (t₁ ++ t₂) g dst = d.expand t₂ g (d.expand t₁ g dst).1 := by
  unfold EndsBefore at ends
  cases kind : d.letter? with
  | some letter =>
    rw [kind] at ends
    have hletter := isLetter_of_letter? kind
    obtain ⟨ts, h, -⟩ := Escaped.existsUnique_reads hletter t₁.toList
    simp only [expand_of_letter? kind]
    rw [Escaped.expand_append hletter h (ends ts h)]
  | none =>
    rw [kind] at ends
    obtain rfl := letter?_eq_none_iff.mp kind
    obtain ⟨ts, h⟩ := (Dollar.expand_eq_ok_iff t₁ "").mp ok
    exact Dollar.expand_append h (ends ts h) dst

/-- **Templates one after the other.** Expanding a template adds to what has been
written before what it comes to alone, and ends as it does alone. Two templates
of which the first is well formed and over before the second come to what they
come to alone, one after the other, and end as the second does. -/
theorem expansion_appends (d : Dialect) (c : Captures) :
    (∀ t dst, d.expand t c.texts dst =
      (dst ++ (d.expand t c.texts "").1, (d.expand t c.texts "").2)) ∧
    ∀ t₁ t₂, (d.expand t₁ c.texts "").2 = .ok () → d.EndsBefore t₁ t₂ →
      d.expand (t₁ ++ t₂) c.texts "" =
        ((d.expand t₁ c.texts "").1 ++ (d.expand t₂ c.texts "").1, (d.expand t₂ c.texts "").2) := by
  refine ⟨fun t dst => d.expand_eq_append t c.texts dst, ?_⟩
  intro t₁ t₂ ok ends
  rw [expand_append ok ends, d.expand_eq_append t₂]

/-- A number before a dash is over, and the fault comes after it. A letter that
could begin a reference is over before another letter. -/
theorem expansion_appends_hello :
    (java.expand "$1" Captures.hello.texts "").2 = .ok () ∧ java.EndsBefore "$1" "-$" ∧
      java.expand ("$1" ++ "-$") Captures.hello.texts "" = ("world-", .error .incompletePattern) ∧
      (ruby.expand "\\k" Captures.hello.texts "").2 = .ok () ∧ ruby.EndsBefore "\\k" "-<1>" ∧
      ruby.expand ("\\k" ++ "-<1>") Captures.hello.texts "" = ("\\k-<1>", .ok ()) := by
  have number : Dollar.lexicon.Reads "$1".toList [.number ['1']] [] := by
    refine Lexicon.reads_iff.mpr ⟨by cbv, ?_⟩
    simp [Lexicon.Fitting, Dollar.lexicon, IsDigits, NoDigitNext, digitsValue, Nat.ofDigitChars]
  have dash : java.EndsBefore "$1" "-$" := by
    intro tokens reads last mem
    have stuck := Lexicon.stuck_nil Dollar.unambiguous
    obtain ⟨rfl, -⟩ := reads.unique Dollar.unambiguous stuck number stuck
    obtain rfl : .number ['1'] = last := Option.some.inj mem
    simp [Dollar.Token.EndsBefore, NoDigitNext]
  have letter : (Escaped.lexicon 'k').Reads "\\k".toList [.escape 'k'] [] := by
    refine Lexicon.reads_iff.mpr ⟨by cbv, ?_⟩
    simp [Lexicon.Fitting, Escaped.lexicon]
  have bracket : ruby.EndsBefore "\\k" "-<1>" := by
    intro tokens reads last mem
    obtain rfl := (Escaped.existsUnique_reads ⟨by decide, by decide⟩ _).unique reads letter
    obtain rfl : .escape 'k' = last := Option.some.inj mem
    simp [Escaped.Token.EndsBefore]
  have first : (java.expand "$1" Captures.hello.texts "").2 = .ok () := by cbv
  have second : (ruby.expand "\\k" Captures.hello.texts "").2 = .ok () := by cbv
  refine ⟨first, dash, ?_, second, bracket, ?_⟩
  · rw [(expansion_appends java Captures.hello).2 _ _ first dash]
    cbv
  · rw [(expansion_appends ruby Captures.hello).2 _ _ second bracket]
    cbv

end Dialect

end PatternSearch
