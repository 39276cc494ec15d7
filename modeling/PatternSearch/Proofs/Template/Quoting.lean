/-
PatternSearch.Proofs.Template.Quoting — texts as templates.

Every text can be written as a template that stands for it, in any dialect: with
a backslash before each character that would otherwise begin something else.
That is the backslash itself and, where a dollar sign makes references, the
dollar sign. `Dialect.quote` writes a text in this way and `Dialect.expand_quote`
says that expanding gives it back.

No two characters of a quoted text are read together. Each is a token that may
stand before anything, so that a digit, a letter or a brace after it does not
make a reference of it.
-/
import PatternSearch.Proofs.Template.Dollar
import PatternSearch.Proofs.Template.Escaped

namespace PatternSearch

namespace Dialect

open Template

/-- Whether a character has to be quoted. -/
def isSpecial (d : Dialect) (c : Char) : Bool :=
  match d with
  | java => c == '\\' || c == '$'
  | _ => c == '\\'

/-- A character with a backslash before it if it is special. -/
def quoteChar (d : Dialect) (c : Char) : List Char := if d.isSpecial c then ['\\', c] else [c]

/-- A template for a text. -/
def quote (d : Dialect) (s : String) : String := .ofList (s.toList.flatMap d.quoteChar)

variable {d : Dialect} {letter : Char}

theorem exists_escaped_token (h : d.letter? = some letter) (g : GroupTexts) (c : Char) :
    ∃ t, (Escaped.lexicon letter).spelling t = d.quoteChar c ∧
      (∀ rest, (Escaped.lexicon letter).Fits t rest) ∧ t.meaning g = String.singleton c := by
  have special : d.isSpecial c = true ↔ c = '\\' := by
    rcases letter?_eq_some_iff.mp h with ⟨rfl, -⟩ | ⟨rfl, -⟩ <;> simp [isSpecial]
  unfold quoteChar
  simp only [special]
  by_cases hc : c = '\\'
  · subst hc
    exact ⟨.backslash, rfl, fun _ => trivial, rfl⟩
  · rw [if_neg hc]
    exact ⟨.plain c, rfl, fun _ => hc, rfl⟩

theorem exists_dollar_token (g : GroupTexts) (c : Char) :
    ∃ t, Dollar.lexicon.spelling t = java.quoteChar c ∧
      (∀ rest, Dollar.lexicon.Fits t rest) ∧ t.meaning g = String.singleton c := by
  have special : java.isSpecial c = true ↔ c = '\\' ∨ c = '$' := by simp [isSpecial]
  unfold quoteChar
  simp only [special]
  by_cases hc : c = '\\' ∨ c = '$'
  · rw [if_pos hc]
    exact ⟨.escaped c, rfl, fun _ => trivial, rfl⟩
  · rw [if_neg hc]
    exact ⟨.plain c, rfl, fun _ => not_or.mp hc, rfl⟩

/-- **Quoting.** Expanding a quoted text gives the text. -/
theorem expand_quote (d : Dialect) (s : String) (g : GroupTexts) (dst : String) :
    d.expand (d.quote s) g dst = (dst ++ s, .ok ()) := by
  cases kind : d.letter? with
  | some letter =>
    obtain ⟨ts, reads, same⟩ := Lexicon.exists_reads_flatMap (exists_escaped_token kind g) s.toList
    rw [← String.toList_ofList (l := s.toList.flatMap _)] at reads
    rw [expand_of_letter? kind, quote, Escaped.expand_of_reads (isLetter_of_letter? kind) reads,
      same, String.ofList_toList]
  | none =>
    obtain rfl := letter?_eq_none_iff.mp kind
    obtain ⟨ts, reads, same⟩ := Lexicon.exists_reads_flatMap (exists_dollar_token g) s.toList
    rw [← String.toList_ofList (l := s.toList.flatMap _)] at reads
    rw [expand, quote, Dollar.expand_of_reads reads, same, String.ofList_toList]

example : java.quote "\\$1" = "\\\\\\$1" := by cbv

end Dialect

end PatternSearch
