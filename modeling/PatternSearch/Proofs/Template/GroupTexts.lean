/-
PatternSearch.Proofs.Template.GroupTexts — what the references of a template
stand for.

A reference is made by a number, by a name, or by a name that may be a number.
The groups it asks for may not exist, and those that exist may have taken no
part in the match; either way it stands for nothing.
-/
import PatternSearch.Proofs.Text.Numeral
import PatternSearch.Regex.Captures

namespace PatternSearch

open Text

namespace Template.GroupTexts

variable {g : GroupTexts} {name : String}

/-- A name that is a number asks for the group of that number. -/
theorem referred_of_numberedName {n : Nat} (h : NumberedName name.toList n) :
    g.referred name = g.numbered n := by
  rw [referred, wordOfName?_eq_some_iff.mpr h]

/-- Any other name asks for the group of that name. -/
theorem referred_of_not_numberedName (h : ∀ n, ¬ NumberedName name.toList n) :
    g.referred name = g.named name := by
  have none : wordOfName? name.toList = none := by
    rw [Option.eq_none_iff_forall_ne_some]
    intro n hn
    exact h n (wordOfName?_eq_some_iff.mp hn)
  rw [referred, none]

end Template.GroupTexts

namespace Captures

variable {c : Captures}

/-- A group that does not exist or took no part has no text. -/
theorem numbered_eq_empty {i : Nat} (h : c.get i = none) : c.texts.numbered i = "" := by
  simp [texts, numbered, h]

/-- A name has no text if none of the groups that bear it took part; there may
be no such groups. -/
theorem named_eq_empty {name : String} (h : ∀ i ∈ c.names.groupNumbers name, c.get i = none) :
    c.texts.named name = "" := by
  have none : c.name name = none := by
    rw [Captures.name, List.findSome?_eq_none_iff]
    intro i hi
    exact h i (List.mem_reverse.mp hi)
  simp [texts, named, none]

/-- The captures of a greeting. Its name is borne by two groups, of which the
second took no part. -/
def hello : Captures :=
  ⟨"hello world", ⟨[⟨"who".toByteArray, [1, 2]⟩]⟩, [some ⟨0, 11⟩, some ⟨6, 11⟩, none]⟩

end Captures

end PatternSearch
