/-
PatternSearch.Text.Span — stretches of a text, by byte offsets.

A span is two byte offsets. It fits a text when both are character boundaries
of it and the first is not after the second; then `slice` is the text between
them. A span that does not fit has no text, and `slice?` says so.
-/
namespace PatternSearch.Text

/-- The bytes from `start` up to `stop`, `stop` excluded. -/
structure Span where
  start : Nat
  stop : Nat
  deriving DecidableEq, Repr, Inhabited

/-- An offset between two characters of a text, or at one of its ends. -/
def IsBoundary (text : String) (i : Nat) : Prop :=
  String.Pos.Raw.IsValid text ⟨i⟩

instance (text : String) (i : Nat) : Decidable (IsBoundary text i) :=
  inferInstanceAs (Decidable (String.Pos.Raw.IsValid text ⟨i⟩))

namespace Span

/-- The number of bytes. -/
def length (s : Span) : Nat := s.stop - s.start

/-- The span of nothing. -/
def isEmpty (s : Span) : Bool := s.start == s.stop

theorem isEmpty_iff {s : Span} : s.isEmpty ↔ s.start = s.stop := by simp [isEmpty]

/-- A span that cuts a text between characters. -/
def Fits (s : Span) (text : String) : Prop :=
  s.start ≤ s.stop ∧ IsBoundary text s.start ∧ IsBoundary text s.stop

instance (s : Span) (text : String) : Decidable (s.Fits text) :=
  inferInstanceAs (Decidable (_ ∧ _ ∧ _))

/-- The text a span covers, `none` if it does not fit. -/
def slice? (s : Span) (text : String) : Option String :=
  if s.Fits text then
    String.fromUTF8? (text.toByteArray.extract s.start s.stop)
  else none

/-- The text a span covers, nothing if it does not fit. -/
def slice (s : Span) (text : String) : String := (s.slice? text).getD ""

end Span

/-- Everything from an offset on. -/
def suffixSpan (text : String) (start : Nat) : Span := ⟨start, text.utf8ByteSize⟩

end PatternSearch.Text
