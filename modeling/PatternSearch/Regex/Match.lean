/-
PatternSearch.Regex.Match — the matches of a regex in a text.

`Regex.find` is the first match, `Regex.findIter` all of them, in a sequence
that can be taken from either end.
-/
import PatternSearch.Regex.Basic
import PatternSearch.Search.Scan

namespace PatternSearch

open Text

/-- A sequence whose items can be taken off at both ends. -/
structure Sequence (α : Type) where
  items : List α

namespace Sequence

/-- How many items are left. -/
def length {α : Type} (s : Sequence α) : Nat := s.items.length

/-- The first item, and the rest. -/
def next {α : Type} (s : Sequence α) : Option α × Sequence α :=
  (s.items.head?, ⟨s.items.tail⟩)

/-- The last item, and the rest. -/
def nextBack {α : Type} (s : Sequence α) : Option α × Sequence α :=
  (s.items.getLast?, ⟨s.items.dropLast⟩)

end Sequence

/-- A match in a text. -/
structure Match where
  text : String
  span : Span
  deriving DecidableEq, Repr

namespace Match

/-- Where the match starts and ends. -/
def start (m : Match) : Nat := m.span.start
def stop (m : Match) : Nat := m.span.stop

/-- What has been matched. -/
def str (m : Match) : String := m.span.slice m.text

end Match

namespace Regex

/-- The first match in a text. -/
def find (re : Regex) (text : String) : Except Error (Option Match) :=
  match re.searchWithOptions text.toByteArray 0 text.utf8ByteSize .none .empty with
  | (.ok (some _), region) => .ok ((region.span? 0).map (Match.mk text))
  | (.ok none, _) => .ok none
  | (.error e, _) => .error e

/-- The scan of a whole text, character by character. -/
def wholeScan (re : Regex) (text : String) : Scan :=
  ⟨re.toEngine, text.toByteArray, text.utf8ByteSize, .none, .standard, .char⟩

/-- Where all matches in a text lie. -/
def allSpans (re : Regex) (text : String) : Eventual (List Span) :=
  (re.wholeScan text).collect (fun region => (region.span? 0).toList) 0

/-- All matches in a text. -/
def findIter (re : Regex) (text : String) : Eventual (Sequence Match) :=
  (re.allSpans text).map fun spans => ⟨spans.map (Match.mk text)⟩

end Regex

end PatternSearch
