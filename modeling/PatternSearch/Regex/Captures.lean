/-
PatternSearch.Regex.Captures — a match together with its groups.

A group is asked for by number or by name. A name may belong to several
groups; then the one with the highest number that took part answers. Asking
for a group that does not exist is no error: it took no part.
-/
import PatternSearch.Regex.Match
import PatternSearch.Template.Expand
import PatternSearch.Text.Quoted

namespace PatternSearch

open Text

/-- A match and its groups, by where they lie in the text. -/
structure Captures where
  text : String
  names : NameTable
  spans : List (Option Span)

namespace Captures

/-- The captures of a region. -/
def ofRegion (text : String) (names : NameTable) (r : Region) : Captures :=
  ⟨text, names, r.spans⟩

/-- The number of groups, the whole match among them. -/
def length (c : Captures) : Nat := c.spans.length

/-- Whether there are no groups. -/
def isEmpty (c : Captures) : Bool := c.spans.isEmpty

/-- Where a group lies. -/
def span? (c : Captures) (i : Nat) : Option Span := (c.spans[i]?).join

/-- A group as a match. -/
def get (c : Captures) (i : Nat) : Option Match := (c.span? i).map (Match.mk c.text)

/-- The text of a group, nothing if it took no part. -/
def numbered (c : Captures) (i : Nat) : String :=
  match c.get i with
  | some m => m.str
  | none => ""

/-- The group that answers to a name, as a match. -/
def name (c : Captures) (n : String) : Option Match :=
  (c.names.groupNumbers n).reverse.findSome? c.get

/-- The text of the group that answers to a name. -/
def named (c : Captures) (n : String) : String :=
  match c.name n with
  | some m => m.str
  | none => ""

/-- Where the match starts; 0 if there is none. -/
def offset (c : Captures) : Nat :=
  match c.span? 0 with
  | some s => s.start
  | none => 0

/-- All groups, in order. -/
def items (c : Captures) : List (Option Match) := (List.range c.length).map c.get

/-- The texts that a template's references stand for. -/
def texts (c : Captures) : Template.GroupTexts := ⟨c.numbered, c.named⟩

/-- The texts of all groups, for diagnostics. -/
def shown (c : Captures) : String :=
  "[" ++ String.intercalate ", " (c.items.map (fun m => match m with
    | some m => "Some(" ++ quoted m.str ++ ")"
    | none => "None")) ++ "]"

end Captures

namespace Regex

/-- The first match in a text, with its groups. -/
def captures (re : Regex) (text : String) : Except Error (Option Captures) :=
  match re.searchWithOptions text.toByteArray 0 text.utf8ByteSize .none .empty with
  | (.ok (some _), region) => .ok (some (.ofRegion text re.names region))
  | (.ok none, _) => .ok none
  | (.error e, _) => .error e

/-- All matches in a text, with their groups. -/
def capturesIter (re : Regex) (text : String) : Eventual (Sequence Captures) :=
  ((re.wholeScan text).collect (fun region => [.ofRegion text re.names region]) 0).map
    fun all => ⟨all⟩

end Regex

end PatternSearch
