/-
PatternSearch.Template.Dollar — templates in which a dollar sign starts a
reference.

A dollar sign and digits is the group of that number; a dollar sign and a
name in braces is the group of that name. A backslash makes the next
character plain. Unlike the other kind of template this one can be malformed;
what has been written before the fault stays written.
-/
import PatternSearch.Error
import PatternSearch.Template.Escaped

namespace PatternSearch.Template.Dollar

open Text

/-- Where in a template the reader is. -/
inductive State where
  /-- In plain text. -/
  | text
  /-- After a backslash. -/
  | escape
  /-- After a dollar sign. -/
  | dollar
  /-- In a number, of which these digits have been read. -/
  | number (digits : String)
  /-- In a name in braces, of which this much has been read. -/
  | braced (read : String)
  deriving DecidableEq, Repr

/-- A character that a name in braces may hold. -/
def isNameChar (c : Char) : Bool :=
  ('a' ≤ c && c ≤ 'z') || ('A' ≤ c && c ≤ 'Z') || ('0' ≤ c && c ≤ '9') || c == '_'

/-- The text of a group by its digits. -/
def numberText (g : GroupTexts) (digits : String) : Except TemplateError String :=
  match wordOfDigits? digits.toList with
  | some n => .ok (g.numbered n)
  | none => .error (.invalidGroupNumber digits)

/-- Where the reader is after one character of plain text, and what that adds. -/
def plainStep (c : Char) : State × String :=
  if c = '\\' then (.escape, "")
  else if c = '$' then (.dollar, "")
  else (.text, String.singleton c)

/-- Where the reader is after one character, and what that adds. -/
def step (g : GroupTexts) (s : State) (c : Char) : Except TemplateError (State × String) :=
  match s with
  | .text => .ok (plainStep c)
  | .escape => .ok (.text, String.singleton c)
  | .dollar =>
    if c = '\x7b' then .ok (.braced "", "")
    else if (decimalDigit? c).isSome then .ok (.number (String.singleton c), "")
    else .error (.unexpectedToken c)
  | .number digits =>
    if (decimalDigit? c).isSome then .ok (.number (digits.push c), "")
    else do
      let added ← numberText g digits
      let (s, more) := plainStep c
      return (s, added ++ more)
  | .braced read =>
    if c = '\x7d' then .ok (.text, g.named read)
    else if isNameChar c then .ok (.braced (read.push c), "")
    else .error .missingClosingBrace

/-- What the end of the template adds. -/
def finish (g : GroupTexts) (s : State) : Except TemplateError String :=
  match s with
  | .text => .ok ""
  | .escape => .error .incompleteEscape
  | .dollar => .error .incompletePattern
  | .number digits => numberText g digits
  | .braced _ => .error .missingClosingBrace

/-- Goes over a template from a given place on, writing after `dst`. -/
def expandFrom (g : GroupTexts) : State → List Char → String →
    String × Except TemplateError Unit
  | s, [], dst =>
    match finish g s with
    | .ok added => (dst ++ added, .ok ())
    | .error e => (dst, .error e)
  | s, c :: cs, dst =>
    match step g s c with
    | .ok (s, added) => expandFrom g s cs (dst ++ added)
    | .error e => (dst, .error e)

/-- A template written out after `dst`, as far as it is well formed. -/
def expand (template : String) (g : GroupTexts) (dst : String) :
    String × Except TemplateError Unit :=
  expandFrom g .text template.toList dst

end PatternSearch.Template.Dollar
