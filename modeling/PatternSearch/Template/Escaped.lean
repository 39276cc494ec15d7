/-
PatternSearch.Template.Escaped — templates in which a backslash starts a
reference.

A backslash and a digit is the group of that number; a backslash, a letter
and a name between angle brackets is the group of that name, or of that
number if the name is one. Two backslashes are one. Everything else is plain
text, a backslash before any other character among it.

The reader is an automaton that goes over the template once, character by
character. It cannot fail: a reference that is not closed, and a backslash at
the very end, stand for nothing.
-/
import PatternSearch.Text.Number

namespace PatternSearch.Template

open Text

/-- The texts that references stand for. -/
structure GroupTexts where
  numbered : Nat → String
  named : String → String

namespace GroupTexts

/-- The text of a reference by a name that may be a number. -/
def referred (g : GroupTexts) (name : String) : String :=
  match wordOfName? name.toList with
  | some n => g.numbered n
  | none => g.named name

end GroupTexts

namespace Escaped

/-- Where in a template the reader is. -/
inductive State where
  /-- In plain text. -/
  | text
  /-- After a backslash. -/
  | escape
  /-- After a backslash and the letter of named references. -/
  | letter
  /-- In a name, of which this much has been read. -/
  | name (read : String)
  deriving DecidableEq, Repr

/-- A reader's place and what it has written. -/
structure Progress where
  state : State
  written : String
  deriving DecidableEq, Repr

/-- One character of plain text. -/
def plainStep (written : String) (c : Char) : Progress :=
  if c = '\\' then ⟨.escape, written⟩ else ⟨.text, written.push c⟩

/-- One character of a template. `letter` is the letter of named references. -/
def step (letter : Char) (g : GroupTexts) (p : Progress) (c : Char) : Progress :=
  match p.state with
  | .text => plainStep p.written c
  | .escape =>
    match decimalDigit? c with
    | some d => ⟨.text, p.written ++ g.numbered d⟩
    | none =>
      if c = '\\' then ⟨.text, p.written.push '\\'⟩
      else if c = letter then ⟨.letter, p.written⟩
      else ⟨.text, (p.written.push '\\').push c⟩
  | .letter =>
    if c = '<' then ⟨.name "", p.written⟩
    else plainStep ((p.written.push '\\').push letter) c
  | .name read =>
    if c = '>' then ⟨.text, p.written ++ g.referred read⟩
    else if c = '<' then ⟨.name read, p.written⟩
    else ⟨.name (read.push c), p.written⟩

/-- What the end of the template adds. -/
def finish (letter : Char) (p : Progress) : String :=
  match p.state with
  | .letter => (p.written.push '\\').push letter
  | _ => p.written

/-- A template written out after `dst`. -/
def expand (letter : Char) (template : String) (g : GroupTexts) (dst : String) : String :=
  finish letter (template.toList.foldl (step letter g) ⟨.text, dst⟩)

end Escaped

end PatternSearch.Template
