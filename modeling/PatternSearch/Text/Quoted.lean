/-
PatternSearch.Text.Quoted — a character or a string as it is shown in
diagnostics: between quotes, with everything that would not be visible
escaped.

What stays as it is: visible characters and the blank. What is escaped by
name: NUL, tab, newline, carriage return, backslash and the quote in use. All
else, and every character that would combine with the one before it, is
written as its code point in braces.
-/
import PatternSearch.Text.Property

namespace PatternSearch.Text

/-- A character that is drawn on top of the one before it, or that is not
drawn at all. -/
def extendsPrevious (c : Nat) : Bool :=
  match categoryOf c with
  | .mn | .me => true
  | .mc => otherExtending.contains c
  | _ => fillers.contains c
where
  /-- Letters that only take up a place. -/
  fillers : List Nat := [0x115F, 0x1160, 0x3164, 0xFFA0]

/-- A character that shows as itself. -/
def isPrintable (c : Nat) : Bool :=
  match categoryOf c with
  | .cc | .cf | .cs | .co | .cn | .zl | .zp => false
  | .zs => c == 0x20
  | _ => true

/-- One character, escaped where needed; `quote` is the quote in use. -/
def escapeChar (quote c : Char) : String :=
  if c = Char.ofNat 0 then "\\0"
  else if c = '\t' then "\\t"
  else if c = '\r' then "\\r"
  else if c = '\n' then "\\n"
  else if c = '\\' then "\\\\"
  else if c = quote then String.ofList ['\\', c]
  else if extendsPrevious c.toNat || !isPrintable c.toNat then
    "\\u\x7b" ++ hexText c.toNat ++ "\x7d"
  else String.singleton c

/-- A string between double quotes. -/
def quoted (s : String) : String :=
  "\"" ++ String.join (s.toList.map (escapeChar '"')) ++ "\""

/-- A character between single quotes. -/
def quotedChar (c : Char) : String :=
  "'" ++ escapeChar '\'' c ++ "'"

end PatternSearch.Text
