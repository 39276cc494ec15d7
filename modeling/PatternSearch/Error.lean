/-
PatternSearch.Error — everything that can go wrong, by cause.

`TemplateError` is about a replacement template, `Error` is all causes
together. `Error.message` is the sentence shown to a user, `Error.code` the
status code a host sees, and `Error.shown` the structured form for
diagnostics. Only errors that come from compiling or searching have a code of
their own; all others are an invalid argument.
-/
import PatternSearch.Status
import PatternSearch.Text.Quoted

namespace PatternSearch

/-- What is wrong with a replacement template. -/
inductive TemplateError where
  /-- A group number too large for any group. -/
  | invalidGroupNumber (digits : String)
  /-- A group name that is opened with a brace and not closed. -/
  | missingClosingBrace
  /-- A reference sign followed by something that is no reference. -/
  | unexpectedToken (c : Char)
  /-- The template ends in a reference sign. -/
  | incompletePattern
  /-- The template ends in an escape sign. -/
  | incompleteEscape
  deriving DecidableEq, Repr

namespace TemplateError

/-- The error as a sentence. -/
def message : TemplateError → String
  | invalidGroupNumber digits => "invalid capture group number: " ++ digits
  | missingClosingBrace => "missing closing brace in replacement pattern"
  | unexpectedToken c => "unexpected token in replacement pattern: " ++ String.singleton c
  | incompletePattern => "incomplete replacement pattern"
  | incompleteEscape => "incomplete escape pattern"

/-- The error's name. -/
def label : TemplateError → String
  | invalidGroupNumber _ => "InvalidGroupNumber"
  | missingClosingBrace => "MissingClosingBrace"
  | unexpectedToken _ => "UnexpectedToken"
  | incompletePattern => "IncompletePattern"
  | incompleteEscape => "IncompleteEscape"

/-- The error with its data, for diagnostics. -/
def shown : TemplateError → String
  | invalidGroupNumber digits => "InvalidGroupNumber(" ++ Text.quoted digits ++ ")"
  | unexpectedToken c => "UnexpectedToken(" ++ Text.quotedChar c ++ ")"
  | e => e.label

end TemplateError

/-- What can go wrong. -/
inductive Error where
  /-- A pattern was refused or a search was given up. -/
  | engine (e : EngineError)
  /-- A search range that does not lie within the text. -/
  | invalidRange (start stop length : Nat)
  /-- A replacement template cannot be expanded. -/
  | template (e : TemplateError)
  /-- Bytes that are not UTF-8. -/
  | utf8 (fault : Text.Fault)
  /-- A letter that stands for no option. -/
  | invalidOption (letter : Char)
  deriving DecidableEq, Repr

namespace EngineError

/-- The error with its data, for diagnostics. -/
def shown (e : EngineError) : String :=
  "OnigError \x7b code: " ++ toString e.code.toInt ++ ", message: " ++ Text.quoted e.message
    ++ " \x7d"

end EngineError

namespace Error

/-- The error with a given status code. -/
def ofCode (code : Int32) : Error := .engine (.ofCode code)

/-- The status code a host sees. -/
def code : Error → Int32
  | engine e => e.code
  | _ => invalidArgument

/-- The error as a sentence. -/
def message : Error → String
  | engine e => e.message
  | invalidRange start stop length =>
    s!"search range {start}..{stop} is out of bounds for text of {length} bytes"
  | template e => e.message
  | utf8 fault => fault.message
  | invalidOption letter => "invalid regex option: " ++ String.singleton letter

/-- The error with its data, for diagnostics. -/
def shown : Error → String
  | engine e => "Onig(" ++ e.shown ++ ")"
  | invalidRange start stop length =>
    "InvalidRange \x7b" ++ s!" from: {start}, to: {stop}, len: {length} " ++ "\x7d"
  | template e => "Replace(" ++ e.shown ++ ")"
  | utf8 fault =>
    "Utf8(Utf8Error \x7b valid_up_to: " ++ toString fault.offset ++ ", error_len: "
      ++ (match fault.length with
          | some n => "Some(" ++ toString n ++ ")"
          | none => "None")
      ++ " \x7d)"
  | invalidOption letter => "InvalidOption(" ++ Text.quotedChar letter ++ ")"

end Error

end PatternSearch
