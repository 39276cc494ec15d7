/-
PatternSearch.Regex.Builder — setting the options of a pattern one by one.

A builder is a value: every setter answers with a new one and building does
not use it up. Eight of the nine flags have a toggle of their own.
-/
import PatternSearch.Regex.Compile

namespace PatternSearch

/-- A pattern with the options and the flavour to compile it with. -/
structure RegexBuilder where
  pattern : String
  options : OptionSet
  flavour : Flavour

/-- The flags that can be toggled one by one. -/
inductive Toggle where
  | caseInsensitive
  | extended
  | multiLine
  | singleLine
  | findLongest
  | findNotEmpty
  | dontCaptureGroup
  | captureGroup
  deriving DecidableEq, Repr

namespace Toggle

/-- The flag of a toggle. -/
def flag : Toggle → Flag
  | caseInsensitive => .ignoreCase
  | extended => .extended
  | multiLine => .multiLine
  | singleLine => .singleLine
  | findLongest => .findLongest
  | findNotEmpty => .findNotEmpty
  | dontCaptureGroup => .dontCaptureGroup
  | captureGroup => .captureGroup

/-- The toggle's name. -/
def label : Toggle → String
  | caseInsensitive => "case_insensitive"
  | extended => "extended"
  | multiLine => "multi_line"
  | singleLine => "single_line"
  | findLongest => "find_longest"
  | findNotEmpty => "find_not_empty"
  | dontCaptureGroup => "dont_capture_group"
  | captureGroup => "capture_group"

/-- The toggle with a given name. -/
def ofLabel? (s : String) : Option Toggle :=
  [caseInsensitive, extended, multiLine, singleLine, findLongest, findNotEmpty,
    dontCaptureGroup, captureGroup].find? (fun t => t.label == s)

end Toggle

/-- One call on a builder that changes it. -/
inductive BuilderCall where
  /-- Turns a flag on or off. -/
  | toggle (t : Toggle) (yes : Bool)
  /-- Replaces all options. -/
  | options (o : OptionSet)
  /-- Chooses the flavour. -/
  | flavour (f : Flavour)

namespace RegexBuilder

/-- A pattern without options, in the standard flavour. -/
def ofPattern (pattern : String) : RegexBuilder := ⟨pattern, .empty, .standard⟩

/-- The builder after a call. -/
def apply (b : RegexBuilder) : BuilderCall → RegexBuilder
  | .toggle t yes => { b with options := b.options.setFlag t.flag yes }
  | .options o => { b with options := o }
  | .flavour f => { b with flavour := f }

/-- The builder after several calls. -/
def applyAll (b : RegexBuilder) (calls : List BuilderCall) : RegexBuilder := calls.foldl apply b

/-- Compiles the pattern with what has been set. -/
def build (b : RegexBuilder) : Except Error Regex :=
  Regex.withOptions b.pattern b.options b.flavour

end RegexBuilder

end PatternSearch
