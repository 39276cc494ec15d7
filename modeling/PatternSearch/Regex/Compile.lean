/-
PatternSearch.Regex.Compile — from a pattern to a regex.

The engine of a compiled regex runs the matcher. Each answer fills a region
of one entry per group and one for the whole match; without a match, or after
a failure, no group has taken part.
-/
import PatternSearch.Matcher.Search
import PatternSearch.Regex.Basic

namespace PatternSearch

open Pattern Matcher Text

namespace Engine

/-- The region of a match: the whole match, then the groups in order. A match
that ends before the place it counts from is empty. -/
def regionOf (groups : Nat) (f : Found) : Region :=
  .ofSpans (some ⟨min f.keep f.stop, f.stop⟩
    :: (List.range groups).map (fun g => (f.groups.getD (g + 1) .absent).span?))

/-- How a query ends. -/
def outcome (p : Program) (q : Query) : Outcome :=
  Matcher.search p q.text q.start q.stop q.options ⟨q.param.stackLimit, q.param.retryLimit⟩

/-- The status of an outcome. -/
def statusOf : Outcome → Int32
  | .found f => Int32.ofNat f.start
  | .none => mismatchStatus
  | .givenUp status => status

/-- The engine that runs a program. -/
def ofProgram (p : Program) : Engine where
  search _ q _ :=
    match outcome p q with
    | .found f => (statusOf (.found f), regionOf p.groups f)
    | o => (statusOf o, .absent (p.groups + 1))
  probe q := statusOf (outcome p q)

end Engine

/-- What compiling a pattern answers: a status, 0 for success, a regex if
there is one, and the name that a failure is about. -/
structure CompileAnswer where
  status : Int32
  regex? : Option Regex
  name? : Option ByteArray

namespace CompileAnswer

/-- The failure an answer stands for. -/
def failure (a : CompileAnswer) : EngineError :=
  match a.name? with
  | some name => .ofNamed a.status name
  | none => .ofCode a.status

/-- The answer as a regex or an error. Success takes both, the status and the
regex. -/
def toExcept (a : CompileAnswer) : Except Error Regex :=
  match a.regex? with
  | some re => if a.status = 0 then .ok re else .error (.engine a.failure)
  | none => .error (.engine a.failure)

end CompileAnswer

namespace Regex

/-- The regex of a program. -/
def ofProgram (p : Program) (flavour? : Option Flavour) : Regex :=
  { Engine.ofProgram p with groupCount := p.groups, names := ⟨p.names⟩, flavour? }

/-- Compiles the bytes of a pattern, with the options as a mask. -/
def compileAnswer (pattern : ByteArray) (mask : UInt32) (d : Definition) : CompileAnswer :=
  match Program.compile pattern mask d.grammar with
  | .ok p => ⟨0, some (ofProgram p d.flavour?), none⟩
  | .error r => ⟨r.code, none, r.name?⟩

/-- Compiles the bytes of a pattern, or says why it cannot be done. -/
def compile (pattern : ByteArray) (mask : UInt32) (d : Definition) : Except Error Regex :=
  (compileAnswer pattern mask d).toExcept

/-- Compiles a pattern with options, in one of the flavours. -/
def withOptions (pattern : String) (options : OptionSet) (flavour : Flavour) :
    Except Error Regex :=
  compile pattern.toByteArray options.toMask (.ofFlavour flavour)

/-- Compiles a pattern without options, in the standard flavour. -/
def ofPattern (pattern : String) : Except Error Regex :=
  withOptions pattern .empty .standard

/-- What a log says about a compilation. -/
def compileLog (pattern : ByteArray) (mask : UInt32) (result : Except Error Regex) : String :=
  let shown := lossy pattern
  match result with
  | .ok _ => s!"compiled pattern `{shown}` with options 0x{hexText mask.toNat}"
  | .error e => s!"fail to compile pattern `{shown}`, status {e.code.toInt}"

end Regex

end PatternSearch
