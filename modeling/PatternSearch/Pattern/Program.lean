/-
PatternSearch.Pattern.Program — a pattern that is ready to be matched.

`Program.compile` takes the bytes of a pattern, the options as a mask and a
grammar. The grammar's own options are added to those asked for, one of which
can take the grammar's single-line option away again.
-/
import PatternSearch.Pattern.Assemble

namespace PatternSearch.Pattern

/-- A compiled pattern. -/
structure Program where
  code : Code
  /-- The number of groups, the whole match not among them. -/
  groups : Nat
  names : List NamedGroup
  /-- The longest match wins. -/
  longest : Bool
  /-- Empty matches do not count. -/
  notEmpty : Bool

namespace Program

/-- The options in force: those given and the grammar's own. -/
def effective (given : OptionSet) (g : Grammar) : OptionSet :=
  let all := g.options.foldl (fun a f => a.setFlag f true) given
  if given.has .negateSingleLine then all.setFlag .singleLine false else all

/-- The switchable options at the start of a pattern. -/
def letters (options : OptionSet) : Letters :=
  { caseless := options.has .ignoreCase
    extended := options.has .extended
    multiLine := options.has .multiLine
    singleLine := options.has .singleLine }

/-- The program of a pattern, or the reason why there is none. -/
def compile (pattern : ByteArray) (mask : UInt32) (g : Grammar) : Except Refusal Program := do
  let given := OptionSet.ofMask mask
  if given.has .dontCaptureGroup && given.has .captureGroup then throw .conflictingOptions
  if !Text.isWellFormed pattern then throw .invalidCode
  let options := effective given g
  let draft ← Draft.parse ⟨g, options.has .dontCaptureGroup, (Glyph.list pattern).toArray⟩
    (letters options)
  let namedOnly := g.namedOnly && !options.has .captureGroup
  let draft ← if namedOnly && !draft.names.isEmpty then draft.namedOnly else pure draft
  let draft ← draft.checkReferences
  let (draft, linkage) ← draft.link namedOnly
  let settled ← draft.settle linkage ⟨g.alternativesBehind, g.variableBehind⟩
  return {
    code := settled.assemble draft.saves
    groups := draft.groups
    names := NamedGroup.collect draft.names
    longest := options.has .findLongest
    notEmpty := options.has .findNotEmpty }

end Program

end PatternSearch.Pattern
