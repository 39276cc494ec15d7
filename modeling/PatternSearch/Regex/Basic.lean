/-
PatternSearch.Regex.Basic — a regular expression that can be searched for.

A regex is an engine together with what is known of its pattern: how many
groups it has, their names, and the flavour it was written in. The flavour
settles how replacement templates are read.
-/
import PatternSearch.Pattern.Flavour
import PatternSearch.Regex.Names
import PatternSearch.Search.Engine

namespace PatternSearch

/-- A regular expression. -/
structure Regex extends Engine where
  /-- The number of groups, the whole match not among them. -/
  groupCount : Nat
  names : NameTable
  /-- The flavour of the pattern, unless its grammar belongs to none. -/
  flavour? : Option Flavour

namespace Regex

/-- The dialect of templates for this regex. -/
def dialect (re : Regex) : Dialect := (re.flavour?.getD .standard).dialect

end Regex

end PatternSearch
