/-
PatternSearch.Text.Category — the general category of a code point.

`Category` has one constructor per two-letter category; `categoryOf` looks a
code point up in the table of assigned runs by binary search. Everything the
library knows about characters outside ASCII is derived from it, in
`Text.Property`.
-/
import PatternSearch.Text.CategoryTable
import PatternSearch.Text.CodeSet

namespace PatternSearch.Text

/-- The general categories. `cn` is "unassigned". -/
inductive Category where
  | lu | ll | lt | lm | lo
  | mn | mc | me
  | nd | nl | no
  | pc | pd | ps | pe | pi | pf | po
  | sm | sc | sk | so
  | zs | zl | zp
  | cc | cf | cs | co | cn
  deriving DecidableEq, Repr, Inhabited

namespace Category

/-- Every category, in the order of its abbreviation's first letter. -/
def all : List Category :=
  [lu, ll, lt, lm, lo, mn, mc, me, nd, nl, no, pc, pd, ps, pe, pi, pf, po,
   sm, sc, sk, so, zs, zl, zp, cc, cf, cs, co, cn]

/-- The two-letter abbreviation, in lower case, and the full name with its
separators left out: the two spellings under which a category can be asked
for. -/
def spellings : Category → String × String
  | lu => ("lu", "uppercaseletter")
  | ll => ("ll", "lowercaseletter")
  | lt => ("lt", "titlecaseletter")
  | lm => ("lm", "modifierletter")
  | lo => ("lo", "otherletter")
  | mn => ("mn", "nonspacingmark")
  | mc => ("mc", "spacingmark")
  | me => ("me", "enclosingmark")
  | nd => ("nd", "decimalnumber")
  | nl => ("nl", "letternumber")
  | no => ("no", "othernumber")
  | pc => ("pc", "connectorpunctuation")
  | pd => ("pd", "dashpunctuation")
  | ps => ("ps", "openpunctuation")
  | pe => ("pe", "closepunctuation")
  | pi => ("pi", "initialpunctuation")
  | pf => ("pf", "finalpunctuation")
  | po => ("po", "otherpunctuation")
  | sm => ("sm", "mathsymbol")
  | sc => ("sc", "currencysymbol")
  | sk => ("sk", "modifiersymbol")
  | so => ("so", "othersymbol")
  | zs => ("zs", "spaceseparator")
  | zl => ("zl", "lineseparator")
  | zp => ("zp", "paragraphseparator")
  | cc => ("cc", "control")
  | cf => ("cf", "format")
  | cs => ("cs", "surrogate")
  | co => ("co", "privateuse")
  | cn => ("cn", "unassigned")

/-- The category with a two-letter abbreviation, in lower case. -/
def ofAbbreviation? (s : String) : Option Category :=
  all.find? (fun c => c.spellings.1 == s)

end Category

/-- A run of code points of one category. -/
structure CategoryRun where
  first : Nat
  last : Nat
  category : Category
  deriving Repr, Inhabited

/-- One word of the category table. -/
def readCategoryRun (word : String) : Option CategoryRun :=
  match word.toList with
  | a :: b :: rest =>
    match Category.ofAbbreviation? (String.ofList [a.toLower, b]) with
    | some g => let (lo, hi) := CodeSet.readRun rest; some ⟨lo, hi, g⟩
    | none => none
  | _ => none

/-- The assigned runs as an array, in increasing order. -/
def categoryRuns : Array CategoryRun :=
  ((CodeSet.words categoryTable).filterMap readCategoryRun).toArray

/-- The category of `c` among the runs numbered from `lo` up to `hi`. -/
def searchRuns (runs : Array CategoryRun) (c lo hi : Nat) : Category :=
  if _ : lo < hi then
    let mid := (lo + hi) / 2
    match runs[mid]? with
    | none => .cn
    | some r =>
      if c < r.first then searchRuns runs c lo mid
      else if r.last < c then searchRuns runs c (mid + 1) hi
      else r.category
  else .cn
termination_by hi - lo

/-- The general category of a code point. -/
def categoryOf (c : Nat) : Category :=
  searchRuns categoryRuns c 0 categoryRuns.size

/-- The code points of some categories. -/
def codesOfCategories (isWanted : Category → Bool) : CodeSet :=
  .ofRuns ((categoryRuns.toList.filter (fun r => isWanted r.category)).map
    (fun r => (r.first, r.last)))

end PatternSearch.Text
