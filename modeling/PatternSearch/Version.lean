/-
PatternSearch.Version — which edition of the pattern grammar this is.
-/
namespace PatternSearch

/-- The numbers of an edition. -/
structure Version where
  major : Nat
  minor : Nat
  patch : Nat
  deriving DecidableEq, Repr

namespace Version

/-- The edition whose grammars and status codes are implemented. -/
def current : Version := ⟨6, 9, 10⟩

/-- The edition as text. -/
def str (v : Version) : String := s!"{v.major}.{v.minor}.{v.patch}"

end Version

end PatternSearch
