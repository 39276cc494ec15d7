/-
PatternSearch.Search.Limits — how much a single search may use up.

`MatchParam` is what a search is given: two numbers, of which 0 means no
limit. `Limits` is what a caller asks for: either number may be left to the
default. On the way in, 0 asks for the default.
-/
namespace PatternSearch

/-- The limits a search runs under; 0 is unlimited. -/
structure MatchParam where
  stackLimit : Nat
  retryLimit : Nat
  deriving DecidableEq, Repr

namespace MatchParam

/-- The retries a search may make unless told otherwise. -/
def standardRetries : Nat := 10000000

/-- The limits of a search that asks for none: any stack, many retries. -/
def standard : MatchParam := ⟨0, standardRetries⟩

/-- The same limits but for the stack, or but for the retries. -/
def setStackLimit (p : MatchParam) (n : Nat) : MatchParam := { p with stackLimit := n }
def setRetryLimit (p : MatchParam) (n : Nat) : MatchParam := { p with retryLimit := n }

end MatchParam

/-- The limits a caller asks for. -/
structure Limits where
  maxStackSize : Option Nat
  retryLimit : Option Nat
  deriving DecidableEq, Repr

namespace Limits

/-- No limit of one's own. -/
def standard : Limits := ⟨none, none⟩

/-- A number as a limit; 0 asks for none. -/
def ofNumber (n : Nat) : Option Nat := if n = 0 then none else some n

/-- Both limits as numbers, 0 asking for none. -/
def ofNumbers (maxStackSize retryLimit : Nat) : Limits :=
  ⟨ofNumber maxStackSize, ofNumber retryLimit⟩

/-- The limits a search runs under when a caller asks for these. -/
def param (l : Limits) : MatchParam :=
  let p := MatchParam.standard
  let p := match l.maxStackSize with
    | some n => p.setStackLimit n
    | none => p
  match l.retryLimit with
  | some n => p.setRetryLimit n
  | none => p

end Limits

end PatternSearch
