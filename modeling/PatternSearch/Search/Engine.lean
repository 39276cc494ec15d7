/-
PatternSearch.Search.Engine — one bounded search.

An engine answers queries with a status: the offset of a match, `-1` for no
match, anything lower for a failure. It is also handed a region, which it
fills in, and told how many queries it has answered in the same operation, so
that one whose answers change from call to call is an engine too. Nothing here
depends on how an engine finds what it answers; the one that runs compiled
patterns is in `Regex.Compile`.

`Engine.searchBy` is the search everything else goes through. It refuses a
range that does not lie within the text before anything is asked, and it sorts
the statuses into answers and errors. It is written over a monad, in which
asking is an action; `Engine.searchAfter` is the instance without effects.
-/
import PatternSearch.Error
import PatternSearch.Pattern.Options
import PatternSearch.Search.Limits
import PatternSearch.Search.Region

namespace PatternSearch

/-- A search for a match between two offsets of a text. A `stop` before the
`start` searches backward. -/
structure Query where
  text : ByteArray
  start : Nat
  stop : Nat
  options : SearchOptions
  param : MatchParam

namespace Query

/-- Whether both offsets lie within the text. -/
def InRange (q : Query) : Prop := q.start ≤ q.text.size ∧ q.stop ≤ q.text.size

instance (q : Query) : Decidable q.InRange := inferInstanceAs (Decidable (_ ∧ _))

end Query

/-- Something that answers queries. -/
structure Engine where
  /-- The status of a query, and the region handed in with the groups filled
  in. The number counts the queries answered before. -/
  search : Nat → Query → Region → Int32 × Region
  /-- The status of a query for which no region is handed in. -/
  probe : Query → Int32

/-- A status as an answer: an offset, no match, or an error. -/
def answerOfStatus (status : Int32) : Except Error (Option Nat) :=
  if 0 ≤ status then .ok (some status.toInt.toNat)
  else if status = mismatchStatus then .ok none
  else .error (.ofCode status)

namespace Engine

/-- The error for a range that does not lie within the text. -/
def rangeError (q : Query) : Error := .invalidRange q.start q.stop q.text.size

/-- Searches with a region for the groups, `ask` being how a query is answered.
A range outside the text leaves the region as it is, and nothing is asked. -/
def searchBy {m : Type → Type} [Monad m] (ask : Query → Region → m (Int32 × Region))
    (q : Query) (r : Region) : m (Except Error (Option Nat) × Region) :=
  if q.InRange then do
    let (status, r) ← ask q r
    return (answerOfStatus status, r)
  else return (.error (rangeError q), r)

/-- Searches with a region for the groups, `past` queries having been answered
before. -/
def searchAfter (e : Engine) (past : Nat) (q : Query) (r : Region) :
    Except Error (Option Nat) × Region :=
  Id.run (searchBy (e.search past) q r)

theorem searchAfter_of_inRange {e : Engine} {past : Nat} {q : Query} {r : Region}
    (inRange : q.InRange) :
    e.searchAfter past q r = (answerOfStatus (e.search past q r).1, (e.search past q r).2) := by
  rw [searchAfter, searchBy, if_pos inRange]
  rfl

theorem searchAfter_of_not_inRange {e : Engine} {past : Nat} {q : Query} {r : Region}
    (outside : ¬ q.InRange) : e.searchAfter past q r = (.error (rangeError q), r) := by
  rw [searchAfter, searchBy, if_neg outside]
  rfl

/-- Searches once, with a region for the groups. -/
def searchWithParam (e : Engine) (q : Query) (r : Region) :
    Except Error (Option Nat) × Region :=
  e.searchAfter 0 q r

/-- Searches once without a region. -/
def probeWithParam (e : Engine) (q : Query) : Except Error (Option Nat) :=
  if q.InRange then answerOfStatus (e.probe q) else .error (rangeError q)

/-- Searches once under the standard limits. -/
def searchWithOptions (e : Engine) (text : ByteArray) (start stop : Nat)
    (options : SearchOptions) (r : Region) : Except Error (Option Nat) × Region :=
  e.searchWithParam ⟨text, start, stop, options, .standard⟩ r

/-- Whether there is a match anywhere in a text. Errors count as none. -/
def isMatch (e : Engine) (text : String) : Bool :=
  match e.probeWithParam ⟨text.toByteArray, 0, text.utf8ByteSize, .none, .standard⟩ with
  | .ok (some _) => true
  | _ => false

end Engine

end PatternSearch
