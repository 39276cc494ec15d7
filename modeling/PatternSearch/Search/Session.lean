/-
PatternSearch.Search.Session — one region and one set of limits used for many
searches.

A session is what a caller keeps between searches. Each step is a search with
some engine, or a change to the region or the limits.
-/
import PatternSearch.Search.Engine

namespace PatternSearch

/-- A region and limits that are used again and again. -/
structure Session where
  region : Region
  param : MatchParam

/-- What can be done with them. -/
inductive SessionStep where
  /-- Searches a text with an engine. -/
  | search (e : Engine) (text : ByteArray) (start stop : Nat) (options : SearchOptions)
  /-- Forgets the groups. -/
  | clear
  /-- Sets a limit. -/
  | stackLimit (n : Nat)
  | retryLimit (n : Nat)

namespace Session

/-- An unused region and the standard limits. -/
def fresh : Session := ⟨.empty, .standard⟩

/-- A search in the session: its answer, and the session afterwards. -/
def search (s : Session) (e : Engine) (text : ByteArray) (start stop : Nat)
    (options : SearchOptions) : Except Error (Option Nat) × Session :=
  let (answer, region) := e.searchWithParam ⟨text, start, stop, options, s.param⟩ s.region
  (answer, { s with region })

/-- The session after a step. -/
def step (s : Session) : SessionStep → Session
  | .search e text start stop options => (s.search e text start stop options).2
  | .clear => { s with region := s.region.clear }
  | .stackLimit n => { s with param := s.param.setStackLimit n }
  | .retryLimit n => { s with param := s.param.setRetryLimit n }

/-- The session after several steps. -/
def steps (s : Session) (list : List SessionStep) : Session := list.foldl step s

end Session

end PatternSearch
