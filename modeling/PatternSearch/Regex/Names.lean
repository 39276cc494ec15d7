/-
PatternSearch.Regex.Names — the named groups of a pattern, and the ways to
ask for them.

The table lists every name once, with the groups that bear it. All questions
go through one enumeration, `NameTable.enumerate`, which calls a visitor on
each entry in turn and stops at the first status that is not 0. The visitors
differ in what they collect and when they stop.
-/
import PatternSearch.Pattern.Settle
import PatternSearch.Text.Lossy

namespace PatternSearch

open Pattern

/-- The named groups of a pattern. -/
structure NameTable where
  entries : List NamedGroup

/-- A group name as text, with its groups. -/
structure GroupName where
  name : String
  groups : List Nat
  deriving DecidableEq, Repr

namespace NameTable

/-- No names. -/
def empty : NameTable := ⟨[]⟩

/-- The number of names. -/
def count (t : NameTable) : Nat := t.entries.length

/-- Calls `visit` on the entries in turn, up to and including the first whose
status is not 0; the answer is that status, or 0. -/
def enumerateFrom {σ : Type} (visit : σ → NamedGroup → σ × Int32) :
    List NamedGroup → σ → σ × Int32
  | [], state => (state, 0)
  | entry :: rest, state =>
    match visit state entry with
    | (state, status) => if status = 0 then enumerateFrom visit rest state else (state, status)

/-- Calls `visit` on every entry, until it answers a status that is not 0. -/
def enumerate {σ : Type} (t : NameTable) (visit : σ → NamedGroup → σ × Int32) (state : σ) :
    σ × Int32 :=
  enumerateFrom visit t.entries state

/-- Calls `visit` on every name and its groups, until it answers `false`;
whether it never did. -/
def forEachBytes {σ : Type} (t : NameTable)
    (visit : σ → ByteArray → List Nat → σ × Bool) (state : σ) : σ × Bool :=
  let (state, status) := t.enumerate (fun state entry =>
    match visit state entry.name entry.groups with
    | (state, goOn) => (state, if goOn then 0 else 1)) state
  (state, status == 0)

/-- The same with the names as text. -/
def forEach {σ : Type} (t : NameTable) (visit : σ → String → List Nat → σ × Bool)
    (state : σ) : σ × Bool :=
  t.forEachBytes (fun state name groups => visit state (Text.lossy name) groups) state

/-- All names with their groups. The visit ends with the last entry. -/
def groupNames (t : NameTable) : List GroupName :=
  (t.forEach (fun names name groups =>
    let names := names ++ [⟨name, groups⟩]
    (names, decide (names.length < t.count))) []).1

/-- All names. -/
def captureNames (t : NameTable) : List String :=
  (t.forEach (fun names name _ => (names ++ [name], true)) []).1

/-- The groups that bear a name; the visit ends where it is found. -/
def groupNumbers (t : NameTable) (name : String) : List Nat :=
  (t.forEach (fun found entry groups =>
    if entry = name then (found ++ groups, false) else (found, true)) []).1

end NameTable

namespace GroupName

/-- The groups of a name in a list of names. -/
def get? (names : List GroupName) (name : String) : Option (List Nat) :=
  (names.find? (fun g => g.name = name)).map GroupName.groups

end GroupName

end PatternSearch
