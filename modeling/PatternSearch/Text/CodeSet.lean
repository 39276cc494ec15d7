/-
PatternSearch.Text.CodeSet — sets of code points as runs.

A set is an array of runs in increasing order, none of which touches another,
so that every set of numbers has one form and membership is a binary search
(`CodeSet.contains`). All sets are built by `ofRuns`, which sorts and joins,
and by `compl`, which lists the gaps; the other operations follow from these
two. `ofTable` reads the hexadecimal tables of character data.
-/
import PatternSearch.Text.Number

namespace PatternSearch.Text

/-- A set of numbers: its runs, first and last number of each, in increasing
order and with gaps between them. -/
structure CodeSet where
  runs : Array (Nat × Nat)
  deriving Inhabited, Repr

namespace CodeSet

/-- The largest number a set can hold. -/
def top : Nat := 0xFFFFFFFF

/-- No number. -/
def empty : CodeSet := ⟨#[]⟩

/-- Whether the set has no number. -/
def isEmpty (s : CodeSet) : Bool := s.runs.isEmpty

/-- Runs in order of their first number with those joined that touch;
`current` is the run that could still grow. -/
def joinFrom (current : Nat × Nat) : List (Nat × Nat) → List (Nat × Nat)
  | [] => [current]
  | r :: rs =>
    if r.1 ≤ current.2 + 1 then joinFrom (current.1, max current.2 r.2) rs
    else current :: joinFrom r rs

/-- Runs in order of their first number with those joined that touch. -/
def join : List (Nat × Nat) → List (Nat × Nat)
  | [] => []
  | r :: rs => joinFrom r rs

/-- The set of some runs, in any order. -/
def ofRuns (rs : List (Nat × Nat)) : CodeSet :=
  ⟨(join (rs.mergeSort (fun a b => a.1 ≤ b.1))).toArray⟩

/-- The numbers from `lo` to `hi`, both included. -/
def range (lo hi : Nat) : CodeSet := if lo ≤ hi then ⟨#[(lo, hi)]⟩ else empty

/-- One number. -/
def single (c : Nat) : CodeSet := range c c

/-- The numbers of either set. -/
def union (a b : CodeSet) : CodeSet :=
  if a.isEmpty then b
  else if b.isEmpty then a
  else ⟨(join (List.merge a.runs.toList b.runs.toList (fun x y => x.1 ≤ y.1))).toArray⟩

/-- The numbers of any of some sets. -/
def unions (sets : List CodeSet) : CodeSet := ofRuns (sets.flatMap (fun s => s.runs.toList))

/-- The gaps from `start` on. -/
def gapsFrom (start : Nat) : List (Nat × Nat) → List (Nat × Nat)
  | [] => if start ≤ top then [(start, top)] else []
  | r :: rs =>
    if start < r.1 then (start, r.1 - 1) :: gapsFrom (r.2 + 1) rs
    else gapsFrom (max start (r.2 + 1)) rs

/-- The numbers from `start` on that the set lacks. -/
def complFrom (start : Nat) (s : CodeSet) : CodeSet := ⟨(gapsFrom start s.runs.toList).toArray⟩

/-- The numbers the set lacks. -/
def compl (s : CodeSet) : CodeSet := s.complFrom 0

/-- The numbers of both sets. -/
def inter (a b : CodeSet) : CodeSet := (a.compl.union b.compl).compl

/-- The numbers of the first set that the second lacks. -/
def diff (a b : CodeSet) : CodeSet := (a.compl.union b).compl

/-- Whether `c` lies in one of the runs numbered from `lo` up to `hi`. -/
def search (runs : Array (Nat × Nat)) (c lo hi : Nat) : Bool :=
  if _ : lo < hi then
    let mid := (lo + hi) / 2
    match runs[mid]? with
    | none => false
    | some r =>
      if c < r.1 then search runs c lo mid
      else if r.2 < c then search runs c (mid + 1) hi
      else true
  else false
termination_by hi - lo

/-- Whether a number belongs to the set. -/
def contains (s : CodeSet) (c : Nat) : Bool := search s.runs c 0 s.runs.size

/-! ## Tables -/

/-- A run written as hexadecimal numbers: one number, or two ends joined with
a hyphen. -/
def readRun (cs : List Char) : Nat × Nat :=
  let head := cs.takeWhile (· != '-')
  match cs.dropWhile (· != '-') with
  | _ :: tail => (hexNumber head, hexNumber tail)
  | [] => (hexNumber head, hexNumber head)

/-- The words of a table's lines. -/
def words (table : List String) : List String := table.flatMap (fun line => line.splitOn " ")

/-- The set a table lists, words apart by spaces. -/
def ofTable (table : List String) : CodeSet :=
  ofRuns ((words table).map (fun w => readRun w.toList))

end CodeSet

end PatternSearch.Text
