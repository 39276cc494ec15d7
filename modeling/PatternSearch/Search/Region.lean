/-
PatternSearch.Search.Region — where a match and its groups lie.

A region holds two lists of offsets, one entry per group, group 0 being the
whole match. A negative offset says that the group took no part; `span?` is
the reading that everything else uses. `Positions` goes through the groups
one by one.
-/
import PatternSearch.Text.Span

namespace PatternSearch

open Text

/-- The offsets of a match and its groups. -/
structure Region where
  starts : List Int
  ends : List Int
  deriving DecidableEq, Repr, Inhabited

namespace Region

/-- A region without groups. -/
def empty : Region := ⟨[], []⟩

/-- The number of groups, the whole match among them. -/
def length (r : Region) : Nat := r.starts.length

/-- Whether the region has no groups. -/
def isEmpty (r : Region) : Bool := r.length == 0

/-- The offset that says that a group took no part. -/
def noOffset : Int := -1

/-- Where a group lies, `none` if there is no such group or it took no part. -/
def span? (r : Region) (group : Nat) : Option Span :=
  match r.starts[group]?, r.ends[group]? with
  | some s, some e => if s < 0 ∨ e < 0 then none else some ⟨s.toNat, e.toNat⟩
  | _, _ => none

/-- As many groups, none of which took part. -/
def clear (r : Region) : Region :=
  ⟨r.starts.map (fun _ => noOffset), r.ends.map (fun _ => noOffset)⟩

/-- `n` groups, none of which took part. -/
def absent (n : Nat) : Region := ⟨List.replicate n noOffset, List.replicate n noOffset⟩

/-- The region with given spans. -/
def ofSpans (spans : List (Option Span)) : Region :=
  ⟨spans.map (fun s => match s with
      | some s => (s.start : Int)
      | none => noOffset),
    spans.map (fun s => match s with
      | some s => (s.stop : Int)
      | none => noOffset)⟩

/-- A region made of spans has them as its groups. -/
theorem span?_ofSpans (spans : List (Option Span)) (group : Nat) :
    (ofSpans spans).span? group = spans[group]?.join := by
  simp only [span?, ofSpans, List.getElem?_map]
  rcases spans[group]? with _ | _ | span <;> simp [noOffset]

/-- Where every group lies. -/
def spans (r : Region) : List (Option Span) := (List.range r.length).map r.span?

end Region

/-- A walk through the groups of a region: the next one to be visited. -/
structure Positions where
  region : Region
  group : Nat
  deriving Repr

namespace Positions

/-- The walk from the first group on. -/
def ofRegion (r : Region) : Positions := ⟨r, 0⟩

/-- How many groups are still to come. -/
def remaining (p : Positions) : Nat := p.region.length - p.group

/-- What a caller may count on: the least and the greatest number of groups to
come. Both are exact. -/
def sizeHint (p : Positions) : Nat × Option Nat := (p.remaining, some p.remaining)

/-- The next group, and the walk after it; `none` once all have been
visited. -/
def next (p : Positions) : Option (Option Span) × Positions :=
  if p.group < p.region.length then (some (p.region.span? p.group), ⟨p.region, p.group + 1⟩)
  else (none, p)

end Positions

end PatternSearch
