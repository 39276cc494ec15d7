/-
PatternSearch.Pattern.Group — the groups of a whole pattern.

Names and numbers can only be judged once a pattern has been read to its end.
Where only named groups capture, the plain ones are taken out and the named
ones renumbered (`Draft.namedOnly`); afterwards every reference has to be to a
group that exists (`Draft.checkReferences`).
-/
import PatternSearch.Pattern.Parse

namespace PatternSearch.Pattern

/-- A group name and the groups that bear it, in order. -/
structure NamedGroup where
  name : ByteArray
  groups : List Nat

namespace NamedGroup

/-- Adds a group to the names, under a name that may be there already. -/
def insert (name : ByteArray) (group : Nat) : List NamedGroup → List NamedGroup
  | [] => [⟨name, [group]⟩]
  | entry :: rest =>
    if entry.name == name then ⟨name, entry.groups ++ [group]⟩ :: rest
    else entry :: insert name group rest

/-- Names in the order in which they were first given. -/
def collect (given : List (ByteArray × Nat)) : List NamedGroup :=
  given.foldl (fun acc entry => insert entry.1 entry.2 acc) []

end NamedGroup

namespace Node

/-- The references in a pattern. -/
def backreferences (n : Node) : List Backreference :=
  n.subnodes.filterMap (fun m => match m with
    | backref r => some r
    | _ => none)

/-- The groups that a pattern refers to. -/
def referredGroups (n : Node) : List Nat := n.backreferences.flatMap Backreference.groups

/-- Whether a group is one that captures only where plain groups do. -/
def isPlainGroup : Node → Bool
  | capture _ named _ => !named
  | _ => false

/-- The pattern without its plain groups, the named ones renumbered. -/
def onlyNamed (number : Nat → Nat) : Node → Except Refusal Node
  | backref r => return backref { r with groups := r.groups.map number }
  | cat a b => return cat (← a.onlyNamed number) (← b.onlyNamed number)
  | alt a b => return alt (← a.onlyNamed number) (← b.onlyNamed number)
  | lasting a b => return lasting (← a.onlyNamed number) (← b.onlyNamed number)
  | times r b => do
    let inner ← b.onlyNamed number
    match b.isPlainGroup, inner with
    | true, times s _ =>
      if r.isExact && s.isExact && maxDecimal < r.lo * s.lo then throw .countTooBig
      else return reduced r inner
    | _, _ => return times r inner
  | capture g named b => do
    let inner ← b.onlyNamed number
    return if named then capture (number g) named inner else inner
  | options b => return options (← b.onlyNamed number)
  | atomic b => return atomic (← b.onlyNamed number)
  | choice c y n =>
    return choice (← c.onlyNamed number) (← y.onlyNamed number) (← n.onlyNamed number)
  | ahead negated b => return ahead negated (← b.onlyNamed number)
  | behind negated lo hi b => return behind negated lo hi (← b.onlyNamed number)
  | n => return n

end Node

namespace Draft

/-- The number of a named group when only these are counted. -/
def renumbered (d : Draft) (group : Nat) : Nat :=
  (d.names.filter (fun entry => entry.2 ≤ group)).length

/-- The pattern with its named groups only. References by number have no
meaning then. -/
def namedOnly (d : Draft) : Except Refusal Draft := do
  if d.node.backreferences.any (fun r => !r.byName) then throw .numberedReference
  if d.names.length = d.groups then return d
  return { d with
    node := ← d.node.onlyNamed d.renumbered
    groups := d.names.length
    names := d.names.map (fun entry => (entry.1, d.renumbered entry.2)) }

/-- The pattern, if every reference is to a group of it. -/
def checkReferences (d : Draft) : Except Refusal Draft :=
  if d.node.referredGroups.any (fun g => d.groups < g) then .error .unknownReference else .ok d

end Draft

end PatternSearch.Pattern
