/-
PatternSearch.Pattern.Call — groups that are matched from elsewhere.

A call matches what its group would match at the place of the call. A group
that calls itself, perhaps through others, is recursive; one that would call
itself before anything has been matched, or however it goes on, would never
come to an end and is refused.
-/
import PatternSearch.Pattern.Group
import PatternSearch.Pattern.Length

namespace PatternSearch.Pattern

/-- What is known of the calls in a pattern. -/
structure Linkage where
  /-- The groups that something calls. -/
  called : List Nat
  /-- The groups that call themselves. -/
  recursive : List Nat

namespace Node

/-- The calls in a pattern. -/
def calls (n : Node) : List Call :=
  n.subnodes.filterMap (fun m => match m with
    | call c => some c
    | _ => none)

/-- The groups that a pattern calls. -/
def calledGroups (n : Node) : List Nat := n.calls.filterMap Call.target

/-- The pattern with every call changed; `f` is also told in which groups the
call stands. -/
def mapCalls (f : List Nat → Call → Call) (within : List Nat) : Node → Node
  | call c => call (f within c)
  | cat a b => cat (a.mapCalls f within) (b.mapCalls f within)
  | alt a b => alt (a.mapCalls f within) (b.mapCalls f within)
  | lasting a b => lasting (a.mapCalls f within) (b.mapCalls f within)
  | times r b => times r (b.mapCalls f within)
  | capture g named b => capture g named (b.mapCalls f (g :: within))
  | options b => options (b.mapCalls f within)
  | atomic b => atomic (b.mapCalls f within)
  | choice c y n =>
    choice (c.mapCalls f within) (y.mapCalls f within) (n.mapCalls f within)
  | ahead negated b => ahead negated (b.mapCalls f within)
  | behind negated lo hi b => behind negated lo hi (b.mapCalls f within)
  | n => n

/-! ## Recursion that never ends -/

/-- What is known of the calls of one group that a pattern makes. -/
structure Demand where
  /-- However the pattern matches, it makes such a call. -/
  always : Bool
  /-- Such a call may come before anything has been matched. -/
  atOnce : Bool
  deriving DecidableEq

namespace Demand

/-- No call at all. -/
def none : Demand := ⟨false, false⟩

/-- Both patterns match, or one of them. -/
def both (a b : Demand) : Demand := ⟨a.always || b.always, a.atOnce || b.atOnce⟩
def either (a b : Demand) : Demand := ⟨a.always && b.always, a.atOnce || b.atOnce⟩

end Demand

/-- The demand of a pattern. `group` answers for the groups that are entered;
`first` says that nothing has been matched before. -/
def demand (empty : GroupTable Bool) (group : Nat → Bool → Demand) (first : Bool) :
    Node → Demand
  | cat a b => (a.demand empty group first).both
      (b.demand empty group (first && a.mayBeEmpty empty))
  | alt a never => a.demand empty group first
  | alt a b | lasting a b => (a.demand empty group first).either (b.demand empty group first)
  | times r b =>
    if r.hi = some 0 then .none
    else
      let d := b.demand empty group first
      if r.lo = 0 then { d with always := false } else d
  | choice c y n =>
    let d := (c.demand empty group first).both
      (y.demand empty group (first && c.mayBeEmpty empty))
    d.either (n.demand empty group first)
  | options b | atomic b | ahead _ b | behind _ _ _ b => b.demand empty group first
  | capture g _ _ => group g first
  | call c => (c.target.map (fun g => group g first)).getD .none
  | _ => .none

/-- The demand of a group for the group `goal`. Groups that are being looked
into are not entered again, which bounds the depth. -/
def demandOfGroup (bodies : List (Nat × Node)) (empty : GroupTable Bool) (goal : Nat) :
    Nat → List Nat → Nat → Bool → Demand
  | 0, _, _, _ => .none
  | depth + 1, within, g, first =>
    if g = goal then ⟨true, first⟩
    else if within.contains g then .none
    else
      match bodies.lookup g with
      | some b => b.demand empty (demandOfGroup bodies empty goal depth (g :: within)) first
      | none => .none

/-- Whether matching a group would never come to an end. -/
def isEndless (bodies : List (Nat × Node)) (empty : GroupTable Bool) (goal : Nat) : Bool :=
  match bodies.lookup goal with
  | none => false
  | some b =>
    let d := b.demand empty (demandOfGroup bodies empty goal (bodies.length + 1) []) true
    d.always || d.atOnce

end Node

/-- Everything that can be reached from some groups; `depth` bounds the number
of steps. -/
def reachable (next : Nat → List Nat) : Nat → List Nat → List Nat
  | 0, seen => seen
  | depth + 1, seen =>
    match ((seen.flatMap next).filter (fun g => !seen.contains g)).eraseDups with
    | [] => seen
    | more => reachable next depth (seen ++ more)

namespace Draft

/-- The group that a call is to. Where plain groups do not capture, a number
means nothing. -/
def targetOf (d : Draft) (namedOnly : Bool) (c : Call) : Except Refusal Nat :=
  match c.target with
  | some g =>
    if namedOnly && !d.names.isEmpty then .error .numberedReference
    else if d.groups < g then .error (.undefinedGroup c.name)
    else .ok g
  | none =>
    match Parse.groupsNamed d.names c.name with
    | [] => .error (.undefinedName c.name)
    | [g] => .ok g
    | _ => .error (.ambiguousCall c.name)

/-- The pattern with every call resolved, and what is known of the calls. -/
def link (d : Draft) (namedOnly : Bool) : Except Refusal (Draft × Linkage) := do
  if d.calls = 0 then return (d, ⟨[], []⟩)
  for c in d.node.calls do
    let _ ← d.targetOf namedOnly c
  let n := d.node.mapCalls (fun _ c => { c with target := (d.targetOf namedOnly c).toOption }) []
  let bodies := n.groupBodies
  let next := fun g => ((bodies.lookup g).map Node.calledGroups).getD []
  let from_ := fun g => reachable next (bodies.length + 1) (next g).eraseDups
  let called := n.calledGroups.eraseDups
  let recursive := (bodies.map (fun b => b.1)).filter (fun g => (from_ g).contains g)
  let empty := Node.emptyGroups bodies
  if recursive.any (fun g => called.contains g && Node.isEndless bodies empty g) then
    throw .endlessRecursion
  let n := n.mapCalls (fun within c =>
    { c with isRecursive := match c.target with
        | some t => within.any (fun h => h == t || (from_ t).contains h)
        | none => false }) []
  return ({ d with node := n }, ⟨called, recursive⟩)

end Draft

end PatternSearch.Pattern
