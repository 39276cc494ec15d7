/-
PatternSearch.Pattern.Settle — what is decided about a pattern once all of it
is known.

One walk over the tree (`Node.settle`) replaces texts up to case, notes for
each repetition whether rounds may be empty and what they begin with, lets
every repetition know what follows it, and gives every lookbehind the lengths
it has to try. It also collects the groups whose matches have to be forgotten
when the matcher goes back: those in alternatives, in repetitions and in what
must not match. Afterwards each repetition is told which groups it has to
watch (`Node.watch`).
-/
import PatternSearch.Pattern.Call
import PatternSearch.Pattern.Lead
import PatternSearch.Pattern.Unfold

namespace PatternSearch.Pattern

/-- Which lookbehinds a grammar has. -/
structure BehindRules where
  /-- Alternatives of different lengths, at the top. -/
  alternatives : Bool
  /-- Any lengths. -/
  anyLength : Bool

/-- What is known of a whole pattern when it is settled. -/
structure Survey where
  rules : BehindRules
  linkage : Linkage
  /-- The groups that something refers to. -/
  referred : List Nat

/-- Whether anything in the pattern depends on what a group matches. -/
def Survey.refers (s : Survey) : Bool := !(s.referred.isEmpty && s.linkage.called.isEmpty)

/-- Where in a pattern something stands. -/
structure Surroundings where
  /-- In a repetition or an alternative, in what must not match, or in a group
  that is also matched elsewhere: what its groups match may be taken back. -/
  revocable : Bool
  /-- In a lookbehind. -/
  behind : Bool

/-- What is found out on the way. -/
structure Findings where
  /-- The groups with what stands in them, as far as it is settled. -/
  bodies : List (Nat × Node)
  /-- The groups whose matches may have to be taken back. -/
  revocable : List Nat

/-- A step of the walk. -/
abbrev Settling := StateT Findings (Except Refusal)

namespace Node

/-! ## Empty rounds -/

/-- How a repetition of a pattern that may match nothing notices that it
does. -/
def emptyRoundsOf (linkage : Linkage) : Node → EmptyRounds
  | cat a b | alt a b | lasting a b =>
    strongest (a.emptyRoundsOf linkage) (b.emptyRoundsOf linkage)
  | times r b => if r.hi = some 0 then .byPlace else b.emptyRoundsOf linkage
  | capture g _ _ => if linkage.recursive.contains g then .byGroupsInCalls else .byGroups
  | options b | atomic b => b.emptyRoundsOf linkage
  | choice c y n =>
    strongest (c.emptyRoundsOf linkage)
      (strongest (y.emptyRoundsOf linkage) (n.emptyRoundsOf linkage))
  | call c => if c.isRecursive then .byGroupsInCalls else .byGroups
  | _ => .byPlace
where
  /-- The one that notices more. -/
  strongest (a b : EmptyRounds) : EmptyRounds :=
    if a = .byGroupsInCalls ∨ b = .byGroupsInCalls then .byGroupsInCalls
    else if a = .byGroups ∨ b = .byGroups then .byGroups
    else .byPlace

/-! ## Lookbehind -/

/-- Whether a pattern may stand in a lookbehind: what looks ahead may not, nor
may a group in a negated one. -/
def allowedBehind (negated : Bool) (n : Node) : Bool :=
  n.subnodes.all (fun m => match m with
    | ahead _ _ => false
    | behind inner _ _ _ => negated || !inner
    | anchor a => a != .textEnd && a != .textEndOrNewline
    | capture _ _ _ => !negated
    | call c => !negated || c.isRecursive
    | restore _ _ _ cutsRange => !cutsRange
    | _ => true)

/-- Whether a pattern has a group that matters elsewhere. -/
def hasUsedGroup (survey : Survey) (n : Node) : Bool :=
  n.subnodes.any (fun m => match m with
    | capture g _ _ => survey.referred.contains g || survey.linkage.called.contains g
    | call _ => true
    | _ => false)

/-- Whether a pattern is a leaf that consumes. -/
def isConsumingLeaf : Node → Bool
  | text _ _ | set _ | word _ _ | anyChar _ | backref _ => true
  | _ => false

/-- A repetition of a leaf with no more rounds than there must be, and whether
there is nothing left of it. Anything else stays as it is. -/
def leastRounds : Node → Node × Bool
  | times r b =>
    if b.isConsumingLeaf then (times { r with hi := some r.lo } b, r.lo == 0)
    else (times r b, false)
  | n => (n, false)

/-- A sequence in a lookbehind with no more rounds at its start than there
must be: whatever stands further to the left is as good as anything. The flag
says whether nothing is left. -/
def trimmedSequence : Node → Node × Bool
  | cat a rest =>
    let (a', isGone) := a.leastRounds
    if !isGone then (cat a' rest, false)
    else match rest with
      | nil => (cat a' nil, true)
      | _ =>
        let (rest', allGone) := rest.trimmedSequence
        (cat a' rest', allGone)
  | n => (n, false)

/-- One alternative of a lookbehind with no more rounds at its start than there
must be. A sequence of which nothing is left is refused. -/
def trimmed (n : Node) : Except Refusal Node :=
  match n with
  | cat _ _ =>
    let (n', isGone) := n.trimmedSequence
    if isGone then .error .hollowLookbehind else .ok n'
  | n => .ok n.leastRounds.1

/-- The same for all alternatives at the top. -/
def trimmedBranches : Node → Except Refusal Node
  | alt a b => return alt (← a.trimmed) (← b.trimmedBranches)
  | n => n.trimmed

/-- The alternatives at the top. -/
def topBranches : Node → List Node
  | alt a b => a :: b.branches
  | n => [n]

/-- The greatest length of a lookbehind. -/
def maxBehind : Nat := 65535

/-- A lookbehind with the lengths of its body. One that is sure to find the
empty text says nothing. -/
def behindOf (negated : Bool) (isUsed : Bool) (l : Lengths) (body : Node) : Node :=
  if l.least = 0 && l.sure && !isUsed then (if negated then fail else emptyText)
  else behind negated l.least l.greatest body

/-- A lookbehind, its body settled, with its lengths: alternatives of
different lengths become several lookbehinds. `bodies` are the groups of the
pattern. -/
def measuredBehind (survey : Survey) (negated : Bool) (bodies : List (Nat × Node)) (body : Node) :
    Except Refusal Node := do
  let body ← body.trimmedBranches
  let isUsed := body.hasUsedGroup survey
  let lengths := if survey.refers then Node.groupLengths bodies else []
  let some l := body.lengths? lengths | throw .invalidLookbehind
  if maxBehind < l.least || maxBehind < l.greatest.getD 0 then throw .invalidLookbehind
  let whole := behindOf negated isUsed l body
  if l.isExact || (l.least = 0 && l.sure && !isUsed) then return whole
  let branches := body.topBranches.map (fun b => (b, b.lengths? lengths))
  if survey.rules.alternatives && branches.all (fun b => (b.2.map Lengths.isExact).getD false) then
    let several := branches.filterMap (fun b =>
      b.2.map (fun l => behindOf negated (b.1.hasUsedGroup survey) l b.1))
    return if negated then sequence several else oneOf several
  if survey.rules.anyLength then return whole
  throw .invalidLookbehind

/-! ## The walk -/

/-- How many bytes a text may have that is written out. -/
def maxWrittenOut : Nat := 100

/-- A repetition whose body is settled. -/
def settledTimes (r : Repetition) (b : Node) : Node :=
  let plain :=
    if r.greedy && r.emptyRounds = .impossible then
      match b with
      | times inner c =>
        match inner.firstByte with
        | some byte => times { r with firstByte := some byte } (times { inner with firstByte := none } c)
        | none => times r b
      | _ => times { r with firstByte := b.leadByte? } b
    else times r b
  match b with
  | text bs false =>
    if r.isExact && 1 < r.lo && r.lo ≤ maxWrittenOut && bs.length * r.lo ≤ maxWrittenOut then
      text (List.replicate r.lo bs).flatten false
    else plain
  | _ => plain

/-- Whether a pattern has a group that something calls. -/
def hasCalledGroup (linkage : Linkage) (n : Node) : Bool :=
  n.groupBodies.any (fun b => linkage.called.contains b.1)

/-- The walk: everything in the pattern settled. -/
def settle (survey : Survey) (place : Surroundings) : Node → Settling Node
  | text bs caseless => return if caseless then unfolded place.behind bs else text bs false
  | cat a b => do
    let a ← a.settle survey place
    let b ← b.settle survey place
    let a := match b with
      | cat next _ => before next survey.linkage.called.contains false a
      | _ => a
    return cat a b
  | alt a b => do
    let place := { place with revocable := true }
    return alt (← a.settle survey place) (← b.settle survey place)
  | lasting a b => do
    let place := { place with revocable := true }
    return lasting (← a.settle survey place) (← b.settle survey place)
  | times r b => do
    let bodies := (← get).bodies
    let empty := if survey.refers then Node.emptyGroups bodies else []
    let rounds :=
      if r.hi ≠ some 0 ∧ b.mayBeEmpty empty then b.emptyRoundsOf survey.linkage
      else .impossible
    let inner ← b.settle survey { place with revocable := place.revocable || !r.isExact }
    return settledTimes
      { r with
        emptyRounds := rounds
        called := r.hi == some 0 && hasCalledGroup survey.linkage b } inner
  | capture g named b => do
    let isCalled := survey.linkage.called.contains g
    let place := { place with revocable := place.revocable || isCalled }
    if place.revocable || survey.linkage.recursive.contains g then
      modify fun st => { st with revocable := g :: st.revocable }
    let b ← b.settle survey place
    modify fun st =>
      { st with bodies := st.bodies.map (fun e => if e.1 = g then (g, b) else e) }
    return capture g named b
  | options b => return options (← b.settle survey place)
  | atomic b => return atomic (← b.settle survey place)
  | choice c y n => do
    let place := { place with revocable := true }
    return choice (← c.settle survey place) (← y.settle survey place) (← n.settle survey place)
  | ahead negated b =>
    return ahead negated
      (← b.settle survey { place with revocable := place.revocable || negated })
  | behind negated _ _ b => do
    if !b.allowedBehind negated then throw .invalidLookbehind
    let inner ← b.settle survey { revocable := place.revocable || negated, behind := true }
    measuredBehind survey negated (← get).bodies inner
  | n => return n

/-! ## Watched groups -/

/-- How many groups can be watched. -/
def watchable : Nat := 32

/-- The groups that stand in no smaller repetition with empty rounds. -/
def ownGroups : Node → List Nat
  | cat a b | alt a b | lasting a b => a.ownGroups ++ b.ownGroups
  | times r b => if r.emptyRounds = .impossible then b.ownGroups else []
  | capture g _ b => g :: b.ownGroups
  | options b | atomic b | ahead true b | behind true _ _ b => b.ownGroups
  | choice c y n => c.ownGroups ++ y.ownGroups ++ n.ownGroups
  | _ => []

/-- The references that stand at the very head of a pattern: before them there
is nothing, not even an alternative. -/
def headReferences : Node → List Nat
  | backref r => r.groups
  | cat a _ | alt a _ | lasting a _ => a.headReferences
  | times _ b | capture _ _ b | options b | atomic b | ahead _ b | behind _ _ _ b =>
    b.headReferences
  | choice c y n => c.headReferences ++ y.headReferences ++ n.headReferences
  | _ => []

/-- The pattern with every repetition told which groups to watch: those in it
that something refers to, other than at the head of the repetition. `referred`
lists all references. -/
def watch (referred : List Nat) : Node → Node
  | cat a b => cat (a.watch referred) (b.watch referred)
  | alt a b => alt (a.watch referred) (b.watch referred)
  | lasting a b => lasting (a.watch referred) (b.watch referred)
  | times r b =>
    let watched :=
      if r.emptyRounds = .impossible then []
      else
        let atHead := b.headReferences
        b.ownGroups.filter (fun g => g < watchable && atHead.count g < referred.count g)
    times { r with watched := watched } (b.watch referred)
  | capture g named b => capture g named (b.watch referred)
  | options b => options (b.watch referred)
  | atomic b => atomic (b.watch referred)
  | choice c y n => choice (c.watch referred) (y.watch referred) (n.watch referred)
  | ahead negated b => ahead negated (b.watch referred)
  | behind negated lo hi b => behind negated lo hi (b.watch referred)
  | n => n

end Node

/-- A pattern of which everything is decided. -/
structure Settled where
  node : Node
  linkage : Linkage
  /-- The groups whose matches may have to be taken back, and those of which
  also the end is kept on the way. -/
  revocable : List Nat
  revocableEnds : List Nat

/-- Decides everything about a pattern. Groups beyond those that can be watched
share their lot. -/
def Draft.settle (d : Draft) (linkage : Linkage) (rules : BehindRules) :
    Except Refusal Settled := do
  let referred := d.node.referredGroups
  let (n, found) ← (d.node.settle ⟨rules, linkage, referred⟩ ⟨false, false⟩).run
    ⟨d.node.groupBodies, []⟩
  let all := (List.range (d.groups + 1)).filter (fun g => 0 < g)
  let sharing := fun (has : Nat → Bool) =>
    let far := all.any (fun g => Node.watchable ≤ g && has g)
    all.filter (fun g => if Node.watchable ≤ g then far else has g)
  return {
    node := n.watch referred
    linkage := linkage
    revocable := sharing (fun g => found.revocable.contains g || referred.contains g)
    revocableEnds := sharing referred.contains }

end PatternSearch.Pattern
