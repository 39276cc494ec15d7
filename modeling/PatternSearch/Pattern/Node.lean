/-
PatternSearch.Pattern.Node — a pattern as a tree.

The leaves match a character, a place or nothing; the branches put smaller
patterns together. A sequence is a list of patterns, built with `cat` and
ended by `nil`, and alternatives are a list built with `alt` and ended by
`never`: the empty sequence matches the empty text, and no alternative matches
nothing at all. A sequence may stand inside a sequence; that it does is kept,
since what follows a pattern decides how it is compiled.

Here stand also the constructors that simplify: `Node.sequence` joins texts
that stand side by side, and `Node.repeated` folds a repetition of a
repetition into one where that changes no match.
-/
import PatternSearch.Pattern.CharClass

namespace PatternSearch.Pattern

/-- A place in a text. -/
inductive Anchor where
  /-- The start of a line, and the end of one. -/
  | lineStart
  | lineEnd
  /-- The start of the text, its end, and its end or just before the newline
  that ends it. -/
  | textStart
  | textEnd
  | textEndOrNewline
  /-- Where the search began. -/
  | searchStart
  /-- A place with a word character on exactly one side, and any other. -/
  | wordBoundary (ascii : Bool)
  | noWordBoundary (ascii : Bool)
  /-- The first and the last place of a word. -/
  | wordStart (ascii : Bool)
  | wordEnd (ascii : Bool)
  /-- A place between two characters as a reader sees them, and a place
  inside one. -/
  | segmentBoundary
  | noSegmentBoundary
  deriving DecidableEq, Repr

/-- How a repetition notices rounds that match nothing, which would otherwise
go on forever. -/
inductive EmptyRounds where
  /-- There are none. -/
  | impossible
  /-- The place is the same as before the round. -/
  | byPlace
  /-- The place is the same, and so is what some groups have matched. -/
  | byGroups
  /-- The same, where the round can call itself. -/
  | byGroupsInCalls
  deriving DecidableEq, Repr, Inhabited

/-- A repetition. The first three fields are written in the pattern, the
others are found out when it is compiled. -/
structure Repetition where
  lo : Nat
  hi : Option Nat
  greedy : Bool
  emptyRounds : EmptyRounds := .impossible
  /-- The groups that are watched for empty rounds. -/
  watched : List Nat := []
  /-- The byte every round starts with, and the one that must follow. -/
  firstByte : Option UInt8 := none
  nextByte : Option UInt8 := none
  /-- A group inside is called from elsewhere. -/
  called : Bool := false
  /-- A number of its own. -/
  id : Nat := 0
  deriving DecidableEq, Repr, Inhabited

namespace Repetition

/-- Whether there is no upper bound. -/
def isUnbounded (r : Repetition) : Bool := r.hi.isNone

/-- Whether there is only one number of rounds. -/
def isExact (r : Repetition) : Bool := r.hi == some r.lo

end Repetition

/-- A reference to what a group matched. -/
structure Backreference where
  /-- The groups, the first one whose text stands here counting. -/
  groups : List Nat
  byName : Bool
  caseless : Bool
  /-- How many calls further out or in the group matched. -/
  level : Option Int
  /-- Nothing is matched; the group only has to have matched. -/
  isCondition : Bool
  /-- The reference stands inside its own group. -/
  isInside : Bool
  deriving DecidableEq, Repr, Inhabited

/-- What a call refers to; `name` is how it is written. -/
structure Call where
  target : Option Nat
  name : ByteArray
  /-- The call is part of what it calls. -/
  isRecursive : Bool := false
  deriving Inhabited

/-- What can be put aside and taken up again during a match. -/
inductive Register where
  /-- The current place. -/
  | place
  /-- The offset that no character may reach beyond. -/
  | limit
  deriving DecidableEq, Repr

/-- A pattern. -/
inductive Node where
  /-- The end of a sequence. -/
  | nil
  /-- A pattern and those after it. -/
  | cat (head tail : Node)
  /-- The end of the alternatives. -/
  | never
  /-- A pattern or else one of the others. -/
  | alt (first others : Node)
  /-- A pattern or else another one, a choice that nothing cuts off. -/
  | lasting (first second : Node)
  /-- A text, byte by byte or up to case. -/
  | text (bs : List UInt8) (caseless : Bool)
  /-- A character of a class. -/
  | set (c : CharClass)
  /-- A word character, or any other. -/
  | word (negated ascii : Bool)
  /-- Any character, a newline among them or not. -/
  | anyChar (withNewline : Bool)
  /-- A place. -/
  | anchor (a : Anchor)
  /-- What a group matched. -/
  | backref (r : Backreference)
  /-- What a group would match here. -/
  | call (c : Call)
  /-- From here on counts as matched. -/
  | keep
  /-- No match. -/
  | fail
  /-- A register is put aside under a number, or gets back its value, or that
  of another register, or the one from the start. -/
  | save (r : Register) (id : Nat)
  | restore (r : Register) (from_ : Register) (id : Nat) (cutsRange : Bool)
  | resetLimit
  /-- Again and again. -/
  | times (r : Repetition) (body : Node)
  /-- A group that remembers what it matched. -/
  | capture (group : Nat) (named : Bool) (body : Node)
  /-- A group with options of its own. -/
  | options (body : Node)
  /-- What has matched here is not tried another way. -/
  | atomic (body : Node)
  /-- One pattern where a condition matches, another one where it does not. -/
  | choice (condition yes no : Node)
  /-- Whether the body matches from here on. -/
  | ahead (negated : Bool) (body : Node)
  /-- Whether the body matches up to here, over `lo` to `hi` characters. -/
  | behind (negated : Bool) (lo : Nat) (hi : Option Nat) (body : Node)
  deriving Inhabited

namespace Node

/-- A text without characters. -/
def emptyText : Node := text [] false

/-! ## Sequences -/

/-- The sequence of some patterns. -/
def sequence : List Node → Node
  | [] => nil
  | n :: ns => cat n (sequence ns)

/-- Patterns of which one has to match, earlier ones first. -/
def oneOf : List Node → Node
  | [] => never
  | n :: ns => alt n (oneOf ns)

/-- One pattern, or the choice between several. -/
def ofBranches : List Node → Node
  | [n] => n
  | ns => oneOf ns

/-- The patterns of a sequence. -/
def parts : Node → List Node
  | cat n ns => n :: ns.parts
  | _ => []

/-- The patterns among which there is a choice. -/
def branches : Node → List Node
  | alt n ns => n :: ns.branches
  | _ => []

/-- The sequence with texts joined that stand side by side and are matched
the same way. -/
def joined : Node → Node
  | cat (text xs c) rest =>
    match rest.joined with
    | cat (text ys d) others =>
      if c = d then cat (text (xs ++ ys) c) others else cat (text xs c) (cat (text ys d) others)
    | others => cat (text xs c) others
  | cat n rest => cat n rest.joined
  | n => n

/-- The pattern and all patterns inside it, in the order in which they are
written. -/
def subnodes (n : Node) : List Node :=
  n :: match n with
  | cat a b | alt a b | lasting a b => a.subnodes ++ b.subnodes
  | times _ b | capture _ _ b | options b | atomic b | ahead _ b | behind _ _ _ b => b.subnodes
  | choice c y n => c.subnodes ++ y.subnodes ++ n.subnodes
  | _ => []

/-- The groups of a pattern, each with what stands in it. -/
def groupBodies (n : Node) : List (Nat × Node) :=
  n.subnodes.filterMap (fun m => match m with
    | capture g _ b => some (g, b)
    | _ => none)

/-! ## Repetitions -/

/-- The six plain repetitions. -/
inductive PlainRepeat where
  | optional | many | some
  | lazyOptional | lazyMany | lazySome
  deriving DecidableEq

namespace PlainRepeat

/-- The plain repetition with given bounds. -/
def ofBounds? (r : Repetition) : Option PlainRepeat :=
  match r.lo, r.hi, r.greedy with
  | 0, Option.some 1, true => Option.some optional
  | 0, Option.none, true => Option.some many
  | 1, Option.none, true => Option.some some
  | 0, Option.some 1, false => Option.some lazyOptional
  | 0, Option.none, false => Option.some lazyMany
  | 1, Option.none, false => Option.some lazySome
  | _, _, _ => Option.none

/-- A plain repetition. -/
def toRepetition : PlainRepeat → Repetition
  | optional => { lo := 0, hi := Option.some 1, greedy := true }
  | many => { lo := 0, hi := Option.none, greedy := true }
  | some => { lo := 1, hi := Option.none, greedy := true }
  | lazyOptional => { lo := 0, hi := Option.some 1, greedy := false }
  | lazyMany => { lo := 0, hi := Option.none, greedy := false }
  | lazySome => { lo := 1, hi := Option.none, greedy := false }

end PlainRepeat

/-- What becomes of a plain repetition of a plain repetition. -/
inductive Folding where
  /-- Both stay. -/
  | both
  /-- The inner one alone says the same. -/
  | inner
  /-- One of the plain repetitions says the same. -/
  | one (r : PlainRepeat)
  /-- A lazy choice between nothing and at least one. -/
  | lazyOptionalOfSome

/-- How an inner and an outer repetition fold together. -/
def folding (inner outer : PlainRepeat) : Folding :=
  match inner, outer with
  | .optional, .optional => .inner
  | .optional, .many => .one .many
  | .optional, .some => .one .many
  | .optional, .lazyOptional => .one .lazyOptional
  | .optional, .lazyMany => .one .lazyMany
  | .optional, .lazySome => .both
  | .many, .lazyOptional => .lazyOptionalOfSome
  | .many, .lazyMany => .lazyOptionalOfSome
  | .many, _ => .inner
  | .some, .optional => .one .many
  | .some, .many => .one .many
  | .some, .lazyOptional => .both
  | .some, .lazyMany => .lazyOptionalOfSome
  | .some, _ => .inner
  | .lazyOptional, .optional => .inner
  | .lazyOptional, .lazyOptional => .inner
  | .lazyOptional, _ => .one .lazyMany
  | .lazyMany, _ => .inner
  | .lazySome, .optional => .both
  | .lazySome, .many => .one .many
  | .lazySome, .some => .one .some
  | .lazySome, .lazySome => .inner
  | .lazySome, _ => .one .lazyMany

/-- A plain repetition of a plain repetition of a body. -/
def foldedTimes (inner outer : PlainRepeat) (body : Node) : Node :=
  match folding inner outer with
  | .both => times outer.toRepetition (times inner.toRepetition body)
  | .inner => times inner.toRepetition body
  | .one r => times r.toRepetition body
  | .lazyOptionalOfSome =>
    times PlainRepeat.lazyOptional.toRepetition (times PlainRepeat.some.toRepetition body)

/-- A repetition of a repetition, folded into one where that changes no
match. -/
def reduced (r : Repetition) (target : Node) : Node :=
  match target with
  | times inner body =>
    match PlainRepeat.ofBounds? inner, PlainRepeat.ofBounds? r with
    | some i, some o => foldedTimes i o body
    | _, _ =>
      if r.isExact && inner.isExact then
        times { r with lo := r.lo * inner.lo, hi := some (r.lo * inner.lo) } body
      else times r target
  | _ => times r target

/-- A repetition as it applies to a pattern: one of an unbounded greedy
repetition never needs more than the required rounds. -/
def shortened (r : Repetition) (target : Node) : Repetition :=
  match target, PlainRepeat.ofBounds? r, r.hi with
  | times inner _, none, some n =>
    match PlainRepeat.ofBounds? inner with
    | some .many | some .some =>
      if 1 < n && r.greedy then { r with hi := some (if r.lo = 0 then 1 else r.lo) } else r
    | _ => r
  | _, _, _ => r

/-- A repetition of a pattern as it is written. -/
def repeated (r : Repetition) (target : Node) : Node :=
  if r.lo = 1 ∧ r.hi = some 1 then target else reduced (shortened r target) target

/-- Whether a pattern, or one of its alternatives, is nothing but the mark of
a place, so that repeating it makes no sense. -/
def isPlace : Node → Bool
  | anchor _ | keep | fail | save _ _ | restore _ _ _ _ | resetLimit => true
  | ahead _ _ | behind _ _ _ _ => true
  | alt a b | lasting a b => a.isPlace || b.isPlace
  | _ => false

/-! ## Ready-made patterns -/

/-- A newline in any of its forms. -/
def anyNewline : Node :=
  choice (text [0x0D, 0x0A] false) emptyText (set .lineBreaks)

/-- What a reader sees as one character. -/
def segment : Node :=
  atomic (cat (anyChar true)
    (cat (times { lo := 0, hi := Option.none, greedy := true }
      (cat (anchor .noSegmentBoundary) (cat (anyChar true) nil))) nil))

end Node

end PatternSearch.Pattern
