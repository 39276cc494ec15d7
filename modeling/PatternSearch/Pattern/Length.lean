/-
PatternSearch.Pattern.Length — how much a pattern matches.

Two questions are answered about a pattern: whether it can match the empty
text (`Node.mayBeEmpty`) and how many characters it matches (`Node.lengths?`).
A reference or a call matches what its group matches, so both answers depend
on a table with an answer for each group. The tables are built in rounds, from
the answer that says nothing, until they no longer change: groups that refer
to each other in a circle keep what is said of the circle as a whole.
-/
import PatternSearch.Pattern.Node

namespace PatternSearch.Pattern

open Text

/-! ## Tables -/

/-- What is known of each group. -/
abbrev GroupTable (α : Type) := List (Nat × α)

namespace GroupTable

/-- What is known of a group, or a default. -/
def get {α : Type} (t : GroupTable α) (group : Nat) (default : α) : α :=
  (t.lookup group).getD default

/-- What is known of the groups after some rounds, in each of which `next`
answers for a body with the help of the table so far. -/
def rounds {α : Type} [BEq α] (bodies : List (Nat × Node)) (next : GroupTable α → Node → α) :
    Nat → GroupTable α → GroupTable α
  | 0, t => t
  | n + 1, t =>
    let t' := bodies.map (fun b => (b.1, next t b.2))
    if t' == t then t else rounds bodies next n t'

/-- What is known of the groups, given the answer that says nothing. -/
def build {α : Type} [BEq α] (bodies : List (Nat × Node)) (next : GroupTable α → Node → α)
    (nothing : α) : GroupTable α :=
  rounds bodies next (bodies.length + 1) (bodies.map (fun b => (b.1, nothing)))

end GroupTable

namespace Node

/-! ## The empty text -/

/-- Whether a pattern can match the empty text, so far as its shape tells. -/
def mayBeEmpty (groups : GroupTable Bool) : Node → Bool
  | text bs _ => bs.isEmpty
  | set _ | word _ _ | anyChar _ | never | fail => false
  | cat a b => a.mayBeEmpty groups && b.mayBeEmpty groups
  | alt a never => a.mayBeEmpty groups
  | alt a b | lasting a b => a.mayBeEmpty groups || b.mayBeEmpty groups
  | times r b => r.lo == 0 || b.mayBeEmpty groups
  | capture _ _ b | options b | atomic b => b.mayBeEmpty groups
  | choice c y n => (c.mayBeEmpty groups && y.mayBeEmpty groups) || n.mayBeEmpty groups
  | backref r => r.isCondition || r.isInside || r.groups.any (fun g => groups.get g true)
  | call c => (c.target.map (fun g => groups.get g true)).getD true
  | _ => true

/-- Which groups can match the empty text. -/
def emptyGroups (bodies : List (Nat × Node)) : GroupTable Bool :=
  .build bodies (fun t n => n.mayBeEmpty t) true

end Node

/-! ## Characters -/

/-- How many characters a pattern can match: a least number, and a greatest
one if there is one. -/
structure Lengths where
  least : Nat
  greatest : Option Nat
  /-- The least number is matched whatever the text and whatever the groups
  have matched, so far as the lengths go. -/
  sure : Bool
  deriving DecidableEq, Repr

namespace Lengths

/-- One length only. -/
def exactly (n : Nat) : Lengths := ⟨n, some n, true⟩

/-- Any length at all. -/
def any : Lengths := ⟨0, none, false⟩

/-- The same lengths, the least of them not sure. -/
def unsure (l : Lengths) : Lengths := { l with sure := false }

/-- Whether there is one length only. -/
def isExact (l : Lengths) : Bool := l.greatest == some l.least

/-- Lengths of two patterns one after the other. -/
def add (a b : Lengths) : Lengths :=
  ⟨a.least + b.least, match a.greatest, b.greatest with
    | some m, some n => some (m + n)
    | _, _ => none,
   a.sure && b.sure⟩

/-- Lengths of either of two patterns. -/
def join (a b : Lengths) : Lengths :=
  ⟨min a.least b.least, match a.greatest, b.greatest with
    | some m, some n => some (max m n)
    | _, _ => none,
   (a.sure && a.least ≤ b.least) || (b.sure && b.least ≤ a.least)⟩

/-- Lengths of a repetition. -/
def times (r : Repetition) (l : Lengths) : Lengths :=
  if r.hi = some 0 then exactly 0
  else ⟨r.lo * l.least, match r.hi, l.greatest with
    | some n, some m => some (n * m)
    | _, _ => none,
   l.sure⟩

end Lengths

namespace Node

/-- The number of characters in a text of complete characters. -/
def characterCount (bs : List UInt8) : Nat := (bs.filter (fun b => !isContinuation b)).length

/-- The lengths of a pattern, given those of the groups. A text up to case may
match texts of other lengths, so it has none. -/
def lengths? (groups : GroupTable (Option Lengths)) : Node → Option Lengths
  | text bs caseless => if caseless then none else some (.exactly (characterCount bs))
  | set _ | word _ _ | anyChar _ => some (.exactly 1)
  | cat a nil => a.lengths? groups
  | cat a b => return (← a.lengths? groups).add (← b.lengths? groups)
  | alt a never => a.lengths? groups
  | alt a b | lasting a b => return (← a.lengths? groups).join (← b.lengths? groups)
  | times r b => do
    if r.hi = some 0 then return .exactly 0
    return (← b.lengths? groups).times r
  | capture _ _ b => return (← b.lengths? groups).unsure
  | options b | atomic b => b.lengths? groups
  | choice c y n => do
    return ((← c.lengths? groups).add (← y.lengths? groups)).join (← n.lengths? groups)
  | anchor _ | ahead _ _ | behind _ _ _ _ => some (Lengths.exactly 0).unsure
  | backref r =>
    if r.isCondition then some (Lengths.exactly 0).unsure
    else if r.isInside then some (if r.level.isSome then .any else (Lengths.exactly 0).unsure)
    else do
      let ls ← r.groups.mapM (fun g => groups.get g none)
      match ls.map (fun l => if l.isExact then l else l.unsure) with
      | [] => return .any
      | l :: ls => return ls.foldl .join l
  | call c =>
    if c.isRecursive then some .any
    else
      match c.target with
      | some g => groups.get g none
      | none => some .any
  | _ => some (.exactly 0)

/-- The lengths of each group. -/
def groupLengths (bodies : List (Nat × Node)) : GroupTable (Option Lengths) :=
  .build bodies (fun t n => (n.lengths? t).map .unsure) (some .any)

end Node

end PatternSearch.Pattern
