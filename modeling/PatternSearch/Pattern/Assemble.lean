/-
PatternSearch.Pattern.Assemble — from a settled pattern to code.

The code of a pattern is put together from the code of its parts, each a
fragment that goes on behind its last instruction when it has matched. A
repetition of few instructions is written out round by round, a longer one is
counted. Loops, rounds and marks get numbers of their own (`fresh`), so that
copies of the same part do not get in each other's way.
-/
import PatternSearch.Pattern.Instruction
import PatternSearch.Pattern.Lead
import PatternSearch.Pattern.Settle

namespace PatternSearch.Pattern

open Text

/-- Puts fragments together and hands out numbers. -/
abbrev Assembling := StateM Nat

namespace Assembling

/-- A number that has not been handed out before. -/
def fresh : Assembling Nat := modifyGet (fun n => (n, n + 1))

/-- Some copies of a fragment, each with numbers of its own. -/
def copies (part : Assembling Fragment) : Nat → Assembling Fragment
  | 0 => return []
  | n + 1 => return (← part) ++ (← copies part n)

end Assembling

namespace Node

open Assembling

/-- The number of instructions up to which a repetition is written out. -/
def maxWrittenSteps : Nat := 10

/-- The characters of a text, each with the width its first byte announces.
`fuel` bounds their number. -/
def characters : Nat → List UInt8 → List (Nat × List UInt8)
  | _, [] | 0, _ => []
  | fuel + 1, b :: bs =>
    let w := leadWidth b
    (w, (b :: bs).take w) :: characters fuel ((b :: bs).drop w)

/-- A text, one instruction for each stretch of characters of one width. -/
def textCode (bs : List UInt8) : Fragment :=
  let stretches := (characters bs.length bs).splitBy (fun c d => c.1 == d.1)
  stretches.map (fun cs => .text (cs.flatMap (·.2)))

/-- A class. -/
def setCode (c : CharClass) : Instruction Int :=
  if c.wide.isEmpty then .bytes c.bytes c.negated
  else if c.bytes.isEmpty then .wide c.wide c.negated
  else .either c.bytes c.wide c.negated

/-- The code of two ways, the first one tried first. -/
def eitherCode (push : Int → Instruction Int) (a b : Fragment) : Fragment :=
  push (a.length + 2) :: a ++ .jump (b.length + 1) :: b

/-- A round of a repetition, watched for being empty if it can be. -/
def roundCode (r : Repetition) (body : Fragment) : Assembling Fragment := do
  if r.emptyRounds = .impossible then return body
  let id ← fresh
  let watched := if r.emptyRounds = .byPlace then [] else r.watched
  return .roundStart id :: body ++ [.roundEnd id watched (r.emptyRounds = .byGroupsInCalls)]

/-- Rounds without end. `required` are those there must be at least. -/
def endlessCode (r : Repetition) (required round : Fragment) : Fragment :=
  let size : Int := round.length
  required ++
    if r.greedy then
      let enter : Instruction Int :=
        match r.firstByte, r.nextByte with
        | some byte, _ => .pushOrJump byte (size + 2)
        | none, some byte => .pushIf byte (size + 2)
        | none, none => .push (size + 2)
      enter :: round ++ [.jump (-(size + 1))]
    else .jump (size + 1) :: round ++ [.push (-size)]

/-- Optional rounds written out, each inside the one before. -/
def optionalCode (part : Assembling Fragment) (size : Nat) : Nat → Assembling Fragment
  | 0 => return []
  | n + 1 => do
    let first ← part
    let others ← optionalCode part size n
    return .push ((n + 1) * (size + 1)) :: first ++ others

/-- A repetition; `body` is the code of a round, `part` makes more of it. -/
def timesCode (r : Repetition) (isAnyChar : Option Bool) (body : Fragment)
    (part : Assembling Fragment) : Assembling Fragment := do
  let size := body.length
  let isShort := r.lo ≤ 1 || size * r.lo ≤ maxWrittenSteps
  if size = 0 then return []
  match isAnyChar, r.greedy && r.isUnbounded && isShort with
  | some withNewline, true => return (← copies part r.lo) ++ [.anyChars withNewline r.nextByte]
  | _, _ =>
    match r.hi with
    | none =>
      if isShort then
        let round ← roundCode r body
        if r.lo = 1 && maxWrittenSteps < size then return endlessCode r [.jump 2] round
        else return endlessCode r (← copies part r.lo) round
      else counted
    | some hi =>
      if hi = 0 then return if r.called then .jump (size + 1) :: body else []
      else if r.greedy && (hi = 1 || (size + 1) * hi ≤ maxWrittenSteps) then
        return (← copies part r.lo) ++ (← optionalCode part size (hi - r.lo))
      else if !r.greedy && hi = 1 && r.lo = 0 then
        return .push 2 :: .jump (size + 1) :: body
      else counted
where
  /-- Rounds that are counted. -/
  counted : Assembling Fragment := do
    let round ← roundCode r body
    let id ← fresh
    return .loopStart id r.lo r.greedy (round.length + 2) :: round
      ++ [.loopNext id r.lo r.hi r.greedy (-(round.length : Int))]

/-- What matches here is not tried another way. A repetition of a leaf needs
only its last choice. -/
def atomicCode (body : Fragment) : Assembling Fragment := do
  let id ← fresh
  return .mark id :: body ++ [.cut id false]

/-- The same for a repetition of a leaf. -/
def openLoopCode (lo : Nat) (part : Assembling Fragment) : Assembling Fragment := do
  let required ← copies part lo
  let body ← part
  let size : Int := body.length
  return required ++ .push (size + 3) :: body ++ [.pop, .jump (-(size + 2))]

/-- Looking ahead. -/
def aheadCode (negated : Bool) (body : Fragment) : Assembling Fragment := do
  let id ← fresh
  return if negated then
    .push (body.length + 5) :: .mark id :: body ++ [.popTo id, .pop, .fail]
  else .mark id :: body ++ [.cut id true]

/-- Looking behind over `lo` to `hi` characters. -/
def behindCode (negated : Bool) (lo : Nat) (hi : Option Nat) (body : Fragment) :
    Assembling Fragment := do
  let limit ← fresh
  let id ← fresh
  let size : Int := body.length
  if hi = some lo then
    let back : Fragment := .stepBack lo none :: body
    return if negated then .push (size + 6) :: .mark id :: back ++ [.popTo id, .pop, .fail]
      else .mark id :: back ++ [.cut id false]
  else
    let back : Fragment :=
      .stepBack lo (some (hi.map (fun n => n - lo))) :: .stepBackMore :: body ++ [.atLimit]
    let again : Instruction Int := .restore .limit .limit limit
    let start : Fragment := [.save .limit limit, .limitHere]
    return start ++ if negated then
      .push (size + 10) :: .mark id :: back
        ++ [.popTo id, again, .pop, .pop, .fail, again, .pop]
    else
      .mark id :: .push 2 :: .jump 3 :: again :: .fail :: back ++ [.cut id false, again]

/-- A condition and what depends on it. -/
def choiceCode (condition yes no : Fragment) : Assembling Fragment := do
  let id ← fresh
  let cut : Instruction Int := .cut id false
  return .mark id :: .push (condition.length + yes.length + 3) :: condition ++ cut :: yes
    ++ .jump (no.length + 2) :: cut :: no

/-- A group. One that is called is code of its own, which it calls itself where
it stands. -/
def captureCode (s : Settled) (group : Nat) (body : Fragment) : Fragment :=
  let inner :=
    if group = 0 then body
    else .openGroup group (s.revocable.contains group) :: body
      ++ [.closeGroup group (s.revocableEnds.contains group)
          (s.linkage.recursive.contains group)]
  if s.linkage.called.contains group then
    .call group true :: .jump (inner.length + 2) :: inner ++ [.ret]
  else inner

/-- The code of a pattern. -/
def code (s : Settled) : Node → Assembling Fragment
  | nil | never => return []
  | cat a b => return (← a.code s) ++ (← b.code s)
  | alt a never => a.code s
  | alt a b => return eitherCode .push (← a.code s) (← b.code s)
  | lasting a b => return eitherCode .pushLasting (← a.code s) (← b.code s)
  | text bs _ => return textCode bs
  | set c => return [setCode c]
  | word negated ascii => return [.word negated ascii]
  | anyChar withNewline => return [.anyChar withNewline]
  | anchor a => return [.anchor a]
  | backref r => return [.backref r]
  | call c => return [.call (c.target.getD 0) false]
  | keep => return [.keep]
  | fail => return [.fail]
  | save r id => return [.save r id]
  | restore r from_ id _ => return [.restore r from_ id]
  | resetLimit => return [.resetLimit]
  | times r b => do
    let isAnyChar := match b with
      | anyChar withNewline => some withNewline
      | _ => none
    timesCode r isAnyChar (← b.code s) (b.code s)
  | capture g _ b => return captureCode s g (← b.code s)
  | options b => b.code s
  | atomic (times r b) =>
    if isOpenLoop r b then openLoopCode r.lo (b.code s)
    else do atomicCode (← (times r b).code s)
  | atomic b => do atomicCode (← b.code s)
  | choice c y n => do choiceCode (← c.code s) (← y.code s) (← n.code s)
  | ahead negated b => do aheadCode negated (← b.code s)
  | behind negated lo hi b => do behindCode negated lo hi (← b.code s)

/-- Whether somewhere the match is told to count from there. -/
def hasKeep (n : Node) : Bool :=
  n.subnodes.any (fun m => match m with
    | keep => true
    | _ => false)

end Node

/-- The code of a whole pattern. `saves` numbers are taken. -/
def Settled.assemble (s : Settled) (saves : Nat) : Code :=
  let (f, _) := Id.run ((s.node.code s).run saves)
  let tail : Fragment := if s.node.hasKeep then [.keepLast, .finish] else [.finish]
  Code.finished (f ++ tail)

end PatternSearch.Pattern
