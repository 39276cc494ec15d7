/-
PatternSearch.Text.CaseFold — comparing characters without regard to case.

Two characters are the same up to case when they fold to the same. Most fold
to one character (`foldCode`), some to two or three (`folding`), so that a
character can be the same as a sequence. `CaseClass` lists what folds to one
character, `LongCaseClass` what folds to a sequence.
-/
import PatternSearch.Text.CodeSet
import PatternSearch.Text.FoldTable

namespace PatternSearch.Text

/-- Code points from `first` to `last` in steps of `step`, each folding to
the code point `offset` further on. -/
structure FoldRun where
  first : Nat
  last : Nat
  step : Nat
  offset : Int
  deriving Repr

/-- One word of the folding table. -/
def readFoldRun (word : String) : FoldRun :=
  let cs := word.toList
  let isSign := fun c => c == '+' || c == '~'
  let (lo, hi) := CodeSet.readRun (cs.takeWhile (fun c => !isSign c))
  let rest := cs.dropWhile (fun c => !isSign c)
  let size := hexNumber (rest.takeWhile (· != '/'))
  let step := match hexNumber (rest.dropWhile (· != '/')) with
    | 0 => 1
    | n => n
  ⟨lo, hi, step, if rest.head? == some '~' then -(size : Int) else size⟩

namespace FoldRun

/-- The code points of a run, each with what it folds to. -/
def pairs (r : FoldRun) : List (Nat × Nat) :=
  (List.range ((r.last - r.first) / r.step + 1)).map (fun k =>
    let c := r.first + k * r.step
    (c, ((c : Int) + r.offset).toNat))

end FoldRun

/-- Every code point that folds to one other, with that other one, in
increasing order. -/
def foldPairs : Array (Nat × Nat) :=
  (((CodeSet.words foldTable).flatMap (fun w => (readFoldRun w).pairs)).mergeSort
    (fun a b => a.1 ≤ b.1)).toArray

/-- The value that goes with a number among pairs in increasing order. -/
def lookupSorted {α : Type} (pairs : Array (Nat × α)) (c lo hi : Nat) : Option α :=
  if _ : lo < hi then
    let mid := (lo + hi) / 2
    match pairs[mid]? with
    | none => none
    | some p =>
      if c < p.1 then lookupSorted pairs c lo mid
      else if p.1 < c then lookupSorted pairs c (mid + 1) hi
      else some p.2
  else none
termination_by hi - lo

/-- Folding to one code point. ASCII is decided without the table. -/
def foldCode (c : Nat) : Nat :=
  if c < 0x80 then
    if 0x41 ≤ c ∧ c ≤ 0x5A then c + 0x20 else c
  else (lookupSorted foldPairs c 0 foldPairs.size).getD c

/-- A code point that is its own folding, and all others that fold to it. -/
structure CaseClass where
  folded : Nat
  others : List Nat
  deriving Repr, Inhabited

namespace CaseClass

/-- The classes of pairs that are in order of what they fold to. -/
def gather : List (Nat × Nat) → List CaseClass
  | [] => []
  | (source, target) :: rest =>
    match gather rest with
    | c :: cs =>
      if c.folded = target then ⟨target, source :: c.others⟩ :: cs
      else ⟨target, [source]⟩ :: c :: cs
    | [] => [⟨target, [source]⟩]

/-- The members of a class, the folded one first. -/
def members (c : CaseClass) : List Nat := c.folded :: c.others

end CaseClass

/-- All classes with more than one member, in order of the folded one. -/
def caseClasses : List CaseClass :=
  CaseClass.gather (foldPairs.toList.mergeSort (fun a b => a.2 ≤ b.2))

/-- What folds to a code point, in order of that code point. -/
def unfoldPairs : Array (Nat × List Nat) :=
  (caseClasses.map (fun c => (c.folded, c.others))).toArray

/-- The code points other than `c` that fold to `c`. -/
def unfoldings (c : Nat) : List Nat :=
  (lookupSorted unfoldPairs c 0 unfoldPairs.size).getD []

/-- A sequence of two or three folded code points, and the single ones that
fold to it. -/
structure LongCaseClass where
  sequence : List Nat
  members : List Nat
  deriving Repr, Inhabited

/-- The numbers between points. -/
def readPointed (s : String) : List Nat := (s.splitOn ".").map (fun w => hexNumber w.toList)

/-- Every code point that folds to a sequence is in one of these classes. -/
def longCaseClasses : List LongCaseClass :=
  (CodeSet.words longFoldTable).filterMap (fun w =>
    match w.splitOn "=" with
    | [a, b] => some ⟨readPointed a, readPointed b⟩
    | _ => none)

/-- The single code points that fold to a sequence. -/
def longUnfoldings (sequence : List Nat) : List Nat :=
  match longCaseClasses.find? (fun l => l.sequence == sequence) with
  | some l => l.members
  | none => []

/-- What a code point folds to: one code point, or a sequence. -/
def folding (c : Nat) : List Nat :=
  if c < 0x80 then [foldCode c]
  else
    match longCaseClasses.find? (fun l => l.members.contains c) with
    | some l => l.sequence
    | none => [foldCode c]

end PatternSearch.Text
