/-
PatternSearch.Pattern.Lead — what a pattern's matches begin with.

`Node.leadByte?` is a byte that every match begins with, `Node.lead?` a leaf
that every match begins with. Two leaves are exclusive if no character matches
both; then a repetition of the one has nothing to give back to the other.
-/
import PatternSearch.Pattern.Glyph
import PatternSearch.Pattern.Node

namespace PatternSearch.Pattern

open Text

namespace Node

/-- The byte every match of a pattern begins with, if that can be told. -/
def leadByte? : Node → Option UInt8
  | text bs caseless => if caseless then none else bs.head?
  | cat a _ => a.leadByte?
  | times r b => if r.lo = 0 then none else b.leadByte?
  | options b | capture _ _ b | atomic b | ahead false b => b.leadByte?
  | choice c _ _ => c.leadByte?
  | _ => none

/-- The leaf every match of a pattern begins with, if that can be told. -/
def lead? : Node → Option Node
  | text bs caseless => if bs.isEmpty then none else some (text bs caseless)
  | set c => some (set c)
  | word negated ascii => some (word negated ascii)
  | cat a _ => a.lead?
  | times r b => if r.lo = 0 then none else b.lead?
  | options b | capture _ _ b | atomic b | ahead false b => b.lead?
  | choice c _ _ => c.lead?
  | _ => none

/-- Whether a pattern is a leaf that matches at least one character. -/
def isStrictLeaf : Node → Bool
  | text bs _ => !bs.isEmpty
  | set _ | word _ _ | anyChar _ => true
  | _ => false

/-- A class of single bytes only, written without a caret. -/
def isPlainBytes (c : CharClass) : Bool := c.wide.isEmpty && !c.negated

/-- Whether no single byte belongs to both sets. -/
def areDisjoint (a b : ByteSet) : Bool := (a.inter b).isEmpty

/-- The bytes that count as word characters. -/
def wordBytes (ascii : Bool) : ByteSet :=
  .ofTest (fun b => (!ascii || b < 0x80) && isWordCode b)

/-- The first character of a text. -/
def firstCode (bs : List UInt8) : Nat := unitAt ⟨bs.toArray⟩ 0

/-- Whether a text begins with a word character. -/
def startsWord (bs : List UInt8) (ascii : Bool) : Bool :=
  let c := firstCode bs
  (!ascii || c < 0x80) && isWordCode c

/-- Whether two texts differ within their common length. -/
def differ : List UInt8 → List UInt8 → Bool
  | a :: as, b :: bs => a != b || differ as bs
  | _, _ => false

/-- Whether a class and a word character, or any other, are exclusive, so far
as the single bytes tell. -/
def excludesWord (c : CharClass) (negated ascii : Bool) : Bool :=
  isPlainBytes c
    && areDisjoint c.bytes (if negated then (wordBytes ascii).compl else wordBytes ascii)

/-- Whether no character matches both leaves. The answer no may be wrong. -/
def excludes : Node → Node → Bool
  | word n a, word m b => n != m && a == b
  | word n a, set c | set c, word n a => excludesWord c n a
  | word n a, text bs _ | text bs _, word n a => startsWord bs a == n
  | set c, set d =>
    areDisjoint c.settledBytes d.settledBytes && (isPlainBytes c || isPlainBytes d)
  | set c, text bs _ | text bs _, set c => !c.contains (firstCode bs)
  | text as _, text bs _ => differ as bs
  | _, _ => false

/-! ## Repetitions before something else -/

/-- A greedy repetition without end of a leaf, of which at most one round is
required. -/
def isOpenLoop (r : Repetition) (b : Node) : Bool :=
  r.greedy && r.isUnbounded && r.lo ≤ 1 && b.isStrictLeaf

/-- A pattern that `next` follows. An unbounded repetition at its end need only
stop where `next` can begin, and gives nothing back if it always stops there.
`called` says that the pattern is also matched elsewhere. -/
def before (next : Node) (called : Nat → Bool) (elsewhere : Bool) : Node → Node
  | times r b =>
    if r.greedy && r.isUnbounded then
      let nextByte :=
        if elsewhere then r.nextByte
        else match next.leadByte? with
          | some byte => if byte = 0 then r.nextByte else some byte
          | none => r.nextByte
      let n := times { r with nextByte := nextByte } b
      match b.lead?, next.lead? with
      | some x, some y => if isOpenLoop r b && x.excludes y then atomic n else n
      | _, _ => n
    else times r b
  | capture g named b => capture g named (before next called (elsewhere || called g) b)
  | n => n

end Node

end PatternSearch.Pattern
