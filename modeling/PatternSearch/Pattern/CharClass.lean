/-
PatternSearch.Pattern.CharClass — the classes of characters in a pattern.

A text need not be well-formed, so a class says two things: which single
bytes belong to it, and which code points of several bytes. The two halves
are tested in different places, and a byte above the ASCII range belongs to
the first half alone. A caret does not change the halves; it is kept beside
them (`negated`), and `CharClass.union` and `CharClass.inter` respect it.
-/
import PatternSearch.Text.Property
import PatternSearch.Text.Utf8

namespace PatternSearch.Pattern

open Text

/-- A set of bytes, 64 of them in each word. -/
structure ByteSet where
  low : UInt64
  mid : UInt64
  high : UInt64
  top : UInt64
  deriving DecidableEq, Repr, Inhabited

namespace ByteSet

/-- No byte, and every byte. -/
def empty : ByteSet := ⟨0, 0, 0, 0⟩
def full : ByteSet := ⟨0xFFFFFFFFFFFFFFFF, 0xFFFFFFFFFFFFFFFF, 0xFFFFFFFFFFFFFFFF,
  0xFFFFFFFFFFFFFFFF⟩

/-- The word in which a byte has its bit. -/
def word (s : ByteSet) (b : UInt8) : UInt64 :=
  if b < 64 then s.low else if b < 128 then s.mid else if b < 192 then s.high else s.top

/-- Whether a byte belongs to the set. -/
def contains (s : ByteSet) (b : UInt8) : Bool :=
  (s.word b >>> (b % 64).toUInt64) &&& 1 == 1

/-- The bytes of both sets, of either, and those the set lacks. -/
def inter (a b : ByteSet) : ByteSet :=
  ⟨a.low &&& b.low, a.mid &&& b.mid, a.high &&& b.high, a.top &&& b.top⟩
def union (a b : ByteSet) : ByteSet :=
  ⟨a.low ||| b.low, a.mid ||| b.mid, a.high ||| b.high, a.top ||| b.top⟩
def compl (a : ByteSet) : ByteSet := ⟨~~~a.low, ~~~a.mid, ~~~a.high, ~~~a.top⟩

/-- One byte. -/
def single (b : UInt8) : ByteSet :=
  let bit := (1 : UInt64) <<< (b % 64).toUInt64
  if b < 64 then ⟨bit, 0, 0, 0⟩
  else if b < 128 then ⟨0, bit, 0, 0⟩
  else if b < 192 then ⟨0, 0, bit, 0⟩
  else ⟨0, 0, 0, bit⟩

/-- The set with one more byte. -/
def insert (s : ByteSet) (b : UInt8) : ByteSet := s.union (single b)

/-- The bytes that satisfy a test. -/
def ofTest (test : Nat → Bool) : ByteSet :=
  (List.range 256).foldl (fun s b => if test b then s.insert (UInt8.ofNat b) else s) empty

/-- The bytes from `lo` to `hi`. -/
def range (lo hi : Nat) : ByteSet := ofTest (fun b => lo ≤ b && b ≤ hi)

/-- Whether the set has no byte. -/
def isEmpty (s : ByteSet) : Bool := s == empty

end ByteSet

/-- A class of characters. -/
structure CharClass where
  /-- The single bytes. -/
  bytes : ByteSet
  /-- The code points of several bytes. Numbers below 0x80 count for nothing
  here. -/
  wide : CodeSet
  /-- The class is what the two halves lack. -/
  negated : Bool
  deriving Inhabited

namespace CharClass

/-- The least code point that takes several bytes. -/
def firstWide : Nat := 0x80

/-- A class without members. -/
def empty : CharClass := ⟨.empty, .empty, false⟩

/-- Whether a code point belongs to the class. -/
def contains (c : CharClass) (code : Nat) : Bool :=
  (if code < firstWide then c.bytes.contains (UInt8.ofNat code) else c.wide.contains code)
    != c.negated

/-- The class with one more code point, or with a byte. -/
def insertCode (c : CharClass) (code : Nat) : CharClass :=
  if code < firstWide then { c with bytes := c.bytes.insert (UInt8.ofNat code) }
  else { c with wide := c.wide.union (.single code) }
def insertByte (c : CharClass) (b : Nat) : CharClass :=
  { c with bytes := c.bytes.insert (UInt8.ofNat b) }

/-- The class of some code points. -/
def ofCodes (codes : List Nat) : CharClass := codes.foldl insertCode empty

/-- The class with the bytes from `lo` to `hi`, or with code points. -/
def insertBytes (c : CharClass) (lo hi : Nat) : CharClass :=
  { c with bytes := c.bytes.union (.range lo hi) }
def insertCodes (c : CharClass) (lo hi : Nat) : CharClass :=
  { c with wide := c.wide.union (.range lo hi) }

/-- The class of a set of code points, or of the code points it lacks. -/
def ofSet (s : CodeSet) (lacked : Bool) : CharClass :=
  if lacked then ⟨.ofTest (fun b => b < firstWide && !s.contains b), s.complFrom firstWide, false⟩
  else ⟨.ofTest (fun b => b < firstWide && s.contains b), s.diff (.range 0 (firstWide - 1)), false⟩

/-- The two halves as they count: turned round if the class is negated. -/
def settledBytes (c : CharClass) : ByteSet := if c.negated then c.bytes.compl else c.bytes
def settledWide (c : CharClass) : CodeSet :=
  if c.negated then c.wide.complFrom firstWide else c.wide

/-- A class with given members, written with the caret or without. -/
def ofSettled (negated : Bool) (bytes : ByteSet) (wide : CodeSet) : CharClass :=
  if negated then ⟨bytes.compl, wide.complFrom firstWide, true⟩ else ⟨bytes, wide, false⟩

/-- What belongs to either class; the caret is that of the first. -/
def union (a b : CharClass) : CharClass :=
  ofSettled a.negated (a.settledBytes.union b.settledBytes) (a.settledWide.union b.settledWide)

/-- What belongs to both classes; the caret is that of the first. -/
def inter (a b : CharClass) : CharClass :=
  ofSettled a.negated (a.settledBytes.inter b.settledBytes) (a.settledWide.inter b.settledWide)

/-- The characters that end a line. -/
def lineBreaks : CharClass := (ofCodes [0x0A, 0x0B, 0x0C, 0x0D, 0x85]).insertCodes 0x2028 0x2029

/-! ## Case -/

/-- A set of code points closed under case, so far as single code points go:
with a member it has everything that folds to the same. -/
def closeUnderCase (s : CharClass) : CharClass :=
  let raw := { s with negated := false }
  let families := caseClasses.map CaseClass.members ++ longCaseClasses.map LongCaseClass.members
  let added := families.flatMap (fun f => if f.any raw.contains then f else [])
  let wide := added.filter (fun c => firstWide ≤ c)
  { s with
    bytes := (added.filter (fun c => c < firstWide)).foldl
      (fun b c => b.insert (UInt8.ofNat c)) s.bytes
    wide := s.wide.union (.ofRuns (wide.map (fun c => (c, c)))) }

/-- The code points that are one up to case, as a class. -/
def caseVariants (code : Nat) : CharClass :=
  let folded := foldCode code
  ofCodes (folded :: unfoldings folded)

/-- The sequences that are a member of the class up to case, each as one class
after the other. -/
def caseSequences (s : CharClass) : List (List CharClass) :=
  if s.negated then []
  else longCaseClasses.flatMap (fun l =>
    (l.members.dropWhile (fun c => !s.contains c)).map (fun _ => l.sequence.map caseVariants))

end CharClass

end PatternSearch.Pattern
