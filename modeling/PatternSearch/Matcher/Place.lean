/-
PatternSearch.Matcher.Place — what a text has at an offset.

A match asks two kinds of questions about a place: whether an anchor holds
there (`anchorHolds`), and where the character that stands there ends, if it
is one of those wanted. Both take a limit: no character may reach beyond it.
-/
import PatternSearch.Pattern.Instruction
import PatternSearch.Text.Segment

namespace PatternSearch.Matcher

open Text Pattern

/-- What is matched against, and how. -/
structure Subject where
  text : ByteArray
  /-- Where the search began. -/
  origin : Nat
  /-- The start of the text is no start of a line, its end no end of one. -/
  notBol : Bool
  notEol : Bool
  /-- The longest match wins; empty matches do not count. -/
  longest : Bool
  notEmpty : Bool
  /-- The limit at the start. -/
  limit : Nat
  /-- The most choices noted at a time and the most taken up again; 0 is
  unlimited. -/
  stackLimit : Nat
  retryLimit : Nat

/-! ## Characters -/

/-- The code point of a unit. Stray bytes are judged by their number. -/
def codeOfUnit (c : Nat) : Nat := if c < strayBase then c else c - strayBase

/-- Whether a word character stands at an offset. -/
def wordAt (text : ByteArray) (ascii : Bool) (i : Nat) : Bool :=
  if i < text.size then
    let c := codeOfUnit (unitAt text i)
    (!ascii || c < 0x80) && isWordCode c
  else false

/-- Whether a word character stands before an offset. -/
def wordBefore (text : ByteArray) (ascii : Bool) (i : Nat) : Bool :=
  match headBefore? text i with
  | some j => wordAt text ascii j
  | none => false

/-- Whether a given byte stands at an offset. -/
@[inline] def byteAt (text : ByteArray) (b : UInt8) (i : Nat) : Bool :=
  if h : i < text.size then text[i] == b else false

/-- Whether a newline stands at an offset, or before it. -/
def newlineAt (text : ByteArray) (i : Nat) : Bool := byteAt text 0x0A i
def newlineBefore (text : ByteArray) (i : Nat) : Bool :=
  match headBefore? text i with
  | some j => newlineAt text j
  | none => false

/-- Whether some bytes stand at an offset. -/
def bytesAt (text : ByteArray) : List UInt8 → Nat → Bool
  | [], _ => true
  | b :: bs, i => byteAt text b i && bytesAt text bs (i + 1)

/-- The end of some bytes that stand at an offset. -/
@[inline] def textEnd? (text : ByteArray) (limit : Nat) (bs : List UInt8) (i : Nat) : Option Nat :=
  if bytesAt text bs i then
    let next := i + bs.length
    if next ≤ limit then some next else none
  else none

/-- The end of a single byte of a set at an offset. A byte outside a set may
be the first one of a character, which then counts as a whole. -/
def byteEnd? (text : ByteArray) (limit : Nat) (s : ByteSet) (negated : Bool) (i : Nat) :
    Option Nat :=
  if h : i < text.size then
    if limit ≤ i || s.contains text[i] == negated then
      none
    else if negated then some (i + leadWidth text[i])
    else if leadWidth text[i] = 1 then some (i + 1)
    else none
  else none

/-- The end of a code point of several bytes that belongs to a set, or of one
that does not. A character that the limit cuts off belongs to no set; what
does not belong then reaches to the end of the text. -/
def wideEnd? (text : ByteArray) (limit : Nat) (s : CodeSet) (negated : Bool) (i : Nat) :
    Option Nat :=
  let next := i + widthAt text i
  if limit < next then (if negated then some text.size else none)
  else if s.contains (unitAt text i) == negated then none
  else some next

/-- The end of a character at an offset that is wanted by a class of both
kinds. -/
def eitherEnd? (text : ByteArray) (limit : Nat) (single : Option ByteSet) (s : CodeSet)
    (negated : Bool) (i : Nat) : Option Nat :=
  if h : i < text.size then
    if limit ≤ i then none
    else if leadWidth text[i] = 1 then
      match single with
      | some bytes => if bytes.contains text[i] == negated then none else some (i + 1)
      | none => if negated then some (i + 1) else none
    else wideEnd? text limit s negated i
  else none

/-- The end of any character at an offset. -/
def charEnd? (text : ByteArray) (limit : Nat) (withNewline : Bool) (i : Nat) : Option Nat :=
  let next := i + widthAt text i
  if i < limit && next ≤ limit && (withNewline || !newlineAt text i) then some next else none

/-- The end of a word character at an offset, or of any other. -/
def wordEnd? (text : ByteArray) (limit : Nat) (negated ascii : Bool) (i : Nat) : Option Nat :=
  if i < limit && wordAt text ascii i != negated then some (i + widthAt text i) else none

/-! ## Places -/

/-- Whether an anchor holds at an offset. -/
def anchorHolds (s : Subject) (limit : Nat) (a : Anchor) (i : Nat) : Bool :=
  let text := s.text
  match a with
  | .lineStart =>
    if i = 0 then !s.notBol else newlineBefore text i && i != text.size
  | .lineEnd => if i = text.size then !s.notEol else newlineAt text i
  | .textStart => i == 0 && !s.notBol
  | .textEnd => i == text.size && !s.notEol
  | .textEndOrNewline =>
    (i == text.size || (newlineAt text i && i + 1 == text.size)) && !s.notEol
  | .searchStart => i == s.origin
  | .wordBoundary ascii =>
    if i = 0 then i < limit && wordAt text ascii i
    else if i = text.size then wordBefore text ascii i
    else wordAt text ascii i != wordBefore text ascii i
  | .noWordBoundary ascii =>
    if i = 0 then !(i < limit && wordAt text ascii i)
    else if i = text.size then !wordBefore text ascii i
    else wordAt text ascii i == wordBefore text ascii i
  | .wordStart ascii =>
    i < limit && wordAt text ascii i && !wordBefore text ascii i
  | .wordEnd ascii => wordBefore text ascii i && !wordAt text ascii i
  | .segmentBoundary => isSegmentBoundary text i
  | .noSegmentBoundary => !isSegmentBoundary text i

/-! ## Repeated text -/

/-- The end of the same `n` bytes at `j` as at `i`. -/
def sameBytes (text : ByteArray) : Nat → Nat → Nat → Bool
  | 0, _, _ => true
  | n + 1, i, j =>
    if h : i < text.size then
      if h' : j < text.size then text[i] == text[j] && sameBytes text n (i + 1) (j + 1)
      else false
    else false

/-- The bytes of what the character at an offset folds to, read no further than
`stop`. One that folds to nothing else stands for itself. -/
def foldedBytes (text : ByteArray) (stop i : Nat) : List UInt8 :=
  let c := codeOfUnit (unitWithin text stop i)
  let folded := folding c
  if folded == [c] then (text.extract i (i + widthAt text i)).toList
  else folded.flatMap (fun d => (encodeCode? d).getD [])

/-- The end of a text at `j` that is, character by character, the same up to
case as the one from `i` up to `stop`. Neither is read beyond its own end,
`stop` and `stop'`; where the first one ends, the second may end early. `fuel` bounds the number of characters. -/
def foldedEnd? (text : ByteArray) (stop stop' : Nat) : Nat → Nat → Nat → Option Nat
  | 0, i, j => if i < stop then none else some j
  | fuel + 1, i, j =>
    if stop ≤ i then some j
    else if foldedBytes text stop i != foldedBytes text stop' j then none
    else
      let i := i + widthAt text i
      let j := j + widthAt text j
      if j < stop' then foldedEnd? text stop stop' fuel i j
      else if i < stop then none
      else some j

/-- The end of a text at `at_` that repeats the one from `start` to `stop`. Up
to case as many bytes are looked at as are to be repeated. -/
def repeatEnd? (text : ByteArray) (caseless : Bool) (start stop at_ : Nat) : Option Nat :=
  let size := stop - start
  if caseless then foldedEnd? text stop (at_ + size) size start at_
  else if sameBytes text size start at_ then some (at_ + size) else none

end PatternSearch.Matcher
