/-
PatternSearch.Text.Utf8 — characters in a text of bytes.

A text is searched as bytes that are meant to be UTF-8 but need not be. The
leading byte alone says how many bytes a character takes (`leadWidth`), so
stepping never looks at the bytes that follow; a byte that can lead nothing
counts as a character of its own. `unitAt` gives the code point at an offset,
or, for such a stray byte, a number above every code point, so that classes
can tell stray bytes from characters.

`isWellFormed` is the looser check a pattern has to pass: every character
starts with a byte that may lead and has its continuation bytes. It does not
exclude overlong forms, surrogates or the two bytes 0xFE and 0xFF.
-/
namespace PatternSearch.Text

/-- The bytes a character takes, judged by its first byte. -/
def leadWidth (b : UInt8) : Nat :=
  if b < 0xC0 then 1
  else if b < 0xE0 then 2
  else if b < 0xF0 then 3
  else if b < 0xF8 then 4
  else 1

/-- A byte that only continues a character. -/
def isContinuation (b : UInt8) : Bool := 0x80 ≤ b && b < 0xC0

/-- The first number above the code points; stray bytes are counted from it. -/
def strayBase : Nat := 0x200000

/-- The width of the character at an offset, 1 past the end. -/
def widthAt (text : ByteArray) (i : Nat) : Nat :=
  if h : i < text.size then leadWidth text[i] else 1

/-- The six low bits of the byte at an offset, 0 past the end. -/
def tailBits (text : ByteArray) (i : Nat) : Nat :=
  if h : i < text.size then text[i].toNat % 64 else 0

/-- The code point at an offset, or the number of a stray byte, read no further
than `stop`. A character that is cut off there is read as if it were shorter. -/
def unitWithin (text : ByteArray) (stop i : Nat) : Nat :=
  if h : i < text.size then
    let b := text[i].toNat
    match min (leadWidth text[i]) (stop - i) with
    | 2 => (b % 32) * 64 + tailBits text (i + 1)
    | 3 => ((b % 16) * 64 + tailBits text (i + 1)) * 64 + tailBits text (i + 2)
    | 4 => (((b % 8) * 64 + tailBits text (i + 1)) * 64 + tailBits text (i + 2)) * 64
        + tailBits text (i + 3)
    | _ => if b < 0x80 then b else strayBase + b
  else 0

/-- The code point at an offset, or the number of a stray byte. -/
def unitAt (text : ByteArray) (i : Nat) : Nat := unitWithin text text.size i

/-- The start of the character that contains an offset: the nearest byte at
or before it that does not continue a character. -/
def headAt (text : ByteArray) : Nat → Nat
  | 0 => 0
  | i + 1 =>
    if h : i + 1 < text.size then
      if isContinuation text[i + 1] then headAt text i else i + 1
    else i + 1

/-- The start of the character before an offset, `none` at the start. -/
def headBefore? (text : ByteArray) : Nat → Option Nat
  | 0 => none
  | i + 1 => some (headAt text i)

/-- The offset `n` characters before `i`. -/
def backBy? (text : ByteArray) : Nat → Nat → Option Nat
  | 0, i => some i
  | n + 1, i =>
    match headBefore? text i with
    | some j => backBy? text n j
    | none => none

/-- Whether the `n` bytes from `i` on all continue a character. -/
def continues (text : ByteArray) : Nat → Nat → Bool
  | 0, _ => true
  | n + 1, i =>
    if h : i < text.size then isContinuation text[i] && continues text n (i + 1) else false

/-- Whether the bytes from `i` on are characters with nothing missing. `fuel`
bounds the number of characters. -/
def wellFormedFrom (text : ByteArray) : Nat → Nat → Bool
  | 0, i => i == text.size
  | fuel + 1, i =>
    if h : i < text.size then
      !isContinuation text[i] && continues text (leadWidth text[i] - 1) (i + 1)
        && wellFormedFrom text fuel (i + leadWidth text[i])
    else true

/-- Whether a text is a sequence of complete characters. -/
def isWellFormed (text : ByteArray) : Bool := wellFormedFrom text text.size 0

/-- The bytes of a code point, in one to four bytes; larger numbers have no
encoding. -/
def encodeCode? (c : Nat) : Option (List UInt8) :=
  let tail := fun (k : Nat) => UInt8.ofNat (0x80 + (c >>> (6 * k)) % 64)
  if c < 0x80 then some [UInt8.ofNat c]
  else if c < 0x800 then some [UInt8.ofNat (0xC0 + c / 64), tail 0]
  else if c < 0x10000 then some [UInt8.ofNat (0xE0 + c / 4096), tail 1, tail 0]
  else if c < strayBase then
    some [UInt8.ofNat (0xF0 + c / 262144), tail 2, tail 1, tail 0]
  else none

end PatternSearch.Text
