/-
PatternSearch.Text.Lossy — reading bytes as text when they may not be UTF-8.

Decoding is strict: `ByteArray.utf8DecodeChar?` accepts a character only in
its one proper encoding. Where it refuses, `faultAt` measures the fault: the
longest run of bytes that could have begun a character and does not. The lossy
reading writes one replacement character for each such run, and the strict one
reports the first of them.
-/
namespace PatternSearch.Text

/-- The replacement character. -/
def replacement : Char := Char.ofNat 0xFFFD

/-- How many bytes a strict character with this first byte has, and the range
its second byte has to lie in; `none` if no character starts so. -/
def strictLead? (b : UInt8) : Option (Nat × UInt8 × UInt8) :=
  if 0xC2 ≤ b ∧ b ≤ 0xDF then some (2, 0x80, 0xBF)
  else if b = 0xE0 then some (3, 0xA0, 0xBF)
  else if b = 0xED then some (3, 0x80, 0x9F)
  else if 0xE1 ≤ b ∧ b ≤ 0xEF then some (3, 0x80, 0xBF)
  else if b = 0xF0 then some (4, 0x90, 0xBF)
  else if 0xF1 ≤ b ∧ b ≤ 0xF3 then some (4, 0x80, 0xBF)
  else if b = 0xF4 then some (4, 0x80, 0x8F)
  else none

/-- A byte within inclusive bounds, at an offset. -/
def byteWithin (bytes : ByteArray) (i : Nat) (lo hi : UInt8) : Bool :=
  if h : i < bytes.size then lo ≤ bytes[i] && bytes[i] ≤ hi else false

/-- A place where bytes stop being UTF-8: how many bytes are wrong, or `none`
if the bytes only end too early. -/
structure Fault where
  offset : Nat
  length : Option Nat
  deriving DecidableEq, Repr

/-- How many of the bytes of a character of `width` bytes are there, from the
third on, given that the first two are. -/
def tailPresent (bytes : ByteArray) (i width : Nat) : Nat :=
  if width ≤ 2 then 2
  else if !byteWithin bytes (i + 2) 0x80 0xBF then 2
  else if width ≤ 3 then 3
  else if !byteWithin bytes (i + 3) 0x80 0xBF then 3
  else 4

/-- The bytes at `i` that could have begun a character, given that no
character stands there; at least one. -/
def faultLength (bytes : ByteArray) (i : Nat) : Nat :=
  if h : i < bytes.size then
    match strictLead? bytes[i] with
    | none => 1
    | some (width, lo, hi) =>
      if byteWithin bytes (i + 1) lo hi then tailPresent bytes i width else 1
  else 1

/-- Whether the fault at `i` is only that the bytes end too early. -/
def isCutShort (bytes : ByteArray) (i : Nat) : Bool :=
  if h : i < bytes.size then
    (strictLead? bytes[i]).isSome && i + faultLength bytes i == bytes.size
  else false

/-- The characters from `i` on, with a replacement character for every fault.
`fuel` bounds their number. -/
def lossyFrom (bytes : ByteArray) : Nat → Nat → List Char
  | 0, _ => []
  | fuel + 1, i =>
    if i < bytes.size then
      match bytes.utf8DecodeChar? i with
      | some c => c :: lossyFrom bytes fuel (i + c.utf8Size)
      | none => replacement :: lossyFrom bytes fuel (i + faultLength bytes i)
    else []

/-- Bytes as text, faults replaced. -/
def lossy (bytes : ByteArray) : String :=
  match String.fromUTF8? bytes with
  | some s => s
  | none => String.ofList (lossyFrom bytes bytes.size 0)

/-- The first fault from `i` on. -/
def faultFrom? (bytes : ByteArray) : Nat → Nat → Option Fault
  | 0, _ => none
  | fuel + 1, i =>
    if i < bytes.size then
      match bytes.utf8DecodeChar? i with
      | some c => faultFrom? bytes fuel (i + c.utf8Size)
      | none =>
        some ⟨i, if isCutShort bytes i then none else some (faultLength bytes i)⟩
    else none

/-- Bytes as text, or the first place where they are not UTF-8. -/
def strict (bytes : ByteArray) : Except Fault String :=
  match String.fromUTF8? bytes with
  | some s => .ok s
  | none => .error ((faultFrom? bytes bytes.size 0).getD ⟨0, none⟩)

namespace Fault

/-- A fault as a sentence. -/
def message (f : Fault) : String :=
  match f.length with
  | some n => s!"invalid utf-8 sequence of {n} bytes from index {f.offset}"
  | none => s!"incomplete utf-8 byte sequence from index {f.offset}"

end Fault

end PatternSearch.Text
