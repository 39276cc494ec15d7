/-
PatternSearch.Pattern.Options — the options a pattern is compiled with, and
the options of a single search.

An option set says of each of nine flags whether it is on, so sets that agree
on every flag are equal (`OptionSet.ext`) and the set operations are the
Boolean ones, flag by flag. Two written forms exist: the bits of a mask,
flag number `i` being bit `i`, and a word of letters for the six flags that
have one.
-/
import PatternSearch.Error

namespace PatternSearch

/-- The options of a pattern, in the order of their bits. -/
inductive Flag where
  /-- Letters match in either case. -/
  | ignoreCase
  /-- Blanks and comments in the pattern do not count. -/
  | extended
  /-- The dot matches a newline too. -/
  | multiLine
  /-- The line anchors hold at the ends of the text only. -/
  | singleLine
  /-- The longest match wins, not the first. -/
  | findLongest
  /-- Empty matches do not count. -/
  | findNotEmpty
  /-- Takes `singleLine` away from flavours that have it. -/
  | negateSingleLine
  /-- Plain groups do not capture. -/
  | dontCaptureGroup
  /-- Plain groups capture even beside named ones. -/
  | captureGroup
  deriving DecidableEq, Repr

namespace Flag

/-- All flags, in the order of their bits. -/
def all : List Flag :=
  [ignoreCase, extended, multiLine, singleLine, findLongest, findNotEmpty,
   negateSingleLine, dontCaptureGroup, captureGroup]

/-- The number of the flag's bit. -/
def index : Flag → Nat
  | ignoreCase => 0
  | extended => 1
  | multiLine => 2
  | singleLine => 3
  | findLongest => 4
  | findNotEmpty => 5
  | negateSingleLine => 6
  | dontCaptureGroup => 7
  | captureGroup => 8

/-- The flag's name in diagnostics. -/
def label : Flag → String
  | ignoreCase => "IGNORECASE"
  | extended => "EXTEND"
  | multiLine => "MULTILINE"
  | singleLine => "SINGLELINE"
  | findLongest => "FIND_LONGEST"
  | findNotEmpty => "FIND_NOT_EMPTY"
  | negateSingleLine => "NEGATE_SINGLE_LINE"
  | dontCaptureGroup => "DONT_CAPTURE_GROUP"
  | captureGroup => "CAPTURE_GROUP"

theorem mem_all (f : Flag) : f ∈ all := by cases f <;> decide

end Flag

/-- A set of flags. -/
@[ext] structure OptionSet where
  has : Flag → Bool

namespace OptionSet

/-- No flag. -/
def empty : OptionSet := ⟨fun _ => false⟩

/-- Every flag. -/
def full : OptionSet := ⟨fun _ => true⟩

/-- One flag alone. -/
def single (f : Flag) : OptionSet := ⟨fun g => g = f⟩

/-- The flags of either set. -/
def union (a b : OptionSet) : OptionSet := ⟨fun f => a.has f || b.has f⟩

/-- The flags of both sets. -/
def inter (a b : OptionSet) : OptionSet := ⟨fun f => a.has f && b.has f⟩

/-- The flags of exactly one of the sets. -/
def symmDiff (a b : OptionSet) : OptionSet := ⟨fun f => a.has f != b.has f⟩

/-- The flags of the first set that the second lacks. -/
def diff (a b : OptionSet) : OptionSet := ⟨fun f => a.has f && !b.has f⟩

/-- The flags the set lacks. -/
def compl (a : OptionSet) : OptionSet := ⟨fun f => !a.has f⟩

/-- The set with every flag of `b` turned on or off. -/
def set (a b : OptionSet) (yes : Bool) : OptionSet :=
  if yes then a.union b else a.diff b

/-- The set with one flag turned on or off. -/
def setFlag (a : OptionSet) (f : Flag) (yes : Bool) : OptionSet :=
  ⟨fun g => if g = f then yes else a.has g⟩

/-- Whether every flag of `b` is on in `a`. -/
def contains (a b : OptionSet) : Bool := Flag.all.all (fun f => !b.has f || a.has f)

/-- Whether the sets share a flag. -/
def intersects (a b : OptionSet) : Bool := Flag.all.any (fun f => a.has f && b.has f)

/-- Whether no flag is on. -/
def isEmpty (a : OptionSet) : Bool := Flag.all.all (fun f => !a.has f)

/-- Whether every flag is on. -/
def isFull (a : OptionSet) : Bool := Flag.all.all a.has

/-- Whether two sets have the same flags. -/
def same (a b : OptionSet) : Bool := Flag.all.all (fun f => a.has f == b.has f)

/-- The set as a mask: flag number `i` is bit `i`. -/
def toMask (a : OptionSet) : UInt32 :=
  Flag.all.foldl (fun m f => if a.has f then m ||| ((1 : UInt32) <<< UInt32.ofNat f.index) else m) 0

theorem testBit_bit (f : Flag) (i : Nat) :
    ((1 : UInt32) <<< UInt32.ofNat f.index).toNat.testBit i = (f.index == i) := by
  have bit : ((1 : UInt32) <<< UInt32.ofNat f.index).toNat = 1 <<< f.index := by
    cases f <;> rfl
  rw [bit, Nat.one_shiftLeft, Nat.testBit_two_pow]
  rfl

theorem testBit_foldl (a : OptionSet) (fs : List Flag) (mask : UInt32) (i : Nat) :
    (fs.foldl (fun m f => if a.has f then m ||| ((1 : UInt32) <<< UInt32.ofNat f.index) else m)
        mask).toNat.testBit i =
      (mask.toNat.testBit i || fs.any fun f => a.has f && f.index == i) := by
  induction fs generalizing mask with
  | nil => rw [List.foldl_nil, List.any_nil, Bool.or_false]
  | cons f fs ih =>
    rw [List.foldl_cons, ih, List.any_cons, ← Bool.or_assoc]
    congr 1
    cases a.has f with
    | false => rw [if_neg Bool.false_ne_true, Bool.false_and, Bool.or_false]
    | true =>
      rw [if_pos rfl, UInt32.toNat_or, Nat.testBit_or, testBit_bit, Bool.true_and]

/-- The bits of the mask are those of the flags that are on. -/
theorem testBit_toMask (a : OptionSet) (i : Nat) :
    a.toMask.toNat.testBit i = Flag.all.any fun f => a.has f && f.index == i := by
  rw [toMask, testBit_foldl, UInt32.toNat_zero, Nat.zero_testBit, Bool.false_or]

theorem testBit_index_toMask (a : OptionSet) (f : Flag) :
    a.toMask.toNat.testBit f.index = a.has f := by
  rw [testBit_toMask]
  cases f <;> simp [Flag.all, Flag.index]

/-- There are no bits but those of the nine flags. -/
theorem toMask_lt (a : OptionSet) : a.toMask < 512 := by
  have bits : a.toMask.toNat < 2 ^ 9 := by
    refine Nat.lt_pow_two_of_testBit _ fun i large => ?_
    have other (f : Flag) : f.index ≠ i := by
      have small : f.index < 9 := by cases f <;> decide
      omega
    simp [testBit_toMask, other]
  rw [UInt32.lt_iff_toNat_lt]
  exact bits

/-- The flags whose bit is on in a mask; other bits do not count. -/
def ofMask (mask : UInt32) : OptionSet := ⟨fun f => mask.toNat.testBit f.index⟩

/-- The flags of a mask, if it has no other bits. -/
def ofMask? (mask : UInt32) : Option OptionSet :=
  if mask < 512 then some (ofMask mask) else none

/-- The set as names joined by bars, for diagnostics. -/
def shown (a : OptionSet) : String :=
  match Flag.all.filter a.has with
  | [] => "NONE"
  | fs => String.intercalate " | " (fs.map Flag.label)

/-- The flag a letter stands for. -/
def ofLetter? (c : Char) : Option Flag :=
  match c with
  | 'i' => some .ignoreCase
  | 'x' => some .extended
  | 'm' => some .multiLine
  | 's' => some .singleLine
  | 'l' => some .findLongest
  | 'E' => some .findNotEmpty
  | _ => none

/-- The flags of letters, added to those read so far. -/
def parseFrom (a : OptionSet) : List Char → Except Error OptionSet
  | [] => .ok a
  | c :: cs =>
    match ofLetter? c with
    | some f => parseFrom (a.union (single f)) cs
    | none => .error (.invalidOption c)

/-- The set a word of letters stands for. -/
def parse (s : String) : Except Error OptionSet := parseFrom empty s.toList

/-- The letters of the set, for the flags that have one. -/
def letters (a : OptionSet) : String :=
  (if a.has .ignoreCase then "i" else "")
    ++ (if a.has .extended then "x" else "")
    ++ (if a.has .multiLine then "m" else "")
    ++ (if a.has .singleLine then "s" else "")
    ++ (if a.has .findLongest then "l" else "")
    ++ (if a.has .findNotEmpty then "E" else "")

end OptionSet

/-! ## The options of a search -/

/-- The options of a single search, as a mask. Bits that no search knows may
be set and mean nothing. -/
structure SearchOptions where
  mask : UInt32
  deriving DecidableEq, Repr

namespace SearchOptions

/-- No option. -/
def none : SearchOptions := ⟨0⟩

/-- The start of the text is not the start of a line. -/
def notBol : SearchOptions := ⟨512⟩

/-- The end of the text is not the end of a line. -/
def notEol : SearchOptions := ⟨1024⟩

/-- The text has to consist of complete characters. -/
def checkValidity : SearchOptions := ⟨4096⟩

/-- Whether every bit of `b` is set in `a`. -/
def has (a b : SearchOptions) : Bool := a.mask &&& b.mask == b.mask

/-- The two line options of a mask; other bits are dropped. -/
def truncate (mask : UInt32) : SearchOptions := ⟨mask &&& 1536⟩

/-- A mask with no bits but the two line options. -/
def ofMask? (mask : UInt32) : Option SearchOptions :=
  if truncate mask = ⟨mask⟩ then some ⟨mask⟩ else .none

/-- The options as names joined by bars, for diagnostics. -/
def shown (a : SearchOptions) : String :=
  match (if a.has notBol then ["NOTBOL"] else []) ++ (if a.has notEol then ["NOTEOL"] else []) with
  | [] => "NONE"
  | names => String.intercalate " | " names

end SearchOptions

end PatternSearch
