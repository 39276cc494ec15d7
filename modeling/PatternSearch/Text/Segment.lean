/-
PatternSearch.Text.Segment — where a reader sees one character end and the next
begin.

Marks belong to the character before them, a syllable is one character however
many letters it is written with, two regional letters make one flag, and a
joiner between two pictures makes them one. `isSegmentBoundary` decides from
the code points on both sides of a place, and in the last two cases from those
further back.
-/
import PatternSearch.Text.Property
import PatternSearch.Text.Utf8

namespace PatternSearch.Text

/-- What decides whether a code point begins a new segment. -/
inductive SegmentKind where
  | other
  | control
  | extend
  | spacing
  | prepend
  | joiner
  | regional
  /-- The letters of a syllable: leading, vowel, trailing; and whole syllables
  without a trailing letter or with one. -/
  | leading | vowel | trailing
  | open_ | closed
  deriving DecidableEq, Repr

/-- Spacing marks that begin a segment of their own, and letters that do
not. -/
def separateMarks : CodeSet := .ofTable
  ["102b-102c 1038 1062-1064 1067-106d 1083 1087-108c 108f 109a-109c 1a61 1a63-1a64 aa7b aa7d",
    "11720-11721"]
def joinedLetters : CodeSet := .ofTable ["e33 eb3"]

/-- Characters that the next one belongs to. -/
def prependedCodes : CodeSet :=
  (CodeSet.ofTable
    ["d4e 111c2-111c3 113d1 1193f 11941 11a3a 11a84-11a89 11d46 11f02"]).union
    (((Property.ofName? "pcm".toList).map Property.toSet).getD .empty)

/-- Control characters, so far as they are assigned. -/
def segmentControlCodes : CodeSet :=
  ((codesOfCategories (fun g => match g with
    | .cc | .cf | .zl | .zp | .cs => true
    | _ => false)).union (.ofTable ["2065 e0000 e0002-e001f e0080-e00ff e01f0-e0fff fff0-fff8"])).diff
    (.unions [.range 0x200C 0x200D, .range 0xE0020 0xE007F, prependedCodes])

/-- Characters that belong to the one before them; emoji modifiers are among
them. -/
def segmentExtendCodes : CodeSet :=
  .unions [extendingCodes, .range 0x1F3FB 0x1F3FF, .single 0x200C, .range 0xE0020 0xE007F]

/-- Spacing marks. -/
def segmentSpacingCodes : CodeSet :=
  ((codesOfCategories (· == .mc)).union joinedLetters).diff
    (.unions [extendingCodes, separateMarks])

/-- Pictures that a joiner can put together. -/
def pictureCodes : CodeSet :=
  ((Property.ofName? "extpict".toList).map Property.toSet).getD .empty

/-- The kind of a code point. -/
def segmentKind (c : Nat) : SegmentKind :=
  if 0xAC00 ≤ c ∧ c ≤ 0xD7A3 then (if (c - 0xAC00) % 28 = 0 then .open_ else .closed)
  else if (0x1100 ≤ c ∧ c ≤ 0x115F) ∨ (0xA960 ≤ c ∧ c ≤ 0xA97C) then .leading
  else if (0x1160 ≤ c ∧ c ≤ 0x11A7) ∨ (0xD7B0 ≤ c ∧ c ≤ 0xD7C6) then .vowel
  else if (0x11A8 ≤ c ∧ c ≤ 0x11FF) ∨ (0xD7CB ≤ c ∧ c ≤ 0xD7FB) then .trailing
  else if c = 0x200D then .joiner
  else if 0x1F1E6 ≤ c ∧ c ≤ 0x1F1FF then .regional
  else if segmentControlCodes.contains c then .control
  else if segmentExtendCodes.contains c then .extend
  else if segmentSpacingCodes.contains c then .spacing
  else if prependedCodes.contains c then .prepend
  else .other

/-- Whether a segment ends between two kinds, as far as the kinds tell. -/
def kindsSeparate : SegmentKind → SegmentKind → Bool
  | .control, _ | _, .control => true
  | .leading, .leading | .leading, .vowel | .leading, .open_ | .leading, .closed => false
  | .open_, .vowel | .open_, .trailing | .vowel, .vowel | .vowel, .trailing => false
  | .closed, .trailing | .trailing, .trailing => false
  | _, .extend | _, .joiner | _, .spacing => false
  | .prepend, _ => false
  | _, _ => true

/-- The code points before an offset, the nearest first. `fuel` bounds their
number. -/
def unitsBefore (text : ByteArray) : Nat → Nat → List Nat
  | 0, _ => []
  | fuel + 1, i =>
    match headBefore? text i with
    | some j => unitAt text j :: unitsBefore text fuel j
    | none => []

/-- Whether the code points before a joiner, the nearest first, end with a
picture. -/
def endsWithPicture (before : List Nat) : Bool :=
  match before.dropWhile (fun c => !pictureCodes.contains c && segmentKind c == .extend) with
  | c :: _ => pictureCodes.contains c
  | [] => false

/-- Whether a segment begins or ends at an offset. -/
def isSegmentBoundary (text : ByteArray) (i : Nat) : Bool :=
  if i = 0 ∨ i = text.size then true
  else
    match headBefore? text i with
    | none => true
    | some j =>
      let c := unitAt text j
      let d := unitAt text i
      if c = 0x0D then d != 0x0A
      else
        let k := segmentKind c
        if k == .joiner && pictureCodes.contains d then !endsWithPicture (unitsBefore text j j)
        else if k == .regional && segmentKind d == .regional then
          ((unitsBefore text j j).takeWhile (fun e => segmentKind e == .regional)).length % 2 == 1
        else kindsSeparate k (segmentKind d)

end PatternSearch.Text
