/-
PatternSearch.Pattern.Unfold — a text up to case as a pattern without case.

Where a character, or two or three in a row, could be spelled another way, the
other spellings are listed (`unfolding`). If all of them are single characters
they form a class with the character itself, else they become alternatives.
What has no other spelling stays plain text. In a lookbehind the number of
characters has to stay the same, so only single characters are replaced there,
each by single characters.
-/
import PatternSearch.Pattern.Glyph
import PatternSearch.Pattern.Node
import PatternSearch.Text.CaseFold

namespace PatternSearch.Pattern

open Text

/-- The spellings of a sequence of characters that are folded. -/
def spellings : List Nat → List (List Nat)
  | [] => [[]]
  | c :: cs =>
    (c :: unfoldings c).flatMap (fun d => (spellings cs).map (fun ds => d :: ds))

/-- The spellings of the first `n` characters, if these together fold to
what also a single character folds to. -/
def jointUnfolding? (n : Nat) (cs : List Nat) : Option (List (List Nat)) :=
  if cs.length < n then none
  else
    let written := cs.take n
    let folded := written.map foldCode
    match longUnfoldings folded with
    | [] => none
    | singles =>
      some (singles.map (fun c => [c]) ++ (spellings folded).filter (fun s => s != written))

/-- The other spellings of one character. -/
def singleUnfolding (c : Nat) : List (List Nat) :=
  match folding c with
  | [d] => ((d :: unfoldings d).filter (fun e => e != c)).map (fun e => [e])
  | sequence =>
    ((longUnfoldings sequence).filter (fun e => e != c)).map (fun e => [e]) ++ spellings sequence

/-- How many characters at the front can be spelled another way, and all the
other spellings. -/
def unfolding (cs : List Nat) : Nat × List (List Nat) :=
  match jointUnfolding? 3 cs, jointUnfolding? 2 cs with
  | some others, _ => (3, others)
  | none, some others => (2, others)
  | none, none => (1, cs.head?.elim [] singleUnfolding)

namespace Node

/-- The text of some code points. -/
def ofCodes (cs : List Nat) : Node :=
  text (cs.flatMap (fun c => (encodeCode? c).getD [])) false

/-- A sequence with a plain text in front of it. -/
def textBefore (gs : List Glyph) (ns : List Node) : List Node :=
  if gs.isEmpty then ns else text (gs.flatMap Glyph.bytes) false :: ns

/-- The patterns of a text up to case; `plain` is what has been read and has no
other spelling, in reverse, and `fuel` bounds the number of characters. -/
def unfoldedFrom (behind : Bool) (plain : List Glyph) : Nat → List Glyph → List Node
  | 0, gs => textBefore (plain.reverse ++ gs) []
  | _, [] => textBefore plain.reverse []
  | fuel + 1, g :: gs =>
    let (n, others) := unfolding ((g :: gs).map Glyph.code |>.take 3)
    let singles := others.filterMap (fun s => match s with
      | [c] => some c
      | _ => none)
    let replaced := fun (node : Node) (rest : List Glyph) =>
      textBefore plain.reverse (node :: unfoldedFrom behind [] fuel rest)
    let oneClass := set (CharClass.ofCodes (g.code :: singles))
    if behind then
      if n = 1 && !singles.isEmpty then replaced oneClass gs
      else unfoldedFrom behind (g :: plain) fuel gs
    else if others.isEmpty then unfoldedFrom behind (g :: plain) fuel gs
    else if singles.length = others.length then replaced oneClass (gs.drop (n - 1))
    else
      replaced (oneOf (text (((g :: gs).take n).flatMap Glyph.bytes) false :: others.map ofCodes))
        (gs.drop (n - 1))

/-- A text up to case as a pattern without case. -/
def unfolded (behind : Bool) (bs : List UInt8) : Node :=
  let gs := Glyph.list ⟨bs.toArray⟩
  match unfoldedFrom behind [] gs.length gs with
  | [] => emptyText
  | [n] => n
  | ns => sequence ns

end Node

end PatternSearch.Pattern
