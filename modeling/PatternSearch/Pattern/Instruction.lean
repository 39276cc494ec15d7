/-
PatternSearch.Pattern.Instruction — the steps that matching a pattern consists
of.

An instruction tests the text at the current place, moves on, or does something
with the choices: the places to go back to when the match gets stuck. Where it
goes on, unless it says otherwise, is with the next instruction. The type of
jump targets is a parameter: `Int` while code is put together, a distance from
the instruction itself, and `Nat` in finished code, the number of an
instruction (`Code.finished`).
-/
import PatternSearch.Pattern.Node

namespace PatternSearch.Pattern

open Text

/-- A step of a match, with targets of a given type. -/
inductive Instruction (α : Type) where
  /-- The pattern has matched. -/
  | finish
  /-- This way leads nowhere. -/
  | fail
  /-- Bytes that stand here. -/
  | text (bs : List UInt8)
  /-- A character that is a single byte of a set, one that is a code point of
  several bytes in a set, or one that is either; or any other character. -/
  | bytes (s : ByteSet) (negated : Bool)
  | wide (s : CodeSet) (negated : Bool)
  | either (bytes : ByteSet) (wide : CodeSet) (negated : Bool)
  /-- A word character, or any other. -/
  | word (negated ascii : Bool)
  /-- Any character; or any number of them, with a choice at each place or at
  those where a byte stands. -/
  | anyChar (withNewline : Bool)
  | anyChars (withNewline : Bool) (stop : Option UInt8)
  /-- A place. -/
  | anchor (a : Anchor)
  /-- What the first of some groups with a match has matched. -/
  | backref (r : Backreference)
  /-- A group begins or ends; whether that may have to be taken back, and
  whether the group can call itself. -/
  | openGroup (group : Nat) (revocable : Bool)
  | closeGroup (group : Nat) (revocable recursive : Bool)
  /-- Goes on elsewhere. -/
  | jump (target : α)
  /-- Notes a choice: to go on elsewhere, from here. The lasting kind is not
  cut off. -/
  | push (target : α)
  | pushLasting (target : α)
  /-- Notes a choice if a byte stands here; else goes on there at once, or
  does without. -/
  | pushOrJump (byte : UInt8) (target : α)
  | pushIf (byte : UInt8) (target : α)
  /-- Drops the entry noted last. -/
  | pop
  /-- A counted repetition begins; its end is at the target. -/
  | loopStart (id lo : Nat) (greedy : Bool) (target : α)
  /-- A round of it ends; the next one begins at the target. -/
  | loopNext (id lo : Nat) (hi : Option Nat) (greedy : Bool) (target : α)
  /-- A round begins or ends that may be empty. An empty one is the last, unless
  it changed a group that is watched: the instruction after the next one
  follows. -/
  | roundStart (id : Nat)
  | roundEnd (id : Nat) (watched : List Nat) (recursive : Bool)
  /-- Sets a mark, with the place or without. -/
  | mark (id : Nat)
  /-- Drops the choices since the mark, and goes back to its place or not. -/
  | cut (id : Nat) (toPlace : Bool)
  /-- Goes back to how everything was at the mark. -/
  | popTo (id : Nat)
  /-- Goes back some characters. With `more`, a choice is noted to go back
  further, one at a time and so often; the instruction for that follows and
  is passed over. -/
  | stepBack (count : Nat) (more : Option (Option Nat))
  | stepBackMore
  /-- Holds at the limit. -/
  | atLimit
  /-- Registers. -/
  | save (r : Register) (id : Nat)
  | restore (r : Register) (from_ : Register) (id : Nat)
  | limitHere
  | resetLimit
  /-- The match counts from here; at the end the last such place is taken. -/
  | keep
  | keepLast
  /-- Matches a group from elsewhere, or where it stands. -/
  | call (group : Nat) (here : Bool)
  | ret
  deriving Inhabited

namespace Instruction

/-- The instruction with another kind of targets. -/
def map {α β : Type} (f : α → β) : Instruction α → Instruction β
  | finish => finish
  | fail => fail
  | text bs => text bs
  | bytes s negated => bytes s negated
  | wide s negated => wide s negated
  | either b s negated => either b s negated
  | word negated ascii => word negated ascii
  | anyChar withNewline => anyChar withNewline
  | anyChars withNewline stop => anyChars withNewline stop
  | anchor a => anchor a
  | backref r => backref r
  | openGroup g revocable => openGroup g revocable
  | closeGroup g revocable recursive => closeGroup g revocable recursive
  | jump t => jump (f t)
  | push t => push (f t)
  | pushLasting t => pushLasting (f t)
  | pushOrJump b t => pushOrJump b (f t)
  | pushIf b t => pushIf b (f t)
  | pop => pop
  | loopStart id lo greedy t => loopStart id lo greedy (f t)
  | loopNext id lo hi greedy t => loopNext id lo hi greedy (f t)
  | roundStart id => roundStart id
  | roundEnd id watched recursive => roundEnd id watched recursive
  | mark id => mark id
  | cut id toPlace => cut id toPlace
  | popTo id => popTo id
  | stepBack count more => stepBack count more
  | stepBackMore => stepBackMore
  | atLimit => atLimit
  | save r id => save r id
  | restore r from_ id => restore r from_ id
  | limitHere => limitHere
  | resetLimit => resetLimit
  | keep => keep
  | keepLast => keepLast
  | call g here => call g here
  | ret => ret

end Instruction

/-- Code in which targets are distances. -/
abbrev Fragment := List (Instruction Int)

/-- Finished code. -/
structure Code where
  instructions : Array (Instruction Nat)
  /-- Where the groups that are called begin. -/
  entries : List (Nat × Nat)
  deriving Inhabited

namespace Code

/-- The code of a fragment that starts at the number 0. A group that stands in
several places is entered where it stands last. -/
def finished (f : Fragment) : Code where
  instructions := (f.zipIdx.map (fun (i, at_) => i.map (fun d => (d + (at_ : Int)).toNat))).toArray
  entries := (f.zipIdx.filterMap (fun (i, at_) => match i with
    | .call g true => some (g, at_ + 2)
    | _ => none)).reverse

/-- The instruction of a number; there is no way on beyond the last one. -/
@[inline] def fetch (c : Code) (pc : Nat) : Instruction Nat := c.instructions.getD pc .fail

end Code

end PatternSearch.Pattern
