/-
PatternSearch.Pattern.Glyph — the characters of a pattern, and reading
numbers and names off them.

A glyph keeps the bytes it was written with, because a pattern may hold bytes
that are no Unicode character. `Reading` is what all of the pattern's readers
are: a step that takes glyphs off the front of a list or refuses the pattern.
Numbers are read digit by digit in any base; names follow one of two rules,
one for the place that gives a name and one for the places that use it.
-/
import PatternSearch.Pattern.Refusal
import PatternSearch.Text.Number
import PatternSearch.Text.Property
import PatternSearch.Text.Utf8

namespace PatternSearch.Pattern

open Text

/-- A character of a pattern: its unit and its bytes. -/
structure Glyph where
  code : Nat
  bytes : List UInt8
  deriving DecidableEq, Repr, Inhabited

namespace Glyph

/-- The glyph as a character; NUL if it is none. -/
def char (g : Glyph) : Char := Char.ofNat g.code

/-- Whether the glyph is a given character. -/
def is (g : Glyph) (c : Char) : Bool := g.code == c.toNat

/-- Whether the glyph can be part of a word. Stray bytes are judged by their
number. -/
def isWord (g : Glyph) : Bool :=
  isWordCode (if g.code < strayBase then g.code else g.code - strayBase)

/-- The value of the glyph as a digit in a base of at most sixteen. -/
def digit? (base : Nat) (g : Glyph) : Option Nat :=
  match hexDigit? g.char with
  | some d => if d < base then some d else none
  | none => none

/-- The glyphs from an offset on; `fuel` bounds their number. -/
def listFrom (pattern : ByteArray) : Nat → Nat → List Glyph
  | 0, _ => []
  | fuel + 1, i =>
    if i < pattern.size then
      let next := i + widthAt pattern i
      ⟨unitAt pattern i, (pattern.extract i next).toList⟩ :: listFrom pattern fuel next
    else []

/-- The glyphs of a pattern. -/
def list (pattern : ByteArray) : List Glyph := listFrom pattern pattern.size 0

/-- The bytes of a run of glyphs. -/
def joined (gs : List Glyph) : ByteArray := ⟨(gs.flatMap Glyph.bytes).toArray⟩

end Glyph

/-- A step that takes glyphs off the front, or refuses. -/
abbrev Reading := StateT (List Glyph) (Except Refusal)

namespace Reading

/-- Gives the pattern up. -/
def refuse {α : Type} (r : Refusal) : Reading α := fun _ => .error r

/-- The next glyph, taken off. -/
def next? : Reading (Option Glyph) := fun gs =>
  match gs with
  | [] => .ok (none, [])
  | g :: rest => .ok (some g, rest)

/-- Takes a given character off, if it stands there. -/
def accept (c : Char) : Reading Bool := fun gs =>
  match gs with
  | g :: rest => if g.is c then .ok (true, rest) else .ok (false, gs)
  | [] => .ok (false, [])

end Reading

/-! ## Numbers -/

/-- At most `limit` digits off the front. -/
def takeDigits (base : Nat) : Nat → List Glyph → List Nat × List Glyph
  | 0, gs => ([], gs)
  | _ + 1, [] => ([], [])
  | limit + 1, g :: gs =>
    match g.digit? base with
    | some d =>
      let (ds, rest) := takeDigits base limit gs
      (d :: ds, rest)
    | none => ([], g :: gs)

/-- The number some digits write. -/
def digitsValue (base : Nat) (ds : List Nat) : Nat := ds.foldl (fun n d => base * n + d) 0

/-- The largest number a pattern may write in decimal. -/
def maxDecimal : Nat := 2147483647

/-- A decimal number of any length: how many digits it has and its value,
`none` if that is too large. -/
def readDecimal : Reading (Nat × Option Nat) := fun gs =>
  let (ds, rest) := takeDigits 10 gs.length gs
  let n := digitsValue 10 ds
  .ok ((ds.length, if n ≤ maxDecimal then some n else none), rest)

/-! ## Names -/

/-- How a group is referred to. -/
inductive Reference where
  /-- By its number. -/
  | number (n : Nat)
  /-- By its distance from the groups opened so far. -/
  | relative (offset : Int)
  /-- By its name. -/
  | name (bytes : ByteArray)

/-- The glyphs before the next closing sign or parenthesis, that sign, and
what follows it. -/
def spanName (close : Char) : List Glyph → List Glyph × Option Glyph × List Glyph
  | [] => ([], none, [])
  | g :: gs =>
    if g.is close || g.is ')' then ([], some g, gs)
    else
      let (body, stop, rest) := spanName close gs
      (g :: body, stop, rest)

/-- A name that is given here, up to its closing sign. The first character
must be a word character and no digit; what follows is free. -/
def readNewName (close : Char) : Reading ByteArray := fun gs =>
  match gs with
  | [] => .error .emptyName
  | first :: rest =>
    if first.is close then .error .emptyName
    else
      let (body, stop, after) := spanName close rest
      let faulty := fun (_ : Unit) =>
        match stop, after with
        | some _, _ :: _ => Glyph.joined (first :: body)
        | _, _ => Glyph.joined gs
      if (first.digit? 10).isSome || first.is '-' || first.is '+' then
        .error (.invalidName (faulty ()))
      else if !first.isWord then .error (.invalidNameCharacter (faulty ()))
      else
        match stop with
        | some s =>
          if s.is close then .ok (Glyph.joined (first :: body), after)
          else .error (.invalidName (Glyph.joined (first :: body)))
        | none =>
          .error (.invalidName (Glyph.joined (if body.isEmpty then gs else first :: body.dropLast)))

/-- What is known of a reference while its glyphs are read. -/
structure ReferenceState where
  /-- Whether it is a number so far, and a relative one. -/
  numeric : Bool
  relative : Bool
  /-- The number of digits so far. -/
  digits : Nat
  /-- Whether an unfit character came up, and whether a number turned out to
  be none. -/
  badCharacter : Bool
  badNumber : Bool

/-- The glyphs of a reference after the first, the sign that ends it, and
what follows. -/
def spanReference (close : Char) (st : ReferenceState) :
    List Glyph → ReferenceState × List Glyph × Option Glyph × List Glyph
  | [] => (st, [], none, [])
  | g :: gs =>
    if g.is close || g.is ')' || g.is '+' || g.is '-' then (st, [], some g, gs)
    else
      let st' :=
        if st.numeric then
          if (g.digit? 10).isSome then { st with digits := st.digits + 1 }
          else { st with numeric := false, relative := false, badNumber := true,
                         badCharacter := false }
        else if !g.isWord then { st with badCharacter := true, badNumber := false }
        else st
      let (out, body, stop, rest) := spanReference close st' gs
      (out, g :: body, stop, rest)

/-- How the part of a reference after its name ends. -/
inductive LevelEnd where
  /-- With the closing sign: the level, and what follows. -/
  | closed (level : Option Int) (rest : List Glyph)
  /-- With the pattern, right after a sign. -/
  | beyondEnd
  /-- In some other way. -/
  | broken

/-- A reference to a group, up to its closing sign, with its level. A signed
number counts from the groups opened so far; a level may follow after a sign.
-/
def readReference (close : Char) : Reading (Reference × Option Int) := fun gs =>
  match gs with
  | [] => .error .emptyName
  | first :: rest =>
    if first.is close then .error .emptyName
    else
      let isDigit := (first.digit? 10).isSome
      let isSign := first.is '-' || first.is '+'
      let (st, body, stop, after) :=
        spanReference close
          ⟨isDigit || isSign, isSign, if isDigit then 1 else 0,
            !(isDigit || isSign) && !first.isWord, false⟩ rest
      let whole :=
        match stop with
        | some _ => first :: body
        | none => if body.isEmpty then gs else first :: body.dropLast
      if st.badNumber || (stop.isSome && st.numeric && st.digits == 0) then
        .error (.invalidName (Glyph.joined whole))
      else if st.badCharacter then .error (.invalidNameCharacter (Glyph.joined whole))
      else
        match readLevel close stop after with
        | .beyondEnd => .error (.invalidNameCharacter (Glyph.joined whole))
        | .broken => .error (.invalidName (Glyph.joined gs))
        | .closed level tail =>
          if st.numeric then
            let n := digitsValue 10 ((whole.filterMap (Glyph.digit? 10)))
            if maxDecimal < n then .error .numberTooBig
            else if !st.relative then .ok ((.number n, level), tail)
            else if n = 0 then .error (.invalidName (Glyph.joined whole))
            else if first.is '-' then .ok ((.relative (-(n : Int)), level), tail)
            else .ok ((.relative n, level), tail)
          else .ok ((.name (Glyph.joined whole), level), tail)
where
  /-- What stands after the name: its closing sign, or a sign, a level and
  the closing sign. -/
  readLevel (close : Char) (stop : Option Glyph) (after : List Glyph) : LevelEnd :=
    match stop with
    | none => .broken
    | some s =>
      if s.is close then .closed none after
      else if s.is '+' || s.is '-' then
        if after.isEmpty then .beyondEnd
        else
          match takeDigits 10 after.length after with
          | ([], _) => .broken
          | (ds, g :: tail) =>
            let n : Int := digitsValue 10 ds
            if g.is close then .closed (some (if s.is '-' then -n else n)) tail else .broken
          | (_, []) => .broken
      else .broken

/-- What a call refers to, up to its closing sign: like a reference, but
without a level. The answer has the spelling with it. -/
def readCallTarget (close : Char) : Reading (Reference × ByteArray) := fun gs =>
  match gs with
  | [] => .error .emptyName
  | first :: rest =>
    if first.is close then .error .emptyName
    else
      let isDigit := (first.digit? 10).isSome
      let isSign := first.is '-' || first.is '+'
      let (body, stop, after) := spanName close rest
      if !(isDigit || isSign || first.isWord) then
        .error (.invalidNameCharacter (Glyph.joined
          (if stop.isSome && !after.isEmpty then first :: body else gs)))
      else
        match stop with
        | none =>
          .error (.invalidName (Glyph.joined (if body.isEmpty then gs else first :: body.dropLast)))
        | some s =>
          let whole := Glyph.joined (first :: body)
          if !s.is close then .error (.invalidName whole)
          else if isDigit || isSign then
            let ds := body.filterMap (Glyph.digit? 10)
            if ds.length < body.length || (isSign && body.isEmpty) then .error (.invalidName whole)
            else
              let n := digitsValue 10 ((first :: body).filterMap (Glyph.digit? 10))
              if maxDecimal < n then .error .numberTooBig
              else if isDigit then .ok ((.number n, whole), after)
              else if n = 0 then .error (.invalidName whole)
              else if first.is '-' then .ok ((.relative (-(n : Int)), whole), after)
              else .ok ((.relative n, whole), after)
          else .ok ((.name whole, whole), after)

end PatternSearch.Pattern
