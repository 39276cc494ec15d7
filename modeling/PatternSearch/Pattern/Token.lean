/-
PatternSearch.Pattern.Token — the words of a pattern outside its classes.

`Token.next` takes one token off the front. What counts as a token depends on
the grammar, on two options that a pattern can switch while it is read, and on
how many groups have been opened, since a number after a backslash may refer
to a group or be a code in octal. Spellings without a meaning in the grammar
are plain text.
-/
import PatternSearch.Pattern.Glyph
import PatternSearch.Pattern.Grammar
import PatternSearch.Pattern.Node

namespace PatternSearch.Pattern

open Text

/-- A repetition as it is written. -/
structure Repeat where
  lo : Nat
  hi : Option Nat
  greedy : Bool
  possessive : Bool

/-- The options that a pattern can switch while it is read. -/
structure Letters where
  caseless : Bool
  extended : Bool
  multiLine : Bool
  singleLine : Bool
  /-- Only ASCII counts as a word character, a digit, a space, or in the named
  classes. -/
  asciiWord : Bool := false
  asciiDigit : Bool := false
  asciiSpace : Bool := false
  asciiNamed : Bool := false

namespace Letters

/-- Whether a kind of character is restricted to ASCII. -/
def wordInAscii (l : Letters) : Bool := l.asciiWord || l.asciiNamed
def digitInAscii (l : Letters) : Bool := l.asciiDigit || l.asciiNamed
def spaceInAscii (l : Letters) : Bool := l.asciiSpace || l.asciiNamed

end Letters

/-- A word of a pattern. -/
inductive Token where
  /-- The end of the pattern. -/
  | finish
  /-- A character that stands for itself. -/
  | text (g : Glyph)
  /-- Characters given by their numbers. -/
  | codes (cs : List Nat)
  /-- A byte given by its number. -/
  | byte (b : Nat)
  /-- A stretch in which nothing has a meaning. -/
  | quoted (gs : List Glyph)
  /-- Any character; `none` leaves the newline to the options. -/
  | anyChar (withNewline : Option Bool)
  /-- A pattern that is complete in itself. -/
  | whole (n : Node)
  /-- What a group matched, perhaps at a level. -/
  | reference (r : Reference) (level : Option Int)
  /-- What a group would match, with its spelling. -/
  | call (r : Reference) (spelling : ByteArray)
  | bar
  | openGroup
  | closeGroup (g : Glyph)
  | openClass
  /-- A repetition, with its spelling. -/
  | repeats (r : Repeat) (spelling : List Glyph)

/-- What the reading of a token depends on. -/
structure TokenContext where
  grammar : Grammar
  letters : Letters
  /-- How many groups have been opened. -/
  groups : Nat
  /-- All of the pattern. -/
  pattern : Array Glyph

namespace TokenContext

/-- Whether the part of the pattern that `gs` ends in begins there: at the
start, or after the opening of a group or a bar that are written with a
backslash. -/
def startsPart (ctx : TokenContext) (gs : List Glyph) : Bool :=
  match (ctx.pattern.toList.take (ctx.pattern.size - gs.length)).reverse with
  | [] => true
  | c :: before =>
    (c.is '(' || (c.is '|' && ctx.grammar.escapedBar))
      && ctx.grammar.escapes
      && (before.takeWhile (fun d => d.is '\\')).length % 2 == 1

/-- Whether a part of the pattern ends before `gs`. -/
def endsPart (ctx : TokenContext) (gs : List Glyph) : Bool :=
  match gs with
  | [] => true
  | b :: c :: _ =>
    ctx.grammar.escapes && b.is '\\' && (c.is ')' || (c.is '|' && ctx.grammar.escapedBar))
  | _ => false

end TokenContext

/-! ## Values after a backslash -/

/-- The control character a letter stands for after a backslash. -/
def controlEscape? (g : Grammar) (c : Char) : Option Nat :=
  if !g.controlEscapes then none
  else match c with
    | 'n' => some 0x0A
    | 't' => some 0x09
    | 'r' => some 0x0D
    | 'f' => some 0x0C
    | 'a' => some 0x07
    | 'b' => some 0x08
    | 'e' => some 0x1B
    | 'v' => if g.verticalTab then some 0x0B else none
    | _ => none

/-- A byte with its high bit set. -/
def withMeta (c : Nat) : Nat := if c % 0x100 < 0x80 then c % 0x100 + 0x80 else c % 0x100

/-- A character's code with its two control bits cleared. -/
def withControl (c : Nat) : Nat :=
  if c % 0x100 < 0x80 then c % 0x20 else 0x80 + c % 0x20

/-- The value of what stands after a backslash, when it is no operator:
control and meta characters, or else the character itself. -/
def escapedValue (g : Grammar) : List Glyph → Except Refusal (Nat × List Glyph)
  | [] => .error .escapeAtEnd
  | c :: cs =>
    if g.metaBar && c.is 'M' then
      match cs with
      | [] => .error .metaAtEnd
      | hyphen :: cs =>
        if !hyphen.is '-' then .error .malformedMeta
        else match cs with
          | [] => .error .metaAtEnd
          | d :: cs =>
            if d.is '\\' then (escapedValue g cs).map (fun r => (withMeta r.1, r.2))
            else .ok (withMeta d.code, cs)
    else if g.controlBar && c.is 'C' then
      match cs with
      | [] => .error .controlAtEnd
      | hyphen :: cs =>
        if !hyphen.is '-' then .error .malformedControl
        else match cs with
          | [] => .error .controlAtEnd
          | d :: cs =>
            if d.is '?' then .ok (0x7F, cs)
            else if d.is '\\' then
              (escapedValue g cs).map (fun r => (withControl r.1, r.2))
            else .ok (withControl d.code, cs)
    else if g.controlLetter && c.is 'c' then
      match cs with
      | [] => .error .controlAtEnd
      | d :: cs =>
        if d.is '?' then .ok (0x7F, cs)
        else if d.is '\\' then
          (escapedValue g cs).map (fun r => (withControl r.1, r.2))
        else .ok (withControl d.code, cs)
    else .ok ((controlEscape? g c.char).getD c.code, cs)

/-- A number between braces, the opening one already taken off: `none` if no
digit follows. Several numbers may stand there, set apart by blanks. -/
def bracedCodes? (base limit : Nat) (gs : List Glyph) :
    Except Refusal (Option (List Nat × List Glyph)) :=
  match takeDigits base limit gs with
  | ([], _) => .ok none
  | (ds, rest) => closing [digitsValue base ds] rest gs.length
where
  /-- The rest after a number: the closing brace, or blanks and one more
  number. -/
  closing (read : List Nat) (rest : List Glyph) :
      Nat → Except Refusal (Option (List Nat × List Glyph))
    | 0 => .error .invalidCode
    | fuel + 1 =>
      match rest with
      | [] => .error .invalidCode
      | g :: tail =>
        if (g.digit? base).isSome then .error .tooManyDigits
        else if g.is '\x7d' then .ok (some (read.reverse, tail))
        else if g.is ' ' || g.is '\n' then
          match takeDigits base limit (tail.dropWhile (fun h => h.is ' ' || h.is '\n')) with
          | ([], g :: tail) =>
            if g.is '\x7d' then .ok (some (read.reverse, tail)) else .error .invalidCode
          | ([], []) => .error .invalidCode
          | (ds, rest) => closing (digitsValue base ds :: read) rest fuel
        else .error .invalidCode

/-- A property in braces, the opening one already taken off, up to the
closing one; a caret in front turns it round where the grammar has that. The
answer says whether it was turned round. -/
def readProperty (g : Grammar) : Reading (Property × Bool) := do
  let turned ← if g.propertyCaret then Reading.accept '^' else pure false
  fun gs =>
    let name := gs.takeWhile (fun c => !isEnd c)
    match gs.dropWhile (fun c => !isEnd c) with
    | [] => .error .unclosedGroup
    | stop :: rest =>
      if !stop.is '\x7d' then .error (.unknownProperty (Glyph.joined name))
      else if name.any (fun c => 0x80 ≤ c.code) then
        .error (.unknownProperty (Glyph.joined name))
      else match Property.ofName? (name.map Glyph.char) with
        | some p => .ok ((p, turned), rest)
        | none => .error (.unknownProperty (Glyph.joined name))
where
  /-- What cannot stand in a property's name. -/
  isEnd (c : Glyph) : Bool :=
    c.is '\x7d' || c.is '(' || c.is ')' || c.is '\x7b' || c.is '|'

/-! ## Repetitions -/

/-- The largest number of repetitions. -/
def maxRepeat : Nat := 100000

/-- An interval, the opening brace already taken off. -/
inductive IntervalRead where
  /-- None; the brace is plain text. -/
  | plain
  /-- Bounds; an interval that names one number only is exact, one whose
  numbers are the wrong way round is possessive. -/
  | bounds (lo : Nat) (hi : Option Nat) (exact possessive : Bool) (rest : List Glyph)

/-- Reads an interval; `escaped` if its closing brace needs a backslash. -/
def readInterval (g : Grammar) (escaped : Bool) (gs : List Glyph) :
    Except Refusal IntervalRead := do
  let plain : Except Refusal IntervalRead :=
    if g.looseInterval then .ok .plain else .error .invalidInterval
  match gs with
  | [] => if g.looseInterval then return .plain else throw .unfinishedInterval
  | c :: _ =>
    if !g.looseInterval && (c.is '(' || c.is ')' || c.is '|') then throw .unfinishedInterval
  let ((lowDigits, low?), rest) ← readDecimal gs
  let some low := low? | throw .countTooBig
  if maxRepeat < low then throw .countTooBig
  if lowDigits = 0 && !g.openInterval then return ← plain
  match rest with
  | [] => plain
  | c :: afterComma =>
    if c.is ',' then
      let ((highDigits, high?), rest) ← readDecimal afterComma
      let some high := high? | throw .countTooBig
      if maxRepeat < high then throw .countTooBig
      if highDigits = 0 then
        if lowDigits = 0 then return ← plain
        return ← close plain low none false rest
      close plain low (some high) false rest
    else if lowDigits = 0 then plain
    else close plain low (some low) true rest
where
  /-- The closing brace, and the order of the bounds. -/
  close (plain : Except Refusal IntervalRead) (lo : Nat) (hi : Option Nat)
      (exact : Bool) (rest : List Glyph) : Except Refusal IntervalRead :=
    match (if escaped then (match rest with
        | b :: tail => if b.is '\\' then tail else []
        | [] => []) else rest) with
    | [] => plain
    | b :: tail =>
      if !b.is '\x7d' then plain
      else match hi with
        | none => .ok (.bounds lo none exact false tail)
        | some n =>
          if n < lo then
            if g.possessiveInterval then .error .reversedCount
            else .ok (.bounds n (some lo) exact true tail)
          else .ok (.bounds lo (some n) exact false tail)

/-- The sign after a repetition that makes it lazy or possessive. -/
def repeatSuffix (g : Grammar) (isInterval exact possessive : Bool) (lo : Nat)
    (hi : Option Nat) (gs : List Glyph) : Repeat × List Glyph :=
  let fixed : Repeat := ⟨lo, hi, true, possessive⟩
  match gs with
  | [] => (fixed, [])
  | c :: rest =>
    if possessive then (fixed, gs)
    else if c.is '?' && g.lazyRepeat && !(exact && g.exactIsGreedy) then
      (⟨lo, hi, false, false⟩, rest)
    else if c.is '+' && (if isInterval then g.possessiveInterval else g.possessiveRepeat) then
      (⟨lo, hi, true, true⟩, rest)
    else (fixed, gs)

/-! ## Comments and blanks -/

/-- Where in a stretch without meaning a reader is. -/
inductive Fill where
  /-- Between two tokens. -/
  | between
  /-- In a comment that ends with its line. -/
  | line
  /-- Before the opening of a comment in parentheses, this many characters
  of it still to pass over. -/
  | opening (n : Nat)
  /-- Inside such a comment, or after a backslash in it. -/
  | group
  | escaped

/-- A blank that does not count in extended patterns. -/
def isFillBlank (c : Glyph) : Bool :=
  c.is ' ' || c.is '\t' || c.is '\n' || c.is '\r' || c.code == 0x0C

/-- The glyphs from the next token on. -/
def skipFill (g : Grammar) (extended : Bool) : Fill → List Glyph → Except Refusal (List Glyph)
  | .between, [] | .line, [] => .ok []
  | _, [] => .error .endInGroup
  | .between, c :: cs =>
    if extended && isFillBlank c then skipFill g extended .between cs
    else if extended && c.is '#' then skipFill g extended .line cs
    else if g.groupEffects && c.is '(' && (cs.take 2).map Glyph.char == ['?', '#'] then
      skipFill g extended (.opening 2) cs
    else .ok (c :: cs)
  | .line, c :: cs => skipFill g extended (if c.is '\n' then .between else .line) cs
  | .opening (n + 2), _ :: cs => skipFill g extended (.opening (n + 1)) cs
  | .opening _, _ :: cs => skipFill g extended .group cs
  | .group, c :: cs =>
    skipFill g extended
      (if c.is '\\' && g.escapes then .escaped else if c.is ')' then .between else .group) cs
  | .escaped, _ :: cs => skipFill g extended .group cs

/-! ## Tokens -/

namespace Token

/-- The glyphs up to the end of a quotation, and those after it. -/
def spanQuotation : List Glyph → List Glyph × List Glyph
  | [] => ([], [])
  | [c] => ([c], [])
  | c :: d :: rest =>
    if c.is '\\' && d.is 'E' then ([], rest)
    else
      let (inside, after) := spanQuotation (d :: rest)
      (c :: inside, after)

/-- The pattern of a property. -/
def ofProperty (p : Property) (negated : Bool) : Token :=
  match p with
  | .word => whole (.word negated false)
  | .codes s => whole (.set { CharClass.ofSet s false with negated := negated })

/-- A kind of character, perhaps restricted to ASCII. -/
def ofKind (s : CodeSet) (ascii negated : Bool) : Token :=
  ofProperty (.codes (if ascii then s.inter (.range 0 0x7F) else s)) negated

/-- A repetition, from its bounds to its last sign; `gs` is where its
spelling began. -/
def ofRepeat (g : Grammar) (gs : List Glyph) (lo : Nat) (hi : Option Nat) : Reading Token :=
  fun rest =>
    let (r, rest) := repeatSuffix g false false false lo hi rest
    .ok (repeats r (gs.take (gs.length - rest.length)), rest)

/-- An interval, or the brace as plain text. -/
def ofInterval (g : Grammar) (escaped : Bool) (brace : Glyph) (gs : List Glyph) :
    Reading Token := fun rest => do
  match ← readInterval g escaped rest with
  | .plain => return (text brace, rest)
  | .bounds lo hi exact possessive rest =>
    let (r, rest) := repeatSuffix g true exact possessive lo hi rest
    return (repeats r (gs.take (gs.length - rest.length)), rest)

/-- A number after a backslash, its first digit being `first`: a group, or an
octal code, or the digit itself. -/
def ofNumber (ctx : TokenContext) (first : Glyph) (gs : List Glyph) : Reading Token :=
  fun rest =>
    let (ds, after) := takeDigits 10 gs.length gs
    let n := digitsValue 10 ds
    if !first.is '0' && n ≤ maxDecimal && ctx.grammar.backreference
        && (n ≤ ctx.groups || n ≤ 9) then
      .ok (reference (.number n) none, after)
    else if first.is '8' || first.is '9' then .ok (text first, rest)
    else if ctx.grammar.octal then
      let (ds, after) :=
        if first.is '0' then takeDigits 8 2 rest else takeDigits 8 3 gs
      let n := digitsValue 8 ds
      if 256 ≤ n then .error .numberTooBig else .ok (byte n, after)
    else .ok (text first, rest)

/-- A code after a backslash and `x`, in braces or not. -/
def ofHex (ctx : TokenContext) (x : Glyph) : Reading Token := fun rest => do
  match rest with
  | [] => return (text x, [])
  | c :: tail =>
    if ctx.grammar.bracedHex && c.is '\x7b' then
      match ← bracedCodes? 16 8 tail with
      | some (cs, after) => return (codes cs, after)
      | none => return (text x, rest)
    else if ctx.grammar.hex then
      let (ds, after) := takeDigits 16 2 rest
      return (byte (digitsValue 16 ds), after)
    else return (text x, rest)

/-- A code after a backslash and `o`, in braces. -/
def ofOctal (ctx : TokenContext) (o : Glyph) : Reading Token := fun rest => do
  match rest with
  | [] => return (text o, [])
  | c :: tail =>
    if ctx.grammar.bracedOctal && c.is '\x7b' then
      match ← bracedCodes? 8 11 tail with
      | some (cs, after) => return (codes cs, after)
      | none => return (text o, rest)
    else return (text o, rest)

/-- A code of four digits after a backslash and `u`. -/
def ofFourDigits (ctx : TokenContext) (u : Glyph) : Reading Token := fun rest =>
  if rest.isEmpty || !ctx.grammar.hexFour then .ok (text u, rest)
  else
    let (ds, after) := takeDigits 16 4 rest
    if ds.length < 4 then .error .invalidCode
    else .ok (codes [digitsValue 16 ds], after)

/-- A reference by name after a backslash and `k`. -/
def ofNamedReference (ctx : TokenContext) (k : Glyph) : Reading Token := fun rest => do
  match rest with
  | [] => return (text k, [])
  | c :: tail =>
    if ctx.grammar.namedBackreference && (c.is '<' || c.is '\'') then
      let ((r, level), after) ← readReference (if c.is '<' then '>' else '\'') tail
      return (reference r level, after)
    else return (text k, rest)

/-- A call by name after a backslash and `g`. -/
def ofNamedCall (ctx : TokenContext) (g : Glyph) : Reading Token := fun rest => do
  match rest with
  | [] => return (text g, [])
  | c :: tail =>
    if ctx.grammar.calls && (c.is '<' || c.is '\'') then
      let ((r, spelling), after) ← readCallTarget (if c.is '<' then '>' else '\'') tail
      return (call r spelling, after)
    else return (text g, rest)

/-- Everything up to the end of the quotation. -/
def ofQuotation : Reading Token := fun rest =>
  let (inside, after) := spanQuotation rest
  .ok (quoted inside, after)

/-- A property after a backslash and `p`, in braces. -/
def ofNamedProperty (ctx : TokenContext) (p : Glyph) (negated : Bool) : Reading Token :=
  fun rest => do
    match rest with
    | [] => return (text p, [])
    | brace :: tail =>
      if ctx.grammar.property && brace.is '\x7b' then
        let ((property, turned), after) ← readProperty ctx.grammar tail
        return (ofProperty property (negated != turned), after)
      else if ctx.grammar.shortProperty then
        match Property.ofName? [brace.char] with
        | some property => return (ofProperty property negated, tail)
        | none => throw (.unknownProperty (Glyph.joined [brace]))
      else return (text p, rest)

/-- A control or meta character after a backslash, or the character itself. -/
def ofControl (ctx : TokenContext) (c : Glyph) (gs : List Glyph) : Reading Token :=
  fun rest => do
    let (value, after) ← escapedValue ctx.grammar gs
    if value = c.code then return (text c, rest) else return (codes [value], after)

/-- What stands after a backslash, its first character `c` already taken off.
`gs` starts with that character. -/
def ofEscape (ctx : TokenContext) (c : Glyph) (gs : List Glyph) : Reading Token := do
  let g := ctx.grammar
  let l := ctx.letters
  let when (on : Bool) (t : Token) : Reading Token := pure (if on then t else text c)
  match c.char with
  | '*' => pure (text c)
  | '+' => if g.escapedPlus then ofRepeat g gs 1 none else pure (text c)
  | '?' => if g.escapedOptional then ofRepeat g gs 0 (some 1) else pure (text c)
  | '\x7b' => if g.escapedInterval then ofInterval g true c gs else pure (text c)
  | '|' => when g.escapedBar bar
  | '(' => when g.escapedGroup openGroup
  | ')' => when g.escapedGroup (closeGroup c)
  | 'w' => when g.wordType (whole (.word false l.wordInAscii))
  | 'W' => when g.wordType (whole (.word true l.wordInAscii))
  | 's' => when g.spaceType (ofKind whiteSpace l.spaceInAscii false)
  | 'S' => when g.spaceType (ofKind whiteSpace l.spaceInAscii true)
  | 'd' => when g.digitType (ofKind digitCodes l.digitInAscii false)
  | 'D' => when g.digitType (ofKind digitCodes l.digitInAscii true)
  | 'h' => when g.hexDigitType (ofKind hexDigitCodes false false)
  | 'H' => when g.hexDigitType (ofKind hexDigitCodes false true)
  | 'b' => when g.wordBoundary (whole (.anchor (.wordBoundary l.wordInAscii)))
  | 'B' => when g.wordBoundary (whole (.anchor (.noWordBoundary l.wordInAscii)))
  | 'y' => when g.segments (whole (.anchor .segmentBoundary))
  | 'Y' => when g.segments (whole (.anchor .noSegmentBoundary))
  | 'X' => when g.segments (whole .segment)
  | '<' => when g.wordEdges (whole (.anchor (.wordStart l.wordInAscii)))
  | '>' => when g.wordEdges (whole (.anchor (.wordEnd l.wordInAscii)))
  | 'A' => when g.textAnchors (whole (.anchor .textStart))
  | 'Z' =>
    when g.textAnchors (whole (.anchor (if g.strictEnd then .textEnd else .textEndOrNewline)))
  | 'z' =>
    if g.textAnchors && g.strictEnd then Reading.refuse .undefinedOperator
    else when g.textAnchors (whole (.anchor .textEnd))
  | 'G' => when g.positionAnchor (whole (.anchor .searchStart))
  | '\x60' => when g.quoteAnchors (whole (.anchor .textStart))
  | '\'' => when g.quoteAnchors (whole (.anchor .textEnd))
  | 'K' => when g.keep (whole .keep)
  | 'R' => when g.generalNewline (whole .anyNewline)
  | 'N' => when g.plainDots (anyChar (some false))
  | 'O' => when g.plainDots (anyChar (some true))
  | 'x' => ofHex ctx c
  | 'o' => ofOctal ctx c
  | 'u' => ofFourDigits ctx c
  | 'k' => ofNamedReference ctx c
  | 'g' => ofNamedCall ctx c
  | 'Q' => if g.quotation then ofQuotation else pure (text c)
  | 'p' => ofNamedProperty ctx c false
  | 'P' => ofNamedProperty ctx c true
  | _ => if (c.digit? 10).isSome then ofNumber ctx c gs else ofControl ctx c gs

/-- A reference or a call that is written like a group, the parenthesis
already taken off; `none` if it is a group. -/
def ofGroupLike? (g : Grammar) (rest : List Glyph) :
    Option (Except Refusal (Token × List Glyph)) :=
  let called := fun (gs : List Glyph) => do
    let ((r, spelling), after) ← readCallTarget ')' gs
    return (call r spelling, after)
  match rest with
  | mark :: c :: tail =>
    if !(g.groupEffects && mark.is '?') then none
    else if g.letteredName && c.is 'P' then
      match tail with
      | d :: gs =>
        if d.is '=' then some (do
          let ((r, level), after) ← readReference ')' gs
          return (reference r level, after))
        else if d.is '>' then some (called gs)
        else none
      | [] => none
    else if !g.groupCalls then none
    else if c.is '&' then some (called tail)
    else if c.is 'R' then
      match tail with
      | d :: _ =>
        some (if d.is ')' then .ok (call (.number 0) .empty, tail) else .error (.invalidName .empty))
      | [] => some (.error (.invalidName .empty))
    else if (c.digit? 10).isSome then some (called (c :: tail))
    else if (c.is '-' || c.is '+') && (tail.head?.bind (Glyph.digit? 10)).isSome then
      some (called (c :: tail))
    else none
  | _ => none

/-- A token that does not start with a backslash; `gs` starts with its first
character `c`, which is already taken off. -/
def ofPlain (ctx : TokenContext) (c : Glyph) (gs : List Glyph) : Reading Token := do
  let g := ctx.grammar
  let when (on : Bool) (t : Token) : Reading Token := pure (if on then t else text c)
  match c.char with
  | '.' => when g.dot (anyChar none)
  | '*' => if g.star then ofRepeat g gs 0 none else pure (text c)
  | '+' => if g.plus then ofRepeat g gs 1 none else pure (text c)
  | '?' => if g.optional then ofRepeat g gs 0 (some 1) else pure (text c)
  | '\x7b' => if g.interval then ofInterval g false c gs else pure (text c)
  | '|' => when g.bar bar
  | '(' => fun rest =>
    match ofGroupLike? g rest with
    | some token => token
    | none => .ok (if g.group then openGroup else text c, rest)
  | ')' => when g.group (closeGroup c)
  | '^' =>
    when (g.lineAnchors && (!g.edgeAnchors || ctx.startsPart gs))
      (whole (.anchor (if ctx.letters.singleLine then .textStart else .lineStart)))
  | '$' => do
    when (g.lineAnchors && (!g.edgeAnchors || ctx.endsPart (← get)))
      (whole (.anchor (if ctx.letters.singleLine then .textEndOrNewline else .lineEnd)))
  | '[' => when g.bracket openClass
  | _ => pure (text c)

/-- The next token. -/
def next (ctx : TokenContext) : Reading Token := fun gs => do
  match ← skipFill ctx.grammar ctx.letters.extended .between gs with
  | [] => return (finish, [])
  | c :: rest =>
    if ctx.grammar.escapes && c.is '\\' then
      match rest with
      | [] => throw .escapeAtEnd
      | d :: tail => ofEscape ctx d rest tail
    else ofPlain ctx c (c :: rest) rest

end Token

end PatternSearch.Pattern
