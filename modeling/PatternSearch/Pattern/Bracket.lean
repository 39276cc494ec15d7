/-
PatternSearch.Pattern.Bracket — the classes of a pattern, from the opening
bracket to the closing one.

Inside a class other signs have a meaning than outside, so classes have
tokens of their own (`ClassToken`). The members are read one token at a time
in one of five states: what a hyphen means depends on what stood before it.
`readClass` answers with the class, `readBracket` with its pattern.
-/
import PatternSearch.Pattern.Token

namespace PatternSearch.Pattern

open Text

/-- A word of a class. -/
inductive ClassToken where
  | finish
  | close
  | hyphen
  /-- Two ampersands: what precedes and what follows must both hold. -/
  | both
  | openClass
  /-- A name between colons, turned round by a caret or not. -/
  | named (negated : Bool) (name : List Glyph)
  /-- A character that stands for itself, after a backslash or not. -/
  | text (g : Glyph) (escaped : Bool)
  /-- A code point, or a byte, given by its number; a byte with its base. -/
  | code (c : Nat)
  | byte (b base : Nat)
  /-- A whole class. -/
  | set (s : CharClass)

/-- What the reading of a class depends on. -/
structure ClassContext where
  grammar : Grammar
  letters : Letters

namespace ClassToken

/-- A letter of ASCII. -/
def isNameLetter (c : Glyph) : Bool :=
  c.code < 0x80 && c.char.isAlpha

/-- A name between colons and a closing bracket, the opening bracket already
taken off. -/
def bracketName? (gs : List Glyph) : Option (ClassToken × List Glyph) :=
  match gs with
  | [] => none
  | colon :: rest =>
    if !colon.is ':' then none
    else
      let negated := match rest with
        | c :: _ => c.is '^'
        | [] => false
      let body := if negated then rest.drop 1 else rest
      let name := body.takeWhile isNameLetter
      match name, body.dropWhile isNameLetter with
      | _ :: _, c :: d :: after =>
        if c.is ':' && d.is ']' then some (named negated name, after) else none
      | _, _ => none

/-- The members of a kind, perhaps restricted to ASCII. -/
def ofKind (s : CodeSet) (ascii negated : Bool) : ClassToken :=
  set (.ofSet (if ascii then s.inter (.range 0 0x7F) else s) negated)

/-- A code after a backslash and `x` in a class. -/
def ofHex (g : Grammar) (x : Glyph) : Reading ClassToken := fun rest => do
  match rest with
  | [] => return (text x true, [])
  | c :: tail =>
    if g.bracedHex && c.is '\x7b' then
      match ← bracedCodes? 16 8 tail with
      | some ([n], after) => return (code n, after)
      | some _ => throw .invalidCode
      | none => return (text x true, rest)
    else if g.hex then
      let (ds, after) := takeDigits 16 2 rest
      return (byte (digitsValue 16 ds) 16, after)
    else return (text x true, rest)

/-- A code after a backslash and `o` in a class. -/
def ofOctal (g : Grammar) (o : Glyph) : Reading ClassToken := fun rest => do
  match rest with
  | [] => return (text o true, [])
  | c :: tail =>
    if g.bracedOctal && c.is '\x7b' then
      match ← bracedCodes? 8 11 tail with
      | some ([n], after) => return (code n, after)
      | some _ => throw .invalidCode
      | none => return (text o true, rest)
    else return (text o true, rest)

/-- A code of four digits after a backslash and `u` in a class. -/
def ofFourDigits (g : Grammar) (u : Glyph) : Reading ClassToken := fun rest =>
  if rest.isEmpty || !g.hexFour then .ok (text u true, rest)
  else
    let (ds, after) := takeDigits 16 4 rest
    if ds.length < 4 then .error .invalidCode
    else .ok (code (digitsValue 16 ds), after)

/-- A property after a backslash and `p` in a class. -/
def ofNamedProperty (g : Grammar) (p : Glyph) (negated : Bool) : Reading ClassToken :=
  fun rest => do
    match rest with
    | [] => return (text p true, [])
    | brace :: tail =>
      if g.property && brace.is '\x7b' then
        let ((property, turned), after) ← readProperty g tail
        return (set (.ofSet property.toSet (negated != turned)), after)
      else if g.shortProperty then
        match Property.ofName? [brace.char] with
        | some property => return (set (.ofSet property.toSet negated), tail)
        | none => throw (.unknownProperty (Glyph.joined [brace]))
      else return (text p true, rest)

/-- A byte in octal after a backslash in a class; `gs` starts with its first
digit. -/
def ofOctalDigits (g : Grammar) (c : Glyph) (gs : List Glyph) : Reading ClassToken :=
  fun rest =>
    if !g.octal then .ok (text c true, rest)
    else
      let (ds, after) := takeDigits 8 3 gs
      let n := digitsValue 8 ds
      if 256 ≤ n then .error .numberTooBig else .ok (byte n 8, after)

/-- A control or meta character after a backslash in a class, or the
character itself. -/
def ofControl (g : Grammar) (c : Glyph) (gs : List Glyph) : Reading ClassToken :=
  fun _ => do
    let (value, after) ← escapedValue g gs
    if value = c.code then return (text c true, after) else return (code value, after)

/-- What stands after a backslash in a class, its first character `c` already
taken off; `gs` starts with that character. -/
def ofEscape (ctx : ClassContext) (c : Glyph) (gs : List Glyph) : Reading ClassToken :=
  let g := ctx.grammar
  let l := ctx.letters
  match c.char with
  | 'w' => pure (ofKind wordCodes l.wordInAscii false)
  | 'W' => pure (ofKind wordCodes l.wordInAscii true)
  | 'd' => pure (ofKind digitCodes l.digitInAscii false)
  | 'D' => pure (ofKind digitCodes l.digitInAscii true)
  | 's' => pure (ofKind whiteSpace l.spaceInAscii false)
  | 'S' => pure (ofKind whiteSpace l.spaceInAscii true)
  | 'h' => pure (if g.hexDigitType then ofKind hexDigitCodes false false else text c true)
  | 'H' => pure (if g.hexDigitType then ofKind hexDigitCodes false true else text c true)
  | 'p' => ofNamedProperty g c false
  | 'P' => ofNamedProperty g c true
  | 'x' => ofHex g c
  | 'o' => ofOctal g c
  | 'u' => ofFourDigits g c
  | _ => if (c.digit? 8).isSome then ofOctalDigits g c gs else ofControl g c gs

/-- The next token of a class. -/
def next (ctx : ClassContext) : Reading ClassToken := fun gs =>
  let g := ctx.grammar
  match gs with
  | [] => .ok (finish, [])
  | c :: rest =>
    if c.is ']' then .ok (close, rest)
    else if c.is '-' then .ok (hyphen, rest)
    else if g.escapes && g.classEscapes && c.is '\\' then
      match rest with
      | [] => .error .escapeAtEnd
      | d :: tail => ofEscape ctx d rest tail
    else if c.is '[' then
      match (if g.bracketNames then bracketName? rest else none) with
      | some found => .ok found
      | none => .ok (if g.classOperators then openClass else text c false, rest)
    else if g.classOperators && c.is '&' then
      match rest with
      | d :: tail => if d.is '&' then .ok (both, tail) else .ok (text c false, rest)
      | [] => .ok (text c false, rest)
    else .ok (text c false, rest)

end ClassToken

/-- The class of a name between colons. -/
def namedClass (l : Letters) (negated : Bool) (name : List Glyph) : Except Refusal CharClass :=
  let name := String.ofList (name.map Glyph.char)
  if Property.bracketNames.contains name then
    let ascii :=
      if name = "word" then l.wordInAscii
      else if name = "digit" then l.digitInAscii
      else if name = "space" then l.spaceInAscii
      else l.asciiNamed
    let s := (Property.ofBracketName name).toSet
    .ok (.ofSet (if ascii then s.inter (.range 0 0x7F) else s) negated)
  else .error .unknownBracketName

/-! ## Members -/

/-- A single member: its number, and whether it is a single byte. -/
structure Member where
  number : Nat
  isByte : Bool

namespace Member

/-- The member a code point is. -/
def ofCode (c : Nat) : Except Refusal Member :=
  if strayBase ≤ c then .error .codeTooLarge else .ok ⟨c, c < 0x80⟩

/-- The member a character of the pattern is. Bytes that lead nothing are
none. -/
def ofGlyph (g : Glyph) : Except Refusal Member :=
  if strayBase ≤ g.code then .error .invalidCode else .ok ⟨g.code, g.code < 0x80⟩

/-- The class with the member. -/
def insert (m : Member) (s : CharClass) : CharClass :=
  if m.isByte then s.insertByte m.number else s.insertCode m.number

/-- The class with everything from one member to another. -/
def insertThrough (g : Grammar) (a b : Member) (s : CharClass) : Except Refusal CharClass :=
  if b.number < a.number then
    if g.emptyRange then .ok s else .error .reversedRange
  else if a.isByte && b.isByte then .ok (s.insertBytes a.number b.number)
  else if !a.isByte && !b.isByte then .ok (s.insertCodes a.number b.number)
  else .ok ((s.insertBytes a.number (min b.number 0xFF)).insertCodes a.number b.number)

end Member

/-- What stood before the next token of a class. -/
inductive ClassState where
  /-- Nothing yet. -/
  | start
  /-- A member, which a hyphen could make the start of a range. -/
  | member (m : Member)
  /-- A whole set. -/
  | type
  /-- A member and a hyphen. -/
  | range (m : Member)
  /-- A range or an inner class. -/
  | complete

namespace ClassState

/-- The class together with the member that is still open. -/
def settled (st : ClassState) (s : CharClass) : CharClass :=
  match st with
  | member m => m.insert s
  | _ => s

/-- The class and the state after one more member. -/
def add (g : Grammar) (st : ClassState) (s : CharClass) (m : Member) :
    Except Refusal (CharClass × ClassState) :=
  match st with
  | range a => do return (← Member.insertThrough g a m s, complete)
  | _ => return (st.settled s, member m)

/-- The class and the state after a whole class. -/
def addSet (st : ClassState) (s extra : CharClass) :
    Except Refusal (CharClass × ClassState) :=
  match st with
  | range _ => .error .classAtRangeEnd
  | _ => .ok ((st.settled s).union extra, type)

end ClassState

/-- A byte given by its number, with as many more as its character has. -/
def readByteMember (ctx : ClassContext) (b base : Nat) : Reading Member := do
  let width := leadWidth (UInt8.ofNat b)
  if width = 1 then return ⟨b, true⟩
  let tail ← more (width - 1)
  let bytes := ByteArray.mk (UInt8.ofNat b :: tail).toArray
  if isWellFormed bytes then return ⟨unitAt bytes 0, false⟩
  else Reading.refuse .invalidCode
where
  /-- As many more bytes, written the same way. -/
  more : Nat → Reading (List UInt8)
    | 0 => pure []
    | n + 1 => do
      match ← ClassToken.next ctx with
      | .byte c otherBase =>
        if otherBase = base then return UInt8.ofNat c :: (← more n)
        else Reading.refuse .incompleteBytes
      | _ => Reading.refuse .incompleteBytes

/-- The hyphen as a member. -/
def hyphenMember : Member := ⟨'-'.toNat, true⟩

/-- The first member of a class, given its first token: a closing bracket is
one if another closing bracket follows anywhere. -/
def opening (token : ClassToken) : Reading ClassToken := fun gs =>
  match token with
  | .close =>
    if gs.any (fun c => c.is ']') then .ok (.text ⟨']'.toNat, [0x5D]⟩ false, gs)
    else .error .emptyClass
  | t => .ok (t, gs)

/-- The class with a newline if it is negated and the grammar never lets a
negated class match one. -/
def spareNewline (g : Grammar) (s : CharClass) : CharClass :=
  if s.negated && g.negationSparesNewline && !(s.bytes.isEmpty && s.wide.isEmpty) then
    s.insertByte 0x0A
  else s

/-- How deeply groups and classes may be nested. -/
def maxDepth : Nat := 4096

mutual

/-- A class, the opening bracket already taken off. `depth` says how deeply it
is nested. -/
def readClass (ctx : ClassContext) (depth : Nat) : Nat → Reading CharClass
  | 0 => Reading.refuse .depthLimit
  | fuel + 1 => do
    if maxDepth ≤ depth then Reading.refuse .depthLimit
    let first ← ClassToken.next ctx
    let negated := match first with
      | .text c false => c.is '^'
      | _ => false
    let token ← if negated then ClassToken.next ctx else pure first
    let token ← opening token
    let inner ← readMembers ctx (depth + 1) fuel token .start none .empty
    return spareNewline ctx.grammar { inner with negated := negated }

/-- The members from `token` on, up to the closing bracket. `left` is what
stood before the last pair of ampersands. -/
def readMembers (ctx : ClassContext) (depth : Nat) :
    Nat → ClassToken → ClassState → Option CharClass → CharClass → Reading CharClass
  | 0, _, _, _, _ => Reading.refuse .depthLimit
  | fuel + 1, token, st, left, s => do
    let g := ctx.grammar
    match token with
    | .close =>
      let s := st.settled s
      return match left with
        | some l => l.inter s
        | none => s
    | .finish => Reading.refuse .unclosedClass
    | .text c _ =>
      let (s, st) ← ClassState.add g st s (← Member.ofGlyph c)
      readMembers ctx depth fuel (← ClassToken.next ctx) st left s
    | .code c =>
      let (s, st) ← ClassState.add g st s (← Member.ofCode c)
      readMembers ctx depth fuel (← ClassToken.next ctx) st left s
    | .byte b base =>
      let (s, st) ← ClassState.add g st s (← readByteMember ctx b base)
      readMembers ctx depth fuel (← ClassToken.next ctx) st left s
    | .set extra =>
      let (s, st) ← st.addSet s extra
      readMembers ctx depth fuel (← ClassToken.next ctx) st left s
    | .named negated name =>
      let (s, st) ← st.addSet s (← namedClass ctx.letters negated name)
      readMembers ctx depth fuel (← ClassToken.next ctx) st left s
    | .openClass =>
      let inner ← readClass ctx depth fuel
      readMembers ctx depth fuel (← ClassToken.next ctx) .complete left
        ((st.settled s).union inner)
    | .both =>
      let s := st.settled s
      let l := match left with
        | some l => l.inter s
        | none => s
      readMembers ctx depth fuel (← ClassToken.next ctx) .start (some l) .empty
    | .hyphen =>
      match st with
      | .range _ =>
        let (s, st) ← ClassState.add g st s hyphenMember
        readMembers ctx depth fuel (← ClassToken.next ctx) st left s
      | .start =>
        let token ← ClassToken.next ctx
        let (s, st) ← ClassState.add g st s hyphenMember
        readMembers ctx depth fuel token st left s
      | _ =>
        let token ← ClassToken.next ctx
        let plain := match token, st with
          | .close, _ | .both, _ => true
          | _, .complete => g.doubleRange
          | _, .type => g.hyphenAfterType
          | _, _ => false
        if plain then
          let (s, st) ← ClassState.add g st s hyphenMember
          readMembers ctx depth fuel token st left s
        else match st with
          | .member m => readMembers ctx depth fuel token (.range m) left s
          | _ => Reading.refuse .unmatchedHyphen

end

/-- The pattern of a class, the opening bracket already taken off. Up to case
a class can match sequences of characters too. -/
def readBracket (ctx : ClassContext) (depth : Nat) : Reading Node := do
  let gs ← get
  let s ← readClass ctx depth (2 * gs.length + 4)
  if !ctx.letters.caseless then return .set s
  let one := Node.set s.closeUnderCase
  match s.caseSequences with
  | [] => return one
  | sequences =>
    return .oneOf (one :: sequences.map (fun parts => Node.sequence (parts.map Node.set)))

end PatternSearch.Pattern
