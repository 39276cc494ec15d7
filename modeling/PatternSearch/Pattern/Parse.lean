/-
PatternSearch.Pattern.Parse — from the text of a pattern to its tree.

The parser is a recursive descent over alternatives, branches and single
expressions, with one token of lookahead. It counts the groups as they open
and collects their names, so that a reference can be resolved to the groups
known at that point. What can only be judged once the whole pattern is read
(references to later groups, calls, lookbehind) is left to later passes over
the tree.
-/
import PatternSearch.Pattern.Bracket
import PatternSearch.Pattern.Options

namespace PatternSearch.Pattern

open Text

/-- What is the same for the whole of a pattern. -/
structure ParseSetting where
  grammar : Grammar
  /-- Plain groups do not capture. -/
  dontCapture : Bool
  /-- All of the pattern. -/
  glyphs : Array Glyph

/-- Where the parser is. -/
structure ParseState where
  /-- The glyphs after the current token, and that token. -/
  rest : List Glyph
  token : Token
  letters : Letters
  /-- How many groups have been opened. -/
  groups : Nat
  /-- The names given so far, each with its group. -/
  names : List (ByteArray × Nat)
  /-- The groups that are not closed yet. -/
  unclosed : List Nat
  /-- How many registers have been put aside, and how many calls there are. -/
  saves : Nat
  calls : Nat
  /-- A call is to the whole pattern. -/
  callsWhole : Bool
  /-- How deeply alternatives and branches are nested. -/
  depth : Nat

/-- A step of the parser. -/
abbrev Parse := ReaderT ParseSetting (StateT ParseState (Except Refusal))

namespace Parse

/-- Gives the pattern up. -/
def refuse {α : Type} (r : Refusal) : Parse α := fun _ _ => .error r

/-- A reading at the glyphs after the current token. -/
def reading {α : Type} (r : Reading α) : Parse α := fun _ st => do
  let (a, rest) ← r st.rest
  return (a, { st with rest := rest })

/-- Goes on to the next token. -/
def advance : Parse Unit := do
  let grammar := (← read).grammar
  let st ← get
  let token ← reading (Token.next ⟨grammar, st.letters, st.groups, (← read).glyphs⟩)
  modify fun st => { st with token := token }

/-- Sets the switchable options. -/
def setLetters (l : Letters) : Parse Unit := modify fun st => { st with letters := l }

/-! ## Leaves -/

/-- A character given by its number. -/
def numbered (c : Nat) : Parse Glyph :=
  match encodeCode? c with
  | some bs => pure ⟨c, bs⟩
  | none => refuse .codeTooLarge

/-- The bytes that complete a character given by bytes. The current token is
the last of them that has been read. -/
def moreBytes : Nat → Parse (List UInt8)
  | 0 => do
    advance
    return []
  | n + 1 => do
    advance
    match (← get).token with
    | .byte b => return UInt8.ofNat b :: (← moreBytes n)
    | _ => refuse .incompleteBytes

/-- The character that starts with a byte given by its number. -/
def byteGlyph (b : Nat) : Parse Glyph := do
  let first := UInt8.ofNat b
  let bytes := first :: (← moreBytes (leadWidth first - 1))
  let text := ByteArray.mk bytes.toArray
  if isWellFormed text then return ⟨unitAt text 0, bytes⟩ else refuse .invalidCode

/-- The groups a name has been given to, the last of them first. -/
def groupsNamed (names : List (ByteArray × Nat)) (name : ByteArray) : List Nat :=
  (names.filter (fun entry => entry.1 == name)).reverse.map (fun entry => entry.2)

/-- The pattern of a reference to some groups. -/
def backrefNode (groups : List Nat) (byName : Bool) (level : Option Int)
    (isCondition : Bool) : Parse Node := do
  let st ← get
  return .backref ⟨groups, byName, st.letters.caseless, level, isCondition,
    groups.any st.unclosed.contains⟩

/-- The group that lies some way before the next one to be opened, or some way
after the last one. -/
def relativeGroup (st : ParseState) (k : Int) : Int :=
  if 0 < k then k + st.groups else st.groups + 1 + k

/-- What a reference stands for. -/
def referenceNode (r : Reference) (level : Option Int) (isCondition : Bool) : Parse Node := do
  let st ← get
  match r with
  | .number n =>
    if n = 0 then refuse .unknownReference
    else backrefNode [n] false level isCondition
  | .relative k =>
    let n := relativeGroup st k
    if n ≤ 0 then refuse .unknownReference
    else backrefNode [n.toNat] false level isCondition
  | .name name =>
    match groupsNamed st.names name with
    | [] => refuse (.undefinedName (if isCondition then .empty else name))
    | gs => backrefNode gs true level isCondition

/-- What a call stands for. -/
def callNode (r : Reference) (spelling : ByteArray) : Parse Node := do
  modify fun st => { st with calls := st.calls + 1 }
  let st ← get
  let toGroup := fun (n : Nat) => do
    if n = 0 then modify fun st => { st with callsWhole := true }
    return Node.call { target := some n, name := spelling }
  match r with
  | .number n => toGroup n
  | .relative k =>
    let n := relativeGroup st k
    if n < 0 then refuse (.undefinedGroup spelling) else toGroup n.toNat
  | .name name => return .call { target := none, name := name }

/-- A number for a register that is put aside. -/
def newSave : Parse Nat := do
  let n := (← get).saves
  modify fun st => { st with saves := n + 1 }
  return n

/-! ## Repetitions -/

/-- The text of some glyphs. -/
def textOf (gs : List Glyph) (caseless : Bool) : Node := .text (gs.flatMap Glyph.bytes) caseless

/-- An expression while it is read. -/
inductive Piece where
  /-- One pattern. -/
  | one (n : Node)
  /-- A text; a repetition applies to the last character alone. -/
  | glyphs (before : List Glyph) (last : Glyph) (caseless : Bool)
  /-- A text whose last character has been repeated. -/
  | split (before n : Node)

namespace Piece

/-- The expression of a text. -/
def ofGlyphs (gs : List Glyph) (caseless : Bool) : Piece :=
  match gs.reverse with
  | [] => one .emptyText
  | last :: before => glyphs before.reverse last caseless

/-- The patterns that the expression adds to its branch. -/
def nodes : Piece → List Node
  | one n => [n]
  | glyphs before last caseless => [textOf (before ++ [last]) caseless]
  | split before n => [before, n]

/-- The expression as one pattern. -/
def node (p : Piece) : Node :=
  match p.nodes with
  | [n] => n
  | ns => .sequence ns

/-- Whether there is nothing in the expression that could be repeated. -/
def isPlace : Piece → Bool
  | one n | split _ n => n.isPlace
  | glyphs _ _ _ => false

/-- Whether a repetition of the expression would come to more rounds than can
be counted. -/
def overflows (r : Repeat) : Piece → Bool
  | one (.times inner _) | split _ (.times inner _) =>
    r.hi == some r.lo && inner.isExact && maxDecimal < r.lo * inner.lo
  | _ => false

/-- The expression repeated. -/
def repeated (r : Repeat) (p : Piece) : Piece :=
  let again := fun (n : Node) =>
    let n := Node.repeated { lo := r.lo, hi := r.hi, greedy := r.greedy } n
    if r.possessive then .atomic n else n
  if r.lo = 1 ∧ r.hi = some 1 then p
  else match p with
    | one n => one (again n)
    | split before n => split before (again n)
    | glyphs [] last caseless => one (again (textOf [last] caseless))
    | glyphs before last caseless =>
      split (textOf before caseless) (again (textOf [last] caseless))

end Piece

/-- An expression with the repetitions that follow it. `fuel` bounds their
number. -/
def withRepeats (p : Piece) (depth : Nat) : Nat → Parse Piece
  | 0 => return p
  | fuel + 1 => do
    match (← get).token with
    | .repeats r _ =>
      if p.isPlace then
        if (← read).grammar.repeatNeedsTarget then refuse .invalidTarget else return p
      else
        if maxDepth ≤ depth then refuse .depthLimit
        if p.overflows r then refuse .countTooBig
        advance
        withRepeats (p.repeated r) (depth + 1) fuel
    | _ => return p

/-- An expression, already read up to its last token, with what repeats it. -/
def target (p : Piece) : Parse Piece := do
  withRepeats p (← get).depth ((← read).glyphs.size + 1)

/-- The plain glyphs from the current token on. `fuel` bounds their number. -/
def moreText : Nat → Parse (List Glyph)
  | 0 => return []
  | fuel + 1 => do
    match (← get).token with
    | .text g =>
      advance
      return g :: (← moreText fuel)
    | _ => return []

/-- Glyphs given by the current token, with the plain ones after it. -/
def literals (gs : List Glyph) : Parse Piece := do
  let caseless := (← get).letters.caseless
  advance
  let more ← moreText ((← read).glyphs.size + 1)
  target (.ofGlyphs (gs ++ more) caseless)

/-! ## The openings of groups -/

/-- What an opening parenthesis opens. -/
inductive Opening where
  /-- A group that only groups. -/
  | plain
  /-- A group that captures, perhaps under a name. -/
  | capture (name : Option ByteArray)
  | ahead (negated : Bool)
  | behind (negated : Bool)
  | atomic
  /-- A group with options of its own. -/
  | withLetters (l : Letters)
  /-- Options for what follows, without a group. -/
  | lettersOnly (l : Letters)
  /-- A condition, and what depends on it. -/
  | choice
  /-- What must not occur. -/
  | absence

/-- The kind of segments an option names in braces, taken off: there is one
kind only. -/
def readSegments (gs : List Glyph) : Except Refusal (List Glyph) := do
  let next : List Glyph → Except Refusal (Glyph × List Glyph) := fun gs =>
    match gs with
    | [] => .error .endInGroup
    | c :: cs => .ok (c, cs)
  let (opener, gs) ← next gs
  if !opener.is '\x7b' then throw .unknownGroupOption
  let (kind, gs) ← next gs
  if !kind.is 'g' then throw .unknownGroupOption
  let (closer, gs) ← next gs
  if !closer.is '\x7d' then throw .unknownGroupOption
  return gs

/-- An option letter; `off` once a hyphen has been read. -/
def switchLetter? (g : Grammar) (l : Letters) (off : Bool) (c : Char) : Option Letters :=
  match c with
  | 'x' => some { l with extended := !off }
  | 'i' => some { l with caseless := !off }
  | 's' => if g.lineOptions then some { l with multiLine := !off } else none
  | 'm' =>
    if g.lineOptions then some { l with singleLine := off }
    else if g.dotOption then some { l with multiLine := !off }
    else none
  | 'W' => if g.asciiOptions then some { l with asciiWord := !off } else none
  | 'D' => if g.asciiOptions then some { l with asciiDigit := !off } else none
  | 'S' => if g.asciiOptions then some { l with asciiSpace := !off } else none
  | 'P' => if g.asciiOptions then some { l with asciiNamed := !off } else none
  | _ => none

/-- The option letters of a group up to the colon or the parenthesis after
them; the flag says which of the two. `off` once a hyphen has been read, and
`fuel` bounds the number of letters. -/
def readLetters (g : Grammar) (l : Letters) (off : Bool) :
    Nat → List Glyph → Except Refusal ((Letters × Bool) × List Glyph)
  | _, [] | 0, _ => .error .endInGroup
  | fuel + 1, c :: cs =>
    match c.char with
    | ':' => .ok ((l, true), cs)
    | ')' => .ok ((l, false), cs)
    | '-' => readLetters g l true fuel cs
    | 'y' => do
      if !g.asciiOptions || off then throw .unknownGroupOption
      readLetters g l off fuel (← readSegments cs)
    | letter =>
      match switchLetter? g l off letter with
      | some l => readLetters g l off fuel cs
      | none => .error .unknownGroupOption

/-- The opening of a group, the parenthesis already taken off. -/
def readOpening (s : ParseSetting) (l : Letters) : Reading Opening := fun gs => do
  let g := s.grammar
  let named := fun (close : Char) (tail : List Glyph) => do
    let (name, rest) ← readNewName close tail
    return (Opening.capture (some name), rest)
  let letters := fun (gs : List Glyph) => do
    let ((l, hasBody), rest) ← readLetters g l false gs.length gs
    return (if hasBody then Opening.withLetters l else .lettersOnly l, rest)
  match gs with
  | [] => throw .unclosedGroup
  | mark :: after =>
    if !(g.groupEffects && mark.is '?') then
      return (if s.dontCapture then .plain else .capture none, gs)
    match after with
    | [] => throw .endInGroup
    | c :: tail =>
      match c.char with
      | ':' => return (.plain, tail)
      | '=' => return (.ahead false, tail)
      | '!' => return (.ahead true, tail)
      | '>' => return (.atomic, tail)
      | '~' => if g.absence then return (.absence, tail) else throw .unknownGroupOption
      | '(' => if g.conditionals then return (.choice, tail) else throw .unknownGroupOption
      | '\'' => if g.angledName then named '\'' tail else throw .unknownGroupOption
      | '<' =>
        match tail with
        | [] => throw .unclosedGroup
        | d :: rest =>
          if d.is '=' then return (.behind false, rest)
          else if d.is '!' then return (.behind true, rest)
          else if g.angledName then named '>' tail
          else throw .unknownGroupOption
      | 'P' =>
        match tail with
        | d :: rest =>
          if g.letteredName then
            if d.is '<' then named '>' rest else throw .unknownGroupOption
          else letters after
        | [] => if g.asciiOptions then throw .endInGroup else throw .unknownGroupOption
      | '-' | 'i' | 'm' | 's' | 'x' | 'W' | 'D' | 'S' | 'y' => letters after
      | _ => throw .unknownGroupOption

/-- Opens one more group and gives it its name. -/
def openCapture (name : Option ByteArray) : Parse Nat := do
  let shared := (← read).grammar.sharedNames
  let st ← get
  let n := st.groups + 1
  let st := { st with groups := n, unclosed := n :: st.unclosed }
  match name with
  | none => set st
  | some name =>
    if !shared && st.names.any (fun entry => entry.1 == name) then
      refuse (.repeatedName name)
    else set { st with names := st.names ++ [(name, n)] }
  return n

/-- Enters a group; the answer makes a pattern of what stands in it. -/
def enter : Opening → Parse (Node → Node)
  | .plain | .lettersOnly _ | .choice | .absence => return id
  | .capture name => do
    let n ← openCapture name
    return .capture n name.isSome
  | .ahead negated => return .ahead negated
  | .behind negated => return .behind negated 0 none
  | .atomic => return .atomic
  | .withLetters l => do
    setLetters l
    return .options

/-! ## Absence -/

/-- A repetition of steps none of which begins where `absent` would match;
`limit` is the number under which the limit from before is kept. -/
def absenceEngine (limit : Nat) (absent step : Node) (r : Repetition)
    (possessive cutsRange : Bool) : Parse Node := do
  let place ← newSave
  let round := Node.oneOf
    [.sequence [.save .place place, absent, .restore .limit .place place cutsRange, .fail], step]
  let rounds := Node.times r round
  let rounds := if possessive then Node.atomic rounds else rounds
  let unlimited := Node.sequence [.restore .limit .limit limit false, .fail]
  return if cutsRange then .lasting rounds unlimited else .oneOf [rounds, unlimited]

/-- Steps up to where `absent` would match, the limit put back afterwards. -/
def absenceOfSteps (absent step : Node) (r : Repetition) (possessive : Bool) : Parse Node := do
  let limit ← newSave
  let engine ← absenceEngine limit absent step r possessive false
  return .sequence [.save .limit limit, engine, .restore .limit .limit limit false]

/-- Any number of rounds. -/
def anyNumber : Repetition := { lo := 0, hi := none, greedy := true }

/-- No limit any more. -/
def absenceCleared : Parse Node := do
  let limit ← newSave
  return .sequence [.save .limit limit,
    .lasting .resetLimit (.sequence [.restore .limit .limit limit false, .fail])]

/-- From here on the text ends before `absent`. -/
def absenceCutter (absent : Node) : Parse Node := do
  let limit ← newSave
  let place ← newSave
  let engine ← absenceEngine limit absent (.anyChar true) anyNumber true true
  return .sequence [.save .limit limit, .save .place place, engine,
    .restore .place .place place false]

/-- A greedy repetition of one character, and whether it is possessive. -/
def characterRepeat? : Node → Option (Repetition × Node × Bool)
  | .times r body => if r.greedy && isCharacter body then some (r, body, false) else none
  | .atomic (.times r body) => if r.greedy && isCharacter body then some (r, body, true) else none
  | _ => none
where
  /-- A text of one character, or a class. -/
  isCharacter : Node → Bool
    | .text (b :: bs) _ => bs.length + 1 == leadWidth b
    | .set _ => true
    | _ => false

/-- An expression that matches nothing in which `absent` occurs. -/
def absenceWithin (absent expr : Node) : Parse Node := do
  match characterRepeat? expr with
  | some (r, body, possessive) => absenceOfSteps absent body r possessive
  | none =>
    let limit ← newSave
    let place ← newSave
    let engine ← absenceEngine limit absent (.anyChar true) anyNumber true false
    let after ← newSave
    return .sequence [.save .limit limit, .save .place place, engine,
      .restore .place .place place false, expr, .save .limit after,
      .oneOf [.restore .limit .limit limit false,
        .sequence [.restore .limit .limit after false, .fail]]]

/-! ## Alternatives, branches, expressions -/

/-- Whether the current token ends a branch. -/
def endsBranch (inGroup : Bool) : Token → Bool
  | .finish | .bar => true
  | .closeGroup _ => inGroup
  | _ => false

/-- Takes a given character off the front, if it stands there; a refusal at
the end. -/
def acceptNext (c : Char) : Parse Bool := do
  match (← get).rest with
  | [] => refuse .endInGroup
  | _ => reading (Reading.accept c)

/-- A condition that asks for a group, the parenthesis before it already taken
off; `none` if it is a pattern. -/
def groupCondition? : Parse (Option Node) := do
  match (← get).rest with
  | [] | [_] => refuse .endInGroup
  | c :: tail =>
    if c.is '<' || c.is '\'' then
      modify fun st => { st with rest := tail }
      let (r, level) ← reading (readReference (if c.is '<' then '>' else '\''))
      let n ← referenceNode r level true
      if ← acceptNext ')' then return some n else refuse .endInGroup
    else if (c.digit? 10).isSome || c.is '-' || c.is '+' then
      match readReference ')' (c :: tail) with
      | .error _ => return none
      | .ok ((r, level), rest) =>
        modify fun st => { st with rest := rest }
        return some (← referenceNode r level true)
    else return none

mutual

/-- Alternatives up to the end of the group or of the pattern, which is the
current token afterwards. -/
def alternatives (inGroup : Bool) : Nat → Parse (List Node)
  | 0 => refuse .depthLimit
  | fuel + 1 => do
    let before ← get
    if maxDepth ≤ before.depth then refuse .depthLimit
    set { before with depth := before.depth + 1 }
    let ns ← branches inGroup fuel
    match (← get).token with
    | .finish => if inGroup then refuse .unclosedGroup
    | _ => pure ()
    modify fun st => { st with letters := before.letters, depth := before.depth }
    return ns

/-- A branch and the branches after it. -/
def branches (inGroup : Bool) : Nat → Parse (List Node)
  | 0 => refuse .depthLimit
  | fuel + 1 => do
    let first ← branch inGroup fuel
    match (← get).token with
    | .bar =>
      advance
      return first :: (← branches inGroup fuel)
    | _ => return [first]

/-- Expressions up to the end of the branch. -/
def branch (inGroup : Bool) : Nat → Parse Node
  | 0 => refuse .depthLimit
  | fuel + 1 => do
    let depth := (← get).depth
    if maxDepth ≤ depth then refuse .depthLimit
    modify fun st => { st with depth := depth + 1 }
    let first ← expression inGroup fuel
    let others ← expressions inGroup fuel
    modify fun st => { st with depth := depth }
    match others with
    | [] => return first.node
    | _ => return (Node.sequence (first.node :: others)).joined

/-- The patterns of the expressions up to the end of the branch. -/
def expressions (inGroup : Bool) : Nat → Parse (List Node)
  | 0 => refuse .depthLimit
  | fuel + 1 => do
    if endsBranch inGroup (← get).token then return []
    let p ← expression inGroup fuel
    return p.nodes ++ (← expressions inGroup fuel)

/-- One expression with what repeats it. -/
def expression (inGroup : Bool) : Nat → Parse Piece
  | 0 => refuse .depthLimit
  | fuel + 1 => do
    let st ← get
    if endsBranch inGroup st.token then return .one .emptyText
    match st.token with
    | .finish | .bar => return .one .emptyText
    | .text g => literals [g]
    | .codes cs => literals (← cs.mapM numbered)
    | .quoted gs =>
      advance
      target (.ofGlyphs gs st.letters.caseless)
    | .byte b =>
      let g ← byteGlyph b
      target (.ofGlyphs [g] st.letters.caseless)
    | .anyChar withNewline =>
      advance
      target (.one (.anyChar (withNewline.getD st.letters.multiLine)))
    | .whole n =>
      advance
      target (.one n)
    | .reference r level =>
      let n ← referenceNode r level false
      advance
      target (.one n)
    | .call r spelling =>
      let n ← callNode r spelling
      advance
      target (.one n)
    | .openClass =>
      let n ← reading (readBracket ⟨(← read).grammar, st.letters⟩ st.depth)
      advance
      target (.one n)
    | .repeats _ spelling =>
      if (← read).grammar.repeatNeedsTarget then refuse .missingTarget
      else literals spelling
    | .closeGroup g =>
      if (← read).grammar.looseClose then literals [g] else refuse .unmatchedClose
    | .openGroup => group inGroup fuel

/-- A group, its parenthesis being the current token. -/
def group (inGroup : Bool) : Nat → Parse Piece
  | 0 => refuse .depthLimit
  | fuel + 1 => do
    let before ← get
    match ← reading (readOpening (← read) before.letters) with
    | .lettersOnly l =>
      setLetters l
      advance
      if (← read).grammar.optionsPerBranch then expression inGroup fuel
      else
        let rest ← alternatives inGroup fuel
        setLetters before.letters
        return .one (.options (Node.ofBranches rest))
    | .choice =>
      let n ← conditional fuel
      advance
      target (.one n)
    | .absence =>
      let n ← absence fuel
      advance
      target (.one n)
    | opening =>
      let close ← enter opening
      advance
      let inner ← alternatives true fuel
      modify fun st => { st with letters := before.letters, unclosed := before.unclosed }
      advance
      target (.one (close (Node.ofBranches inner)))

/-- A condition and what depends on it, up to the closing parenthesis. -/
def conditional : Nat → Parse Node
  | 0 => refuse .depthLimit
  | fuel + 1 => do
    let found ← groupCondition?
    let condition ← match found with
      | some n => pure n
      | none => do
        advance
        pure (Node.ofBranches (← alternatives true fuel))
    if ← acceptNext ')' then
      if found.isSome then return condition else refuse .invalidCondition
    let noFirst ← reading (Reading.accept '|')
    advance
    let body := Node.ofBranches (← alternatives true fuel)
    if noFirst then return .choice condition .emptyText body
    match body with
    | .alt yes (.alt no .never) => return .choice condition yes no
    | .alt yes others => return .choice condition yes others
    | yes => return .choice condition yes .emptyText

/-- What must not occur, and where, up to the closing parenthesis. -/
def absence : Nat → Parse Node
  | 0 => refuse .depthLimit
  | fuel + 1 => do
    if !(← acceptNext '|') then
      advance
      let absent := Node.ofBranches (← alternatives true fuel)
      absenceOfSteps absent (.anyChar true) anyNumber false
    else if ← acceptNext ')' then absenceCleared
    else
      advance
      match ← alternatives true fuel with
      | absent :: b :: bs => absenceWithin absent (Node.ofBranches (b :: bs))
      | bs => absenceCutter (Node.ofBranches bs)

end

end Parse

/-- A pattern as it was read. -/
structure Draft where
  node : Node
  /-- How many groups there are. -/
  groups : Nat
  /-- The names, each with its group. -/
  names : List (ByteArray × Nat)
  /-- How many registers are put aside, and how many calls there are. -/
  saves : Nat
  calls : Nat

/-- Reads a pattern. One that is called from within is a group of its own. -/
def Draft.parse (setting : ParseSetting) (letters : Letters) : Except Refusal Draft := do
  let gs := setting.glyphs.toList
  let start : ParseState :=
    { rest := gs, token := .finish, letters := letters, groups := 0, names := [], unclosed := [],
      saves := 0, calls := 0, callsWhole := false, depth := 0 }
  let whole : Parse Node := do
    Parse.advance
    return Node.ofBranches (← Parse.alternatives false (8 * gs.length + 16))
  let (n, st) ← (whole.run setting).run start
  return ⟨if st.callsWhole then .capture 0 true n else n, st.groups, st.names, st.saves, st.calls⟩

end PatternSearch.Pattern
