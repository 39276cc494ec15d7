/-
PatternSearch.Pattern.Grammar — what the characters of a pattern mean in each
flavour.

A grammar is a record of switches. Each switch either gives a spelling a
meaning (an operator that is off is read as plain text) or settles how the
parser treats a doubtful form. The flavours are built on each other: two
shared bases and small differences.
-/
import PatternSearch.Pattern.Flavour
import PatternSearch.Pattern.Options

namespace PatternSearch.Pattern

/-- The switches of a grammar. A spelling whose switch is off is plain text. -/
structure Grammar where
  /-- Backslash escapes the next character. -/
  escapes : Bool := true
  /-- `.` is any character. -/
  dot : Bool := false
  /-- `*`, `+` and `?` repeat, plain or after a backslash. -/
  star : Bool := false
  plus : Bool := false
  escapedPlus : Bool := false
  optional : Bool := false
  escapedOptional : Bool := false
  /-- Braces hold a range of repetitions, plain or after backslashes. -/
  interval : Bool := false
  escapedInterval : Bool := false
  /-- A bar separates alternatives, plain or after a backslash. -/
  bar : Bool := false
  escapedBar : Bool := false
  /-- Parentheses group, plain or after a backslash. -/
  group : Bool := false
  escapedGroup : Bool := false
  /-- Brackets hold a class; `[:name:]` inside one names a property. -/
  bracket : Bool := false
  bracketNames : Bool := false
  /-- `^` and `$`; they may be anchors only at the ends of the pattern, a
  group or an alternative. -/
  lineAnchors : Bool := false
  edgeAnchors : Bool := false
  /-- `\A`, `\Z`, `\z`. -/
  textAnchors : Bool := false
  /-- The text anchors spelt as a quotation mark and an accent. -/
  quoteAnchors : Bool := false
  /-- `\G`. -/
  positionAnchor : Bool := false
  /-- `\w`, `\s`, `\d`, `\h` and their negations. -/
  wordType : Bool := false
  spaceType : Bool := false
  digitType : Bool := false
  hexDigitType : Bool := false
  /-- `\b`, `\B`, and `\<`, `\>`. -/
  wordBoundary : Bool := false
  wordEdges : Bool := false
  /-- `\1` to `\9` and beyond. -/
  backreference : Bool := false
  /-- `\k<name>`. -/
  namedBackreference : Bool := false
  /-- A question mark after a repetition makes it lazy. -/
  lazyRepeat : Bool := false
  /-- A plus after a repetition makes it possessive. -/
  possessiveRepeat : Bool := false
  possessiveInterval : Bool := false
  /-- `\n`, `\t` and the other control characters; `\v` among them. -/
  controlEscapes : Bool := false
  verticalTab : Bool := false
  /-- `\cx`, `\C-x` and `\M-x`. -/
  controlLetter : Bool := false
  controlBar : Bool := false
  metaBar : Bool := false
  /-- Code points by number: `\ooo`, `\xhh`, `\x` and `\o` with braces,
  `\uhhhh`. -/
  octal : Bool := false
  hex : Bool := false
  bracedHex : Bool := false
  bracedOctal : Bool := false
  hexFour : Bool := false
  /-- `\Q` quotes up to `\E`. -/
  quotation : Bool := false
  /-- `\p` and a property name in braces; a caret in front negates. -/
  property : Bool := false
  propertyCaret : Bool := false
  /-- `\p` and a single letter, without braces. -/
  shortProperty : Bool := false
  /-- `\K`, `\R`, and `\N`, `\O`. -/
  keep : Bool := false
  generalNewline : Bool := false
  plainDots : Bool := false
  /-- `\X`, `\y`, `\Y`: what is seen as one character. -/
  segments : Bool := false
  /-- `(?` starts a group with an effect. -/
  groupEffects : Bool := false
  /-- The option letters of `(?…)`: which meaning `m` and `s` have. -/
  lineOptions : Bool := false
  dotOption : Bool := false
  /-- `(?<name>…)`, and `(?P<name>…)` with `(?P=name)`. -/
  angledName : Bool := false
  letteredName : Bool := false
  /-- Groups used like subroutines: `\g<name>`, and `(?&name)`, `(?1)`,
  `(?R)`. -/
  calls : Bool := false
  groupCalls : Bool := false
  /-- `(?(condition)yes|no)`, and `(?~absent)`. -/
  conditionals : Bool := false
  absence : Bool := false
  /-- Options that restrict words, digits and spaces to ASCII, and options
  for the whole pattern. -/
  asciiOptions : Bool := false
  /-- `&&` and nested brackets in a class. -/
  classOperators : Bool := false
  /-- Backslash escapes in a class too. -/
  classEscapes : Bool := false
  /-- After a whole set in a class a hyphen is plain. -/
  hyphenAfterType : Bool := false
  /-- A class range may be the wrong way round and is then empty. -/
  emptyRange : Bool := false
  /-- A second hyphen after a range is plain. -/
  doubleRange : Bool := false
  /-- A negated class does not match a newline. -/
  negationSparesNewline : Bool := false
  /-- A repetition sign with nothing before it is an operator, and an error. -/
  repeatNeedsTarget : Bool := false
  /-- A closing parenthesis without an opening one is plain. -/
  looseClose : Bool := false
  /-- A brace that starts no proper interval is plain. -/
  looseInterval : Bool := false
  /-- An interval may leave out its lower bound. -/
  openInterval : Bool := false
  /-- A lazy sign after an exact count is an operator of its own. -/
  exactIsGreedy : Bool := false
  /-- Only named groups capture, if there are any. -/
  namedOnly : Bool := false
  /-- A name may be given to several groups. -/
  sharedNames : Bool := false
  /-- `(?i)` holds for the branch it stands in, not for the rest of the
  group. -/
  optionsPerBranch : Bool := false
  /-- Lookbehind with alternatives of different lengths, or of any length. -/
  alternativesBehind : Bool := false
  variableBehind : Bool := false
  /-- `\Z` is the very end of the text, and `\z` is an undefined operator. -/
  strictEnd : Bool := false
  /-- The options a pattern of this flavour always has. -/
  options : List Flag := []

namespace Grammar

/-- Everything is plain text. -/
def asis : Grammar := { escapes := false }

/-- What the two standard expressions share. -/
def posixBase : Grammar :=
  { dot := true, bracketNames := true, backreference := true, bracket := true,
    star := true, lineAnchors := true, controlEscapes := true,
    options := [.singleLine, .multiLine] }

/-- Basic expressions: grouping and intervals after a backslash. -/
def posixBasic : Grammar :=
  { posixBase with escapedGroup := true, escapedInterval := true, edgeAnchors := true }

/-- Extended expressions. -/
def posixExtended : Grammar :=
  { posixBase with
    group := true, interval := true, plus := true, optional := true, bar := true,
    repeatNeedsTarget := true, looseClose := true, doubleRange := true }

/-- Groups, bars and intervals after a backslash, the other signs plain. -/
def emacs : Grammar :=
  { dot := true, bracket := true, escapedInterval := true, escapedGroup := true,
    escapedBar := true, star := true, plus := true, optional := true,
    backreference := true, lineAnchors := true, controlEscapes := true,
    quoteAnchors := true, groupEffects := true, emptyRange := true }

/-- Every sign but the star after a backslash, words and their edges. -/
def grep : Grammar :=
  { dot := true, bracket := true, bracketNames := true, escapedInterval := true,
    escapedGroup := true, escapedBar := true, star := true, escapedPlus := true,
    escapedOptional := true, lineAnchors := true, edgeAnchors := true, wordType := true,
    wordBoundary := true, wordEdges := true, backreference := true,
    emptyRange := true, negationSparesNewline := true }

/-- The base of all the richer flavours. -/
def gnuRegex : Grammar :=
  { dot := true, bracket := true, bracketNames := true, backreference := true,
    interval := true, group := true, bar := true, star := true, plus := true,
    optional := true, textAnchors := true, positionAnchor := true,
    wordType := true, wordBoundary := true, wordEdges := true, spaceType := true,
    digitType := true, lineAnchors := true,
    repeatNeedsTarget := true, looseInterval := true, classEscapes := true,
    doubleRange := true }

/-- Quotations, possessive repetitions and operations on classes. -/
def java : Grammar :=
  { gnuRegex with
    bracketNames := false, wordEdges := false, lazyRepeat := true,
    controlEscapes := true, controlLetter := true, octal := true, hex := true,
    quotation := true, groupEffects := true, lineOptions := true,
    possessiveRepeat := true, possessiveInterval := true, classOperators := true,
    verticalTab := true, hexFour := true, property := true, segments := true,
    hyphenAfterType := true, optionsPerBranch := true,
    alternativesBehind := true, variableBehind := true,
    options := [.singleLine] }

/-- Quotations, possessive repetitions, codes in braces; no names. -/
def perl : Grammar :=
  { gnuRegex with
    wordEdges := false, lazyRepeat := true, octal := true, hex := true,
    bracedHex := true, bracedOctal := true, controlEscapes := true,
    controlLetter := true, quotation := true, groupEffects := true,
    lineOptions := true, possessiveRepeat := true, possessiveInterval := true,
    property := true, propertyCaret := true, shortProperty := true, keep := true,
    generalNewline := true, plainDots := true, segments := true,
    conditionals := true, hyphenAfterType := true, optionsPerBranch := true,
    options := [.singleLine] }

/-- With named groups on top. -/
def perlNg : Grammar :=
  { perl with
    angledName := true, namedBackreference := true, groupCalls := true,
    namedOnly := true, sharedNames := true }

/-- Names after the letter P; nothing in braces, nothing possessive. -/
def python : Grammar :=
  { gnuRegex with
    bracketNames := false, wordEdges := false, lazyRepeat := true, octal := true,
    hex := true, controlEscapes := true, controlLetter := true,
    groupEffects := true, lineOptions := true, letteredName := true,
    property := true, propertyCaret := true, keep := true, conditionals := true,
    verticalTab := true, hexFour := true, openInterval := true,
    optionsPerBranch := true, strictEnd := true, options := [.singleLine] }

/-- Names in angles, operations on classes; the dot has its own option. -/
def ruby : Grammar :=
  { gnuRegex with
    wordEdges := false, lazyRepeat := true, octal := true, hex := true,
    bracedHex := true, bracedOctal := true, controlEscapes := true,
    controlLetter := true, groupEffects := true, dotOption := true,
    angledName := true, namedBackreference := true, calls := true,
    absence := true, property := true,
    propertyCaret := true, possessiveRepeat := true, classOperators := true,
    controlBar := true, metaBar := true, verticalTab := true,
    hexDigitType := true, hexFour := true, keep := true, generalNewline := true,
    segments := true, namedOnly := true, sharedNames := true,
    openInterval := true, exactIsGreedy := true, alternativesBehind := true }

/-- The same with lookbehind of any length. -/
def oniguruma : Grammar :=
  { ruby with
    plainDots := true, conditionals := true, asciiOptions := true,
    variableBehind := true }

/-- The grammar of a flavour. -/
def ofFlavour : Flavour → Grammar
  | .asis => asis
  | .posixBasic => posixBasic
  | .posixExtended => posixExtended
  | .emacs => emacs
  | .grep => grep
  | .gnuRegex => gnuRegex
  | .java => java
  | .perl => perl
  | .perlNg => perlNg
  | .ruby => ruby
  | .python => python
  | .oniguruma => oniguruma

end Grammar

/-- A grammar a pattern can be compiled with: one of the flavours' own, or
some other grammar that belongs to no flavour. -/
structure Definition where
  grammar : Grammar
  flavour? : Option Flavour

namespace Definition

/-- A flavour's own grammar. -/
def ofFlavour (f : Flavour) : Definition := ⟨.ofFlavour f, some f⟩

/-- A grammar that reads as a flavour's does without being it. -/
def copyOf (f : Flavour) : Definition := ⟨.ofFlavour f, none⟩

end Definition

end PatternSearch.Pattern
