/-
PatternSearch.Text.Property — the character properties a pattern can name.

A property is a set of code points. Most are derived from the general
category, some from case folding, each with a short list of exceptions;
scripts, blocks and a few more are listed. `Property.ofName?` finds a property
by one of its names. Word characters are a property of their own because two
definitions of them exist: `wordCodes`, and `isWordCode`, which also counts
the superscripts and fractions among the first 256 code points.
-/
import PatternSearch.Text.BlockTable
import PatternSearch.Text.CaseFold
import PatternSearch.Text.Category
import PatternSearch.Text.PropertyTable
import PatternSearch.Text.ScriptTable

namespace PatternSearch.Text

/-! ## Sets -/

/-- Letters of any kind, and letter numbers. -/
def letterCodes : CodeSet :=
  codesOfCategories (fun g => match g with
    | .lu | .ll | .lt | .lm | .lo | .nl => true
    | _ => false)

/-- Letters, letter numbers and others used like them. -/
def alphabeticCodes : CodeSet := letterCodes.union otherAlphabetic

/-- Marks: characters written with the one before them. -/
def markCodes : CodeSet :=
  codesOfCategories (fun g => g == .mn || g == .mc || g == .me)

/-- Decimal digits. -/
def digitCodes : CodeSet := codesOfCategories (· == .nd)

/-- Word characters. -/
def wordCodes : CodeSet :=
  .unions [alphabeticCodes, markCodes, digitCodes, codesOfCategories (· == .pc)]

/-- Visible characters: assigned, and neither space nor control. -/
def graphCodes : CodeSet :=
  (codesOfCategories (fun g => g == .cc || g == .cs)).union whiteSpace
    |>.union (codesOfCategories (· != .cn)).compl |>.compl

/-- Visible characters and blanks. -/
def printCodes : CodeSet := graphCodes.union (codesOfCategories (· == .zs))

/-- Characters that separate words on a line. -/
def blankCodes : CodeSet := (codesOfCategories (· == .zs)).union (.single 0x09)

/-- Punctuation and symbols. -/
def punctuationOrSymbolCodes : CodeSet :=
  codesOfCategories (fun g => match g with
    | .pc | .pd | .ps | .pe | .pi | .pf | .po | .sm | .sc | .sk | .so => true
    | _ => false)

/-- Upper case and lower case characters. -/
def upperCodes : CodeSet := (codesOfCategories (· == .lu)).union otherUpper
def lowerCodes : CodeSet := (codesOfCategories (· == .ll)).union otherLower

/-- Hexadecimal digits. -/
def hexDigitCodes : CodeSet := .ofRuns [(0x30, 0x39), (0x41, 0x46), (0x61, 0x66)]

/-- All code points. -/
def anyCodes : CodeSet := .range 0 0x10FFFF

/-- Characters that extend the one before them. -/
def extendingCodes : CodeSet :=
  (codesOfCategories (fun g => g == .mn || g == .me)).union otherExtending

/-- Letters that may start an identifier, and what may continue one. -/
def identifierStartCodes : CodeSet := (letterCodes.union otherIdStart).diff notIdStart
def identifierCodes : CodeSet :=
  .unions [identifierStartCodes, otherIdContinue,
    codesOfCategories (fun g => g == .mn || g == .mc || g == .nd || g == .pc)]

/-- Characters that some case conversion changes: folding, and conversion to
lower, upper and title case. -/
def foldedAwayCodes : CodeSet :=
  .ofRuns ((foldPairs.toList.map (fun p => (p.1, p.1)))
    ++ longCaseClasses.flatMap (fun l => l.members.map (fun c => (c, c))))
def lowercasedCodes : CodeSet := (foldedAwayCodes.diff notLowercased).union otherLowercased
def uppercasedCodes : CodeSet := (lowerCodes.diff notUppercased).union otherUppercased
def titlecasedCodes : CodeSet :=
  (uppercasedCodes.diff titledOnly).union (titledOnly.diff uppercasedCodes)

/-- Whether a code point counts as a word character where single characters
are tested. -/
def isWordCode (c : Nat) : Bool :=
  if c < 0x80 then
    (0x61 ≤ c && c ≤ 0x7A) || (0x41 ≤ c && c ≤ 0x5A) || (0x30 ≤ c && c ≤ 0x39) || c == 0x5F
  else
    wordCodes.contains c || c == 0xB2 || c == 0xB3 || c == 0xB9
      || (0xBC ≤ c && c ≤ 0xBE)

/-! ## Names -/

/-- A property that a pattern can name. -/
inductive Property where
  /-- Word characters. -/
  | word
  /-- Any other set of code points. -/
  | codes (s : CodeSet)

namespace Property

/-- The code points with a property. -/
def toSet : Property → CodeSet
  | word => wordCodes
  | codes s => s

/-- The classes that go by one name in brackets and in braces. -/
def common? (key : String) : Option Property :=
  match key with
  | "alnum" => some (codes (alphabeticCodes.union digitCodes))
  | "alpha" => some (codes alphabeticCodes)
  | "blank" => some (codes blankCodes)
  | "cntrl" => some (codes (codesOfCategories (· == .cc)))
  | "digit" => some (codes digitCodes)
  | "graph" => some (codes graphCodes)
  | "lower" => some (codes lowerCodes)
  | "print" => some (codes printCodes)
  | "space" => some (codes whiteSpace)
  | "upper" => some (codes upperCodes)
  | "xdigit" => some (codes hexDigitCodes)
  | "ascii" => some (codes (.range 0 0x7F))
  | "word" => some word
  | _ => none

/-- The names of the bracket classes, as written between `[:` and `:]`. -/
def bracketNames : List String :=
  ["alnum", "alpha", "blank", "cntrl", "digit", "graph", "lower", "print",
   "punct", "space", "upper", "xdigit", "ascii", "word"]

/-- The class of a name between colons. Punctuation takes symbols in. -/
def ofBracketName (name : String) : Property :=
  if name = "punct" then codes punctuationOrSymbolCodes
  else (common? name).getD (codes .empty)

/-- Groups of categories, by the letter their abbreviations start with. -/
def majorLetter? (key : String) : Option Char :=
  match key with
  | "l" | "letter" => some 'l'
  | "m" | "mark" | "combiningmark" => some 'm'
  | "n" | "number" => some 'n'
  | "p" | "punctuation" | "punct" => some 'p'
  | "s" | "symbol" => some 's'
  | "z" | "separator" => some 'z'
  | "c" | "other" => some 'c'
  | _ => none

/-- Properties that are derived from the category or from case folding. -/
def derived? (key : String) : Option CodeSet :=
  match key with
  | "any" => some anyCodes
  | "assigned" => some (codesOfCategories (· != .cn))
  | "posixpunct" => some punctuationOrSymbolCodes
  | "alphabetic" => some alphabeticCodes
  | "lowercase" => some lowerCodes
  | "uppercase" => some upperCodes
  | "whitespace" | "wspace" => some whiteSpace
  | "lc" | "casedletter" =>
    some (codesOfCategories (fun g => g == .lu || g == .ll || g == .lt))
  | "cased" => some (.unions [lowerCodes, upperCodes, codesOfCategories (· == .lt)])
  | "caseignorable" | "ci" =>
    some ((codesOfCategories (fun g => match g with
      | .mn | .me | .cf | .lm | .sk => true
      | _ => false)).union midWord)
  | "graphemeextend" | "grext" => some extendingCodes
  | "graphemebase" | "grbase" =>
    some ((codesOfCategories (fun g => match g with
      | .cc | .cf | .cs | .co | .cn | .zl | .zp => false
      | _ => true)).diff extendingCodes)
  | "idstart" | "ids" => some identifierStartCodes
  | "idcontinue" | "idc" => some identifierCodes
  | "xidstart" | "xids" => some (identifierStartCodes.diff notClosedIdStart)
  | "xidcontinue" | "xidc" => some (identifierCodes.diff notClosedIdContinue)
  | "changeswhencasefolded" | "cwcf" => some (foldedAwayCodes.diff unfoldedDecomposed)
  | "changeswhenlowercased" | "cwl" => some lowercasedCodes
  | "changeswhenuppercased" | "cwu" => some uppercasedCodes
  | "changeswhentitlecased" | "cwt" => some titlecasedCodes
  | "changeswhencasemapped" | "cwcm" =>
    some (.unions [lowercasedCodes, uppercasedCodes, titlecasedCodes])
  | "unknown" | "zzzz" =>
    some (anyCodes.diff (.ofTable (scriptTable.flatMap (fun entry => entry.2))))
  | _ => none

/-- The entry of a table that has a name. -/
def listed? (table : List (List String × List String)) (key : String) : Option CodeSet :=
  (table.find? (fun entry => entry.1.contains key)).map (fun entry => .ofTable entry.2)

/-- The block with a name, which is written with `in` before it. -/
def block? (key : String) : Option CodeSet :=
  if key = "innoblock" then
    some (anyCodes.diff (.ofRuns ((CodeSet.words blockTable).map (fun w => run w))))
  else
    ((CodeSet.words blockTable).find? (fun w => "in" ++ name w == key)).map
      (fun w => .ofRuns [run w])
where
  /-- The name and the run in a word of the table. -/
  name (w : String) : String := String.ofList (w.toList.takeWhile (· != ':'))
  run (w : String) : Nat × Nat := CodeSet.readRun ((w.toList.dropWhile (· != ':')).drop 1)

/-- The category with a name. -/
def category? (key : String) : Option CodeSet :=
  match Category.all.find? (fun g => g.spellings.1 == key || g.spellings.2 == key) with
  | some .cn => some (anyCodes.diff (codesOfCategories (· != .cn)))
  | some g => some (codesOfCategories (· == g))
  | none => none

/-- The group of categories with a name. -/
def major? (key : String) : Option CodeSet :=
  match majorLetter? key with
  | some 'c' =>
    some (anyCodes.diff (codesOfCategories (fun g => match g with
      | .cc | .cf | .cs | .co | .cn => false
      | _ => true)))
  | some letter => some (codesOfCategories (fun g => g.spellings.1.startsWith letter))
  | none => none

/-- The property with a given name; case, blanks, hyphens and underscores do
not count. -/
def ofName? (name : List Char) : Option Property :=
  let key := String.ofList
    ((name.filter (fun c => c != ' ' && c != '-' && c != '_')).map Char.toLower)
  common? key
    <|> ((major? key <|> category? key <|> derived? key <|> listed? listedProperties key
      <|> listed? scriptTable key <|> block? key).map codes)

end Property

end PatternSearch.Text
