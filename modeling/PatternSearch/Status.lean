/-
PatternSearch.Status — status codes and their wording.

Compiling and searching answer with a status word: zero or above is an
answer, below zero says what went wrong. `statusText` is the wording of every
code. Seven codes are about a name in the pattern and quote it; their wording
is `namedText`, which shortens a long name. `EngineError` is a code with its
wording, and `EngineError.kind` sorts the codes by who is to blame.
-/
import PatternSearch.Text.Lossy

namespace PatternSearch

/-- The status of a search that found nothing. -/
def mismatchStatus : Int32 := -1

/-- The status for an argument that makes no sense. -/
def invalidArgument : Int32 := -30

/-- Codes and wordings, for the codes that quote no name. -/
def statusTable : List (Int × String) :=
  [(-1, "mismatch"),
   (-2, "no support in this configuration"),
   (-3, "abort"),
   (-5, "fail to memory allocation"),
   (-6, "undefined type (bug)"),
   (-11, "internal parser error (bug)"),
   (-12, "stack error (bug)"),
   (-13, "undefined bytecode (bug)"),
   (-14, "unexpected bytecode (bug)"),
   (-15, "match-stack limit over"),
   (-16, "parse depth limit over"),
   (-17, "retry-limit-in-match over"),
   (-18, "retry-limit-in-search over"),
   (-19, "subexp-call-limit-in-search over"),
   (-21, "default multibyte-encoding is not set"),
   (-22, "can't convert to wide-char on specified multibyte-encoding"),
   (-23, "fail to initialize"),
   (-30, "invalid argument"),
   (-100, "end pattern at left brace"),
   (-101, "end pattern at left bracket"),
   (-102, "empty char-class"),
   (-103, "premature end of char-class"),
   (-104, "end pattern at escape"),
   (-105, "end pattern at meta"),
   (-106, "end pattern at control"),
   (-108, "invalid meta-code syntax"),
   (-109, "invalid control-code syntax"),
   (-110, "char-class value at end of range"),
   (-111, "char-class value at start of range"),
   (-112, "unmatched range specifier in char-class"),
   (-113, "target of repeat operator is not specified"),
   (-114, "target of repeat operator is invalid"),
   (-115, "nested repeat operator"),
   (-116, "unmatched close parenthesis"),
   (-117, "end pattern with unmatched parenthesis"),
   (-118, "end pattern in group"),
   (-119, "undefined group option"),
   (-120, "invalid group option"),
   (-121, "invalid POSIX bracket type"),
   (-122, "invalid pattern in look-behind"),
   (-123, "invalid repeat range \x7blower,upper\x7d"),
   (-200, "too big number"),
   (-201, "too big number for repeat range"),
   (-202, "upper is smaller than lower in repeat range"),
   (-203, "empty range in char class"),
   (-204, "mismatch multibyte code length in char-class range"),
   (-205, "too many multibyte code ranges are specified"),
   (-206, "too short multibyte code string"),
   (-207, "too big backref number"),
   (-208, "invalid backref number/name"),
   (-209, "numbered backref/call is not allowed. (use name)"),
   (-210, "too many captures"),
   (-212, "too long wide-char value"),
   (-213, "undefined operator"),
   (-214, "group name is empty"),
   (-221, "never ending recursion"),
   (-222, "group number is too big for capture history"),
   (-224, "invalid if-else syntax"),
   (-225, "invalid absent group pattern"),
   (-226, "invalid absent group generator pattern"),
   (-227, "invalid callout pattern"),
   (-228, "invalid callout name"),
   (-229, "undefined callout name"),
   (-230, "invalid callout body"),
   (-231, "invalid callout tag name"),
   (-232, "invalid callout arg"),
   (-400, "invalid code point value"),
   (-401, "too big wide-char value"),
   (-402, "not supported encoding combination"),
   (-403, "invalid combination of options"),
   (-406, "very inefficient pattern"),
   (-500, "library is not initialized")]

/-- The wording for a code that is none of the table's. -/
def undefinedStatusText : String := "undefined error code"

/-- The wording of a code. -/
def statusText (code : Int) : String :=
  match statusTable.find? (fun entry => entry.1 == code) with
  | some entry => entry.2
  | none => undefinedStatusText

/-- The words before and after the name, for the codes that quote one. -/
def namedTable : List (Int × String × String) :=
  [(-215, "invalid group name <", ">"),
   (-216, "invalid char in group name <", ">"),
   (-217, "undefined name <", "> reference"),
   (-218, "undefined group <", "> reference"),
   (-219, "multiplex defined name <", ">"),
   (-220, "multiplex definition name <", "> call"),
   (-223, "invalid character property name \x7b", "\x7d")]

/-- How many bytes of a name are quoted before it is cut short. -/
def quotedNameLength : Nat := 27

/-- A name as messages quote it: its first bytes, and dots if there are more. -/
def shortenedName (name : ByteArray) : ByteArray :=
  if quotedNameLength < name.size then
    name.extract 0 quotedNameLength ++ "...".toByteArray
  else name

/-- The wording of a code about a name. -/
def namedText (code : Int) (name : ByteArray) : String :=
  match namedTable.find? (fun entry => entry.1 == code) with
  | some (_, before, after) =>
    Text.lossy (before.toByteArray ++ shortenedName name ++ after.toByteArray)
  | none => statusText code

/-- Who is to blame for an error. -/
inductive ErrorKind where
  /-- A search used up its stack or its retries. -/
  | resourceLimit
  /-- The pattern cannot be compiled. -/
  | pattern
  /-- Anything else. -/
  | fault
  deriving DecidableEq, Repr

/-- A status code below zero, with its wording. -/
structure EngineError where
  code : Int32
  message : String
  deriving DecidableEq, Repr

namespace EngineError

/-- The error with a given code. -/
def ofCode (code : Int32) : EngineError := ⟨code, statusText code.toInt⟩

/-- The error with a given code about a name. -/
def ofNamed (code : Int32) (name : ByteArray) : EngineError :=
  ⟨code, namedText code.toInt name⟩

/-- Who is to blame: the limits have three codes, patterns everything from
-100 down. -/
def kind (e : EngineError) : ErrorKind :=
  if e.code = -15 ∨ e.code = -17 ∨ e.code = -18 then .resourceLimit
  else if e.code ≤ -100 then .pattern
  else .fault

/-- Whether a search ran into one of its limits. -/
def isResourceLimit (e : EngineError) : Bool := e.kind = .resourceLimit

end EngineError

end PatternSearch
