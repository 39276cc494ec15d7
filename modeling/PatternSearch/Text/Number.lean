/-
PatternSearch.Text.Number — numbers written in digits.

Two readers. `hexNumber` reads the hexadecimal words of the character tables.
`wordOfDigits?` reads a decimal number that has to fit in an unsigned word of
64 bits, which is the width of a group number; `wordOfName?` is the same with
one optional leading plus sign, the form a group reference may use.
-/
namespace PatternSearch.Text

/-- One more than the largest group number a reference can write. -/
def wordBound : Nat := 0x10000000000000000

/-- The value of a decimal digit. -/
def decimalDigit? (c : Char) : Option Nat :=
  if '0' ≤ c ∧ c ≤ '9' then some (c.toNat - '0'.toNat) else none

/-- The value of a hexadecimal digit, of either case. -/
def hexDigit? (c : Char) : Option Nat :=
  if '0' ≤ c ∧ c ≤ '9' then some (c.toNat - '0'.toNat)
  else if 'a' ≤ c ∧ c ≤ 'f' then some (c.toNat - 'a'.toNat + 10)
  else if 'A' ≤ c ∧ c ≤ 'F' then some (c.toNat - 'A'.toNat + 10)
  else none

/-- A hexadecimal number; characters that are no digits are passed over. -/
def hexNumber (cs : List Char) : Nat :=
  cs.foldl (fun n c => match hexDigit? c with
    | some d => 16 * n + d
    | none => n) 0

/-- Digits appended to the number read so far, `none` at the first character
that is no digit. -/
def decimalFrom (n : Nat) : List Char → Option Nat
  | [] => some n
  | c :: cs =>
    match decimalDigit? c with
    | some d => decimalFrom (10 * n + d) cs
    | none => none

/-- A nonempty run of decimal digits whose value fits in a word. -/
def wordOfDigits? (cs : List Char) : Option Nat :=
  match cs with
  | [] => none
  | _ :: _ =>
    match decimalFrom 0 cs with
    | some n => if n < wordBound then some n else none
    | none => none

/-- A group number as a name: digits, with an optional leading plus sign. -/
def wordOfName? : List Char → Option Nat
  | '+' :: cs => wordOfDigits? cs
  | cs => wordOfDigits? cs

/-- The digits of a number in base sixteen, in lower case. -/
def hexText (n : Nat) : String :=
  String.ofList (Nat.toDigits 16 n)

end PatternSearch.Text
