/-
PatternSearch.Matcher.Search — trying a pattern at one place after another.

A search goes from one offset to another. Where the first lies before the
second it goes forward and no character at or after the second is consumed.
Otherwise it goes backward, and what may be consumed ends with the character
at which it began. Each place is the start of an attempt; the first attempt
that finds something decides, unless the longest match of all is asked for.
-/
import PatternSearch.Matcher.Machine
import PatternSearch.Pattern.Options
import PatternSearch.Pattern.Program

namespace PatternSearch.Matcher

open Text Pattern

/-- The limits of a search; 0 is unlimited. -/
structure Bounds where
  stack : Nat
  retry : Nat

/-- How a search ends. -/
inductive Outcome where
  | found (f : Found)
  | none
  /-- Given up, with a status code. -/
  | givenUp (status : Int32)

/-- The first character boundary at or after an offset. -/
def boundaryFrom (text : ByteArray) (i : Nat) : Nat :=
  let head := headAt text i
  if head < i then head + widthAt text head else i

/-- The place to try after `i` in a search from `first` to `last`: the next
character going forward, the one before going backward. -/
def nextStart? (text : ByteArray) (first last i : Nat) : Option Nat :=
  if first < last then
    let j := i + widthAt text i
    if j ≤ boundaryFrom text last then some j else none
  else (headBefore? text i).filter (fun j => last ≤ j)

/-- The number of offsets between two, both of them counted. -/
def offsetsBetween (first last : Nat) : Nat := max first last - min first last + 1

/-- The offset up to which a search may consume characters. -/
def consumable (text : ByteArray) (first last : Nat) : Nat :=
  if first < last then last
  else if first < text.size then min text.size (first + widthAt text first)
  else text.size

/-- One attempt after another, from `i` on. `fuel` bounds their number. -/
def tryFrom (p : Program) (subject : Subject) (next? : Nat → Option Nat) :
    Nat → Nat → Option Found → Outcome
  | 0, _, best => best.elim .none .found
  | fuel + 1, i, best =>
    match attempt subject p.code p.groups i best with
    | .found f => .found f
    | .stackOver => .givenUp (-15)
    | .retryOver => .givenUp (-17)
    | .failed best =>
      match next? i with
      | some j => tryFrom p subject next? fuel j best
      | none => best.elim .none .found

/-- Searches a text from `first` to `last`. -/
def search (p : Program) (text : ByteArray) (first last : Nat) (options : SearchOptions)
    (bounds : Bounds) : Outcome :=
  if options.has .checkValidity && !isWellFormed text then
    .givenUp Refusal.invalidCode.code
  else
    let subject : Subject :=
      { text, limit := consumable text first last, origin := first,
        notBol := options.has .notBol, notEol := options.has .notEol,
        longest := p.longest, notEmpty := p.notEmpty,
        stackLimit := bounds.stack, retryLimit := bounds.retry }
    tryFrom p subject (nextStart? text first last) (offsetsBetween first last) first none

end PatternSearch.Matcher
