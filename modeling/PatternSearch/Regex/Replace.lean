/-
PatternSearch.Regex.Replace — putting something else in the place of matches.

A replacer says what to put in the place of a match; it may keep a state from
one match to the next, and it may fail. A replacement cuts the text into
pieces, stretches that are kept and texts that are put in, and `Piece.render`
writes them out. `Splice` has the pieces also when the replacer failed: those
cut until then.
-/
import PatternSearch.Regex.Captures

namespace PatternSearch

open Text

/-- What to put in the place of a match. -/
structure Replacer (σ : Type) where
  /-- The text for a match, and the state afterwards. -/
  replace : σ → Captures → Dialect → σ × Except Error String

namespace Replacer

/-- A template, read in the dialect of the regex. -/
def template (t : String) : Replacer Unit :=
  ⟨fun u c d => (u, match d.expand t c.texts "" with
    | (written, .ok ()) => .ok written
    | (_, .error e) => .error (.template e))⟩

/-- A text as it stands. -/
def verbatim (t : String) : Replacer Unit := ⟨fun u _ _ => (u, .ok t)⟩

/-- A text computed from the match. -/
def computed {σ : Type} (f : σ → Captures → σ × String) : Replacer σ :=
  ⟨fun s c _ => match f s c with
    | (s, t) => (s, .ok t)⟩

end Replacer

/-- A part of a text after a replacement. -/
inductive Piece where
  /-- A stretch of the text. -/
  | kept (span : Span)
  /-- A text put in. -/
  | written (t : String)
  deriving DecidableEq, Repr

namespace Piece

/-- Whether a piece can be written out: a kept stretch has to lie between
characters. -/
def Fits (text : String) : Piece → Prop
  | kept span => span.Fits text
  | written _ => True

instance (text : String) (p : Piece) : Decidable (p.Fits text) :=
  match p with
  | kept span => inferInstanceAs (Decidable (span.Fits text))
  | written _ => isTrue trivial

/-- A piece as text. -/
def str (text : String) : Piece → String
  | kept span => span.slice text
  | written t => t

/-- All pieces, one after the other. -/
def render (text : String) (pieces : List Piece) : String :=
  String.join (pieces.map (Piece.str text))

end Piece

/-- A replacement as far as it got: the replacer's state, the pieces cut, and
the error that ended it, if any. -/
structure Splice (σ : Type) where
  state : σ
  pieces : List Piece
  outcome : Except Error Unit

namespace Splice

/-- The replacement with pieces before it. -/
def after {σ : Type} (pieces : List Piece) (r : Splice σ) : Splice σ :=
  { r with pieces := pieces ++ r.pieces }

end Splice

namespace Regex

/-- The replacement from an offset on, for the matches to be replaced. -/
def spliceFrom {σ : Type} (rep : Replacer σ) (d : Dialect) (text : String) :
    List Captures → Nat → σ → Splice σ
  | [], last, state => ⟨state, [.kept (suffixSpan text last)], .ok ()⟩
  | c :: rest, last, state =>
    match c.span? 0 with
    | none => spliceFrom rep d text rest last state
    | some m =>
      match rep.replace state c d with
      | (state, .error e) => ⟨state, [.kept ⟨last, m.start⟩], .error e⟩
      | (state, .ok t) =>
        (spliceFrom rep d text rest m.stop state).after [.kept ⟨last, m.start⟩, .written t]

/-- The matches a limit leaves to be replaced; 0 is no limit. -/
def limited {α : Type} (limit : Nat) (items : List α) : List α :=
  if limit = 0 then items else items.take limit

/-- The replacement of at most `limit` matches. All of them are looked for
before the first is replaced. -/
def splice {σ : Type} (re : Regex) (text : String) (limit : Nat) (rep : Replacer σ)
    (state : σ) : Option (Splice σ) :=
  match re.capturesIter text with
  | none => none
  | some (.error e) => some ⟨state, [], .error e⟩
  | some (.ok all) => some (spliceFrom rep re.dialect text (limited limit all.items) 0 state)

/-- The pieces of a replacement of at most `limit` matches, and the replacer's
state afterwards. -/
def replacePieces {σ : Type} (re : Regex) (text : String) (limit : Nat) (rep : Replacer σ)
    (state : σ) : Option (σ × Except Error (List Piece)) :=
  (re.splice text limit rep state).map fun r => (r.state, r.outcome.map fun _ => r.pieces)

/-- Replaces at most `limit` matches; 0 is no limit. -/
def replacen {σ : Type} (re : Regex) (text : String) (limit : Nat) (rep : Replacer σ)
    (state : σ) : Eventual String :=
  (re.replacePieces text limit rep state).map fun r => r.2.map (Piece.render text)

/-- Replaces the first match. -/
def replace {σ : Type} (re : Regex) (text : String) (rep : Replacer σ) (state : σ) :
    Eventual String :=
  re.replacen text 1 rep state

/-- Replaces every match. -/
def replaceAll {σ : Type} (re : Regex) (text : String) (rep : Replacer σ) (state : σ) :
    Eventual String :=
  re.replacen text 0 rep state

end Regex

end PatternSearch
