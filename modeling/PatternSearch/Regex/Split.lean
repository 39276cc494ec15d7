/-
PatternSearch.Regex.Split — cutting a text at the matches of a regex.

A splitter hands out the stretches between matches one by one, the last of
them after the last match. Parts are spans of the text, so that nothing is
copied and it can be said where each part lies. A bounded splitter counts
down: its last part is all that is left, matches or not.
-/
import PatternSearch.Regex.Match

namespace PatternSearch

open Text

/-- A text being cut: the matches still to come, and where the next part
starts. -/
structure Splitter where
  text : String
  pending : List Span
  last : Nat

namespace Splitter

/-- The matches of a text as cuts, from its beginning on. -/
def ofSpans (text : String) (spans : List Span) : Splitter := ⟨text, spans, 0⟩

/-- The offset past which nothing is left: after the last part, `last` lies
beyond the end of the text. -/
def isDone (s : Splitter) : Bool := s.text.utf8ByteSize < s.last

/-- Everything not handed out yet, if there is any. -/
def remainder (s : Splitter) : Option Span :=
  if s.isDone then none else some (suffixSpan s.text s.last)

/-- The next part. -/
def next (s : Splitter) : Option Span × Splitter :=
  match s.pending with
  | [] =>
    match s.remainder with
    | none => (none, s)
    | some part => (some part, { s with last := s.text.utf8ByteSize + 1 })
  | m :: rest => (some ⟨s.last, m.start⟩, { s with pending := rest, last := m.stop })

/-- At most `n` parts, and the splitter after them. -/
def take : Nat → Splitter → List Span × Splitter
  | 0, s => ([], s)
  | n + 1, s =>
    match s.next with
    | (none, s) => ([], s)
    | (some part, s) =>
      let (parts, s) := take n s
      (part :: parts, s)

/-- All parts, and the splitter after them. There is at most one more part
than there are matches. -/
def drain (s : Splitter) : List Span × Splitter := s.take (s.pending.length + 1)

end Splitter

/-- A text being cut into a bounded number of parts, this many of which are
left. -/
structure BoundedSplitter where
  splitter : Splitter
  left : Nat

namespace BoundedSplitter

/-- The next part. The last one allowed is everything that is left. -/
def next (s : BoundedSplitter) : Option Span × BoundedSplitter :=
  match s.left with
  | 0 => (none, s)
  | 1 => (s.splitter.remainder, { s with left := 0 })
  | n + 2 =>
    let (part, splitter) := s.splitter.next
    (part, ⟨splitter, n + 1⟩)

/-- At most `n` parts, and the splitter after them. -/
def take : Nat → BoundedSplitter → List Span × BoundedSplitter
  | 0, s => ([], s)
  | n + 1, s =>
    match s.next with
    | (none, s) => ([], s)
    | (some part, s) =>
      let (parts, s) := take n s
      (part :: parts, s)

/-- All parts, and the splitter after them. -/
def drain (s : BoundedSplitter) : List Span × BoundedSplitter :=
  s.take (min s.left (s.splitter.pending.length + 1))

end BoundedSplitter

namespace Regex

/-- Cuts a text at every match. -/
def split (re : Regex) (text : String) : Eventual Splitter :=
  (re.allSpans text).map (Splitter.ofSpans text)

/-- Cuts a text into at most `limit` parts. -/
def splitn (re : Regex) (text : String) (limit : Nat) : Eventual BoundedSplitter :=
  (re.split text).map (fun s => ⟨s, limit⟩)

end Regex

end PatternSearch
