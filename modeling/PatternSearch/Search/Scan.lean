/-
PatternSearch.Search.Scan — all matches between two offsets, none overlapping
another.

A scan asks for a match from a cursor on, hands it to a visitor and goes on
where it ended. An empty match where the match before it ended is skipped:
the cursor moves by one unit, a byte or a character, and the search is made
again. Nothing else keeps a scan from standing still: an engine that answers
with matches before the cursor can lead it in a circle. The loop is therefore a
partial function, and `none` stands for a scan that never comes to an end.

Every step leaves an event in the trace of the run, in order: what the engine
was asked, what was handed to the visitor and what was skipped.
-/
import PatternSearch.Search.Engine

namespace PatternSearch

open Text

/-- How far the cursor moves past a skipped match. -/
inductive Advance where
  /-- By a byte; the text need not be UTF-8. -/
  | byte
  /-- By a character. -/
  | char
  deriving DecidableEq, Repr

namespace Advance

/-- The bytes of a character, judged by its first one. -/
def leadWidth (b : UInt8) : Nat :=
  if 0xF0 ≤ b then 4 else if 0xE0 ≤ b then 3 else if 0xC0 ≤ b then 2 else 1

/-- How far the cursor moves from where it is. -/
def width (a : Advance) (text : ByteArray) (cursor : Nat) : Nat :=
  match a with
  | .byte => 1
  | .char => if h : cursor < text.size then leadWidth text[cursor] else 1

theorem leadWidth_pos (b : UInt8) : 0 < leadWidth b := by
  unfold leadWidth
  repeat' split
  all_goals omega

theorem width_pos (a : Advance) (text : ByteArray) (cursor : Nat) :
    0 < a.width text cursor := by
  cases a with
  | byte => exact Nat.one_pos
  | char =>
    simp only [width]
    split
    · exact leadWidth_pos _
    · exact Nat.one_pos

end Advance

/-- What a visitor says after a match. -/
inductive Decision where
  | resume
  | halt
  deriving DecidableEq, Repr

/-- Something that happens during a scan. -/
inductive Event where
  /-- The engine is asked for a match from a cursor on. -/
  | asked (cursor : Nat)
  /-- A match is handed to the visitor, the number counting from 0. -/
  | accepted (number : Nat) (span : Span) (region : Region)
  /-- An empty match is skipped. -/
  | skipped (start : Nat)
  deriving DecidableEq, Repr

namespace Event

/-- The event as a line of a log; queries are not logged. -/
def logLine? : Event → Option String
  | asked _ => none
  | accepted number span _ => some s!"match #{number} @ [{span.start}, {span.stop})"
  | skipped start => some s!"skip empty match at {start}"

/-- The region handed to the visitor. -/
def region? : Event → Option Region
  | accepted _ _ region => some region
  | _ => none

/-- Where the match handed to the visitor lies. -/
def span? : Event → Option Span
  | accepted _ span _ => some span
  | _ => none

/-- The cursor the engine is asked from. -/
def cursor? : Event → Option Nat
  | asked cursor => some cursor
  | _ => none

end Event

/-- A run of a scan: the visitor's state after it, what happened, and the
number of matches handed over or the error that ended it. -/
structure Run (σ : Type) where
  state : σ
  trace : List Event
  outcome : Except Error Nat

namespace Run

/-- The run with something that happened before it. -/
def after {σ : Type} (events : List Event) (r : Run σ) : Run σ :=
  { r with trace := events ++ r.trace }

/-- The regions handed to the visitor, in order. -/
def accepted {σ : Type} (r : Run σ) : List Region := r.trace.filterMap Event.region?

/-- Where the matches handed to the visitor lie, in order. -/
def spans {σ : Type} (r : Run σ) : List Span := r.trace.filterMap Event.span?

/-- The cursors the engine was asked from, in order. -/
def cursors {σ : Type} (r : Run σ) : List Nat := r.trace.filterMap Event.cursor?

/-- The lines of the run's log. -/
def log {σ : Type} (r : Run σ) : List String := r.trace.filterMap Event.logLine?

end Run

/-- Where a scan stands between two searches. -/
structure Standing (σ : Type) where
  /-- The offset the next search starts from. -/
  cursor : Nat
  /-- Where the last match ended. -/
  last : Option Nat
  /-- How many matches there have been. -/
  count : Nat
  /-- How many searches there have been. -/
  asked : Nat
  /-- The region of the last search. -/
  region : Region
  /-- The visitor's state. -/
  state : σ

namespace Standing

variable {σ : Type}

/-- Where a scan stands at the beginning. -/
def first (start : Nat) (state : σ) : Standing σ := ⟨start, none, 0, 0, .empty, state⟩

/-- Whether a match is empty and lies where the last one ended. -/
def Repeats (st : Standing σ) (span : Span) : Prop :=
  span.isEmpty ∧ st.last = some span.stop

instance (st : Standing σ) (span : Span) : Decidable (st.Repeats span) :=
  inferInstanceAs (Decidable (_ ∧ _))

/-- Where the scan stands after handing over a match. -/
def take (st : Standing σ) (span : Span) (region : Region) (state : σ) : Standing σ :=
  ⟨span.stop, some span.stop, st.count + 1, st.asked + 1, region, state⟩

end Standing

/-- What comes of a scan, by where it stands; nothing if it comes to no end. -/
abbrev Course (σ : Type) := Standing σ → Option (Run σ)

/-- Goes on from a standing, after something has happened. -/
abbrev Course.goOn {σ : Type} (course : Course σ) (events : List Event) (st : Standing σ) :
    Option (Run σ) := do
  let later ← course st
  return later.after events

/-- What stays the same during a scan. -/
structure Scan where
  engine : Engine
  text : ByteArray
  /-- The offset up to which matches may start. -/
  stop : Nat
  options : SearchOptions
  param : MatchParam
  advance : Advance

namespace Scan

/-- The query from a cursor on. -/
def query (s : Scan) (cursor : Nat) : Query := ⟨s.text, cursor, s.stop, s.options, s.param⟩

/-- What the engine answers from a cursor on, `past` searches having been made
before: a match and the region of its groups, none, or an error. A match whose
place the region does not tell counts as none. -/
def ask (s : Scan) (past cursor : Nat) (region : Region) :
    Except Error (Option (Span × Region)) :=
  match s.engine.searchAfter past (s.query cursor) region.clear with
  | (.error e, _) => .error e
  | (.ok none, _) => .ok none
  | (.ok (some _), region) => .ok ((region.span? 0).map (fun span => (span, region)))

/-- Where the scan stands after skipping a match. -/
def skip {σ : Type} (s : Scan) (st : Standing σ) (region : Region) : Standing σ :=
  { st with
    cursor := st.cursor + s.advance.width s.text st.cursor
    asked := st.asked + 1
    region }

section Loop

variable {σ : Type} (s : Scan) (visit : σ → Region → σ × Decision)

/-- The scan from where it stands on. -/
def loop : Course σ := fun st =>
  if st.cursor ≤ s.stop then
    match s.ask st.asked st.cursor st.region with
    | .error e => some ⟨st.state, [.asked st.cursor], .error e⟩
    | .ok none => some ⟨st.state, [.asked st.cursor], .ok st.count⟩
    | .ok (some (span, region)) =>
      if st.Repeats span then
        loop.goOn [.asked st.cursor, .skipped span.start] (s.skip st region)
      else
        match visit st.state region with
        | (state, .halt) =>
          some ⟨state, [.asked st.cursor, .accepted st.count span region], .ok (st.count + 1)⟩
        | (state, .resume) =>
          loop.goOn [.asked st.cursor, .accepted st.count span region]
            (st.take span region state)
  else some ⟨st.state, [], .ok st.count⟩
partial_fixpoint

end Loop

/-- The scan from `start` on. The range has to lie within the text. -/
def run {σ : Type} (s : Scan) (visit : σ → Region → σ × Decision) (start : Nat) (state : σ) :
    Option (Run σ) :=
  if (s.query start).InRange then s.loop visit (.first start state)
  else some ⟨state, [], .error (Engine.rangeError (s.query start))⟩

/-- The scan to its end, whatever the matches are. -/
def runAll (s : Scan) (start : Nat) : Option (Run Unit) :=
  s.run (fun u _ => (u, .resume)) start ()

/-- A visitor that wants a given number of matches and no more, or all. -/
def upTo (wanted : Option Nat) (seen : Nat) (_ : Region) : Nat × Decision :=
  (seen + 1, match wanted with
    | some n => if n ≤ seen + 1 then .halt else .resume
    | none => .resume)

end Scan

/-- What comes of scanning a text: a value or the error that ended the scan, or
nothing if the scan never comes to an end. -/
abbrev Eventual (α : Type) := Option (Except Error α)

namespace Eventual

/-- What is made of the value, if there is one. -/
def map {α β : Type} (f : α → β) (x : Eventual α) : Eventual β := Option.map (Except.map f) x

end Eventual

namespace Scan

/-- What a visitor that never halts writes down of all matches. -/
def collect {α : Type} (s : Scan) (note : Region → List α) (start : Nat) : Eventual (List α) :=
  (s.run (fun notes region => (notes ++ note region, .resume)) start []).map fun r =>
    r.outcome.map fun _ => r.state

end Scan

end PatternSearch
