/-
PatternSearch.Matcher.Machine — matching code at one place of a text, by
backtracking.

The machine works through instructions and keeps a stack of entries. Some of
them are choices: where the match could have gone on otherwise. When it gets
stuck it drops entries from the top until a choice comes up, and on the way
puts back what the groups had matched before (`State.unwind`). Other entries
remember counts, marks, places and calls, which instructions find by searching
the stack from the top.

`step` carries out one instruction, `run` one after the other. A match that is
not wanted, or not the longest so far, counts as getting stuck. The machine
gives up when one of two limits is passed: the size of the stack, and the
number of times it got stuck.
-/
import PatternSearch.Matcher.Place
import PatternSearch.Text.Span

namespace PatternSearch.Matcher

open Text Pattern

/-- Where a group has begun and ended, so far as it has. -/
structure GroupSpan where
  start : Option Nat
  stop : Option Nat
  deriving DecidableEq, Repr, Inhabited

namespace GroupSpan

/-- A group that has not taken part. -/
def absent : GroupSpan := ⟨none, none⟩

/-- The stretch of a group that has ended. -/
def span? (g : GroupSpan) : Option Span :=
  match g.start, g.stop with
  | some s, some e => some ⟨s, e⟩
  | _, _ => none

end GroupSpan

/-- An entry of the stack. -/
inductive Entry where
  /-- Another way to go on: an instruction and an offset. A lasting one is not
  cut off. -/
  | choice (pc pos : Nat)
  | lasting (pc pos : Nat)
  /-- Going back further is possible, so many times. -/
  | further (pc pos : Nat) (times : Option Nat)
  /-- A group has begun or ended; what was known of it before. -/
  | opened (group pos : Nat) (before : GroupSpan)
  | closed (group pos : Nat) (before : GroupSpan)
  /-- A group has ended, and nothing has to be put back. -/
  | passed (group : Nat)
  /-- The number of rounds of a counted repetition. -/
  | count (id n : Nat)
  /-- A round has begun at an offset, or ended. -/
  | roundStart (id pos : Nat)
  | roundEnd (id : Nat)
  /-- A mark, and the offset at it. -/
  | mark (id pos : Nat)
  /-- The value of a register. -/
  | saved (r : Register) (id value : Nat)
  /-- The match counts from an offset. -/
  | kept (pos : Nat)
  /-- A call, with the instruction to go back to; and the end of a call. -/
  | frame (back : Nat)
  | returned
  /-- What is left of an entry that no longer counts. -/
  | void
  deriving Inhabited

/-- A match: where it began and ended, where it counts from, and the groups. -/
structure Found where
  start : Nat
  stop : Nat
  keep : Nat
  groups : Array GroupSpan
  deriving Inhabited

/-- What few instructions change. -/
structure Standing where
  /-- No character may be consumed that ends after this offset. -/
  limit : Nat
  /-- Where the match counts from. -/
  keep : Nat
  /-- How deep in calls the match is. -/
  depth : Nat
  /-- How many times more it is possible to go back, as the choice taken up
  last says. -/
  further : Option Nat
  /-- The longest match so far. -/
  best : Option Found

/-- A match under way. -/
structure State where
  pc : Nat
  pos : Nat
  stack : Array Entry
  groups : Array GroupSpan
  /-- How often the match got stuck. -/
  retries : Nat
  standing : Standing

/-- How an attempt ends. -/
inductive Verdict where
  /-- With a match. -/
  | found (f : Found)
  /-- Without one; what stays is the longest match so far, if it was asked
  for. -/
  | failed (best : Option Found)
  /-- With too many choices, or too many of them taken up. -/
  | stackOver
  | retryOver

/-- What comes after an instruction. -/
inductive Progress where
  /-- Another one. -/
  | next (st : State)
  /-- Nothing: this way leads nowhere. -/
  | stuck (st : State)
  /-- Nothing: the match is over. -/
  | ended (v : Verdict)

/-! ## Searching the stack -/

/-- The depth of calls below an entry, going down the stack: entries of calls
that have ended lie between its end and its beginning. -/
def depthBelow (e : Entry) (depth : Int) : Int :=
  match e with
  | .frame _ => depth - 1
  | .returned => depth + 1
  | _ => depth

/-- The topmost value, of those given by `pick`, among the lowest `n` entries
at the depth 0. -/
def findSaved {α : Type} (stack : Array Entry) (pick : Entry → Option α) : Nat → Int → Option α
  | 0, _ => none
  | n + 1, depth =>
    let e := stack.getD n .void
    match (if depth = 0 then pick e else none) with
    | some a => some a
    | none => findSaved stack pick n (depthBelow e depth)

/-- The number of rounds of a repetition so far. Calls that have ended are
passed over; calls that have not are looked into. -/
def findCount (stack : Array Entry) (id : Nat) : Nat → Nat → Nat
  | 0, _ => 0
  | n + 1, ended =>
    match stack.getD n .void with
    | .count id' c => if ended = 0 && id' == id then c else findCount stack id n ended
    | .returned => findCount stack id n (ended + 1)
    | .frame _ => findCount stack id n (ended - 1)
    | _ => findCount stack id n ended

/-- Where the call that is to end came from. -/
def findFrame (stack : Array Entry) : Nat → Nat → Option Nat
  | 0, _ => none
  | n + 1, ended =>
    match stack.getD n .void with
    | .frame back => if ended = 0 then some back else findFrame stack n (ended - 1)
    | .returned => findFrame stack n (ended + 1)
    | _ => findFrame stack n ended

/-- The number of the entry with which a round began, and its offset; rounds
that have ended are passed over. -/
def findRound (stack : Array Entry) (id : Nat) : Nat → Nat → Option (Nat × Nat)
  | 0, _ => none
  | n + 1, ended =>
    match stack.getD n .void with
    | .roundStart id' pos =>
      if id' != id then findRound stack id n ended
      else if ended = 0 then some (n, pos)
      else findRound stack id n (ended - 1)
    | .roundEnd id' => findRound stack id n (if id' == id then ended + 1 else ended)
    | _ => findRound stack id n ended

/-- Where the group that is to end began: matches of the group that have ended
since are passed over. -/
def findOpened (stack : Array Entry) (group : Nat) : Nat → Nat → Option Nat
  | 0, _ => none
  | n + 1, ended =>
    match stack.getD n .void with
    | .opened g pos _ =>
      if g != group then findOpened stack group n ended
      else if ended = 0 then some pos
      else findOpened stack group n (ended - 1)
    | .closed g _ _ | .passed g => findOpened stack group n (if g == group then ended + 1 else ended)
    | _ => findOpened stack group n ended

/-- The match of one of some groups in a call that lies a number of calls away,
going down the stack; `stop` is the end of such a match once it came up. -/
def findAtDepth (stack : Array Entry) (groups : List Nat) (away : Int) :
    Nat → Int → Option Nat → Option Span
  | 0, _, _ => none
  | n + 1, depth, stop =>
    let e := stack.getD n .void
    match e with
    | .opened g pos _ =>
      match stop with
      | some stop' =>
        if depth = away && groups.contains g then some ⟨pos, stop'⟩
        else findAtDepth stack groups away n depth stop
      | none => findAtDepth stack groups away n depth stop
    | .closed g pos _ =>
      findAtDepth stack groups away n depth
        (if depth = away && groups.contains g then some pos else stop)
    | _ => findAtDepth stack groups away n (depthBelow e depth) stop

/-! ## Rounds that match nothing -/

/-- Whether one of some groups was opened, by these entries, that had no match
before or one that was not empty. -/
def changesGroup (watched : List Nat) (entries : List Entry) : Bool :=
  entries.any (fun e => match e with
    | .opened g _ before =>
      watched.contains g && (before.stop.isNone || before.start != before.stop)
    | _ => false)

/-- Whether a round that ends at an offset has matched nothing, nor changed what
is known of the groups that are watched. -/
def isEmptyRound (stack : Array Entry) (id : Nat) (watched : List Nat) (pos : Nat) : Bool :=
  match findRound stack id stack.size 0 with
  | none => false
  | some (n, start) =>
    start == pos
      && (watched.isEmpty || !changesGroup watched (stack.extract n stack.size).toList)

/-! ## Going back -/

namespace State

/-- The state with one more entry. -/
@[inline] def push (st : State) (e : Entry) : State := { st with stack := st.stack.push e }

/-- The state at the next instruction. -/
@[inline] def advance (st : State) : State := { st with pc := st.pc + 1 }

/-- The state at another instruction. -/
@[inline] def goto (st : State) (pc : Nat) : State := { st with pc := pc }

/-- The state at the next instruction and at another offset. -/
@[inline] def moveTo (st : State) (pos : Nat) : State := { st with pc := st.pc + 1, pos := pos }

/-- What is known of a group. -/
def group (st : State) (g : Nat) : GroupSpan := st.groups.getD g .absent

/-- The state with a group changed. -/
def setGroup (st : State) (g : Nat) (s : GroupSpan) : State :=
  { st with groups := st.groups.setIfInBounds g s }

end State

/-- The groups as they were before an entry was made. -/
@[inline] def undone (groups : Array GroupSpan) : Entry → Array GroupSpan
  | .opened g _ before | .closed g _ before => groups.setIfInBounds g before
  | _ => groups

/-- Drops entries from the top of a stack until a choice comes up, and takes
that up; `st` is the state but for the stack and the groups. -/
def State.resume (st : State) (stack : Array Entry) (groups : Array GroupSpan) : Option State :=
  if h : 0 < stack.size then
    let e := stack[stack.size - 1]
    let stack' := stack.pop
    match e with
    | .choice pc pos | .lasting pc pos =>
      some { st with
        pc := pc, pos := pos, stack := stack', groups := groups, retries := st.retries + 1 }
    | .further pc pos times =>
      some { st with
        pc := pc, pos := pos, stack := stack', groups := groups, retries := st.retries + 1
        standing := { st.standing with further := times } }
    | e => st.resume stack' (undone groups e)
  else none
termination_by stack.size
decreasing_by simp_wf; omega

/-- Goes back to the choice noted last, if there is one. -/
def State.unwind (st : State) : Option State :=
  let stack := st.stack
  let groups := st.groups
  State.resume { st with stack := #[], groups := #[] } stack groups

/-- Drops all entries of a stack down to a mark, and the mark, and puts the
groups back. -/
def dropTo (id : Nat) (stack : Array Entry) (groups : Array GroupSpan) :
    Array Entry × Array GroupSpan :=
  if h : 0 < stack.size then
    let e := stack[stack.size - 1]
    let stack' := stack.pop
    match e with
    | .mark id' _ => if id' = id then (stack', groups) else dropTo id stack' groups
    | e => dropTo id stack' (undone groups e)
  else (stack, groups)
termination_by stack.size
decreasing_by all_goals simp_wf; omega

/-- Goes back to how everything was at a mark. -/
def State.unwindTo (st : State) (id : Nat) : State :=
  let stack := st.stack
  let groups := st.groups
  let st := { st with stack := #[], groups := #[] }
  let (stack, groups) := dropTo id stack groups
  { st with stack := stack, groups := groups }

/-- Whether an entry no longer counts after a cut. -/
def isCutOff : Entry → Bool
  | .choice _ _ | .further _ _ _ | .roundStart _ _ | .roundEnd _ => true
  | _ => false

/-- The stack with the choices above a mark made void, and the mark, among the
lowest `n` entries; and the offset at the mark. -/
def cutTo (id : Nat) : Nat → Array Entry → Array Entry × Option Nat
  | 0, stack => (stack, none)
  | n + 1, stack =>
    match stack.getD n .void with
    | .mark id' pos =>
      if id' = id then (stack.setIfInBounds n .void, some pos) else cutTo id n stack
    | e => cutTo id n (if isCutOff e then stack.setIfInBounds n .void else stack)

/-- Makes the choices since a mark void, and goes back to its place or not. -/
def State.cut (st : State) (id : Nat) (toPlace : Bool) : State :=
  let stack := st.stack
  let st := { st with stack := #[] }
  let (stack, place) := cutTo id stack.size stack
  { st with stack := stack, pc := st.pc + 1, pos := if toPlace then place.getD st.pos else st.pos }

/-! ## One instruction -/

/-- How deep calls can be. -/
def maxDepth : Nat := 20

/-- The least size of the stack that a limit allows. -/
def leastStack : Nat := 320

/-- Goes on where a character ended, if one did. -/
@[inline] def goOn (st : State) (next : Option Nat) : Progress :=
  match next with
  | some pos => .next (st.moveTo pos)
  | none => .stuck st

/-- Goes on if a test holds. -/
@[inline] def goOnIf (st : State) (test : Bool) : Progress :=
  if test then .next st.advance else .stuck st

/-- The better of two matches: the longer one, the earlier one if they are
equally long. -/
def longer (best : Option Found) (f : Found) : Option Found :=
  match best with
  | none => some f
  | some b => if b.stop - b.start < f.stop - f.start then some f else some b

/-- The end of a match that began at an offset. -/
def matched (s : Subject) (start : Nat) (st : State) : Progress :=
  let f : Found := ⟨start, st.pos, st.standing.keep, st.groups⟩
  let st :=
    if s.longest then
      { st with standing := { st.standing with best := longer st.standing.best f } }
    else st
  if (s.notEmpty && st.pos == start) || (s.longest && st.pos < st.standing.limit) then .stuck st
  else if s.longest then .ended (.failed st.standing.best)
  else .ended (.found f)

/-- The end of what the first of some groups that have matched has matched, if
it stands here. A group whose text is too long to fit settles the matter. -/
def backrefEnd? (s : Subject) (st : State) (caseless : Bool) : List Nat → Option Nat
  | [] => none
  | g :: gs =>
    match (st.group g).span? with
    | none => backrefEnd? s st caseless gs
    | some span =>
      if span.length = 0 then some st.pos
      else if st.standing.limit < st.pos + span.length then none
      else (repeatEnd? s.text caseless span.start span.stop st.pos).or
        (backrefEnd? s st caseless gs)

/-- A reference to what a group matched. -/
def stepBackref (s : Subject) (st : State) (r : Backreference) : Progress :=
  match r.level with
  | none =>
    if r.isCondition then
      goOnIf st (r.groups.any (fun g => (st.group g).span?.isSome))
    else goOn st (backrefEnd? s st r.caseless r.groups)
  | some away =>
    match findAtDepth st.stack r.groups away st.stack.size 0 none with
    | none => .stuck st
    | some span =>
      if r.isCondition then .next st.advance
      else if st.standing.limit < st.pos + span.length then .stuck st
      else goOn st (repeatEnd? s.text r.caseless span.start span.stop st.pos)

/-- The start of a group. -/
def openedGroup (st : State) (g : Nat) (revocable : Bool) : State :=
  let before := st.group g
  if revocable then
    ((st.push (.opened g st.pos before)).setGroup g ⟨some st.pos, none⟩).advance
  else (st.setGroup g { before with start := some st.pos }).advance

/-- The end of a group. -/
def closedGroup (st : State) (g : Nat) (revocable recursive : Bool) : State :=
  let before := st.group g
  let start := if recursive then findOpened st.stack g st.stack.size 0 else before.start
  let st :=
    if revocable then st.push (.closed g st.pos before)
    else if recursive then st.push (.passed g)
    else st
  (st.setGroup g ⟨start, some st.pos⟩).advance

/-- The value of a register that was put aside under a number. -/
def savedValue? (stack : Array Entry) (r : Register) (id : Nat) : Option Nat :=
  findSaved stack (fun e => match e with
    | .saved r' id' v => if r' = r && id' == id then some v else none
    | _ => none) stack.size 0

/-- The place the match counts from, as it was noted last. -/
def keptPlace? (stack : Array Entry) : Option Nat :=
  (stack.findSomeRev? (fun e => match e with
    | .kept pos => some pos
    | _ => none))

/-- The end of a round of a counted repetition. -/
def loopNext (st : State) (id lo : Nat) (hi : Option Nat) (greedy : Bool) (body : Nat) : State :=
  let n := findCount st.stack id st.stack.size 0 + 1
  let isLast := hi.any (fun h => h ≤ n)
  if greedy then
    if isLast then (st.push (.count id n)).advance
    else if lo ≤ n then ((st.push (.choice (st.pc + 1) st.pos)).push (.count id n)).goto body
    else (st.push (.count id n)).goto body
  else
    let st := st.push (.count id n)
    if isLast then st.advance
    else if lo ≤ n then (st.push (.choice body st.pos)).advance
    else st.goto body

/-- The end of a round that may have been empty. -/
def roundEnded (st : State) (id : Nat) (watched : List Nat) (recursive : Bool) : State :=
  if isEmptyRound st.stack id watched st.pos then st.goto (st.pc + 2)
  else if recursive then (st.push (.roundEnd id)).advance
  else st.advance

/-- Going back some characters. -/
def steppedBack (s : Subject) (st : State) (count : Nat) (more : Option (Option Nat)) :
    Progress :=
  match backBy? s.text count st.pos with
  | none => .stuck st
  | some pos =>
    let st := { st with pos := pos }
    match more with
    | none => .next st.advance
    | some times => .next ((st.push (.further (st.pc + 1) pos times)).goto (st.pc + 2))

/-- Going back one more character. -/
def steppedFurther (s : Subject) (st : State) : Progress :=
  match headBefore? s.text st.pos with
  | none => .stuck st
  | some pos =>
    let st := { st with pos := pos }
    match st.standing.further with
    | some 0 | some 1 => .next st.advance
    | some n => .next (st.push (.further st.pc pos (some (n - 1)))).advance
    | none => .next (st.push (.further st.pc pos none)).advance

/-- Carries out an instruction, in a match that began at an offset. -/
@[inline] def step (s : Subject) (code : Code) (start : Nat) (st : State) : Progress :=
  match code.fetch st.pc with
  | .finish => matched s start st
  | .fail => .stuck st
  | .text bs => goOn st (textEnd? s.text st.standing.limit bs st.pos)
  | .bytes set negated => goOn st (byteEnd? s.text st.standing.limit set negated st.pos)
  | .wide set negated => goOn st (eitherEnd? s.text st.standing.limit none set negated st.pos)
  | .either bytes set negated =>
    goOn st (eitherEnd? s.text st.standing.limit (some bytes) set negated st.pos)
  | .word negated ascii => goOn st (wordEnd? s.text st.standing.limit negated ascii st.pos)
  | .anyChar withNewline => goOn st (charEnd? s.text st.standing.limit withNewline st.pos)
  | .anyChars withNewline stop =>
    if st.standing.limit ≤ st.pos then .next st.advance
    else
      let noted := match stop with
        | some b => byteAt s.text b st.pos
        | none => true
      let st := if noted then st.push (.choice (st.pc + 1) st.pos) else st
      match charEnd? s.text st.standing.limit withNewline st.pos with
      | some pos => .next { st with pos := pos }
      | none => .stuck st
  | .anchor a => goOnIf st (anchorHolds s st.standing.limit a st.pos)
  | .backref r => stepBackref s st r
  | .openGroup g revocable => .next (openedGroup st g revocable)
  | .closeGroup g revocable recursive => .next (closedGroup st g revocable recursive)
  | .jump pc => .next (st.goto pc)
  | .push pc => .next (st.push (.choice pc st.pos)).advance
  | .pushLasting pc => .next (st.push (.lasting pc st.pos)).advance
  | .pushOrJump b pc =>
    if st.pos < st.standing.limit && byteAt s.text b st.pos then
      .next (st.push (.choice pc st.pos)).advance
    else .next (st.goto pc)
  | .pushIf b pc =>
    if st.pos < st.standing.limit && byteAt s.text b st.pos then
      .next (st.push (.choice pc st.pos)).advance
    else .next st.advance
  | .pop => .next { st with stack := st.stack.pop, pc := st.pc + 1 }
  | .loopStart id lo greedy pc =>
    let st := st.push (.count id 0)
    if 0 < lo then .next st.advance
    else if greedy then .next (st.push (.choice pc st.pos)).advance
    else .next ((st.push (.choice (st.pc + 1) st.pos)).goto pc)
  | .loopNext id lo hi greedy pc => .next (loopNext st id lo hi greedy pc)
  | .roundStart id => .next (st.push (.roundStart id st.pos)).advance
  | .roundEnd id watched recursive => .next (roundEnded st id watched recursive)
  | .mark id => .next (st.push (.mark id st.pos)).advance
  | .cut id toPlace =>
    .next (st.cut id toPlace)
  | .popTo id => .next (st.unwindTo id).advance
  | .stepBack count more => steppedBack s st count more
  | .stepBackMore => steppedFurther s st
  | .atLimit => goOnIf st (st.pos == st.standing.limit)
  | .save r id =>
    let value := match r with
      | .place => st.pos
      | .limit => st.standing.limit
    .next (st.push (.saved r id value)).advance
  | .restore r from_ id =>
    match savedValue? st.stack from_ id with
    | some v => .next (match r with
      | .place => { st with pos := v, pc := st.pc + 1 }
      | .limit => { st with standing := { st.standing with limit := v }, pc := st.pc + 1 })
    | none => .next st.advance
  | .limitHere => .next { st with standing := { st.standing with limit := st.pos }, pc := st.pc + 1 }
  | .resetLimit => .next { st with standing := { st.standing with limit := s.limit }, pc := st.pc + 1 }
  | .keep => .next (st.push (.kept st.pos)).advance
  | .keepLast => .next { st with
      standing := { st.standing with keep := (keptPlace? st.stack).getD start }, pc := st.pc + 1 }
  | .call g _ =>
    if st.standing.depth = maxDepth then .stuck st
    else
      match code.entries.lookup g with
      | some pc =>
        .next { st with
          stack := st.stack.push (.frame (st.pc + 1)), pc := pc
          standing := { st.standing with depth := st.standing.depth + 1 } }
      | none => .stuck st
  | .ret =>
    match findFrame st.stack st.stack.size 0 with
    | some back =>
      .next { st with
        stack := st.stack.push .returned, pc := back
        standing := { st.standing with depth := st.standing.depth - 1 } }
    | none => .stuck st

/-! ## The whole match -/

/-- Whether there are more entries than allowed. -/
@[inline] def isOverfull (s : Subject) (st : State) : Bool :=
  s.stackLimit != 0 && max s.stackLimit leastStack < st.stack.size

/-- Whether the match got stuck more often than allowed. -/
@[inline] def isExhausted (s : Subject) (st : State) : Bool :=
  s.retryLimit != 0 && s.retryLimit < st.retries

/-- Carries out instructions until the match is over. -/
def run (s : Subject) (code : Code) (start : Nat) : Nat → State → Verdict
  | 0, _ => .retryOver
  | fuel + 1, st =>
    if isOverfull s st then .stackOver
    else match step s code start st with
      | .next st => run s code start fuel st
      | .stuck st =>
        let best := st.standing.best
        match st.unwind with
        | some st => if isExhausted s st then .retryOver else run s code start fuel st
        | none => .failed best
      | .ended v => v

/-- The number of instructions after which a match is given up in any case. -/
def stepBudget : Nat := 0x4000000000000000

/-- An attempt to match code at an offset. `groups` is the number of groups,
`best` the longest match so far. -/
def attempt (s : Subject) (code : Code) (groups : Nat) (start : Nat) (best : Option Found) :
    Verdict :=
  run s code start stepBudget
    { pc := 0, pos := start, stack := #[], groups := Array.replicate (groups + 1) .absent
      retries := 0
      standing := { limit := s.limit, keep := start, depth := 0, further := some 0, best := best } }

end PatternSearch.Matcher
