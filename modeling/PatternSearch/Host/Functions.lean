/-
PatternSearch.Host.Functions — the functions a host calls.

Everything is a status or a record: no function fails. A handle is a regex
or null, and null is an invalid argument wherever a regex is needed. Limits
are numbers of which 0 asks for the default, and search options are taken as
they are.

The search for one match is written over a monad, in which asking the engine is
an action, so that it can be said when the engine is asked and when it is not;
`searchFirst` is the instance for the engine of a handle.
-/
import PatternSearch.Host.Buffer
import PatternSearch.Host.Types
import PatternSearch.Search.Scan

namespace PatternSearch.Host

open Pattern

/-- A regex or the null pointer. -/
abbrev Handle := Option Regex

/-- The error for a null handle. -/
def nullHandle : Error := .ofCode invalidArgument

/-! ## Compiling -/

/-- What a host is told of a compilation. -/
def adopt (a : CompileAnswer) : NewRegexResult :=
  match a.toExcept with
  | .ok re => ⟨some re, 0, some (.ofTable re.names)⟩
  | .error e => ⟨none, e.code, none⟩

/-- Compiles a pattern; without a grammar, in the standard flavour. -/
def newRegex (pattern : Buffer) (options : UInt32) (grammar : Option Definition) :
    NewRegexResult :=
  adopt (Regex.compileAnswer pattern.bytes options (grammar.getD (.ofFlavour .standard)))

/-! ## Searching -/

section First

variable {m : Type → Type} [Monad m]

/-- Searches once, `ask?` being how the engine is asked, if there is one; the
answer is a status and the region. -/
def searchOnceBy (ask? : Option (Query → Region → m (Int32 × Region))) (text : ByteArray)
    (start stop : Nat) (options : SearchOptions) (limits : Limits) :
    m (Except Error (Int32 × HostRegion)) :=
  match ask? with
  | none => return .error nullHandle
  | some ask => do
    match ← Engine.searchBy ask ⟨text, start, stop, options, limits.param⟩ .empty with
    | (.error e, _) => return .error e
    | (.ok none, region) => return .ok (mismatchStatus, .ofRegion region)
    | (.ok (some i), region) => return .ok (Int32.ofNat i, .ofRegion region)

/-- Searches once between two offsets. -/
def searchFirstBy (ask? : Option (Query → Region → m (Int32 × Region))) (text : Buffer)
    (start stop options maxStack retry : UInt32) : m SearchFirstResult := do
  match ← searchOnceBy ask? text.bytes start.toNat stop.toNat ⟨options⟩
      (.ofNumbers maxStack.toNat retry.toNat) with
  | .ok (status, region) => return ⟨status, region⟩
  | .error e => return ⟨e.code, .empty⟩

end First

/-- Searches once between two offsets, with the engine of a handle. -/
def searchFirst (handle : Handle) (text : Buffer) (start stop options maxStack retry : UInt32) :
    SearchFirstResult :=
  Id.run (searchFirstBy (handle.map fun re => re.search 0) text start stop options maxStack retry)

/-- Searches a whole text for all matches. -/
def searchEach (handle : Handle) (text : ByteArray) (options : SearchOptions)
    (limits : Limits) : Eventual (List HostRegion) :=
  match handle with
  | none => some (.error nullHandle)
  | some re =>
    let scan : Scan := ⟨re.toEngine, text, text.size, options, limits.param, .byte⟩
    scan.collect (fun region => [.ofRegion region]) 0

/-- Searches for all matches. The two offsets do not count: all of the text is
searched. -/
def searchAll (handle : Handle) (text : Buffer) (_start _stop options maxStack retry : UInt32) :
    Option SearchAllResult :=
  match searchEach handle text.bytes ⟨options⟩ (.ofNumbers maxStack.toNat retry.toNat) with
  | none => none
  | some (.ok regions) => some ⟨0, some (.ofList regions)⟩
  | some (.error e) => some ⟨e.code, none⟩

/-! ## Names -/

/-- Calls a host's function on every name and its groups until it answers a
status that is not 0; the answer is that status, or 0. -/
def forEachName {σ : Type} (handle : Handle)
    (callback : Option (σ → ByteArray → List Nat → σ × Int32)) (state : σ) : σ × Int32 :=
  match handle, callback with
  | some re, some call =>
    (re.names.forEachBytes (fun st name groups =>
      let (state, status) := call st.1 name groups
      ((state, status), status == 0)) (state, (0 : Int32))).1
  | _, _ => (state, invalidArgument)

end PatternSearch.Host
