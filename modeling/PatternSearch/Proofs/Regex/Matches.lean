/-
PatternSearch.Proofs.Regex.Matches — the matches of a regex in a text.

Everything that goes through all matches of a text, iterators, splitting and
replacing, runs the same scan, `Regex.wholeScan`, each with a visitor of its
own that never halts. So all of them are made of the same regions
(`Regex.allRegions`), which `allSpans_eq`, `findIter_eq` and `capturesIter_eq`
say. The rest of the module says what these regions and their spans are.

`Regex.Respects` is what is assumed of the engine: asked from between two
characters it answers with groups between characters. `Regex.MatchesFit` asks
this of the whole match only, which is enough for a run to ask from no other
place (`MatchesFit.cursor_boundary`): a match ends between characters, and a
match is skipped only where it lies at the cursor, so that the byte looked at
there leads a character. Hence the text can be cut at its matches
(`MatchesFit.cuts`), and with the stronger assumption the groups of all its
regions lie between characters (`Respects.group_fits`).
-/
import PatternSearch.Proofs.Regex.Cuts
import PatternSearch.Proofs.Search.Leftmost
import PatternSearch.Proofs.Search.Watching

namespace PatternSearch

open Text

/-! ## 1. The scan of a whole text -/

namespace Captures

/-- The captures of a region lie where its groups do. -/
@[simp] theorem span?_ofRegion (text : String) (names : NameTable) (r : Region) (i : Nat) :
    (ofRegion text names r).span? i = r.span? i := by
  simp only [span?, ofRegion, Region.spans]
  by_cases inside : i < r.length
  · simp [List.getElem?_range inside]
  · have outside : r.starts[i]? = none := List.getElem?_eq_none (Nat.le_of_not_lt inside)
    simp [List.getElem?_eq_none (l := List.range r.length) (i := i) (by simpa using inside),
      Region.span?, outside]

@[simp] theorem wholes_map_ofRegion (text : String) (names : NameTable) (rs : List Region) :
    wholes (rs.map (ofRegion text names)) = rs.filterMap (fun r => r.span? 0) := by
  simp only [wholes, List.filterMap_map, Function.comp_def, span?_ofRegion]

end Captures

namespace Regex

variable {re : Regex} {text : String}

theorem wholeScan_inRange (re : Regex) (text : String) :
    ((re.wholeScan text).query 0).InRange :=
  ⟨Nat.zero_le _, Nat.le_of_eq (by simp [wholeScan, Scan.query])⟩

/-- The regions of all matches in a text. -/
def allRegions (re : Regex) (text : String) : Eventual (List Region) :=
  (re.wholeScan text).regions 0

/-- The spans a visitor collects are those of the regions. -/
theorem allSpans_eq (re : Regex) (text : String) :
    re.allSpans text =
      (re.allRegions text).map fun rs => rs.filterMap fun region => region.span? 0 := by
  rw [allSpans, Scan.collect_eq]
  simp only [← List.filterMap_eq_flatMap_toList]
  rfl

/-- The iterator over matches keeps the spans its visitor collects. -/
theorem findIter_eq (re : Regex) (text : String) :
    re.findIter text = (re.allRegions text).map fun rs =>
      ⟨(rs.filterMap fun region => region.span? 0).map (Match.mk text)⟩ := by
  rw [findIter, allSpans_eq, Eventual.map_map]
  rfl

/-- The iterator over captures keeps the captures its visitor collects. -/
theorem capturesIter_eq (re : Regex) (text : String) :
    re.capturesIter text =
      (re.allRegions text).map fun rs => ⟨rs.map (.ofRegion text re.names)⟩ := by
  rw [capturesIter, Scan.collect_eq, Eventual.map_map]
  simp only [← List.map_eq_flatMap, Function.comp_def]
  rfl

/-- A run of the scan follows the rules. -/
theorem ends_of_run {σ : Type} {visit : σ → Region → σ × Decision} {state : σ} {run : Run σ}
    (made : (re.wholeScan text).run visit 0 state = some run) :
    (re.wholeScan text).Ends visit (.first 0 state) run :=
  (Scan.run_eq_some_iff (wholeScan_inRange re text)).mp made

/-- Everything that goes through all matches of a text comes to an end, with or
without an error. -/
structure Settles (re : Regex) (text : String) : Prop where
  findIter : (re.findIter text).isSome
  capturesIter : (re.capturesIter text).isSome
  split : (re.split text).isSome
  splitn (limit : Nat) : (re.splitn text limit).isSome
  splice (limit : Nat) {σ : Type} (rep : Replacer σ) (state : σ) :
    (re.splice text limit rep state).isSome

/-- It does if the scan does. -/
theorem settles_of_allRegions {found : Except Error (List Region)}
    (all : re.allRegions text = some found) : re.Settles text where
  findIter := by simp [findIter_eq, all, Eventual.map]
  capturesIter := by simp [capturesIter_eq, all, Eventual.map]
  split := by simp [split, allSpans_eq, all, Eventual.map]
  splitn limit := by simp [splitn, split, allSpans_eq, all, Eventual.map]
  splice limit σ rep state := by
    rw [splice, capturesIter_eq, all]
    cases found <;> rfl

/-! ## 2. Engines that respect characters -/

/-- Asked from between two characters of a text, the engine answers with
groups that lie between characters, the whole match not before the cursor. -/
structure Respects (re : Regex) (text : String) : Prop where
  fits : ∀ {past cursor i : Nat} {before region : Region} {group : Nat} {span : Span},
    IsBoundary text cursor →
    re.searchAfter past ((re.wholeScan text).query cursor) before = (.ok (some i), region) →
    region.span? group = some span → span.Fits text
  start_le : ∀ {past cursor i : Nat} {before region : Region} {span : Span},
    IsBoundary text cursor →
    re.searchAfter past ((re.wholeScan text).query cursor) before = (.ok (some i), region) →
    region.span? 0 = some span → cursor ≤ span.start

/-- The same of the whole match only: it lies between characters, not before
the cursor. -/
structure MatchesFit (re : Regex) (text : String) : Prop where
  found : ∀ {past cursor i : Nat} {before region : Region} {span : Span},
    IsBoundary text cursor →
    re.searchAfter past ((re.wholeScan text).query cursor) before = (.ok (some i), region) →
    region.span? 0 = some span → cursor ≤ span.start ∧ span.Fits text

theorem Respects.matchesFit (h : re.Respects text) : re.MatchesFit text where
  found boundary answer whole :=
    ⟨h.start_le boundary answer whole, h.fits boundary answer whole⟩

theorem rests_zero (text : String) : Advance.char.Rests text.toByteArray 0 :=
  (Advance.place_zero (a := .char) ⟨text, rfl⟩).rests

theorem isBoundary_of_rests {cursor : Nat} (rests : Advance.char.Rests text.toByteArray cursor)
    (inside : cursor ≤ text.utf8ByteSize) : IsBoundary text cursor :=
  Advance.place_char_iff.mp (rests (by simpa using inside))

/-! ## 3. Regions and spans -/

namespace MatchesFit

variable (h : re.MatchesFit text)

include h

/-- The cursor of the scan stays between characters. -/
theorem closed : (re.wholeScan text).Closed (Advance.char.Rests text.toByteArray) where
  found := by
    intro past cursor before region span rests inside found
    obtain ⟨⟨i, answer⟩, whole⟩ := Scan.ask_eq_some_iff.mp found
    obtain ⟨start_le, fits⟩ := h.found (isBoundary_of_rests rests inside) answer whole
    exact ⟨start_le, fits.1, Advance.Place.rests ⟨text, rfl, fits.2.2⟩⟩
  skip := by
    intro cursor rests inside
    have le_size : cursor ≤ text.toByteArray.size := by simpa [wholeScan] using inside
    exact (rests le_size).rests_next

theorem exists_run {σ : Type} (visit : σ → Region → σ × Decision) (state : σ) :
    ∃ run, (re.wholeScan text).run visit 0 state = some run ∧
      (re.wholeScan text).Ends visit (.first 0 state) run :=
  Scan.exists_run h.closed visit state (rests_zero text) (wholeScan_inRange re text)

/-- Where matches fit, what goes through them comes to an end. -/
theorem settles : re.Settles text := by
  obtain ⟨full, made, -⟩ := h.exists_run (fun (u : Unit) _ => (u, .resume)) ()
  exact settles_of_allRegions (congrArg (Option.map _) made)

/-- The engine is asked from between characters only. -/
theorem cursor_boundary {σ : Type} {visit : σ → Region → σ × Decision} {state : σ} {run : Run σ}
    (made : (re.wholeScan text).run visit 0 state = some run) {cursor : Nat}
    (mem : cursor ∈ run.cursors) : IsBoundary text cursor :=
  have asked := (ends_of_run made).cursor_mem h.closed (rests_zero text) mem
  isBoundary_of_rests asked.1 asked.2

/-- A region handed over is what the engine answers from between characters. -/
theorem exists_answer {full : Run Unit} (made : (re.wholeScan text).runAll 0 = some full)
    {region : Region} (mem : region ∈ full.accepted) :
    ∃ past cursor before i, IsBoundary text cursor ∧
      re.searchAfter past ((re.wholeScan text).query cursor) before = (.ok (some i), region) := by
  obtain ⟨past, cursor, before, whole, reached, inside, found⟩ :=
    (ends_of_run made).found_of_mem h.closed (rests_zero text) mem
  obtain ⟨⟨i, answer⟩, -⟩ := Scan.ask_eq_some_iff.mp found
  exact ⟨past, cursor, before.clear, i, isBoundary_of_rests reached inside, answer⟩

/-- The text can be cut at the matches, from its beginning on. -/
theorem cuts {rs : List Region} (ok : re.allRegions text = some (.ok rs)) :
    Cuts text 0 (rs.filterMap fun region => region.span? 0) := by
  obtain ⟨full, n, made, -, rfl⟩ := Scan.regions_eq_ok_iff.mp ok
  refine ⟨isBoundary_zero text, fun m mem => ?_, ?_⟩
  · obtain ⟨region, handed, here⟩ := List.mem_filterMap.mp mem
    obtain ⟨past, cursor, before, i, boundary, answer⟩ := h.exists_answer made handed
    exact ⟨Nat.zero_le _, (h.found boundary answer here).2⟩
  · have ends := ends_of_run made
    rw [ends.filterMap_span_accepted]
    exact (ends.ordered h.closed (rests_zero text) (Standing.trails_first 0 ())).2

theorem cuts_allSpans {spans : List Span} (ok : re.allSpans text = some (.ok spans)) :
    Cuts text 0 spans := by
  rw [allSpans_eq] at ok
  obtain ⟨rs, all, rfl⟩ := Eventual.map_eq_ok_iff.mp ok
  exact h.cuts all

end MatchesFit

namespace Respects

variable (h : re.Respects text)

include h

/-- All groups of a region handed over lie between characters. -/
theorem group_fits {rs : List Region} (ok : re.allRegions text = some (.ok rs)) {region : Region}
    (mem : region ∈ rs) {group : Nat} {span : Span} (here : region.span? group = some span) :
    span.Fits text := by
  obtain ⟨full, n, made, -, rfl⟩ := Scan.regions_eq_ok_iff.mp ok
  obtain ⟨past, cursor, before, i, boundary, answer⟩ := h.matchesFit.exists_answer made mem
  exact h.fits boundary answer here

end Respects

/-! ## 4. An example -/

variable {found : Nat → Option Nat}

/-- The engine of a table answers with a match of it, and no other groups. -/
theorem answer_leftmost (engine : re.toEngine = .leftmost found) {past cursor i : Nat}
    {before region : Region} (boundary : IsBoundary text cursor)
    (answer : re.searchAfter past ((re.wholeScan text).query cursor) before =
      (.ok (some i), region)) :
    ∃ span, region = .ofSpans [some span] ∧ cursor ≤ span.start ∧
      found span.start = some span.stop := by
  have inRange : ((re.wholeScan text).query cursor).InRange :=
    ⟨by simpa [wholeScan, Scan.query] using boundary.le, (wholeScan_inRange re text).2⟩
  rw [Engine.searchAfter_of_inRange inRange, engine] at answer
  simp only [Engine.leftmost, wholeScan, Scan.query] at answer
  split at answer
  · rename_i span first
    obtain ⟨le, -, here, -⟩ := firstFrom_eq_some first
    exact ⟨span, (Prod.mk.inj answer).2.symm, le, here⟩
  · simp [answerOfStatus_mismatch] at answer

/-- The engine of a table of matches between characters respects them. -/
theorem respects_leftmost (engine : re.toEngine = .leftmost found)
    (within : ∀ {p e}, found p = some e → Span.Fits ⟨p, e⟩ text) : re.Respects text where
  fits := by
    intro past cursor i before region group span boundary answer here
    obtain ⟨whole, rfl, -, there⟩ := answer_leftmost engine boundary answer
    rw [Region.span?_ofSpans] at here
    cases group with
    | zero =>
      obtain rfl : whole = span := by simpa using here
      exact within there
    | succ group => simp at here
  start_le := by
    intro past cursor i before region span boundary answer here
    obtain ⟨whole, rfl, le, -⟩ := answer_leftmost engine boundary answer
    obtain rfl : whole = span := by simpa [Region.span?_ofSpans] using here
    exact le

/-- A regex that finds the matches of `a*` in `éaaé`. -/
def star : Regex := { Engine.leftmost starMatches with
  groupCount := 0, names := ⟨[]⟩, flavour? := none }

theorem star_respects : star.Respects "éaaé" := respects_leftmost rfl Scan.starMatches_fits

end Regex

end PatternSearch
