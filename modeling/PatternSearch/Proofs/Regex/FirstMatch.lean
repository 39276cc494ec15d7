/-
PatternSearch.Proofs.Regex.FirstMatch — one match of a text, or all of them.

A regex can be asked whether it matches, for the first match, for the groups
of the first match, for all matches and for the groups of all matches. The
first three search once, with or without a region; the last two scan, each
with a visitor of its own. `first_match_agrees` says that the answers are
parts of one another.

Two things make this so. The first round of a scan is the single search, and
what that finds is always handed over, as there is no match before it
(`Scan.regions_of_found`). And a visitor that never halts only watches, so the
two iterators are made of the same regions (`findIter_eq`, `capturesIter_eq`).

Nothing is assumed of where matches lie: they may be given out of order, or
lead the scan in a circle. In that case neither iterator comes to an end, but
the single searches do. What is assumed, `Engine.Tells`, is true of every regex
that has been compiled (`Regex.tells_of_compile`).
-/
import PatternSearch.Proofs.Regex.Compiled
import PatternSearch.Proofs.Regex.Matches
import PatternSearch.Proofs.Search.Truncation
import PatternSearch.Proofs.Search.Unfolding

namespace PatternSearch

open Text

/-! ## 1. The first round of a scan -/

namespace Scan

variable {s : Scan} {start : Nat} (inRange : (s.query start).InRange) (inside : start ≤ s.stop)

include inRange inside

/-- A scan fails if the single search does. -/
theorem regions_of_failed {e : Error} (failed : s.answer start = .error e) :
    s.regions start = some (.error e) := by
  have last : s.Finish (fun u _ => (u, .resume)) (.first start ()) _ := .failed inside failed
  rw [regions, runAll, run_of_inRange inRange, last.loop_eq]
  rfl

/-- If the single search finds nothing, neither does a scan. -/
theorem regions_of_absent (absent : s.answer start = .ok none) :
    s.regions start = some (.ok []) := by
  have last : s.Finish (fun u _ => (u, .resume)) (.first start ()) _ := .absent inside absent
  rw [regions, runAll, run_of_inRange inRange, last.loop_eq]
  rfl

/-- What the single search finds comes first in a scan. -/
theorem regions_of_found {span : Span} {region : Region}
    (found : s.answer start = .ok (some (span, region))) :
    ∃ rest : Eventual (List Region), s.regions start = rest.map (region :: ·) := by
  -- No match has been before it that it could repeat.
  have fresh : ¬ (Standing.first start ()).Repeats span := fun repeats => nomatch repeats.2
  have first : s.Round (fun u _ => (u, .resume)) (.first start ()) _ _ :=
    .take inside found fresh rfl
  rw [regions, runAll, run_of_inRange inRange, first.loop_eq]
  generalize s.loop _ _ = later
  refine ⟨Option.map (fun later => later.outcome.map fun _ => later.accepted) later, ?_⟩
  rcases later with _ | ⟨_, _, _ | _⟩ <;> rfl

/-- The first region of a scan is the one the single search is answered with. -/
theorem answer_of_regions {rs : List Region} (ok : s.regions start = some (.ok rs)) :
    ∃ found, s.answer start = .ok found ∧ rs.head? = found.map Prod.snd := by
  rcases first : s.answer start with e | _ | ⟨span, region⟩
  · rw [regions_of_failed inRange inside first] at ok
    cases ok
  · rw [regions_of_absent inRange inside first] at ok
    cases ok
    exact ⟨none, rfl, rfl⟩
  · obtain ⟨rest, same⟩ := regions_of_found inRange inside first
    obtain ⟨more, -, rfl⟩ := Eventual.map_eq_ok_iff.mp (same.symm.trans ok)
    exact ⟨some (span, region), rfl, rfl⟩

end Scan

/-! ## 2. The ways to ask a regex -/

@[simp] theorem Captures.get_ofRegion (text : String) (names : NameTable) (r : Region) (i : Nat) :
    (ofRegion text names r).get i = (r.span? i).map (Match.mk text) := by
  rw [get, span?_ofRegion]
  rfl

namespace Regex

variable {re : Regex} {text : String}

/-- The first search of the scan of a text is the one for a single match. -/
theorem answer_wholeScan (re : Regex) (text : String) :
    (re.wholeScan text).answer 0 =
      match re.searchWithOptions text.toByteArray 0 text.utf8ByteSize .none .empty with
      | (.error e, _) => .error e
      | (.ok none, _) => .ok none
      | (.ok (some _), region) => .ok ((region.span? 0).map fun span => (span, region)) := rfl

theorem find_eq (re : Regex) (text : String) :
    re.find text =
      ((re.wholeScan text).answer 0).map (Option.map fun found => ⟨text, found.1⟩) := by
  rw [find, answer_wholeScan]
  rcases re.searchWithOptions text.toByteArray 0 text.utf8ByteSize .none .empty with
    ⟨e | _ | i, region⟩
  · rfl
  · rfl
  · simp [Except.map, Function.comp_def]

theorem captures_eq (tells : re.Tells) (text : String) :
    re.captures text = ((re.wholeScan text).answer 0).map
      (Option.map fun found => .ofRegion text re.names found.2) := by
  rw [captures, answer_wholeScan]
  rcases search : re.searchWithOptions text.toByteArray 0 text.utf8ByteSize .none .empty with
    ⟨e | _ | i, region⟩
  · rfl
  · rfl
  · obtain ⟨span, here⟩ := Option.isSome_iff_exists.mp (tells.isSome_span? search)
    simp [Except.map, here]

theorem isMatch_iff (tells : re.Tells) (text : String) :
    re.isMatch text = true ↔ ∃ found, (re.wholeScan text).answer 0 = .ok (some found) := by
  have probed : re.probeWithParam ⟨text.toByteArray, 0, text.utf8ByteSize, .none, .standard⟩ =
      (re.searchWithOptions text.toByteArray 0 text.utf8ByteSize .none .empty).1 :=
    tells.probeWithParam_eq _
  rw [Engine.isMatch, probed, answer_wholeScan]
  rcases search : re.searchWithOptions text.toByteArray 0 text.utf8ByteSize .none .empty with
    ⟨e | _ | i, region⟩
  · simp
  · simp
  · obtain ⟨span, here⟩ := Option.isSome_iff_exists.mp (tells.isSome_span? search)
    simp [here]

/-! ## 3. One match or all of them -/

/-- If the single search fails, the iterators do. -/
theorem iterators_of_failed {e : Error} (failed : (re.wholeScan text).answer 0 = .error e) :
    re.findIter text = some (.error e) ∧ re.capturesIter text = some (.error e) := by
  have regions : re.allRegions text = some (.error e) :=
    Scan.regions_of_failed (wholeScan_inRange re text) (Nat.zero_le _) failed
  rw [findIter_eq, capturesIter_eq, regions]
  exact ⟨rfl, rfl⟩

/-- The groups found by a single search have the match among them. -/
theorem get_zero_of_answer {cursor : Nat} {found : Option (Span × Region)}
    (here : (re.wholeScan text).answer cursor = .ok found) (names : NameTable) :
    (found.map fun m => Captures.ofRegion text names m.2).bind (·.get 0) =
      found.map fun m => ⟨text, m.1⟩ := by
  rcases found with _ | ⟨span, region⟩
  · rfl
  · simp [Scan.span?_of_answer here]

/-- So do the groups of each match of a text. -/
theorem get_zero_allRegions {rs : List Region} (ok : re.allRegions text = some (.ok rs))
    (names : NameTable) :
    (rs.map (Captures.ofRegion text names)).map (·.get 0) =
      ((rs.filterMap fun region => region.span? 0).map (Match.mk text)).map some := by
  obtain ⟨full, n, made, -, rfl⟩ := Scan.regions_eq_ok_iff.mp ok
  have whole := (ends_of_run made).map_span_accepted
  have located := congrArg (List.map (Option.map (Match.mk text))) whole
  rw [filterMap_of_map_eq whole]
  simpa [Function.comp_def] using located

/-- The part of the first item is the first part. -/
theorem bind_head?_of_map_eq {α β : Type} {g : α → Option β} {items : List α} {parts : List β}
    (all : items.map g = parts.map some) : items.head?.bind g = parts.head? := by
  have first : items.head?.map g = parts.head?.map some := by
    rw [← List.head?_map, all, List.head?_map]
  calc items.head?.bind g
      = (items.head?.map g).bind id := by rw [Option.bind_map, Function.id_comp]
    _ = (parts.head?.map some).bind id := by rw [first]
    _ = parts.head? := by rw [Option.bind_map, Function.id_comp, Option.bind_fun_some]

/-- If the iterator over matches succeeds, so does the one over captures. They
go together, and begin with what the single search finds. -/
theorem iterators_agree {found : Option (Span × Region)}
    (search : (re.wholeScan text).answer 0 = .ok found) {matched : Sequence Match}
    (ok : re.findIter text = some (.ok matched)) :
    matched.next.1 = (found.map fun m => ⟨text, m.1⟩) ∧
      ∃ all, re.capturesIter text = some (.ok all) ∧ all.length = matched.length ∧
        all.items.map (·.get 0) = matched.items.map some ∧
        all.next.1 = found.map fun m => .ofRegion text re.names m.2 := by
  rw [findIter_eq] at ok
  obtain ⟨rs, regions, rfl⟩ := Eventual.map_eq_ok_iff.mp ok
  obtain ⟨_, again, head⟩ :=
    Scan.answer_of_regions (wholeScan_inRange re text) (Nat.zero_le _) regions
  obtain rfl : found = _ := Except.ok.inj (search.symm.trans again)
  have wholes := get_zero_allRegions regions re.names
  have groups : (rs.map (Captures.ofRegion text re.names)).head? =
      found.map fun m => .ofRegion text re.names m.2 := by
    rw [List.head?_map, head, Option.map_map]
    rfl
  refine ⟨?_, ⟨rs.map (.ofRegion text re.names)⟩, ?_, ?_, wholes, groups⟩
  · calc ((rs.filterMap fun region => region.span? 0).map (Match.mk text)).head?
        = (rs.map (Captures.ofRegion text re.names)).head?.bind (·.get 0) :=
          (bind_head?_of_map_eq wholes).symm
      _ = found.map fun m => ⟨text, m.1⟩ := by rw [groups, get_zero_of_answer search]
  · rw [capturesIter_eq, regions]
    rfl
  · simpa [Sequence.length] using congrArg List.length wholes

/-- The iterators come to an end together, and fail together. -/
theorem iterators_end_together (re : Regex) (text : String) :
    (re.findIter text = none ↔ re.capturesIter text = none) ∧
      ∀ e, re.findIter text = some (.error e) ↔ re.capturesIter text = some (.error e) := by
  rw [findIter_eq, capturesIter_eq]
  rcases re.allRegions text with _ | _ | rs <;> simp [Eventual.map, Except.map]

/-- **One match or all of them.** Let the engine tell where a match lies. If
the search for the first match of a text fails, every other way of asking
fails with the same error, except that the text is only said not to match.

If it does not fail, the text matches if and only if there is a first match,
and then this is group 0 of its captures. If the iterator over matches
succeeds as well, it begins with the first match, and the iterator over
captures succeeds with as many items, in the same places, and begins with
those captures. Otherwise both fail with the same error, or neither comes to
an end. -/
theorem first_match_agrees (re : Regex) (text : String) (tells : re.Tells) :
    (∀ e, re.find text = .error e →
      re.captures text = .error e ∧ re.findIter text = some (.error e) ∧
        re.capturesIter text = some (.error e) ∧ re.isMatch text = false) ∧
    (∀ first, re.find text = .ok first →
      (re.isMatch text = true ↔ first.isSome) ∧
      ∃ groups, re.captures text = .ok groups ∧ (groups.isSome ↔ first.isSome) ∧
        groups.bind (·.get 0) = first ∧
        ∀ matched, re.findIter text = some (.ok matched) →
          matched.next.1 = first ∧
          ∃ all, re.capturesIter text = some (.ok all) ∧ all.length = matched.length ∧
            all.items.map (·.get 0) = matched.items.map some ∧ all.next.1 = groups) ∧
    (re.findIter text = none ↔ re.capturesIter text = none) ∧
      ∀ e, re.findIter text = some (.error e) ↔ re.capturesIter text = some (.error e) := by
  have asked := isMatch_iff tells text
  have together := iterators_end_together re text
  rw [find_eq, captures_eq tells]
  rcases search : (re.wholeScan text).answer 0 with failure | found
  · refine ⟨fun e same => ?_, fun first ok => (nomatch ok), together⟩
    cases same
    obtain ⟨matched, captured⟩ := iterators_of_failed search
    refine ⟨rfl, matched, captured, ?_⟩
    rw [Bool.eq_false_iff, ne_eq, asked, search]
    simp
  · refine ⟨fun e failed => (nomatch failed), fun first same => ?_, together⟩
    cases same
    refine ⟨?_, _, rfl, by simp, get_zero_of_answer search re.names,
      fun matched ok => iterators_agree search ok⟩
    rw [asked, search]
    simp [Option.isSome_iff_exists]

/-- The first match of `a*` in `éaaé` is empty, and there are three in all. -/
theorem first_match_agrees_star :
    star.Tells ∧ star.find "éaaé" = .ok (some ⟨"éaaé", ⟨0, 0⟩⟩) ∧
      star.isMatch "éaaé" = true ∧
      star.findIter "éaaé" = some (.ok ⟨[⟨0, 0⟩, ⟨2, 4⟩, ⟨6, 6⟩].map (Match.mk "éaaé")⟩) ∧
      ∃ all, star.capturesIter "éaaé" = some (.ok all) ∧ all.length = 3 ∧
        star.captures "éaaé" = .ok all.next.1 := by
  have tells : star.Tells := Engine.tells_leftmost starMatches
  have found : star.find "éaaé" = .ok (some ⟨"éaaé", ⟨0, 0⟩⟩) := by cbv
  have matched : star.findIter "éaaé" =
      some (.ok ⟨[⟨0, 0⟩, ⟨2, 4⟩, ⟨6, 6⟩].map (Match.mk "éaaé")⟩) := by cbv
  obtain ⟨matches_iff, groups, captured, -, -, iterated⟩ :=
    (first_match_agrees star "éaaé" tells).2.1 _ found
  obtain ⟨-, all, collected, length, -, rfl⟩ := iterated _ matched
  exact ⟨tells, found, matches_iff.mpr rfl, matched, all, collected, length, captured⟩

/-- An engine whose second match lies before its first one. -/
def straying : Regex where
  search _ q _ := match q.start with
    | 0 => (1, .ofSpans [some ⟨1, 2⟩])
    | 2 => (0, .ofSpans [some ⟨0, 1⟩])
    | _ => (mismatchStatus, .absent 1)
  probe q := match q.start with
    | 0 => 1
    | 2 => 0
    | _ => mismatchStatus
  groupCount := 0
  names := ⟨[]⟩
  flavour? := none

-- Both are found, the one behind the other.
example : straying.findIter "ab" =
    some (.ok ⟨[⟨1, 2⟩, ⟨0, 1⟩].map (Match.mk "ab")⟩) := by cbv

end Regex

end PatternSearch
