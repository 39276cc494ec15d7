/-
PatternSearch.Proofs.Host.MatchByMatch — searching for all matches, and
searching for the first one again and again.

A host has two ways to all matches of a text. `searchAll` scans the text and
answers with an array. Or the host calls `searchFirst` on the whole text, then
on what is left after each match, and once more from the next byte on when it
is answered the empty match where the last one ended. `Gathers` are the rules
of such a host: those of `Unfolds`, with the answers as the host reads them.
`searchAll_gathers` says that both ways come to the same.

The two functions treat a status differently. For `searchFirst` a mismatch is
an answer like any other, for `searchAll` it is how a scan ends. What they have
in common is `answer_eq`: read by the host, the answer of a single search is
the answer the scan goes by.
-/
import PatternSearch.Proofs.Host.Asking
import PatternSearch.Proofs.Search.Unfolding
import PatternSearch.Proofs.Regex.Matches

namespace PatternSearch

open Text

namespace Host

/-! ## 1. What a host reads -/

/-- Where the whole match of a region lies, as a host finds it. -/
def HostRegion.whole? (r : HostRegion) : Option Span :=
  match r.starts.bind List.head?, r.ends.bind List.head? with
  | some s, some e => if s < 0 ∨ e < 0 then none else some ⟨s.toNat, e.toNat⟩
  | _, _ => none

/-- An answer as a host reads it: below the mismatch an error, at the mismatch
no match, above it a match and its region. -/
def SearchFirstResult.reading (r : SearchFirstResult) :
    Except Int32 (Option (Span × HostRegion)) :=
  if r.result < mismatchStatus then .error r.result
  else if r.result = mismatchStatus then .ok none
  else .ok (r.region.whole?.map (fun span => (span, r.region)))

/-- What a host is answered that asks for the first match from an offset up to
the end of the text. -/
def answerFrom (handle : Handle) (text : Buffer) (options maxStack retry : UInt32)
    (offset : Nat) : Except Int32 (Option (Span × HostRegion)) :=
  (searchFirst handle text (.ofNat offset) (.ofNat text.length) options maxStack retry).reading

/-- The regions a host records that asks from the beginning of the text, then
after each match, and a byte further for an empty match where one has just
ended; and the error that stops it, if there is one. -/
def Gathers (handle : Handle) (text : Buffer) (options maxStack retry : UInt32) :
    List HostRegion → Except Int32 Unit → Prop :=
  Unfolds (answerFrom handle text options maxStack retry) text.length (fun _ => 1) false 0

/-- A host finds the whole match where the region has it. -/
theorem whole?_ofRegion (r : Region) : (HostRegion.ofRegion r).whole? = r.span? 0 := by
  have starts : (HostRegion.ofRegion r).starts.bind List.head? = r.starts[0]? := by
    rw [HostRegion.ofRegion, bind_head?_listPointer, List.head?_eq_getElem?]
  have ends : (HostRegion.ofRegion r).ends.bind List.head? = r.ends[0]? := by
    rw [HostRegion.ofRegion, bind_head?_listPointer, List.head?_eq_getElem?]
  cases first : r.starts[0]? <;> cases last : r.ends[0]? <;>
    simp only [HostRegion.whole?, Region.span?, starts, ends, first, last]

/-- A buffer holds no more bytes than its length says. -/
theorem length_ofParts_le (pointer : Option ByteArray) (length : Nat) :
    (Buffer.ofParts pointer length).length ≤ length := by
  cases pointer with
  | none => exact Nat.zero_le _
  | some bytes =>
    simp only [Buffer.ofParts, Buffer.length, Buffer.bytes, ByteArray.size_extract]
    omega

/-! ## 2. One search -/

/-- The scan that `searchAll` makes. -/
def hostScan (re : Regex) (text : Buffer) (options maxStack retry : UInt32) : Scan :=
  ⟨re.toEngine, text.bytes, text.length, ⟨options⟩,
    (Limits.ofNumbers maxStack.toNat retry.toNat).param, .byte⟩

variable {re : Regex} {text : Buffer} {options maxStack retry : UInt32}

/-- A host reads the answer the scan goes by. -/
theorem answerFrom_eq (short : text.length < 2 ^ 32) {offset : Nat} (inside : offset ≤ text.length) :
    answerFrom (some re) text options maxStack retry offset =
      (((hostScan re text options maxStack retry).answer offset).map
        (Option.map fun found => (found.1, HostRegion.ofRegion found.2))).mapError Error.code := by
  have start_eq : (UInt32.ofNat offset).toNat = offset :=
    UInt32.toNat_ofNat_of_lt' (Nat.lt_of_le_of_lt inside short)
  have stop_eq : (UInt32.ofNat text.length).toNat = text.length := UInt32.toNat_ofNat_of_lt' short
  have inRange : ((hostScan re text options maxStack retry).query offset).InRange :=
    ⟨inside, Nat.le_refl _⟩
  obtain ⟨⟨status, region⟩, answered⟩ : ∃ found,
      re.search 0 ((hostScan re text options maxStack retry).query offset) .empty = found :=
    ⟨_, rfl⟩
  have same : hostQuery text (.ofNat offset) (.ofNat text.length) options maxStack retry =
      (hostScan re text options maxStack retry).query offset := by
    rw [hostQuery, start_eq, stop_eq]
    rfl
  have first : searchFirst (some re) text (.ofNat offset) (.ofNat text.length) options maxStack
      retry = carried (status, region) := by
    rw [searchFirst_inRange re (same ▸ inRange), same, answered]
  have found : (hostScan re text options maxStack retry).engine.searchAfter 0
      ((hostScan re text options maxStack retry).query offset) Region.empty.clear =
        (answerOfStatus status, region) := Engine.searchAfter_eq inRange answered
  rw [answerFrom, first, Scan.answer, Scan.ask, found]
  rcases status_cases status with ⟨nonneg, above, other⟩ | rfl | ⟨-, below⟩
  · simp only [SearchFirstResult.reading, carried, answerOfStatus_of_nonneg nonneg, if_neg above,
      if_neg other, whole?_ofRegion]
    cases region.span? 0 <;> rfl
  · rfl
  · simp only [SearchFirstResult.reading, carried, answerOfStatus_of_lt below, if_pos below]
    rfl

/-- What a host reads as an error is below the mismatch. -/
theorem lt_of_answerFrom_error {handle : Handle} {offset : Nat} {status : Int32}
    (failed : answerFrom handle text options maxStack retry offset = .error status) :
    status < mismatchStatus := by
  rw [answerFrom, SearchFirstResult.reading] at failed
  split at failed
  · rename_i below
    exact Except.error.inj failed ▸ below
  · split at failed <;> simp at failed

/-! ## 3. All matches -/

/-- What is assumed of the engine a host searches a text with: the answer to a
query depends on the query only, and a match lies within the text, at or after
the offset it is looked for from, where 32 bits with a sign can tell. -/
structure Trusted (re : Regex) (text : Buffer) (options maxStack retry : UInt32) : Prop where
  steady : (hostScan re text options maxStack retry).Steady
  sound : (hostScan re text options maxStack retry).Sound
  signed : ∀ {past cursor : Nat} {before region : Region} {span : Span}, cursor ≤ text.length →
    (hostScan re text options maxStack retry).ask past cursor before = .ok (some (span, region)) →
    span.stop < 2 ^ 31

/-- What a host is told of the regions of a scan. -/
def SearchAllResult.ofRegions : Except Error (List Region) → SearchAllResult
  | .ok rs => ⟨0, some (.ofList (rs.map .ofRegion))⟩
  | .error e => ⟨e.code, none⟩

theorem searchAll_eq (start stop : UInt32) :
    searchAll (some re) text start stop options maxStack retry =
      Option.map SearchAllResult.ofRegions
        ((hostScan re text options maxStack retry).regions 0) := by
  have scanned : searchEach (some re) text.bytes ⟨options⟩
      (.ofNumbers maxStack.toNat retry.toNat) =
        ((hostScan re text options maxStack retry).regions 0).map fun rs =>
          rs.flatMap fun r => [.ofRegion r] :=
    Scan.collect_eq (hostScan re text options maxStack retry) (fun r => [HostRegion.ofRegion r]) 0
  simp only [← List.map_eq_flatMap] at scanned
  rw [searchAll, scanned]
  rcases (hostScan re text options maxStack retry).regions 0 with _ | _ | rs <;> rfl

theorem searchAll_of_run {full : Run Unit}
    (made : (hostScan re text options maxStack retry).runAll 0 = some full)
    (start stop : UInt32) :
    searchAll (some re) text start stop options maxStack retry =
      some (.ofRegions (full.outcome.map fun _ => full.accepted)) := by
  rw [searchAll_eq, Scan.regions, made]
  rfl

theorem hostScan_inRange : ((hostScan re text options maxStack retry).query 0).InRange :=
  ⟨Nat.zero_le _, Nat.le_refl _⟩

namespace Trusted

variable {full : Run Unit} (h : Trusted re text options maxStack retry)
  (made : (hostScan re text options maxStack retry).runAll 0 = some full)

include h made

/-- A host that asks match by match records what the scan hands over. -/
theorem gathers (short : text.length < 2 ^ 32) :
    Gathers (some re) text options maxStack retry (full.accepted.map .ofRegion)
      ((full.outcome.map fun _ => ()).mapError Error.code) :=
  (Scan.runAll_unfolds made h.sound h.steady hostScan_inRange).map HostRegion.ofRegion Error.code
    fun _ inside => answerFrom_eq short inside

/-- Matches end where 32 bits with a sign can tell. -/
theorem stop_lt {m : Span} (mem : m ∈ full.spans) : m.stop < 2 ^ 31 := by
  have ends := (Scan.run_eq_some_iff hostScan_inRange).mp made
  obtain ⟨_, _, _, _, -, inside, found⟩ :=
    ends.found_of_mem_spans (Scan.Sound.closed h.sound) trivial mem
  exact h.signed inside found

/-- There are no more matches than 32 bits can count. -/
theorem length_accepted_lt : full.accepted.length < 2 ^ 32 := by
  have ends := (Scan.run_eq_some_iff hostScan_inRange).mp made
  have ordered :=
    (ends.ordered (Scan.Sound.closed h.sound) trivial (Standing.trails_first 0 ())).2
  have few := Span.length_le_of_before ordered fun m mem => h.stop_lt made mem
  rw [ends.length_accepted]
  omega

end Trusted

/-- An answer that says what a host has gathered: 0 and an array of the
regions, the null pointer in it if there are none; or the error and no array. -/
def SearchAllResult.Reports (answer : SearchAllResult) (regions : List HostRegion) :
    Except Int32 Unit → Prop
  | .ok () => answer.result = 0 ∧ ∃ array, answer.array = some array ∧
      array.count.toNat = regions.length ∧ (array.regions = none ↔ regions.length = 0) ∧
      array.regions.getD [] = regions
  | .error status => answer = ⟨status, none⟩

/-- And `searchAll` reports it. -/
theorem Trusted.exists_reports (h : Trusted re text options maxStack retry) {full : Run Unit}
    (made : (hostScan re text options maxStack retry).runAll 0 = some full)
    (start stop : UInt32) :
    ∃ answer, searchAll (some re) text start stop options maxStack retry = some answer ∧
      answer.Reports (full.accepted.map .ofRegion)
        ((full.outcome.map fun _ => ()).mapError Error.code) := by
  have few := h.length_accepted_lt made
  refine ⟨_, searchAll_of_run made start stop, ?_⟩
  cases full.outcome with
  | error e => rfl
  | ok n =>
    refine ⟨rfl, _, rfl, ?_, ?_, getD_listPointer _⟩
    · exact UInt32.toNat_ofNat_of_lt' (by simpa using few)
    · rw [RegionsArray.ofList, listPointer_eq_none_iff, List.length_eq_zero_iff]

/-- What is reported is 0 or, if an answer was an error, below the mismatch. -/
theorem result_eq_or_lt {handle : Handle} {answer : SearchAllResult} {regions : List HostRegion}
    {outcome : Except Int32 Unit}
    (gathered : Gathers handle text options maxStack retry regions outcome)
    (reports : answer.Reports regions outcome) :
    answer.result = 0 ∨ answer.result < mismatchStatus := by
  cases outcome with
  | ok => exact Or.inl reports.1
  | error status =>
    obtain ⟨offset, -, failed⟩ := gathered.exists_failed
    obtain rfl : answer = ⟨status, none⟩ := reports
    exact Or.inr (lt_of_answerFrom_error failed)

/-- **All matches.** Whatever handle and text a host passes, the rules of
asking match by match lead to one list of regions and one outcome, and
`searchAll` comes to an end and reports them. Its status is 0 or below the
mismatch, and the two offsets make no difference. -/
theorem searchAll_gathers (handle : Handle) (pointer : Option ByteArray)
    (length start stop options maxStack retry : UInt32)
    (trusted : ∀ re, handle = some re →
      Trusted re (.ofParts pointer length.toNat) options maxStack retry) :
    let text := Buffer.ofParts pointer length.toNat
    ∃ answer, searchAll handle text start stop options maxStack retry = some answer ∧
      (∃ regions outcome,
        (∀ rs o, Gathers handle text options maxStack retry rs o ↔ rs = regions ∧ o = outcome) ∧
          answer.Reports regions outcome) ∧
      answer.result ≤ 0 ∧ answer.result ≠ -1 ∧
      ∀ start' stop', searchAll handle text start' stop' options maxStack retry = some answer := by
  intro text
  have short : text.length < 2 ^ 32 :=
    Nat.lt_of_le_of_lt (length_ofParts_le pointer length.toNat) length.toNat_lt
  obtain ⟨answer, answered, regions, outcome, gathered, reports⟩ : ∃ answer,
      searchAll handle text start stop options maxStack retry = some answer ∧
        ∃ regions outcome, Gathers handle text options maxStack retry regions outcome ∧
          answer.Reports regions outcome := by
    cases handle with
    | none =>
      exact ⟨_, rfl, [], .error invalidArgument, .failed (Nat.zero_le _) rfl, rfl⟩
    | some re =>
      obtain ⟨full, made⟩ :=
        Scan.Sound.exists_run (trusted re rfl).sound (fun u _ => (u, .resume)) 0 ()
      obtain ⟨answer, answered, reports⟩ := (trusted re rfl).exists_reports made start stop
      exact ⟨answer, answered, _, _, (trusted re rfl).gathers made short, reports⟩
  refine ⟨answer, answered,
    ⟨regions, outcome, fun rs o => ⟨fun other => other.unique gathered, ?_⟩, reports⟩,
    ?_, ?_, fun _ _ => answered⟩
  · rintro ⟨rfl, rfl⟩
    exact gathered
  · rcases result_eq_or_lt gathered reports with zero | below
    · exact zero ▸ Int32.le_refl 0
    · exact Int32.le_of_lt (Int32.lt_trans below (by decide))
  · rcases result_eq_or_lt gathered reports with zero | below
    · rw [zero]
      decide
    · exact Int32.ne_of_lt below

/-- The bytes of `éaaé`. -/
def starBuffer : Buffer := .ofParts (some "éaaé".toByteArray) 6

theorem star_trusted : Trusted .star starBuffer 0 0 0 := by
  have within {p e : Nat} (here : starMatches p = some e) : p ≤ e ∧ e ≤ 6 :=
    ⟨(Scan.starMatches_fits here).1, (Scan.starMatches_fits here).stop_le⟩
  have sound : (hostScan .star starBuffer 0 0 0).Sound :=
    Scan.sound_leftmost rfl (by decide) (Nat.le_refl _) within
  refine ⟨Scan.steady_of_engine fun _ _ _ _ _ => rfl, sound, fun inside found => ?_⟩
  have stop_le : _ ≤ 6 := (sound inside found).2.2
  omega

/-- Asked byte by byte, `a*` has three matches in `éaaé`. The empty ones at 0
and 4, where the one before has just ended, are passed over. -/
theorem searchAll_gathers_star :
    (∀ re, some Regex.star = some re → Trusted re (.ofParts (some "éaaé".toByteArray) 6) 0 0 0) ∧
      ∃ answer, searchAll (some .star) starBuffer 9 1 0 0 0 = some answer ∧
        answer = ⟨0, some (.ofList
          [⟨some [0], some [0], 1⟩, ⟨some [2], some [4], 1⟩, ⟨some [6], some [6], 1⟩])⟩ ∧
        ∃ regions outcome, (∀ rs o, Gathers (some .star) starBuffer 0 0 0 rs o ↔
          rs = regions ∧ o = outcome) ∧ answer.Reports regions outcome := by
  have trusted : ∀ re, some Regex.star = some re → Trusted re starBuffer 0 0 0 := by
    rintro re same
    obtain rfl := Option.some.inj same
    exact star_trusted
  have made : searchAll (some .star) starBuffer 9 1 0 0 0 = some ⟨0, some (.ofList
      [⟨some [0], some [0], 1⟩, ⟨some [2], some [4], 1⟩, ⟨some [6], some [6], 1⟩])⟩ := by cbv
  obtain ⟨answer, answered, gathers, -⟩ :=
    searchAll_gathers (some .star) (some "éaaé".toByteArray) 6 9 1 0 0 0 trusted
  exact ⟨trusted, answer, answered, Option.some.inj (answered.symm.trans made), gathers⟩

end Host

end PatternSearch
