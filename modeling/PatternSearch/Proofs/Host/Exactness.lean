/-
PatternSearch.Proofs.Host.Exactness — the numbers a host gets are those meant.

A host counts in 32 bits: it gets a position and offsets with a sign, and the
lengths of lists without one, by which it goes when it reads a list. For texts
that are not longer than the largest number with a sign, nothing is lost by this.

Offsets are no larger than the text. The groups of a pattern are assumed to be
few enough. How many matches there are is not assumed: of those that a scan hands
over each ends later than the one before, so there is at most one for every
offset of the text (`Scan.length_accepted_le`), whatever the engine answers from
one call to the next.

`numbers_exact` says of both searches that the host reads what was found.
-/
import Mathlib
import PatternSearch.Proofs.Host.Statuses

namespace PatternSearch

open Text

/-! ## 1. Small numbers -/

/-- A region as it is filled in for a text of a given size: an end for every
start, fewer groups than can be counted with a sign, and every offset within the
text or the one that says that a group took no part. -/
structure Region.Within (r : Region) (size : Nat) : Prop where
  even : r.starts.length = r.ends.length
  few : r.length < 2 ^ 31
  offsets : ∀ o ∈ r.starts ++ r.ends, o = -1 ∨ (0 ≤ o ∧ o ≤ size)

/-- Its offsets are not changed by being written in 32 bits. -/
theorem Region.Within.toInt_ofInt {r : Region} {size : Nat} (within : r.Within size)
    (short : size < 2 ^ 31) {o : Int} (mem : o ∈ r.starts ++ r.ends) :
    (Int32.ofInt o).toInt = o := by
  apply Int32.toInt_ofInt_of_le
  · rcases within.offsets o mem with rfl | ⟨nonneg, -⟩ <;> omega
  · rcases within.offsets o mem with rfl | ⟨-, inside⟩ <;> omega

/-- Nor is the position of a match. -/
theorem Engine.toInt_ofNat_of_found {e : Engine} {past i : Nat} {q : Query}
    {before region : Region} (found : e.searchAfter past q before = (.ok (some i), region)) :
    (Int32.ofNat i).toInt = i := by
  obtain ⟨-, status, -, answered⟩ := search_of_ok found
  have nonneg := nonneg_of_answerOfStatus answered
  rw [answerOfStatus_of_nonneg nonneg] at answered
  obtain rfl : status.toInt.toNat = i := by simpa using answered
  have zero : (0 : Int32).toInt = 0 := by decide
  rw [ofNat_toNat_toInt nonneg, Int.toNat_of_nonneg]
  rwa [Int32.le_iff_toInt_le, zero] at nonneg

namespace Scan

/-- A scan hands over at most one match for every offset of the text. -/
theorem length_accepted_le {s : Scan} {start : Nat} {full : Run Unit} (sound : s.Sound)
    (inRange : (s.query start).InRange) (made : s.runAll start = some full) :
    full.accepted.length ≤ s.text.size + 1 := by
  have closed := sound.closed
  have ends := (run_eq_some_iff inRange).mp made
  have ordered := (ends.ordered closed trivial (Standing.trails_first start ())).2
  have below : ∀ m ∈ full.spans, m.stop < s.text.size + 1 := by
    intro m mem
    obtain ⟨_, _, _, _, -, inside, found⟩ := ends.found_of_mem_spans closed trivial mem
    exact Nat.lt_succ_of_le (sound inside found).2.2
  rw [ends.length_accepted]
  exact Span.length_le_of_before ordered below

end Scan

namespace Host

/-! ## 2. What a host reads -/

/-- What a host reads that goes by a pointer and a count. -/
def readList {α : Type} (pointer : Option (List α)) (count : UInt32) : List α :=
  (pointer.getD []).take count.toNat

/-- A list with its own length for a count is read as a whole. -/
theorem readList_listPointer {α : Type} {xs : List α} {count : UInt32}
    (exact : count.toNat = xs.length) : readList (listPointer xs) count = xs := by
  rw [readList, getD_listPointer, exact, List.take_length]

/-- A host gets the groups of a region: it is told how many there are, reads so
many starts and ends, and each offset is one that 32 bits can tell. -/
structure HostRegion.Exact (h : HostRegion) (r : Region) : Prop where
  count_eq : h.count.toNat = r.length
  starts_eq : readList h.starts h.count = r.starts
  ends_eq : readList h.ends h.count = r.ends
  words : ∀ o ∈ r.starts ++ r.ends, (Int32.ofInt o).toInt = o

theorem exact_ofRegion {r : Region} {size : Nat} (within : r.Within size) (short : size < 2 ^ 31) :
    (HostRegion.ofRegion r).Exact r := by
  have few : r.length < 2 ^ 32 := Nat.lt_trans within.few (by decide)
  have count : (UInt32.ofNat r.length).toNat = r.length := UInt32.toNat_ofNat_of_lt' few
  constructor
  · exact count
  · exact readList_listPointer count
  · exact readList_listPointer (count.trans within.even)
  · intro o mem
    exact within.toInt_ofInt short mem

/-- A host gets the regions of a list: it is told how many there are, and reads so
many, each with its groups. -/
structure RegionsArray.Exact (array : RegionsArray) (rs : List Region) : Prop where
  count_eq : array.count.toNat = rs.length
  regions_eq : List.Forall₂ HostRegion.Exact (readList array.regions array.count) rs

theorem exact_ofList {rs : List Region} (few : rs.length < 2 ^ 32)
    (each : ∀ r ∈ rs, (HostRegion.ofRegion r).Exact r) :
    (RegionsArray.ofList (rs.map .ofRegion)).Exact rs := by
  have count : (UInt32.ofNat (rs.map HostRegion.ofRegion).length).toNat = rs.length := by
    rw [List.length_map, UInt32.toNat_ofNat_of_lt' few]
  constructor
  · exact count
  · rw [RegionsArray.ofList, readList_listPointer (by rw [count, List.length_map]),
      List.forall₂_map_left_iff, List.forall₂_same]
    exact each

/-- What is assumed of the engine a host searches a text with: a match lies within
the text, at or after the offset it is looked for from, and so do its groups, of
which there are few enough, as far as they took part. -/
structure Bounded (re : Regex) (text : Buffer) (options maxStack retry : UInt32) : Prop where
  sound : (hostScan re text options maxStack retry).Sound
  within : ∀ {past start stop : Nat} {before region : Region} {status : Int32},
    start ≤ text.length → stop ≤ text.length →
    re.search past ⟨text.bytes, start, stop, ⟨options⟩,
      (Limits.ofNumbers maxStack.toNat retry.toNat).param⟩ before = (status, region) →
    ¬ status < mismatchStatus → region.Within text.length

variable {re : Regex} {text : Buffer} {options maxStack retry : UInt32}

/-- The region of an answer that is no error lies within the text. -/
theorem Bounded.within_of_ok (h : Bounded re text options maxStack retry) {past start stop : Nat}
    {before region : Region} {found : Option Nat}
    (answered : re.searchAfter past ⟨text.bytes, start, stop, ⟨options⟩,
      (Limits.ofNumbers maxStack.toNat retry.toNat).param⟩ before = (.ok found, region)) :
    region.Within text.length := by
  obtain ⟨⟨start_le, stop_le⟩, status, asked, ok⟩ := Engine.search_of_ok answered
  exact h.within start_le stop_le asked (not_lt_of_answerOfStatus ok)

/-- So does every region that is handed over. -/
theorem Bounded.within_of_accepted (h : Bounded re text options maxStack retry) {full : Run Unit}
    (made : (hostScan re text options maxStack retry).runAll 0 = some full) {region : Region}
    (mem : region ∈ full.accepted) : region.Within text.length := by
  have ends := (Scan.run_eq_some_iff hostScan_inRange).mp made
  obtain ⟨_, _, _, _, -, inside, found⟩ := ends.found_of_mem (Scan.Sound.closed h.sound) trivial mem
  obtain ⟨⟨i, answered⟩, -⟩ := Scan.ask_eq_some_iff.mp found
  exact h.within_of_ok answered

/-! ## 3. The numbers are exact -/

/-- **No number is cut.** On a text whose length 32 bits with a sign can tell, a
host that searches once gets the position the engine has found, or -1, and the
groups of its region; a host that searches for all matches gets as many regions
as matches are handed over, which are at most one for every offset of the text,
and when it reads so many of them it has the groups of every match. If a search
fails, it gets the error's code and no groups or no array. -/
theorem numbers_exact (re : Regex) (text : Buffer) (options maxStack retry : UInt32)
    (short : text.length < 2 ^ 31) (bounded : Bounded re text options maxStack retry)
    (start stop : UInt32) :
    (∀ found region,
      re.searchWithParam (hostQuery text start stop options maxStack retry) .empty =
          (.ok found, region) →
        let answer := searchFirst (some re) text start stop options maxStack retry
        answer.result.toInt = found.elim (-1) (fun i => (i : Int)) ∧ answer.region.Exact region) ∧
      (∀ e region,
        re.searchWithParam (hostQuery text start stop options maxStack retry) .empty =
            (.error e, region) →
          searchFirst (some re) text start stop options maxStack retry = ⟨e.code, .empty⟩) ∧
      ∃ run, (hostScan re text options maxStack retry).runAll 0 = some run ∧
        run.accepted.length ≤ text.length + 1 ∧
        (∀ n, run.outcome = .ok n → ∃ array,
          searchAll (some re) text start stop options maxStack retry = some ⟨0, some array⟩ ∧
            array.Exact run.accepted) ∧
        ∀ e, run.outcome = .error e →
          searchAll (some re) text start stop options maxStack retry = some ⟨e.code, none⟩ := by
  obtain ⟨run, made⟩ := Scan.Sound.exists_run bounded.sound (fun u _ => (u, .resume)) 0 ()
  have few : run.accepted.length ≤ text.length + 1 :=
    Scan.length_accepted_le bounded.sound hostScan_inRange made
  refine ⟨?_, ?_, run, made, few, ?_, ?_⟩
  · intro found region answered
    have region_exact := exact_ofRegion (bounded.within_of_ok answered) short
    simp only [searchFirst_eq_search, answered]
    cases found with
    | none => exact ⟨mismatchStatus_toInt, region_exact⟩
    | some i => exact ⟨Engine.toInt_ofNat_of_found answered, region_exact⟩
  · intro e region failed
    simp only [searchFirst_eq_search, failed]
  · intro n succeeded
    rw [searchAll_of_run made, succeeded]
    have count : run.accepted.length < 2 ^ 32 := by omega
    refine ⟨_, rfl, exact_ofList count ?_⟩
    intro region mem
    exact exact_ofRegion (bounded.within_of_accepted made mem) short
  · intro e failed
    rw [searchAll_of_run made, failed]
    rfl

/-- The matches of `a*` in `éaaé` are within it. -/
theorem star_bounded : Bounded .star starBuffer 0 0 0 := by
  refine ⟨star_trusted.sound, ?_⟩
  intro past start stop before region status _ _ asked _
  rw [show starBuffer.length = 6 by decide]
  cases first : firstFrom starMatches start (stop + 1 - start) with
  | none =>
    simp only [Regex.star, Engine.leftmost, first] at asked
    obtain rfl : .absent 1 = region := (Prod.mk.inj asked).2
    exact ⟨rfl, by decide, by decide⟩
  | some span =>
    simp only [Regex.star, Engine.leftmost, first] at asked
    obtain rfl : .ofSpans [some span] = region := (Prod.mk.inj asked).2
    have fits := Scan.starMatches_fits (firstFrom_eq_some first).2.2.1
    have inside : span.start ≤ span.stop ∧ span.stop ≤ 6 := ⟨fits.1, fits.stop_le⟩
    refine ⟨rfl, by simp [Region.length, Region.ofSpans], ?_⟩
    intro o mem
    have offset : o = span.start ∨ o = span.stop := by simpa [Region.ofSpans] using mem
    omega

/-- The first match from offset 1 on is at 2, and of three matches a host reads
three regions. -/
theorem numbers_exact_star :
    starBuffer.length < 2 ^ 31 ∧ Bounded .star starBuffer 0 0 0 ∧
      (searchFirst (some .star) starBuffer 1 6 0 0 0).result.toInt = 2 ∧
      ∃ array, searchAll (some .star) starBuffer 1 6 0 0 0 = some ⟨0, some array⟩ ∧
        array.count.toNat = 3 ∧ (readList array.regions array.count).length = 3 := by
  have short : starBuffer.length < 2 ^ 31 := by decide
  obtain ⟨first, -, run, made, -, all, -⟩ :=
    numbers_exact .star starBuffer 0 0 0 short star_bounded 1 6
  have once : Regex.star.searchWithParam (hostQuery starBuffer 1 6 0 0 0) .empty =
      (.ok (some 2), .ofSpans [some ⟨2, 4⟩]) := by cbv
  have full : (hostScan .star starBuffer 0 0 0).regions 0 =
      some (.ok [.ofSpans [some ⟨0, 0⟩], .ofSpans [some ⟨2, 4⟩], .ofSpans [some ⟨6, 6⟩]]) := by cbv
  obtain ⟨_, n, same, succeeds, three⟩ := Scan.regions_eq_ok_iff.mp full
  obtain rfl := Option.some.inj (made.symm.trans same)
  obtain ⟨array, answered, exact⟩ := all n succeeds
  rw [three] at exact
  exact ⟨short, star_bounded, (first _ _ once).1, array, answered, exact.count_eq,
    exact.regions_eq.length_eq⟩

end Host

end PatternSearch
