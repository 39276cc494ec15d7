/-
PatternSearch.Proofs.Host.Ascii — all matches of a text, found by bytes and by
characters.

A host's `searchAll` scans by bytes, the iterators over a `String` by
characters. `steps_agree` says when they report the same: as long as nothing
is skipped at a byte that leads several (`Run.InStep`), so always for a text
in which no byte does.
-/
import PatternSearch.Proofs.Host.MatchByMatch
import PatternSearch.Proofs.Search.Stepping

namespace PatternSearch

open Text

/-- A text in which every character is one byte. -/
def Text.IsAscii (text : String) : Prop :=
  ∀ i, (inside : i < text.toByteArray.size) → text.toByteArray[i] < 0x80

theorem Text.IsAscii.not_leadsMany {text : String} (ascii : IsAscii text) (i : Nat) :
    ¬ LeadsMany text.toByteArray i := by
  rintro ⟨inside, many⟩
  have small := UInt8.lt_iff_toNat_lt.mp (ascii i inside)
  rw [UInt8.le_iff_toNat_le] at many
  have two : (0x80 : UInt8).toNat = 128 ∧ (0xC0 : UInt8).toNat = 192 := by decide
  omega

namespace Host

variable {re : Regex} {text : String}

/-- For a text of one byte a character, the scan by bytes and the one by
characters make the same run. -/
theorem exists_run_of_ascii (ascii : IsAscii text) (sound : (re.wholeScan text).Sound) :
    ∃ full, ((re.wholeScan text).stepping .byte).runAll 0 = some full ∧
      (re.wholeScan text).runAll 0 = some full := by
  obtain ⟨bytes, chars, byByte, byChar, inStep⟩ :=
    Scan.run_inStep sound (fun u _ => (u, .resume)) 0 ()
  obtain rfl := inStep.eq fun i _ => ascii.not_leadsMany i
  exact ⟨bytes, byByte, byChar⟩

/-- The scan of a host that is handed the bytes of a text, without options or
limits of its own. -/
theorem hostScan_eq {length : UInt32} (whole : length.toNat = text.utf8ByteSize) :
    hostScan re (.ofParts (some text.toByteArray) length.toNat) 0 0 0 =
      (re.wholeScan text).stepping .byte := by
  have bytes : (Buffer.ofParts (some text.toByteArray) length.toNat).bytes = text.toByteArray := by
    rw [Buffer.ofParts, Buffer.bytes, whole, ← String.size_toByteArray,
      ByteArray.extract_zero_size]
  rw [hostScan, Buffer.length, bytes]
  rfl

/-- What such a host answers is what the scan by bytes of the whole text finds,
or the code of its error. -/
theorem searchAll_bytes {length start stop : UInt32}
    (whole : length.toNat = text.utf8ByteSize) :
    searchAll (some re) (.ofParts (some text.toByteArray) length.toNat) start stop 0 0 0 =
      Option.map SearchAllResult.ofRegions
        (((re.wholeScan text).stepping .byte).regions 0) := by
  rw [searchAll_eq, hostScan_eq whole]

/-- **Bytes and characters.** Where the engine answers within the text, from
the cursor on, a scan by bytes and one by characters that differ in nothing
else come to an end in step, whatever the visitor does.

So for a text of one byte a character, the scan by bytes, the iterators over
matches and captures and a host's search for all matches report the same
matches in the same order, or the same error. -/
theorem steps_agree :
    (∀ s : Scan, s.Sound → ∀ {σ : Type} (visit : σ → Region → σ × Decision) (start : Nat)
      (state : σ), ∃ bytes chars, (s.stepping .byte).run visit start state = some bytes ∧
        (s.stepping .char).run visit start state = some chars ∧ bytes.InStep s.text chars) ∧
    ∀ (re : Regex) (text : String), IsAscii text → (re.wholeScan text).Sound →
      let answer (length start stop : UInt32) :=
        searchAll (some re) (.ofParts (some text.toByteArray) length.toNat) start stop 0 0 0
      ∃ scanned, ((re.wholeScan text).stepping .byte).regions 0 = some scanned ∧
        (∀ rs, scanned = .ok rs →
          ∃ spans : List Span, rs.map (fun r => r.span? 0) = spans.map some ∧
            re.findIter text = some (.ok ⟨spans.map (Match.mk text)⟩) ∧
            re.capturesIter text = some (.ok ⟨rs.map (.ofRegion text re.names)⟩) ∧
            ∀ length start stop, length.toNat = text.utf8ByteSize →
              answer length start stop = some ⟨0, some (.ofList (rs.map .ofRegion))⟩) ∧
        ∀ e, scanned = .error e →
          re.findIter text = some (.error e) ∧ re.capturesIter text = some (.error e) ∧
            ∀ length start stop, length.toNat = text.utf8ByteSize →
              answer length start stop = some ⟨e.code, none⟩ := by
  refine ⟨fun s sound σ visit start state => Scan.run_inStep sound visit start state,
    fun re text ascii sound => ?_⟩
  intro answer
  obtain ⟨full, byByte, byChar⟩ := exists_run_of_ascii ascii sound
  have ends := (Scan.run_eq_some_iff (Regex.wholeScan_inRange re text)).mp byChar
  have scanned : ((re.wholeScan text).stepping .byte).regions 0 =
      some (full.outcome.map fun _ => full.accepted) := by
    rw [Scan.regions, byByte]
    rfl
  have all : re.allRegions text = some (full.outcome.map fun _ => full.accepted) := by
    rw [Regex.allRegions, Scan.regions, byChar]
    rfl
  have answered (length start stop : UInt32) (whole : length.toNat = text.utf8ByteSize) :
      answer length start stop =
        some (.ofRegions (full.outcome.map fun _ => full.accepted)) := by
    simp only [answer]
    rw [searchAll_bytes whole, scanned]
    rfl
  refine ⟨_, scanned, fun rs ok => ?_, fun e failed => ?_⟩
  · rw [ok] at all answered
    obtain ⟨_, -, rfl⟩ := map_eq_ok_iff.mp ok
    refine ⟨_, ends.map_span_accepted, ?_, ?_, answered⟩
    · rw [Regex.findIter_eq, all, ← ends.filterMap_span_accepted]
      rfl
    · rw [Regex.capturesIter_eq, all]
      rfl
  · rw [failed] at all answered
    refine ⟨?_, ?_, answered⟩
    · rw [Regex.findIter_eq, all]
      rfl
    · rw [Regex.capturesIter_eq, all]
      rfl

/-- Scanned for `a*` by bytes, `éaaé` is asked about from within both of its
letters of two bytes. A text of the same length in which there are none is not. -/
theorem steps_agree_star :
    starScan.Sound ∧
      (∃ bytes chars, (starScan.stepping .byte).runAll 0 = some bytes ∧
        (starScan.stepping .char).runAll 0 = some chars ∧
        bytes.InStep starScan.text chars ∧ bytes.cursors = [0, 0, 1, 4, 5, 6] ∧
        chars.cursors = [0, 0, 2, 4, 6, 6]) ∧
      IsAscii "--aa--" ∧ (Regex.star.wholeScan "--aa--").Sound ∧
      Regex.star.findIter "--aa--" =
        some (.ok ⟨[⟨0, 0⟩, ⟨2, 4⟩, ⟨6, 6⟩].map (Match.mk "--aa--")⟩) ∧
      searchAll (some .star) (.ofParts (some "--aa--".toByteArray) 6) 0 0 0 0 0 =
        some ⟨0, some (.ofList
          [⟨some [0], some [0], 1⟩, ⟨some [2], some [4], 1⟩, ⟨some [6], some [6], 1⟩])⟩ := by
  have ascii : IsAscii "--aa--" := by
    unfold IsAscii
    decide
  have sound : (Regex.star.wholeScan "--aa--").Sound := by
    refine Scan.sound_leftmost rfl (by decide) (by decide) fun {p e} here => ?_
    exact ⟨(Scan.starMatches_fits here).1, (Scan.starMatches_fits here).stop_le⟩
  have regions : ((Regex.star.wholeScan "--aa--").stepping .byte).regions 0 =
      some (.ok [.ofSpans [some ⟨0, 0⟩], .ofSpans [some ⟨2, 4⟩], .ofSpans [some ⟨6, 6⟩]]) := by cbv
  obtain ⟨bytes, chars, byByte, byChar, inStep⟩ :=
    steps_agree.1 starScan Scan.starScan_sound (fun u _ => (u, .resume)) 0 ()
  have byteCursors : ((starScan.stepping .byte).runAll 0).map Run.cursors =
      some [0, 0, 1, 4, 5, 6] := by cbv
  have charCursors : ((starScan.stepping .char).runAll 0).map Run.cursors =
      some [0, 0, 2, 4, 6, 6] := by cbv
  rw [Scan.runAll, byByte, Option.map_some, Option.some.injEq] at byteCursors
  rw [Scan.runAll, byChar, Option.map_some, Option.some.injEq] at charCursors
  obtain ⟨scanned, made, succeeds, -⟩ := steps_agree.2 .star "--aa--" ascii sound
  obtain rfl := Option.some.inj (made.symm.trans regions)
  obtain ⟨_, -, -, -, answered⟩ := succeeds _ rfl
  refine ⟨Scan.starScan_sound, ⟨bytes, chars, byByte, byChar, inStep, byteCursors, charCursors⟩,
    ascii, sound, by cbv, ?_⟩
  exact answered 6 0 0 rfl

end Host

end PatternSearch
