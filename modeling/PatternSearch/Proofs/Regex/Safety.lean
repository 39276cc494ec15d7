/-
PatternSearch.Proofs.Regex.Safety — no character is ever cut in two.

A span has a text only if it fits: `Span.slice?` is `none` otherwise, which is
where taking it would go wrong. `character_safe` goes through all functions
that find, cut or replace in a text, and says that with an engine that
respects characters every span they take the text of fits, in every state an
iterator can be in, under every limit, and whatever a replacer does.
-/
import PatternSearch.Proofs.Regex.Matches

namespace PatternSearch

open Text

variable {re : Regex} {text : String}

/-! ## 1. Matches and captures -/

/-- The match is one in the text, and lies between characters of it. -/
def Match.Fits (m : Match) (text : String) : Prop := m.text = text ∧ m.span.Fits text

namespace Captures

/-- The captures are ones of the text, and all groups that took part lie
between characters of it. -/
def Fits (c : Captures) (text : String) : Prop :=
  c.text = text ∧ ∀ i span, c.span? i = some span → span.Fits text

variable {c : Captures} {m : Match}

theorem Fits.get (h : c.Fits text) {i : Nat} (here : c.get i = some m) : m.Fits text := by
  unfold Captures.get at here
  obtain ⟨span, group, rfl⟩ := Option.map_eq_some_iff.mp here
  exact ⟨h.1, h.2 i span group⟩

/-- The group that answers to a name is one of the groups. -/
theorem Fits.name (h : c.Fits text) {n : String} (here : c.name n = some m) : m.Fits text := by
  unfold Captures.name at here
  obtain ⟨i, -, group⟩ := List.exists_of_findSome?_eq_some here
  exact h.get group

end Captures

namespace Regex

namespace Respects

variable (h : re.Respects text)

include h

theorem findIter_fits {ms : Sequence Match} (ok : re.findIter text = some (.ok ms)) :
    ∀ m ∈ ms.items, m.Fits text := by
  obtain ⟨spans, all, rfl⟩ := Eventual.map_eq_ok_iff.mp ok
  intro m mem
  obtain ⟨span, here, rfl⟩ := List.mem_map.mp mem
  exact ⟨rfl, ((h.matchesFit.cuts_allSpans all).fits span here).2⟩

theorem capturesIter_fits {cs : Sequence Captures} (ok : re.capturesIter text = some (.ok cs)) :
    ∀ c ∈ cs.items, c.Fits text := by
  rw [capturesIter_eq] at ok
  obtain ⟨rs, all, rfl⟩ := Eventual.map_eq_ok_iff.mp ok
  intro c mem
  obtain ⟨region, here, rfl⟩ := List.mem_map.mp mem
  refine ⟨rfl, fun i span group => ?_⟩
  rw [Captures.span?_ofRegion] at group
  exact h.group_fits all here group

/-! ## 2. Splitting and replacing -/

theorem split_ready {s : Splitter} (ok : re.split text = some (.ok s)) : s.Ready text := by
  obtain ⟨spans, all, rfl⟩ := Eventual.map_eq_ok_iff.mp ok
  exact Splitter.ready_ofSpans (h.matchesFit.cuts_allSpans all)

theorem splitn_ready {limit : Nat} {s : BoundedSplitter}
    (ok : re.splitn text limit = some (.ok s)) : s.splitter.Ready text := by
  obtain ⟨splitter, all, rfl⟩ := Eventual.map_eq_ok_iff.mp ok
  exact h.split_ready all

theorem splice_fits {limit : Nat} {σ : Type} {rep : Replacer σ} {state : σ} {made : Splice σ}
    (ok : re.splice text limit rep state = some made) : ∀ p ∈ made.pieces, p.Fits text := by
  unfold splice at ok
  split at ok
  · cases ok
  · cases ok
    simp
  · rename_i cs captured
    cases ok
    rw [capturesIter_eq] at captured
    obtain ⟨rs, all, rfl⟩ := Eventual.map_eq_ok_iff.mp captured
    have cuts := h.matchesFit.cuts all
    rw [← Captures.wholes_map_ofRegion text re.names] at cuts
    exact spliceFrom_fits rep _ _ state (cuts.sublist ((limited_sublist limit _).filterMap _))

end Respects

/-! ## 3. All of it -/

/-- **Character safety.** Whatever an engine that respects characters answers,
iterators, splitting and replacing come to an end, and it is asked from between
characters only. Every match of an iterator, every group by number or by name,
every part of a splitter, whichever call it answers, and every piece a
replacement keeps lies between characters, and so has a text. -/
theorem character_safe (re : Regex) (text : String) (respects : re.Respects text) :
    re.Settles text ∧
    (∀ {σ : Type} (visit : σ → Region → σ × Decision) (state : σ),
      ∃ run, (re.wholeScan text).run visit 0 state = some run ∧
        ∀ cursor ∈ run.cursors, cursor ≤ text.utf8ByteSize ∧ IsBoundary text cursor) ∧
    (∀ ms, re.findIter text = some (.ok ms) → ∀ m ∈ ms.items, m.Fits text) ∧
    (∀ cs, re.capturesIter text = some (.ok cs) → ∀ c ∈ cs.items,
      (∀ i m, c.get i = some m → m.Fits text) ∧ ∀ n m, c.name n = some m → m.Fits text) ∧
    (∀ s, re.split text = some (.ok s) → ∀ n part,
      ((fun s => s.next.2)^[n] s).next.1 = some part → part.Fits text) ∧
    (∀ limit s, re.splitn text limit = some (.ok s) → ∀ n part,
      ((fun s => s.next.2)^[n] s).next.1 = some part → part.Fits text) ∧
    (∀ (limit : Nat) {σ : Type} (rep : Replacer σ) (state : σ) (made : Splice σ),
      re.splice text limit rep state = some made → ∀ p ∈ made.pieces, p.Fits text) ∧
    ∀ span : Span, span.Fits text →
      span.start ≤ span.stop ∧ span.stop ≤ text.utf8ByteSize ∧ (span.slice? text).isSome := by
  refine ⟨respects.matchesFit.settles, fun visit state => ?_,
    fun ms ok => respects.findIter_fits ok, fun cs ok c mem => ?_,
    fun s ok n part => (respects.split_ready ok).parts_fit n,
    fun limit s ok n part => BoundedSplitter.parts_fit (respects.splitn_ready ok) n,
    fun limit σ rep state made ok => respects.splice_fits ok, fun span fits => ?_⟩
  · obtain ⟨run, made, -⟩ := respects.matchesFit.exists_run visit state
    refine ⟨run, made, fun cursor mem => ?_⟩
    have boundary := respects.matchesFit.cursor_boundary made mem
    exact ⟨boundary.le, boundary⟩
  · have groups := respects.capturesIter_fits ok c mem
    exact ⟨fun i m => groups.get, fun n m => groups.name⟩
  · exact ⟨fits.1, fits.stop_le, Span.slice?_isSome_iff.mpr fits⟩

/-- `éaaé` cut at the matches of `a*`: the empty match at its beginning leaves
nothing before it, the one at its end nothing after it. -/
theorem character_safe_star :
    star.Respects "éaaé" ∧
      (star.split "éaaé").map (fun s => s.drain.1) =
        some (.ok [⟨0, 0⟩, ⟨0, 2⟩, ⟨4, 6⟩, ⟨6, 6⟩]) ∧
      ∃ run, (star.wholeScan "éaaé").runAll 0 = some run ∧
        ∀ cursor ∈ run.cursors, cursor ≤ "éaaé".utf8ByteSize ∧ IsBoundary "éaaé" cursor :=
  ⟨star_respects, by cbv, (character_safe star "éaaé" star_respects).2.1 _ ()⟩

end Regex

end PatternSearch
