/-
PatternSearch.Proofs.Regex.Splicing — what a replacement comes to.

A replacement does two things at once: it cuts the text and it invokes the
replacer, match by match. Here they are taken apart. `Replacer.invoke` invokes
a replacer on captures in order until it first fails, and knows nothing of the
text. `Text.spliced` puts texts in the place of spans, and knows nothing of
replacers. `replacement_spliced` says that a replacement is the one after the
other.

What a replacer is told is the match and its own state. One that wants to know
what has been written before it can keep track of it there, since captures
tell the text and where the match lies.
-/
import PatternSearch.Proofs.Regex.Gaps
import PatternSearch.Proofs.Regex.Matches

namespace PatternSearch

open Text

/-! ## 1. The two halves -/

/-- Invokes a replacer on captures, one after the other, until it first fails:
its state afterwards, and what it has put in their place or the error. -/
def Replacer.invoke {σ : Type} (rep : Replacer σ) (d : Dialect) :
    σ → List Captures → σ × Except Error (List String)
  | state, [] => (state, .ok [])
  | state, c :: rest =>
    match rep.replace state c d with
    | (state, .error e) => (state, .error e)
    | (state, .ok t) =>
      let (state, texts) := rep.invoke d state rest
      (state, texts.map (t :: ·))

/-- A replacer whose answers depend on the match alone, and that never fails. -/
theorem Replacer.invoke_of_answers {σ : Type} {rep : Replacer σ} {d : Dialect}
    {answer : Captures → String} (answers : ∀ state c, (rep.replace state c d).2 = .ok (answer c))
    (state : σ) (cs : List Captures) : (rep.invoke d state cs).2 = .ok (cs.map answer) := by
  induction cs generalizing state with
  | nil => rfl
  | cons c cs ih =>
    have here := answers state c
    rcases asked : rep.replace state c d with ⟨after, e | t⟩
    · simp [asked] at here
    · obtain rfl : t = answer c := by simpa [asked] using here
      simp only [invoke, asked]
      rw [ih after]
      rfl

/-- A text with other texts in the place of spans. -/
def Text.spliced (text : String) (spans : List Span) (texts : List String) : String :=
  String.join (alternate ((gaps text 0 spans).map (fun g => g.slice text)) texts)

/-- The same text in the place of every span joins the stretches between. -/
theorem Text.spliced_replicate (text : String) (spans : List Span) (r : String) :
    spliced text spans (List.replicate spans.length r) =
      r.intercalate ((gaps text 0 spans).map (fun g => g.slice text)) := by
  have length : ((gaps text 0 spans).map (fun g => g.slice text)).length = spans.length + 1 := by
    simp
  unfold spliced
  cases stretches : (gaps text 0 spans).map (fun g => g.slice text) with
  | nil => simp [stretches] at length
  | cons x xs =>
    rw [stretches, List.length_cons, Nat.add_right_cancel_iff] at length
    rw [← length, join_alternate_replicate]

/-- Without spans a text stays as it is. -/
theorem Text.spliced_nil (text : String) : spliced text [] [] = text := by
  simp [spliced, Span.slice_suffixSpan_zero, String.join_cons]

/-- Pieces taken in turn from stretches and texts, written out. -/
theorem Piece.render_alternate (text : String) (stretches : List Span) (texts : List String) :
    render text (alternate (stretches.map kept) (texts.map written)) =
      String.join (alternate (stretches.map (fun g => g.slice text)) texts) := by
  rw [render, map_alternate, List.map_map, List.map_map]
  congr 2
  exact List.map_id texts

/-- The pieces of a replacement that did not fail, with some before them. -/
theorem Splice.pieces_after {σ : Type} (pieces : List Piece) (r : Splice σ) :
    (r.after pieces).outcome.map (fun _ => (r.after pieces).pieces) =
      (r.outcome.map fun _ => r.pieces).map (pieces ++ ·) := by
  obtain ⟨state, rest, outcome⟩ := r
  cases outcome <;> rfl

namespace Regex

variable {re : Regex} {text : String}

/-! ## 2. One match after the other -/

/-- A replacement from an offset on leaves the replacer as the invocations do,
and its pieces are the stretches and what the replacer has put in between. -/
theorem spliceFrom_eq {σ : Type} (rep : Replacer σ) (d : Dialect) (text : String)
    (cs : List Captures) (last : Nat) (state : σ) {spans : List Span}
    (wholes : cs.map (fun c => c.span? 0) = spans.map some) :
    (spliceFrom rep d text cs last state).state = (rep.invoke d state cs).1 ∧
      (spliceFrom rep d text cs last state).outcome.map
          (fun _ => (spliceFrom rep d text cs last state).pieces) =
        (rep.invoke d state cs).2.map
          (fun texts => alternate ((gaps text last spans).map .kept) (texts.map .written)) := by
  induction cs generalizing last state spans with
  | nil =>
    obtain rfl : spans = [] := by simpa using wholes.symm
    exact ⟨rfl, rfl⟩
  | cons c cs ih =>
    cases spans with
    | nil => simp at wholes
    | cons m spans =>
      simp only [List.map_cons, List.cons.injEq] at wholes
      obtain ⟨here, wholes⟩ := wholes
      simp only [spliceFrom, here, Replacer.invoke]
      -- The replacer is asked the same on both sides. If it fails, nothing after
      -- it counts.
      rcases rep.replace state c d with ⟨state, e | t⟩
      · exact ⟨rfl, rfl⟩
      · obtain ⟨same, pieces⟩ := ih m.stop state wholes
        simp only [Splice.pieces_after, pieces]
        refine ⟨same, ?_⟩
        cases (rep.invoke d state cs).2 with
        | error e => rfl
        | ok texts => rfl

/-- A limit leaves as many items as it says, or all. -/
theorem limited_eq_take {α : Type} (limit : Nat) (items : List α) :
    limited limit items =
      items.take (if limit = 0 then items.length else min limit items.length) := by
  unfold limited
  split
  · rw [List.take_length]
  · rw [List.take_eq_take_min]

theorem map_limited {α β : Type} (f : α → β) (limit : Nat) (items : List α) :
    (limited limit items).map f = limited limit (items.map f) := by
  unfold limited
  split
  · rfl
  · rw [List.map_take]

/-- The captures a limit leaves lie at the spans it leaves. -/
theorem limited_wholes {cs : List Captures} {spans : List Span}
    (wholes : cs.map (fun c => c.span? 0) = spans.map some) (limit : Nat) :
    (limited limit cs).map (fun c => c.span? 0) = (limited limit spans).map some := by
  rw [map_limited, wholes, map_limited]

/-! ## 3. All matches -/

/-- The matches of all captures in a text, by where they lie. -/
theorem MatchesFit.wholes (fit : re.MatchesFit text) {cs : Sequence Captures}
    (ok : re.capturesIter text = some (.ok cs)) :
    ∃ spans, cs.items.map (fun c => c.span? 0) = spans.map some ∧ Cuts text 0 spans ∧
      re.allSpans text = some (.ok spans) := by
  rw [capturesIter_eq] at ok
  obtain ⟨rs, all, rfl⟩ := Eventual.map_eq_ok_iff.mp ok
  have cuts := fit.cuts all
  obtain ⟨full, n, made, -, rfl⟩ := Scan.regions_eq_ok_iff.mp all
  have ends := ends_of_run made
  rw [ends.filterMap_span_accepted] at cuts
  refine ⟨full.spans, ?_, cuts, ?_⟩
  · rw [← ends.map_span_accepted, List.map_map]
    exact List.map_congr_left fun r _ => Captures.span?_ofRegion text re.names r 0
  · rw [allSpans_eq, all, ← ends.filterMap_span_accepted]
    rfl

/-- A replacement where the scan fails does nothing else. -/
theorem replacen_of_error {e : Error} (failed : re.capturesIter text = some (.error e))
    (limit : Nat) {σ : Type} (rep : Replacer σ) (state : σ) :
    (re.splice text limit rep state).map Splice.state = some state ∧
      re.replacen text limit rep state = some (.error e) := by
  unfold replacen replacePieces splice
  rw [failed]
  exact ⟨rfl, rfl⟩

/-- A replacement of the matches that a limit leaves. -/
theorem replacen_of_ok {cs : Sequence Captures} (ok : re.capturesIter text = some (.ok cs))
    {spans : List Span} (wholes : cs.items.map (fun c => c.span? 0) = spans.map some)
    (limit : Nat) {σ : Type} (rep : Replacer σ) (state : σ) :
    (re.splice text limit rep state).map Splice.state =
        some (rep.invoke re.dialect state (limited limit cs.items)).1 ∧
      re.replacen text limit rep state =
        some ((rep.invoke re.dialect state (limited limit cs.items)).2.map
          (spliced text (limited limit spans))) := by
  obtain ⟨same, pieces⟩ :=
    spliceFrom_eq rep re.dialect text _ 0 state (limited_wholes wholes limit)
  unfold replacen replacePieces splice
  rw [ok]
  refine ⟨congrArg some same, ?_⟩
  simp only [Option.map_some]
  rw [pieces]
  cases (rep.invoke re.dialect state (limited limit cs.items)).2 with
  | error e => rfl
  | ok texts => exact congrArg (some ∘ Except.ok) (Piece.render_alternate text _ texts)

/-- A replacement whose answers depend on the match alone. -/
theorem replacen_of_answers {cs : Sequence Captures} (ok : re.capturesIter text = some (.ok cs))
    {spans : List Span} (wholes : cs.items.map (fun c => c.span? 0) = spans.map some)
    {σ : Type} {rep : Replacer σ} {answer : Captures → String}
    (answers : ∀ state c, (rep.replace state c re.dialect).2 = .ok (answer c)) (limit : Nat)
    (state : σ) :
    re.replacen text limit rep state =
      some (.ok (spliced text (limited limit spans) ((limited limit cs.items).map answer))) := by
  rw [(replacen_of_ok ok wholes limit rep state).2, Replacer.invoke_of_answers answers]
  rfl

/-- **Splicing.** A replacement comes to an end. If the scan fails, so does the
replacement, with the same error and without a word to the replacer. Otherwise the replacer is invoked on
the first `k` captures until it fails, `k` being what the limit leaves; its
error is the error of the replacement, and if there is none, the text comes
back with its answers in the place of the first `k` matches, all stretches in
between lying between characters. A text without matches comes back as it is,
a limit no match exceeds is none, and one match is replaced with the limit 1. -/
theorem replacement_spliced (re : Regex) (text : String) (fit : re.MatchesFit text) :
    re.Settles text ∧
    (∀ e, re.capturesIter text = some (.error e) → ∀ (limit : Nat) {σ : Type} (rep : Replacer σ)
      (state : σ), (re.splice text limit rep state).map Splice.state = some state ∧
        re.replacen text limit rep state = some (.error e)) ∧
    (∀ cs, re.capturesIter text = some (.ok cs) →
      (∃ spans : List Span, cs.items.map (fun c => c.span? 0) = spans.map some ∧
        ∀ (limit : Nat) {σ : Type} (rep : Replacer σ) (state : σ),
          let k := if limit = 0 then cs.items.length else min limit cs.items.length
          let (after, answers) := rep.invoke re.dialect state (cs.items.take k)
          (re.splice text limit rep state).map Splice.state = some after ∧
            re.replacen text limit rep state = some (answers.map (spliced text (spans.take k))) ∧
            ∀ g ∈ gaps text 0 (spans.take k), g.Fits text) ∧
      (cs.items = [] → ∀ (limit : Nat) {σ : Type} (rep : Replacer σ) (state : σ),
        re.replacen text limit rep state = some (.ok text)) ∧
      ∀ limit, cs.items.length ≤ limit → ∀ {σ : Type} (rep : Replacer σ) (state : σ),
        re.replacen text limit rep state = re.replaceAll text rep state) ∧
    ∀ {σ : Type} (rep : Replacer σ) (state : σ),
      re.replace text rep state = re.replacen text 1 rep state := by
  refine ⟨fit.settles, fun e failed limit σ rep state => replacen_of_error failed limit rep state,
    fun cs ok => ?_, fun _ _ => rfl⟩
  obtain ⟨spans, wholes, cuts, -⟩ := fit.wholes ok
  have length : spans.length = cs.items.length := by
    simpa using (congrArg List.length wholes).symm
  refine ⟨⟨spans, wholes, fun limit σ rep state => ?_⟩, fun none limit σ rep state => ?_,
    fun limit le σ rep state => ?_⟩
  · obtain ⟨same, answer⟩ := replacen_of_ok ok wholes limit rep state
    rw [limited_eq_take limit cs.items] at same answer
    rw [limited_eq_take limit spans, length] at answer
    exact ⟨same, answer, (cuts.sublist (List.take_sublist _ _)).gaps_fit⟩
  · obtain rfl : spans = [] := by simpa [none] using length
    rw [(replacen_of_ok ok wholes limit rep state).2, none, limited_eq_take, limited_eq_take]
    simp [Replacer.invoke, Except.map, spliced_nil]
  · rw [replaceAll, (replacen_of_ok ok wholes limit rep state).2,
      (replacen_of_ok ok wholes 0 rep state).2, limited_eq_take limit cs.items,
      limited_eq_take limit spans, limited_eq_take 0 cs.items, limited_eq_take 0 spans, length,
      Nat.min_eq_right le]
    simp

/-- A replacer that counts, between the matches of `a*` in `éaaé`. -/
theorem replacement_spliced_star :
    star.MatchesFit "éaaé" ∧
      (star.capturesIter "éaaé").map (fun cs => cs.items.length) = some (.ok 3) ∧
      star.replacen "éaaé" 2 (.computed fun n _ => (n + 1, toString n)) 0 = some (.ok "0é1é") ∧
      star.replacen "éaaé" 5 (.template "-") () = star.replaceAll "éaaé" (.template "-") () := by
  have three : (star.capturesIter "éaaé").map (fun cs => cs.items.length) = some (.ok 3) := by
    cbv
  refine ⟨star_respects.matchesFit, three, by cbv, ?_⟩
  obtain ⟨cs, ok, length⟩ := Eventual.map_eq_ok_iff.mp three
  have spliced := (replacement_spliced star "éaaé" star_respects.matchesFit).2.2.1 cs ok
  exact spliced.2.2 5 (by omega) (.template "-") ()

end Regex

end PatternSearch
