/-
PatternSearch.Proofs.Regex.Templates — replacing by a template.

Two kinds of template do the same whatever the matches are. A quoted text stands
for itself, so that replacing by it is replacing by the text as it stands
(`quoted_text_inserted`). A reference to the whole match puts back what it
replaces, so that the text stays as it is (`replaced_by_itself`); so does any
other replacer that answers with the whole match.

The first needs nothing of the engine: both replacers answer every match alike.
For the second the matches have to lie in the text one after the other, between
characters. Then the stretches between them and they themselves make up the text
again.
-/
import PatternSearch.Proofs.Regex.Splicing
import PatternSearch.Proofs.Template.Quoting

namespace PatternSearch

open Text Template

/-! ## 1. References to the whole match -/

namespace Template

variable {g : GroupTexts}

theorem GroupTexts.referred_zero : g.referred "0" = g.numbered 0 := by
  refine referred_of_numberedName ⟨['0'], Or.inl (by cbv), ⟨by simp, by simp⟩, ?_, by decide⟩
  simp [digitsValue, Nat.ofDigitChars]

theorem Escaped.expand_whole {letter : Char} (hletter : IsLetter letter) {t : String}
    (h : t.toList = ['\\', '0'] ∨ t.toList = ['\\', letter, '<', '0', '>']) (dst : String) :
    expand letter t g dst = dst ++ g.numbered 0 := by
  rcases h with h | h
  · have reads : (lexicon letter).Reads t.toList [.digit '0'] [] :=
      Lexicon.reads_iff.mpr ⟨h, by simp [Lexicon.Fitting, lexicon]⟩
    rw [expand_of_reads hletter reads, Lexicon.written_cons, Lexicon.written_nil,
      String.append_empty]
    rfl
  · have reads : (lexicon letter).Reads t.toList [.reference ['0']] [] :=
      Lexicon.reads_iff.mpr ⟨h, by simp [Lexicon.Fitting, lexicon]⟩
    have name : nameOf ['0'] = "0" := by decide
    rw [expand_of_reads hletter reads, Lexicon.written_cons, Lexicon.written_nil,
      String.append_empty, Token.meaning, name, GroupTexts.referred_zero]

theorem Dollar.expand_whole (dst : String) :
    expand "$0" g dst = (dst ++ g.numbered 0, .ok ()) := by
  have reads : lexicon.Reads "$0".toList [.number ['0']] [] := by
    refine Lexicon.reads_iff.mpr ⟨by cbv, ?_⟩
    simp [Lexicon.Fitting, lexicon, IsDigits, NoDigitNext, digitsValue, Nat.ofDigitChars]
  rw [expand_of_reads reads, Lexicon.written_cons, Lexicon.written_nil, String.append_empty]
  rfl

end Template

/-- The templates that are a reference to the whole match and nothing else. -/
def Dialect.wholeTemplates : Dialect → List String
  | ruby => ["\\0", "\\k<0>"]
  | python => ["\\0", "\\g<0>"]
  | java => ["$0"]

theorem Dialect.expand_whole {d : Dialect} {t : String} (h : t ∈ d.wholeTemplates)
    (g : GroupTexts) (dst : String) : d.expand t g dst = (dst ++ g.numbered 0, .ok ()) := by
  have escaped {letter : Char} (kind : d.letter? = some letter)
      (spelled : t.toList = ['\\', '0'] ∨ t.toList = ['\\', letter, '<', '0', '>']) :
      d.expand t g dst = (dst ++ g.numbered 0, .ok ()) := by
    rw [expand_of_letter? kind, Escaped.expand_whole (isLetter_of_letter? kind) spelled]
  cases d with
  | ruby =>
    rcases List.mem_pair.mp h with rfl | rfl
    · exact escaped rfl (Or.inl (by cbv))
    · exact escaped rfl (Or.inr (by cbv))
  | python =>
    rcases List.mem_pair.mp h with rfl | rfl
    · exact escaped rfl (Or.inl (by cbv))
    · exact escaped rfl (Or.inr (by cbv))
  | java =>
    obtain rfl := List.mem_singleton.mp h
    exact Dollar.expand_whole dst

/-! ## 2. What a replacer answers -/

/-- A template answers with what it expands to. -/
theorem Replacer.template_of_expand {t : String} {d : Dialect} {c : Captures} {answer : String}
    (expands : d.expand t c.texts "" = (answer, .ok ())) :
    (template t).replace () c d = ((), .ok answer) := by
  simp only [template, expands]

namespace Regex

variable {re : Regex} {text : String}

theorem spliceFrom_congr {σ : Type} {rep rep' : Replacer σ} {d : Dialect}
    (alike : ∀ state c, rep.replace state c d = rep'.replace state c d) (text : String)
    (cs : List Captures) (last : Nat) (state : σ) :
    spliceFrom rep d text cs last state = spliceFrom rep' d text cs last state := by
  induction cs generalizing last state with
  | nil => rfl
  | cons c cs ih => simp only [spliceFrom, alike, ih]

/-- Replacers that answer alike in the dialect of the regex replace alike. -/
theorem replacen_congr {σ : Type} {rep rep' : Replacer σ}
    (alike : ∀ state c, rep.replace state c re.dialect = rep'.replace state c re.dialect)
    (limit : Nat) (state : σ) :
    re.replacen text limit rep state = re.replacen text limit rep' state := by
  unfold replacen replacePieces splice
  rcases re.capturesIter text with _ | e | cs
  · rfl
  · rfl
  · simp only [spliceFrom_congr alike]

/-! ## 3. Quoted texts -/

/-- **Quoted texts.** In every dialect, the template quoted from a text expands
to the text, whatever the match. So replacing by it, in the dialect of the regex,
is replacing by the text as it stands. -/
theorem quoted_text_inserted (s : String) :
    (∀ (d : Dialect) (c : Captures) (dst : String),
      d.expand (d.quote s) c.texts dst = (dst ++ s, .ok ())) ∧
    ∀ (re : Regex) (text : String) (limit : Nat),
      re.replacen text limit (.template (re.dialect.quote s)) () =
        re.replacen text limit (.verbatim s) () := by
  refine ⟨fun d c dst => d.expand_quote s c.texts dst, fun re text limit => ?_⟩
  refine replacen_congr (fun _ c => ?_) limit ()
  refine Replacer.template_of_expand ?_
  rw [Dialect.expand_quote, String.empty_append]

/-- What would be a reference to the whole match is put in as it stands, in the
place of all three matches of `a*`. -/
example : star.replacen "éaaé" 0 (.template (star.dialect.quote "<\\0>")) () =
    some (.ok "<\\0>é<\\0>é<\\0>") := by cbv

/-! ## 4. Matches put back -/

theorem text_of_capturesIter {cs : Sequence Captures}
    (ok : re.capturesIter text = some (.ok cs)) : ∀ c ∈ cs.items, c.text = text := by
  rw [capturesIter_eq] at ok
  obtain ⟨rs, -, rfl⟩ := Eventual.map_eq_ok_iff.mp ok
  intro c mem
  obtain ⟨region, -, rfl⟩ := List.mem_map.mp mem
  rfl

/-- The texts of the whole matches are those of the spans where they lie. -/
theorem map_numbered_zero {cs : List Captures} (same : ∀ c ∈ cs, c.text = text)
    {spans : List Span} (wholes : cs.map (fun c => c.span? 0) = spans.map some) :
    cs.map (fun c => c.numbered 0) = spans.map (fun m => m.slice text) := by
  induction cs generalizing spans with
  | nil =>
    obtain rfl : spans = [] := by simpa using wholes.symm
    rfl
  | cons c cs ih =>
    cases spans with
    | nil => simp at wholes
    | cons m spans =>
      obtain ⟨here, others⟩ := List.cons.inj wholes
      have first : c.numbered 0 = m.slice text := by
        simp [Captures.numbered, Captures.get, here, Match.str, same c List.mem_cons_self]
      rw [List.map_cons, List.map_cons, first,
        ih (fun c mem => same c (List.mem_cons_of_mem _ mem)) others]

/-- A replacer that answers with the whole match leaves the text as it is. -/
theorem MatchesFit.replacen_whole (fit : re.MatchesFit text) {cs : Sequence Captures}
    (ok : re.capturesIter text = some (.ok cs)) {σ : Type} {rep : Replacer σ}
    (answers : ∀ state c, (rep.replace state c re.dialect).2 = .ok (c.numbered 0)) (limit : Nat)
    (state : σ) : re.replacen text limit rep state = some (.ok text) := by
  obtain ⟨spans, wholes, cuts, -⟩ := fit.wholes ok
  have first := limited_wholes wholes limit
  have same : ∀ c ∈ limited limit cs.items, c.text = text := fun c mem =>
    text_of_capturesIter ok c ((limited_sublist limit cs.items).subset mem)
  have fewer := cuts.sublist (limited_sublist limit spans)
  rw [replacen_of_answers ok wholes answers limit state, map_numbered_zero same first, spliced,
    fewer.join_alternate, Span.slice_suffixSpan_zero]

/-- **Matches put back.** In a text that can be scanned, replacing matches by a
reference to the whole match changes nothing, under any limit, and neither does
replacing them by what a function of the match answers, if that is the text of
the whole match each time. -/
theorem replaced_by_itself (re : Regex) (text : String) (fit : re.MatchesFit text)
    {cs : Sequence Captures} (ok : re.capturesIter text = some (.ok cs)) (limit : Nat) :
    (∀ t ∈ re.dialect.wholeTemplates,
      re.replacen text limit (.template t) () = some (.ok text)) ∧
    ∀ {σ : Type} (f : σ → Captures → σ × String), (∀ state c, (f state c).2 = c.numbered 0) →
      ∀ state, re.replacen text limit (.computed f) state = some (.ok text) := by
  refine ⟨fun t whole => ?_, fun f answers state => ?_⟩
  · refine fit.replacen_whole ok (fun _ c => ?_) limit ()
    have expands : re.dialect.expand t c.texts "" = (c.numbered 0, .ok ()) := by
      rw [Dialect.expand_whole whole, String.empty_append]
      rfl
    rw [Replacer.template_of_expand expands]
  · refine fit.replacen_whole ok (fun state c => ?_) limit state
    simp only [Replacer.computed, answers]

/-- The matches of `a*` in `éaaé` put back, an empty one among them: two of them
by a template, all three by a function that counts them. -/
theorem replaced_by_itself_star :
    star.MatchesFit "éaaé" ∧
      (star.capturesIter "éaaé").map (fun cs => cs.items.length) = some (.ok 3) ∧
      "\\k<0>" ∈ star.dialect.wholeTemplates ∧
      star.replacen "éaaé" 2 (.template "\\k<0>") () = some (.ok "éaaé") ∧
      star.replacen "éaaé" 0 (.computed fun n c => (n + 1, c.numbered 0)) 0 =
        some (.ok "éaaé") := by
  have fit := star_respects.matchesFit
  have three : (star.capturesIter "éaaé").map (fun cs => cs.items.length) = some (.ok 3) := by
    cbv
  obtain ⟨cs, ok, -⟩ := Eventual.map_eq_ok_iff.mp three
  have whole : "\\k<0>" ∈ star.dialect.wholeTemplates := by decide
  refine ⟨fit, three, whole, ?_, ?_⟩
  · exact (replaced_by_itself star "éaaé" fit ok 2).1 _ whole
  · exact (replaced_by_itself star "éaaé" fit ok 0).2 _ (fun _ _ => rfl) 0

end Regex

end PatternSearch
