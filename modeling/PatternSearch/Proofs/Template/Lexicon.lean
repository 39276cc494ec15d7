/-
PatternSearch.Proofs.Template.Lexicon — templates as sequences of tokens.

Both kinds of template are described in the same way. A `Lexicon` says how each
token is written and what may follow it; `Reads cs tokens left` says that `cs`
is these tokens, one written after the other, and then `left`. Nothing here
goes over a template character by character: that is what the readers do, and
`Reads.expand_eq` is how a reader is checked against its lexicon, one token at
a time.

A lexicon is `Unambiguous` if no two of its tokens can be read at the beginning
of one text. Then every text has a reading up to a place where no token stands
(`exists_reads`), and only one (`Reads.unique`).
-/
import Mathlib

namespace PatternSearch.Template

/-- How tokens are written. -/
structure Lexicon (Token : Type) where
  /-- The characters of a token. -/
  spelling : Token → List Char
  /-- Whether a token may stand before what follows it. -/
  Fits : Token → List Char → Prop

namespace Lexicon

variable {Token : Type} {L : Lexicon Token}

/-- A text begins with these tokens, one after the other, and this is left. -/
inductive Reads (L : Lexicon Token) : List Char → List Token → List Char → Prop where
  | stop (cs : List Char) : Reads L cs [] cs
  | token {t : Token} {rest left : List Char} {ts : List Token} (fits : L.Fits t rest)
      (others : Reads L rest ts left) : Reads L (L.spelling t ++ rest) (t :: ts) left

/-- No token stands at the beginning of a text. -/
def Stuck (L : Lexicon Token) (cs : List Char) : Prop :=
  ∀ t rest, cs = L.spelling t ++ rest → ¬ L.Fits t rest

/-- No token is written as nothing, and no two tokens can be read at the
beginning of the same text. -/
structure Unambiguous (L : Lexicon Token) : Prop where
  spelling_ne_nil : ∀ t, L.spelling t ≠ []
  eq_of_spelling : ∀ {t t' : Token} {rest rest' : List Char}, L.Fits t rest → L.Fits t' rest' →
    L.spelling t ++ rest = L.spelling t' ++ rest' → t = t'

/-- Nothing is ambiguous if the token at the beginning of a text can be told from
the text. -/
theorem Unambiguous.of_first (first? : List Char → Option Token)
    (spelling_ne_nil : ∀ t, L.spelling t ≠ [])
    (first_eq : ∀ {t : Token} {rest : List Char}, L.Fits t rest →
      first? (L.spelling t ++ rest) = some t) : L.Unambiguous where
  spelling_ne_nil := spelling_ne_nil
  eq_of_spelling := by
    intro t t' rest rest' fits fits' same
    have := first_eq fits
    rw [same, first_eq fits'] at this
    exact (Option.some.inj this).symm

/-- What has been read is the tokens as they are written. -/
theorem Reads.eq_append {cs left : List Char} {ts : List Token} (h : L.Reads cs ts left) :
    cs = ts.flatMap L.spelling ++ left := by
  induction h with
  | stop cs => simp
  | token fits others ih => rw [List.flatMap_cons, List.append_assoc, ← ih]

/-- Each token may stand before the ones after it and what is left. -/
def Fitting (L : Lexicon Token) (left : List Char) : List Token → Prop
  | [] => True
  | t :: ts => L.Fits t (ts.flatMap L.spelling ++ left) ∧ L.Fitting left ts

/-- Tokens that fit are read where they are written. -/
theorem reads_iff {cs left : List Char} {ts : List Token} :
    L.Reads cs ts left ↔ cs = ts.flatMap L.spelling ++ left ∧ L.Fitting left ts := by
  constructor
  · intro h
    refine ⟨h.eq_append, ?_⟩
    induction h with
    | stop cs => trivial
    | token fits others ih => exact ⟨others.eq_append ▸ fits, ih⟩
  · rintro ⟨rfl, h⟩
    induction ts with
    | nil => exact .stop left
    | cons t ts ih =>
      rw [List.flatMap_cons, List.append_assoc]
      exact .token h.1 (ih h.2)

/-- A text that is read without a token has all of it left. -/
theorem reads_nil_iff {cs left : List Char} : L.Reads cs [] left ↔ cs = left := by
  constructor
  · intro h
    simpa using h.eq_append
  · rintro rfl
    exact .stop cs

theorem reads_cons_iff {cs left : List Char} {t : Token} {ts : List Token} :
    L.Reads cs (t :: ts) left ↔
      ∃ rest, cs = L.spelling t ++ rest ∧ L.Fits t rest ∧ L.Reads rest ts left := by
  constructor
  · intro h
    generalize hts : t :: ts = all at h
    cases h with
    | stop => simp at hts
    | token fits others =>
      obtain ⟨rfl, rfl⟩ := List.cons.inj hts
      exact ⟨_, rfl, fits, others⟩
  · rintro ⟨rest, rfl, fits, others⟩
    exact .token fits others

theorem stuck_nil (hL : L.Unambiguous) : L.Stuck [] := by
  intro t rest h
  have hne := hL.spelling_ne_nil t
  simp [(List.append_eq_nil_iff.mp h.symm).1] at hne

/-- **One reading.** Two readings of a text that stop where no token stands are
the same. -/
theorem Reads.unique (hL : L.Unambiguous) {cs left left' : List Char} {ts ts' : List Token}
    (h : L.Reads cs ts left) (stuck : L.Stuck left) (h' : L.Reads cs ts' left')
    (stuck' : L.Stuck left') : ts = ts' ∧ left = left' := by
  induction h generalizing ts' with
  | stop cs =>
    cases ts' with
    | nil => exact ⟨rfl, reads_nil_iff.mp h'⟩
    | cons t' ts' =>
      obtain ⟨rest, same, fits, -⟩ := reads_cons_iff.mp h'
      exact absurd fits (stuck t' rest same)
  | @token t rest left ts fits others ih =>
    cases ts' with
    | nil =>
      obtain rfl := reads_nil_iff.mp h'
      exact absurd fits (stuck' t rest rfl)
    | cons t' ts' =>
      obtain ⟨rest', same, fits', others'⟩ := reads_cons_iff.mp h'
      obtain rfl : t = t' := hL.eq_of_spelling fits fits' same
      obtain rfl : rest = rest' := List.append_cancel_left same
      obtain ⟨rfl, rfl⟩ := ih stuck others'
      exact ⟨rfl, rfl⟩

/-- Every text can be read up to a place where no token stands. -/
theorem exists_reads (hL : L.Unambiguous) (cs : List Char) :
    ∃ ts left, L.Reads cs ts left ∧ L.Stuck left := by
  by_cases stuck : L.Stuck cs
  · exact ⟨[], cs, .stop cs, stuck⟩
  · unfold Stuck at stuck
    push Not at stuck
    obtain ⟨t, rest, rfl, fits⟩ := stuck
    have shorter : rest.length < (L.spelling t ++ rest).length := by
      have := List.length_pos_iff.mpr (hL.spelling_ne_nil t)
      rw [List.length_append]
      omega
    obtain ⟨ts, left, others, stuck⟩ := exists_reads hL rest
    exact ⟨t :: ts, left, .token fits others, stuck⟩
termination_by cs.length

/-- A text can be read before anything else in the same way as alone, if its
last token may stand there and the others do not see that far. -/
theorem Reads.append (hL : L.Unambiguous) {next : List Char}
    (onward : ∀ {t : Token} {rest : List Char}, rest ≠ [] → L.Fits t rest → L.Fits t (rest ++ next))
    {cs : List Char} {ts : List Token} (h : L.Reads cs ts [])
    (last : ∀ t ∈ ts.getLast?, L.Fits t [] → L.Fits t next) : L.Reads (cs ++ next) ts next := by
  induction ts generalizing cs with
  | nil =>
    obtain rfl := reads_nil_iff.mp h
    exact .stop next
  | cons t ts ih =>
    obtain ⟨rest, rfl, fits, others⟩ := reads_cons_iff.mp h
    rw [List.append_assoc]
    cases ts with
    | nil =>
      obtain rfl := reads_nil_iff.mp others
      exact .token (last t rfl fits) (.stop next)
    | cons t' ts =>
      have more : rest ≠ [] := by
        rintro rfl
        obtain ⟨_, same, -⟩ := reads_cons_iff.mp others
        exact hL.spelling_ne_nil t' (List.append_eq_nil_iff.mp same.symm).1
      exact .token (onward more fits) (ih others last)

/-- The texts that tokens stand for, one after the other. -/
def written (meaning : Token → String) (ts : List Token) : String := String.join (ts.map meaning)

@[simp] theorem written_nil (meaning : Token → String) : written meaning [] = "" := rfl

@[simp] theorem written_cons (meaning : Token → String) (t : Token) (ts : List Token) :
    written meaning (t :: ts) = meaning t ++ written meaning ts := by
  rw [written, List.map_cons, String.join_cons, written]

/-- If every character can be written as a token that means it and may stand
before anything, so can every text, character by character. -/
theorem exists_reads_flatMap {meaning : Token → String} {spell : Char → List Char}
    (one : ∀ c, ∃ t, L.spelling t = spell c ∧ (∀ rest, L.Fits t rest) ∧
      meaning t = String.singleton c) (cs : List Char) :
    ∃ ts, L.Reads (cs.flatMap spell) ts [] ∧ written meaning ts = .ofList cs := by
  induction cs with
  | nil => exact ⟨[], .stop [], rfl⟩
  | cons c cs ih =>
    obtain ⟨t, spelled, fits, means⟩ := one c
    obtain ⟨ts, others, same⟩ := ih
    refine ⟨t :: ts, ?_, ?_⟩
    · rw [List.flatMap_cons, ← spelled]
      exact .token (fits _) others
    · rw [written_cons, means, same, ← String.toList_inj]
      simp

/-- **Token by token.** A reader that turns each token into its text turns a
sequence of them into their texts, written one after the other. -/
theorem Reads.expand_eq {β : Type} (expand : List Char → String → β) (meaning : Token → String)
    (step : ∀ {t : Token} {rest : List Char} (dst : String), L.Fits t rest →
      expand (L.spelling t ++ rest) dst = expand rest (dst ++ meaning t))
    {cs left : List Char} {ts : List Token} (h : L.Reads cs ts left) (dst : String) :
    expand cs dst = expand left (dst ++ written meaning ts) := by
  induction h generalizing dst with
  | stop cs => simp
  | @token t rest left ts fits others ih =>
    rw [step dst fits, ih, written_cons, String.append_assoc]

end Lexicon

end PatternSearch.Template
