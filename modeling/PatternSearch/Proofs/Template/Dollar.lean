/-
PatternSearch.Proofs.Template.Dollar — which templates with dollar references
are well formed, and what they mean.

The forms are fewer than in the other kind of template, and not every text is a
sequence of them. `Malformed` lists what a reading can stop at short of the
end, each with its error. These are all there is: a place where no form stands
is the end of the template or one of them (`eq_nil_or_malformed`).

A number is as long as it can be. So whether its digits are a form depends on
what follows, and it is settled only when the reader sees the first character
that is no digit. `expandFrom_digits` is the reader in the middle of a number.

`dollar_template_meaning` says which templates are expanded, with which text,
and for all others which error there is and what has been written before it.
-/
import PatternSearch.Proofs.Template.GroupTexts
import PatternSearch.Proofs.Template.Lexicon

namespace PatternSearch

open Text

namespace Template

namespace Dollar

/-! ## 1. The forms -/

/-- The forms a well-formed template is made of. -/
inductive Token where
  /-- A character that means itself. -/
  | plain (c : Char)
  /-- A backslash and any character, which means itself. -/
  | escaped (c : Char)
  /-- A group by its number. -/
  | number (digits : List Char)
  /-- A group by its name. -/
  | braced (name : List Char)
  deriving DecidableEq, Repr

/-- How the forms are written, and what may follow each. -/
def lexicon : Lexicon Token where
  spelling
    | .plain c => [c]
    | .escaped c => ['\\', c]
    | .number digits => '$' :: digits
    | .braced name => '$' :: '\x7b' :: (name ++ ['\x7d'])
  Fits
    | .plain c, _ => c ≠ '\\' ∧ c ≠ '$'
    | .escaped _, _ => True
    | .number digits, rest =>
      IsDigits digits ∧ NoDigitNext rest ∧ digitsValue digits < 2 ^ 64
    | .braced name, _ => ∀ c ∈ name, c.isAlphanum = true ∨ c = '_'

/-- What a form stands for. -/
def Token.meaning (g : GroupTexts) : Token → String
  | plain c => String.singleton c
  | escaped c => String.singleton c
  | number digits => g.numbered (digitsValue digits)
  | braced name => g.named (.ofList name)

/-- A name and the brace that closes it. -/
def Closes (cs : List Char) : Prop :=
  ∃ name rest, cs = name ++ '\x7d' :: rest ∧ ∀ c ∈ name, c.isAlphanum = true ∨ c = '_'

/-- What no form stands at the beginning of, and the error it is. -/
inductive Malformed : List Char → TemplateError → Prop where
  | escape : Malformed ['\\'] .incompleteEscape
  | reference : Malformed ['$'] .incompletePattern
  | number {digits rest : List Char} (run : IsDigits digits) (longest : NoDigitNext rest)
      (big : 2 ^ 64 ≤ digitsValue digits) :
      Malformed ('$' :: (digits ++ rest)) (.invalidGroupNumber (.ofList digits))
  | brace {rest : List Char} (unclosed : ¬ Closes rest) :
      Malformed ('$' :: '\x7b' :: rest) .missingClosingBrace
  | token {c : Char} {rest : List Char} (not_digit : c.isDigit = false) (ne_brace : c ≠ '\x7b') :
      Malformed ('$' :: c :: rest) (.unexpectedToken c)

/-- The characters of names are the letters, the digits and the underscore. -/
theorem isNameChar_iff {c : Char} : isNameChar c = true ↔ c.isAlphanum = true ∨ c = '_' := by
  simp only [isNameChar, Char.isAlphanum, Char.isAlpha, Char.isUpper, Char.isLower, Char.isDigit,
    Char.le_def, Bool.or_eq_true, Bool.and_eq_true, decide_eq_true_eq, beq_iff_eq]
  tauto

theorem not_isAlphanum_brace : ('\x7d' : Char).isAlphanum = false := by decide

/-! ## 2. One reading -/

/-- The form at the beginning of a text, if one stands there. -/
def first? : List Char → Option Token
  | [] => none
  | '\\' :: c :: _ => some (.escaped c)
  | '$' :: '\x7b' :: rest => some (.braced (rest.takeWhile isNameChar))
  | '$' :: rest => some (.number (rest.takeWhile Char.isDigit))
  | c :: _ => some (.plain c)

theorem first?_number {digits rest : List Char} (hdigits : IsDigits digits)
    (hnext : NoDigitNext rest) : first? ('$' :: (digits ++ rest)) = some (.number digits) := by
  have hrun := takeWhile_run hdigits.2 hnext
  obtain ⟨c, cs, rfl⟩ := List.exists_cons_of_ne_nil hdigits.1
  have hc : c ≠ '\x7b' := by
    rintro rfl
    have := hdigits.2 '\x7b' (by simp)
    simp at this
  simpa [first?, hc] using hrun

theorem first?_spelling {t : Token} {rest : List Char} (fits : lexicon.Fits t rest) :
    first? (lexicon.spelling t ++ rest) = some t := by
  cases t with
  | plain c =>
    obtain ⟨hbackslash, hdollar⟩ : c ≠ '\\' ∧ c ≠ '$' := fits
    simp [lexicon, first?, hbackslash, hdollar]
  | escaped c => simp [lexicon, first?]
  | number digits =>
    obtain ⟨hdigits, hnext, -⟩ : IsDigits digits ∧ NoDigitNext rest ∧ _ := fits
    exact first?_number hdigits hnext
  | braced name =>
    have inside : ∀ c ∈ name, isNameChar c = true := fun c hc => isNameChar_iff.mpr (fits c hc)
    have : (name ++ '\x7d' :: rest).takeWhile isNameChar = name :=
      takeWhile_run inside (by simp; decide)
    simp [lexicon, first?, this]

theorem unambiguous : lexicon.Unambiguous :=
  .of_first first? (fun t => by cases t <;> simp [lexicon]) first?_spelling

/-- Where no form stands, the template is at its end or malformed. -/
theorem eq_nil_or_malformed {cs : List Char} (stuck : lexicon.Stuck cs) :
    cs = [] ∨ ∃ e, Malformed cs e := by
  cases cs with
  | nil => exact Or.inl rfl
  | cons c cs =>
    right
    by_cases hbackslash : c = '\\'
    · subst hbackslash
      cases cs with
      | nil => exact ⟨_, .escape⟩
      | cons d rest => exact absurd trivial (stuck (.escaped d) rest rfl)
    by_cases hdollar : c = '$'
    · subst hdollar
      cases cs with
      | nil => exact ⟨_, .reference⟩
      | cons d rest =>
        by_cases hbrace : d = '\x7b'
        · subst hbrace
          refine ⟨_, .brace ?_⟩
          rintro ⟨name, after, rfl, hname⟩
          exact stuck (.braced name) after (by simp [lexicon]) hname
        by_cases hdigit : d.isDigit = true
        · obtain ⟨digits, after, hcut, hall, hnext⟩ := exists_digits_append (d :: rest)
          have hrun : IsDigits digits := by
            refine ⟨?_, hall⟩
            rintro rfl
            obtain rfl : d :: rest = after := hcut
            rw [noDigitNext_cons.mp hnext] at hdigit
            simp at hdigit
          rw [hcut]
          refine ⟨_, .number hrun hnext (Nat.le_of_not_lt ?_)⟩
          intro small
          exact stuck (.number digits) after (by rw [hcut]; rfl) ⟨hrun, hnext, small⟩
        · exact ⟨_, .token (by simpa using hdigit) hbrace⟩
    · exact absurd ⟨hbackslash, hdollar⟩ (stuck (.plain c) cs rfl)

/-- No form stands where a template is malformed. -/
theorem Malformed.stuck {cs : List Char} {e : TemplateError} (h : Malformed cs e) :
    lexicon.Stuck cs := by
  intro t rest same fits
  have first := first?_spelling fits
  rw [← same] at first
  cases h with
  | escape =>
    obtain rfl : .plain '\\' = t := by simpa [first?] using first
    exact fits.1 rfl
  | reference =>
    obtain rfl : .number [] = t := by simpa [first?] using first
    exact fits.1.1 rfl
  | @number digits after run longest big =>
    rw [first?_number run longest] at first
    obtain rfl : .number digits = t := Option.some.inj first
    exact Nat.not_lt.mpr big fits.2.2
  | brace unclosed =>
    cases t with
    | braced name => exact unclosed ⟨name, rest, by simpa [lexicon] using same, fits⟩
    | _ => simp [first?] at first
  | @token c after not_digit ne_brace =>
    obtain rfl : .number [] = t := by simpa [first?, ne_brace, not_digit] using first
    exact fits.1.1 rfl

/-! ## 3. The reader -/

variable {g : GroupTexts} {cs rest : List Char}

@[simp] theorem expandFrom_nil (s : State) (dst : String) :
    expandFrom g s [] dst = match finish g s with
      | .ok added => (dst ++ added, .ok ())
      | .error e => (dst, .error e) := rfl

theorem expandFrom_cons_ok {s s' : State} {c : Char} {added : String}
    (h : step g s c = .ok (s', added)) (dst : String) :
    expandFrom g s (c :: cs) dst = expandFrom g s' cs (dst ++ added) := by
  rw [expandFrom, h]

theorem expandFrom_cons_error {s : State} {c : Char} {e : TemplateError}
    (h : step g s c = .error e) (dst : String) :
    expandFrom g s (c :: cs) dst = (dst, .error e) := by
  rw [expandFrom, h]

theorem expandFrom_backslash (cs : List Char) (dst : String) :
    expandFrom g .text ('\\' :: cs) dst = expandFrom g .escape cs dst := by
  have hstep : step g .text '\\' = .ok (.escape, "") := rfl
  rw [expandFrom_cons_ok hstep, String.append_empty]

theorem expandFrom_dollar (cs : List Char) (dst : String) :
    expandFrom g .text ('$' :: cs) dst = expandFrom g .dollar cs dst := by
  have hstep : step g .text '$' = .ok (.dollar, "") := rfl
  rw [expandFrom_cons_ok hstep, String.append_empty]

/-- The end of a number is settled by what follows it: then the reader has the
text of the group, or the error, and goes on in plain text. -/
theorem expandFrom_number (hnext : NoDigitNext rest) (digits : String) (dst : String) :
    expandFrom g (.number digits) rest dst =
      match numberText g digits with
      | .ok added => expandFrom g .text rest (dst ++ added)
      | .error e => (dst, .error e) := by
  cases rest with
  | nil =>
    cases htext : numberText g digits with
    | ok added => simp [finish, htext]
    | error e => simp [finish, htext]
  | cons c rest =>
    have hc : (decimalDigit? c).isSome = false := by simpa using noDigitNext_cons.mp hnext
    cases htext : numberText g digits with
    | ok added =>
      have hstep : step g (.number digits) c =
          .ok ((plainStep c).1, added ++ (plainStep c).2) := by
        simp [step, hc, htext]
      have hplain : step g .text c = .ok ((plainStep c).1, (plainStep c).2) := rfl
      rw [expandFrom_cons_ok hstep]
      simp only
      rw [expandFrom_cons_ok hplain, String.append_assoc]
    | error e =>
      have hstep : step g (.number digits) c = .error e := by
        simp [step, hc, htext]
      rw [expandFrom_cons_error hstep]

/-- In a number, the reader collects the digits that follow. -/
theorem expandFrom_digits {more : List Char} (hmore : ∀ c ∈ more, c.isDigit = true)
    (digits dst : String) :
    expandFrom g (.number digits) (more ++ rest) dst =
      expandFrom g (.number (digits ++ .ofList more)) rest dst := by
  induction more generalizing digits with
  | nil => simp
  | cons c more ih =>
    have hc : (decimalDigit? c).isSome = true := by simpa using hmore c (by simp)
    have hstep : step g (.number digits) c = .ok (.number (digits.push c), "") := by
      simp [step, hc]
    have pushed : digits.push c ++ .ofList more = digits ++ .ofList (c :: more) := by
      rw [← String.toList_inj]
      simp
    rw [List.cons_append, expandFrom_cons_ok hstep, String.append_empty,
      ih (fun d hd => hmore d (by simp [hd])), pushed]

/-- In braces, the reader collects a name up to the brace that closes it. -/
theorem expandFrom_braced {name : List Char}
    (hname : ∀ c ∈ name, c.isAlphanum = true ∨ c = '_') (read dst : String) :
    expandFrom g (.braced read) (name ++ '\x7d' :: rest) dst =
      expandFrom g .text rest (dst ++ g.named (read ++ .ofList name)) := by
  induction name generalizing read with
  | nil =>
    have hstep : step g (.braced read) '\x7d' = .ok (.text, g.named read) := by simp [step]
    rw [List.nil_append, expandFrom_cons_ok hstep]
    simp
  | cons c name ih =>
    have hc : isNameChar c = true := isNameChar_iff.mpr (hname c (by simp))
    have hbrace : c ≠ '\x7d' := by
      rintro rfl
      simp [isNameChar_iff, not_isAlphanum_brace] at hc
    have hstep : step g (.braced read) c = .ok (.braced (read.push c), "") := by
      simp [step, hbrace, hc]
    have pushed : read.push c ++ .ofList name = read ++ .ofList (c :: name) := by
      rw [← String.toList_inj]
      simp
    rw [List.cons_append, expandFrom_cons_ok hstep, String.append_empty,
      ih (fun d hd => hname d (by simp [hd])), pushed]

/-- Braces that are not closed after a name are an error. -/
theorem expandFrom_not_closes (h : ¬ Closes cs) (read dst : String) :
    expandFrom g (.braced read) cs dst = (dst, .error .missingClosingBrace) := by
  induction cs generalizing read with
  | nil => rfl
  | cons c cs ih =>
    have hbrace : c ≠ '\x7d' := by
      rintro rfl
      exact h ⟨[], cs, rfl, by simp⟩
    by_cases hc : isNameChar c = true
    · have hstep : step g (.braced read) c = .ok (.braced (read.push c), "") := by
        simp [step, hbrace, hc]
      rw [expandFrom_cons_ok hstep, String.append_empty]
      apply ih
      rintro ⟨name, rest, rfl, hname⟩
      refine h ⟨c :: name, rest, rfl, ?_⟩
      intro d hd
      rcases List.mem_cons.mp hd with rfl | hd
      · exact isNameChar_iff.mp hc
      · exact hname d hd
    · have hstep : step g (.braced read) c = .error .missingClosingBrace := by
        simp [step, hbrace, hc]
      exact expandFrom_cons_error hstep dst

/-- A reader that has met a dollar sign and a run of digits. -/
theorem expandFrom_dollar_digits {digits : List Char} (hdigits : IsDigits digits)
    (hnext : NoDigitNext rest) (dst : String) :
    expandFrom g .text ('$' :: (digits ++ rest)) dst =
      match numberText g (.ofList digits) with
      | .ok added => expandFrom g .text rest (dst ++ added)
      | .error e => (dst, .error e) := by
  obtain ⟨c, more, rfl⟩ := List.exists_cons_of_ne_nil hdigits.1
  have hc : c.isDigit = true := hdigits.2 c (by simp)
  have hbrace : c ≠ '\x7b' := by
    rintro rfl
    simp at hc
  have hstep : step g .dollar c = .ok (.number (String.singleton c), "") := by
    simp [step, hbrace, hc]
  have all : String.singleton c ++ .ofList more = .ofList (c :: more) := by
    rw [← String.toList_inj]
    simp
  rw [expandFrom_dollar, List.cons_append, expandFrom_cons_ok hstep, String.append_empty,
    expandFrom_digits (fun d hd => hdigits.2 d (by simp [hd])), all, expandFrom_number hnext]

/-- **One token.** From plain text, the reader goes over a token back to plain
text and writes what the token means. -/
theorem expandFrom_token {t : Token} (dst : String) (fits : lexicon.Fits t rest) :
    expandFrom g .text (lexicon.spelling t ++ rest) dst =
      expandFrom g .text rest (dst ++ t.meaning g) := by
  cases t with
  | plain c =>
    obtain ⟨hbackslash, hdollar⟩ : c ≠ '\\' ∧ c ≠ '$' := fits
    have hstep : step g .text c = .ok (.text, String.singleton c) := by
      simp [step, plainStep, hbackslash, hdollar]
    exact expandFrom_cons_ok hstep dst
  | escaped c =>
    have hstep : step g .escape c = .ok (.text, String.singleton c) := rfl
    show expandFrom g .text ('\\' :: c :: rest) dst = _
    rw [expandFrom_backslash, expandFrom_cons_ok hstep]
    rfl
  | number digits =>
    obtain ⟨hdigits, hnext, small⟩ :
      IsDigits digits ∧ NoDigitNext rest ∧ digitsValue digits < 2 ^ 64 := fits
    have hword : wordOfDigits? digits = some (digitsValue digits) :=
      wordOfDigits?_eq_some_iff.mpr ⟨hdigits, rfl, small⟩
    have htext : numberText g (.ofList digits) = .ok (g.numbered (digitsValue digits)) := by
      simp [numberText, hword]
    have hrun := expandFrom_dollar_digits (g := g) hdigits hnext dst
    rw [htext] at hrun
    exact hrun
  | braced name =>
    have hname : ∀ c ∈ name, c.isAlphanum = true ∨ c = '_' := fits
    have hopen : step g .dollar '\x7b' = .ok (.braced "", "") := rfl
    have spelled : lexicon.spelling (.braced name) ++ rest =
        '$' :: '\x7b' :: (name ++ '\x7d' :: rest) := by
      simp [lexicon]
    rw [spelled, expandFrom_dollar, expandFrom_cons_ok hopen, String.append_empty,
      expandFrom_braced hname]
    simp [Token.meaning]

/-- **Faults.** Where a template is malformed, the reader stops with the error
and adds nothing to what has been written. -/
theorem expandFrom_malformed {e : TemplateError} (h : Malformed cs e) (dst : String) :
    expandFrom g .text cs dst = (dst, .error e) := by
  cases h with
  | escape =>
    rw [expandFrom_backslash]
    rfl
  | reference =>
    rw [expandFrom_dollar]
    rfl
  | @number digits rest run longest big =>
    have htext : numberText g (.ofList digits) = .error (.invalidGroupNumber (.ofList digits)) := by
      simp [numberText, wordOfDigits?_eq_none big]
    rw [expandFrom_dollar_digits run longest, htext]
  | brace unclosed =>
    have hopen : step g .dollar '\x7b' = .ok (.braced "", "") := rfl
    rw [expandFrom_dollar, expandFrom_cons_ok hopen, String.append_empty,
      expandFrom_not_closes unclosed]
  | @token c rest not_digit ne_brace =>
    have hstep : step g .dollar c = .error (.unexpectedToken c) := by
      simp [step, ne_brace, not_digit]
    rw [expandFrom_dollar, expandFrom_cons_error hstep]

/-- Every template has one reading up to its end or up to where it is malformed. -/
theorem existsUnique_reads (cs : List Char) :
    ∃! r : List Token × List Char,
      lexicon.Reads cs r.1 r.2 ∧ (r.2 = [] ∨ ∃ e, Malformed r.2 e) := by
  have hstuck {left : List Char} (h : left = [] ∨ ∃ e, Malformed left e) : lexicon.Stuck left := by
    rcases h with rfl | ⟨e, h⟩
    · exact Lexicon.stuck_nil unambiguous
    · exact h.stuck
  obtain ⟨ts, left, h, stuck⟩ := Lexicon.exists_reads unambiguous cs
  refine ⟨(ts, left), ⟨h, eq_nil_or_malformed stuck⟩, ?_⟩
  rintro ⟨ts', left'⟩ ⟨h', ended⟩
  obtain ⟨rfl, rfl⟩ := h'.unique unambiguous (hstuck ended) h stuck
  rfl

variable {template : String} {ts : List Token}

theorem expand_eq_expandFrom (template dst : String) :
    expand template g dst = expandFrom g .text template.toList dst := rfl

/-- **A well-formed template.** What is written is what the tokens mean. -/
theorem expand_of_reads (h : lexicon.Reads template.toList ts []) (dst : String) :
    expand template g dst = (dst ++ Lexicon.written (Token.meaning g) ts, .ok ()) := by
  rw [expand_eq_expandFrom,
    h.expand_eq (expandFrom g .text) (Token.meaning g) (fun dst fits => expandFrom_token dst fits)]
  simp [finish]

/-- **A malformed template.** What is written is what the tokens before the
fault mean. -/
theorem expand_of_malformed {left : List Char} {e : TemplateError}
    (h : lexicon.Reads template.toList ts left) (fault : Malformed left e) (dst : String) :
    expand template g dst = (dst ++ Lexicon.written (Token.meaning g) ts, .error e) := by
  rw [expand_eq_expandFrom,
    h.expand_eq (expandFrom g .text) (Token.meaning g) (fun dst fits => expandFrom_token dst fits),
    expandFrom_malformed fault]

/-- How an expansion ends depends on the template only: it succeeds if the
template is a sequence of tokens. -/
theorem expand_eq_ok_iff (template dst : String) :
    (expand template g dst).2 = .ok () ↔ ∃ ts, lexicon.Reads template.toList ts [] := by
  constructor
  · intro ok
    obtain ⟨⟨ts, left⟩, ⟨h, rfl | ⟨e, fault⟩⟩, -⟩ := existsUnique_reads template.toList
    · exact ⟨ts, h⟩
    · rw [expand_of_malformed h fault] at ok
      simp at ok
  · rintro ⟨ts, h⟩
    rw [expand_of_reads h]

/-- It fails with the error of the first fault otherwise. -/
theorem expand_eq_error_iff (template dst : String) (e : TemplateError) :
    (expand template g dst).2 = .error e ↔
      ∃ ts left, lexicon.Reads template.toList ts left ∧ Malformed left e := by
  constructor
  · intro failed
    obtain ⟨⟨ts, left⟩, ⟨h, rfl | ⟨e', fault⟩⟩, -⟩ := existsUnique_reads template.toList
    · rw [expand_of_reads h] at failed
      simp at failed
    · rw [expand_of_malformed h fault] at failed
      obtain rfl : e' = e := by simpa using failed
      exact ⟨ts, left, h, fault⟩
  · rintro ⟨ts, left, h, fault⟩
    rw [expand_of_malformed h fault]

end Dollar

end Template

/-! ## 4. The dialect -/

namespace Dialect

open Template

/-- **Templates with dollar references.** A template is a sequence of tokens up
to its end or up to its first fault, in one way. In the first case expanding it
succeeds, in the second it fails with the error of the fault; either way it
writes what the tokens mean after what has been written before. So whether it
succeeds, and the error if not, have to do neither with that nor with the match.
A group that does not exist or took no part means nothing. -/
theorem dollar_template_meaning (template : String) :
    (∃! r : List Dollar.Token × List Char, Dollar.lexicon.Reads template.toList r.1 r.2 ∧
        (r.2 = [] ∨ ∃ e, Dollar.Malformed r.2 e)) ∧
      (∀ c : Captures,
        (∀ tokens, Dollar.lexicon.Reads template.toList tokens [] → ∀ dst,
          java.expand template c.texts dst =
            (dst ++ Lexicon.written (Dollar.Token.meaning c.texts) tokens, .ok ())) ∧
        (∀ tokens left e, Dollar.lexicon.Reads template.toList tokens left →
          Dollar.Malformed left e → ∀ dst,
            java.expand template c.texts dst =
              (dst ++ Lexicon.written (Dollar.Token.meaning c.texts) tokens, .error e)) ∧
        (∀ dst, (java.expand template c.texts dst).2 = .ok () ↔
          ∃ tokens, Dollar.lexicon.Reads template.toList tokens []) ∧
        (∀ dst e, (java.expand template c.texts dst).2 = .error e ↔
          ∃ tokens left, Dollar.lexicon.Reads template.toList tokens left ∧
            Dollar.Malformed left e) ∧
        (∀ i, c.get i = none → c.texts.numbered i = "") ∧
        ∀ name, (∀ i ∈ c.names.groupNumbers name, c.get i = none) → c.texts.named name = "") ∧
      ∀ (c c' : Captures) (dst dst' : String),
        (java.expand template c.texts dst).2 = (java.expand template c'.texts dst').2 := by
  refine ⟨Dollar.existsUnique_reads _, ?_, ?_⟩
  · intro c
    refine ⟨?_, ?_, ?_, ?_, ?_, ?_⟩
    · intro tokens reads dst
      exact Dollar.expand_of_reads reads dst
    · intro tokens left e reads fault dst
      exact Dollar.expand_of_malformed reads fault dst
    · intro dst
      exact Dollar.expand_eq_ok_iff template dst
    · intro dst e
      exact Dollar.expand_eq_error_iff template dst e
    · intro i absent
      exact Captures.numbered_eq_empty absent
    · intro name absent
      exact Captures.named_eq_empty absent
  · intro c c' dst dst'
    show (Dollar.expand template c.texts dst).2 = (Dollar.expand template c'.texts dst').2
    cases ended : (Dollar.expand template c'.texts dst').2 with
    | ok =>
      exact (Dollar.expand_eq_ok_iff template dst).mpr
        ((Dollar.expand_eq_ok_iff template dst').mp ended)
    | error e =>
      exact (Dollar.expand_eq_error_iff template dst e).mpr
        ((Dollar.expand_eq_error_iff template dst' e).mp ended)

/-- A template with every form in it, and one with a number too large for any
group: the reference after it is not read. -/
theorem dollar_template_meaning_hello :
    Dollar.lexicon.Reads "a\\$$1-$\x7bwho\x7d$2".toList
        [.plain 'a', .escaped '$', .number ['1'], .plain '-', .braced ['w', 'h', 'o'],
          .number ['2']] [] ∧
      java.expand "a\\$$1-$\x7bwho\x7d$2" Captures.hello.texts "> " = ("> a$world-world", .ok ()) ∧
      Dollar.lexicon.Reads "$1-$18446744073709551616$0".toList [.number ['1'], .plain '-']
        "$18446744073709551616$0".toList ∧
      Dollar.Malformed "$18446744073709551616$0".toList
        (.invalidGroupNumber "18446744073709551616") ∧
      java.expand "$1-$18446744073709551616$0" Captures.hello.texts "> " =
        ("> world-", .error (.invalidGroupNumber "18446744073709551616")) := by
  have whole : Dollar.lexicon.Reads "a\\$$1-$\x7bwho\x7d$2".toList
      [.plain 'a', .escaped '$', .number ['1'], .plain '-', .braced ['w', 'h', 'o'],
        .number ['2']] [] := by
    refine Lexicon.reads_iff.mpr ⟨by cbv, ?_⟩
    simp [Lexicon.Fitting, Dollar.lexicon, IsDigits, NoDigitNext, digitsValue, Nat.ofDigitChars]
  have part : Dollar.lexicon.Reads "$1-$18446744073709551616$0".toList [.number ['1'], .plain '-']
      "$18446744073709551616$0".toList := by
    refine Lexicon.reads_iff.mpr ⟨by cbv, ?_⟩
    simp [Lexicon.Fitting, Dollar.lexicon, IsDigits, NoDigitNext, digitsValue, Nat.ofDigitChars]
  have fault : Dollar.Malformed "$18446744073709551616$0".toList
      (.invalidGroupNumber "18446744073709551616") := by
    have run : IsDigits "18446744073709551616".toList := ⟨by simp, by simp⟩
    have longest : NoDigitNext "$0".toList := by simp [NoDigitNext]
    exact .number run longest (by simp [digitsValue, Nat.ofDigitChars])
  refine ⟨whole, ?_, part, fault, ?_⟩
  · rw [((dollar_template_meaning _).2.1 Captures.hello).1 _ whole]
    cbv
  · rw [((dollar_template_meaning _).2.1 Captures.hello).2.1 _ _ _ part fault]
    cbv

end Dialect

end PatternSearch
