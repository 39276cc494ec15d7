/-
PatternSearch.Proofs.Template.Escaped — what a template with backslash
references means.

`Token` lists the forms such a template is made of, `lexicon` how each of them
is written and `Token.meaning` what it stands for. The reader of
`Template.Escaped` is an automaton with four states that goes over the
template once; the lexicon has no states. `expandFrom_token` says that the two
agree on one token: from plain text, the automaton goes over the characters of
a token back to plain text, having written what the token means.

Two tokens come last if they come at all, a backslash with nothing after it
and a reference that is not closed. Both stand for nothing, and the latter
takes the rest of the template with it.

`escaped_template_meaning` states this for the dialects that have such
templates, with the texts of a match for the references.
-/
import PatternSearch.Proofs.Template.GroupTexts
import PatternSearch.Proofs.Template.Lexicon

namespace PatternSearch

open Text

namespace Template

namespace Escaped

/-! ## 1. The forms -/

/-- The forms a template is made of. -/
inductive Token where
  /-- A character that means itself. -/
  | plain (c : Char)
  /-- A backslash and a digit, a group by its number. -/
  | digit (c : Char)
  /-- Two backslashes, which are one. -/
  | backslash
  /-- A group by what stands between angle brackets. -/
  | reference (inner : List Char)
  /-- A backslash and any other character, which mean themselves. -/
  | escape (c : Char)
  /-- A backslash at the end. -/
  | lone
  /-- A reference that is not closed, with all that follows its bracket. -/
  | unclosed (inner : List Char)
  deriving DecidableEq, Repr

/-- How the forms are written, and what may follow each. -/
def lexicon (letter : Char) : Lexicon Token where
  spelling
    | .plain c => [c]
    | .digit c => ['\\', c]
    | .backslash => ['\\', '\\']
    | .reference inner => '\\' :: letter :: '<' :: (inner ++ ['>'])
    | .escape c => ['\\', c]
    | .lone => ['\\']
    | .unclosed inner => '\\' :: letter :: '<' :: inner
  Fits
    | .plain c, _ => c ≠ '\\'
    | .digit c, _ => c.isDigit = true
    | .backslash, _ => True
    | .reference inner, _ => '>' ∉ inner
    | .escape c, rest => c.isDigit = false ∧ c ≠ '\\' ∧ (c = letter → rest.head? ≠ some '<')
    | .lone, rest => rest = []
    | .unclosed inner, rest => '>' ∉ inner ∧ rest = []

/-- The name a reference is made by: opening brackets in it do not count. -/
def nameOf (inner : List Char) : String := .ofList (inner.filter (· ≠ '<'))

/-- What a form stands for. -/
def Token.meaning (g : GroupTexts) : Token → String
  | plain c => String.singleton c
  | digit c => g.numbered (c.toNat - '0'.toNat)
  | backslash => "\\"
  | reference inner => g.referred (nameOf inner)
  | escape c => .ofList ['\\', c]
  | lone => ""
  | unclosed _ => ""

/-- What a character has to be to serve as the letter of named references. -/
structure IsLetter (letter : Char) : Prop where
  not_digit : letter.isDigit = false
  ne_backslash : letter ≠ '\\'

variable {letter : Char}

/-! ## 2. One reading -/

/-- The form at the beginning of a text. -/
def first? (letter : Char) : List Char → Option Token
  | [] => none
  | ['\\'] => some .lone
  | '\\' :: c :: rest =>
    if c.isDigit = true then some (.digit c)
    else if c = '\\' then some .backslash
    else if c = letter ∧ rest.head? = some '<' then
      if '>' ∈ rest then some (.reference (rest.tail.takeWhile (· != '>')))
      else some (.unclosed rest.tail)
    else some (.escape c)
  | c :: _ => some (.plain c)

theorem unambiguous (hletter : IsLetter letter) : (lexicon letter).Unambiguous := by
  have not_digit := hletter.not_digit
  have ne_backslash := hletter.ne_backslash
  refine .of_first (first? letter) (fun t => by cases t <;> simp [lexicon]) ?_
  intro t rest fits
  cases t with
  | plain c =>
    have : c ≠ '\\' := fits
    simp [lexicon, first?, this]
  | digit c =>
    have : c.isDigit = true := fits
    simp [lexicon, first?, this]
  | backslash => simp [lexicon, first?]
  | reference inner =>
    have inside : ∀ c ∈ inner, (c != '>') = true := by
      intro c hc
      simpa using fun same : c = '>' => (show '>' ∉ inner from fits) (same ▸ hc)
    have : (inner ++ '>' :: rest).takeWhile (· != '>') = inner :=
      takeWhile_run inside (by simp)
    simp [lexicon, first?, not_digit, ne_backslash, this]
  | escape c =>
    obtain ⟨hdigit, hbackslash, hreference⟩ := fits
    have : ¬ (c = letter ∧ rest.head? = some '<') := fun h => hreference h.1 h.2
    simp [lexicon, first?, hdigit, hbackslash, this]
  | lone =>
    obtain rfl : rest = [] := fits
    simp [lexicon, first?]
  | unclosed inner =>
    obtain ⟨hopen, rfl⟩ := fits
    have : '>' ∉ '<' :: inner := by simpa using hopen
    simp [lexicon, first?, not_digit, ne_backslash, this]

/-- Only at the end of a template does no form stand. -/
theorem eq_nil_of_stuck {cs : List Char} (stuck : (lexicon letter).Stuck cs) : cs = [] := by
  cases cs with
  | nil => rfl
  | cons c cs =>
    exfalso
    by_cases hc : c = '\\'
    · subst hc
      cases cs with
      | nil => exact stuck .lone [] rfl rfl
      | cons d rest =>
        by_cases hdigit : d.isDigit = true
        · exact stuck (.digit d) rest rfl hdigit
        by_cases hbackslash : d = '\\'
        · subst hbackslash
          exact stuck .backslash rest rfl trivial
        by_cases hreference : d = letter ∧ rest.head? = some '<'
        · obtain ⟨rfl, hhead⟩ := hreference
          obtain ⟨inner, rfl⟩ : ∃ inner, rest = '<' :: inner := by
            cases rest with
            | nil => simp at hhead
            | cons e inner => exact ⟨inner, by simpa using hhead⟩
          by_cases hclosed : '>' ∈ inner
          · obtain ⟨name, after, rfl, hname⟩ := List.eq_append_cons_of_mem hclosed
            exact stuck (.reference name) after (by simp [lexicon]) hname
          · exact stuck (.unclosed inner) [] (by simp [lexicon]) ⟨hclosed, rfl⟩
        · exact stuck (.escape d) rest rfl
            ⟨by simpa using hdigit, hbackslash, fun same head => hreference ⟨same, head⟩⟩
    · exact stuck (.plain c) cs rfl hc

/-! ## 3. The reader -/

/-- The reader from a state on, over what is left of a template. -/
def expandFrom (letter : Char) (g : GroupTexts) (s : State) (cs : List Char) (dst : String) :
    String :=
  finish letter (cs.foldl (step letter g) ⟨s, dst⟩)

variable {g : GroupTexts}

theorem expand_eq_expandFrom (template dst : String) :
    expand letter template g dst = expandFrom letter g .text template.toList dst := rfl

theorem expandFrom_nil {s : State} (dst : String) :
    expandFrom letter g s [] dst = finish letter ⟨s, dst⟩ := rfl

theorem expandFrom_cons {s : State} {c : Char} {cs : List Char} (dst : String) :
    expandFrom letter g s (c :: cs) dst =
      expandFrom letter g (step letter g ⟨s, dst⟩ c).state cs
        (step letter g ⟨s, dst⟩ c).written := rfl

/-- After a backslash and the letter, anything but an opening bracket finds the
reader in plain text, with both written. -/
theorem expandFrom_letter {rest : List Char} (hrest : rest.head? ≠ some '<') (dst : String) :
    expandFrom letter g .letter rest dst =
      expandFrom letter g .text rest ((dst.push '\\').push letter) := by
  cases rest with
  | nil => rfl
  | cons c rest =>
    have hc : c ≠ '<' := by simpa using hrest
    simp [expandFrom_cons, step, hc]

/-- In a name, the reader collects up to the first closing bracket, without the
opening ones. -/
theorem expandFrom_name {inner : List Char} (h : '>' ∉ inner) (rest : List Char) (read : String)
    (dst : String) :
    expandFrom letter g (.name read) (inner ++ '>' :: rest) dst =
      expandFrom letter g .text rest (dst ++ g.referred (read ++ nameOf inner)) := by
  induction inner generalizing read with
  | nil => simp [expandFrom_cons, step, nameOf]
  | cons c inner ih =>
    have hc : c ≠ '>' := fun same => h (by simp [same])
    have hinner : '>' ∉ inner := fun mem => h (by simp [mem])
    rw [List.cons_append, expandFrom_cons]
    by_cases hopen : c = '<'
    · subst hopen
      simp [step, ih hinner, nameOf]
    · have pushed : read.push c ++ nameOf inner = read ++ nameOf (c :: inner) := by
        rw [← String.toList_inj]
        simp [nameOf, hopen]
      simp [step, hc, hopen, ih hinner, pushed]

/-- A name that is not closed leaves no trace. -/
theorem expandFrom_unclosed {inner : List Char} (h : '>' ∉ inner) (read dst : String) :
    expandFrom letter g (.name read) inner dst = dst := by
  induction inner generalizing read with
  | nil => rfl
  | cons c inner ih =>
    have hc : c ≠ '>' := fun same => h (by simp [same])
    have hinner : '>' ∉ inner := fun mem => h (by simp [mem])
    rw [expandFrom_cons]
    by_cases hopen : c = '<' <;> simp [step, hc, hopen, ih hinner]

/-- **One token.** From plain text, the reader goes over a token back to plain
text and writes what the token means. -/
theorem expandFrom_token (hletter : IsLetter letter) {t : Token} {rest : List Char}
    (dst : String) (fits : (lexicon letter).Fits t rest) :
    expandFrom letter g .text ((lexicon letter).spelling t ++ rest) dst =
      expandFrom letter g .text rest (dst ++ t.meaning g) := by
  have not_digit : decimalDigit? letter = none := by simp [decimalDigit?_eq, hletter.not_digit]
  have ne_backslash := hletter.ne_backslash
  have escaped (c : Char) : (dst.push '\\').push c = dst ++ .ofList ['\\', c] := by
    rw [← String.toList_inj]
    simp
  cases t with
  | plain c =>
    have hc : c ≠ '\\' := fits
    simp [lexicon, expandFrom_cons, step, plainStep, hc, Token.meaning]
  | digit c =>
    have hc : c.isDigit = true := fits
    simp [lexicon, expandFrom_cons, step, plainStep, decimalDigit?_eq, hc, Token.meaning]
  | backslash =>
    have : dst.push '\\' = dst ++ "\\" := by
      rw [← String.toList_inj]
      simp
    simp [lexicon, expandFrom_cons, step, plainStep, decimalDigit?_eq, Token.meaning, this]
  | reference inner =>
    simp [lexicon, expandFrom_cons, step, plainStep, not_digit, ne_backslash, Token.meaning,
      expandFrom_name (show '>' ∉ inner from fits)]
  | escape c =>
    obtain ⟨hdigit, hbackslash, hreference⟩ := fits
    rw [Token.meaning, ← escaped]
    by_cases same : c = letter
    · subst same
      simp [lexicon, expandFrom_cons, step, plainStep, not_digit, ne_backslash,
        expandFrom_letter (hreference rfl)]
    · simp [lexicon, expandFrom_cons, step, plainStep, decimalDigit?_eq, hdigit, hbackslash, same]
  | lone =>
    obtain rfl : rest = [] := fits
    simp [lexicon, expandFrom_cons, expandFrom_nil, step, plainStep, finish, Token.meaning]
  | unclosed inner =>
    obtain ⟨hopen, rfl⟩ := fits
    simp [lexicon, expandFrom_cons, step, plainStep, not_digit, ne_backslash, Token.meaning,
      expandFrom_unclosed hopen]
    rfl

/-- **A whole template.** What is written is what the tokens mean. -/
theorem expand_of_reads (hletter : IsLetter letter) {template : String} {ts : List Token}
    (h : (lexicon letter).Reads template.toList ts []) (dst : String) :
    expand letter template g dst = dst ++ Lexicon.written (Token.meaning g) ts := by
  have all := h.expand_eq (expandFrom letter g .text) (Token.meaning g)
    (fun dst fits => expandFrom_token hletter dst fits) dst
  rw [expand_eq_expandFrom, all, expandFrom_nil]
  rfl

/-- Every template has one reading, and nothing is left of it. -/
theorem existsUnique_reads (hletter : IsLetter letter) (cs : List Char) :
    ∃! ts, (lexicon letter).Reads cs ts [] := by
  have hL := unambiguous hletter
  obtain ⟨ts, left, h, stuck⟩ := Lexicon.exists_reads hL cs
  obtain rfl := eq_nil_of_stuck stuck
  refine ⟨ts, h, ?_⟩
  intro ts' h'
  exact (h'.unique hL stuck h stuck).1

end Escaped

end Template

/-! ## 4. The dialects -/

namespace Dialect

open Template

/-- The letter of named references, in the dialects that make them with a
backslash. -/
def letter? : Dialect → Option Char
  | ruby => some 'k'
  | python => some 'g'
  | java => none

variable {d : Dialect} {letter : Char}

theorem letter?_eq_some_iff :
    d.letter? = some letter ↔ (d = ruby ∧ letter = 'k') ∨ (d = python ∧ letter = 'g') := by
  cases d <;> simp [letter?, eq_comm]

theorem letter?_eq_none_iff : d.letter? = none ↔ d = java := by
  cases d <;> simp [letter?]

theorem isLetter_of_letter? (h : d.letter? = some letter) : Escaped.IsLetter letter := by
  rcases letter?_eq_some_iff.mp h with ⟨-, rfl⟩ | ⟨-, rfl⟩
  · exact ⟨by decide, by decide⟩
  · exact ⟨by decide, by decide⟩

theorem expand_of_letter? (h : d.letter? = some letter) (template : String) (g : GroupTexts)
    (dst : String) : d.expand template g dst = (Escaped.expand letter template g dst, .ok ()) := by
  rcases letter?_eq_some_iff.mp h with ⟨rfl, rfl⟩ | ⟨rfl, rfl⟩
  · rfl
  · rfl

end Dialect

end PatternSearch
