/-
PatternSearch.Proofs.Text.Numeral — which texts are numbers.

A numeral is a run of decimal digits whose value fits in 64 bits; a numbered
name is a numeral that may have a plus sign before it. The two readers of
`Text.Number` accept exactly these, with their values
(`wordOfDigits?_eq_some_iff`, `wordOfName?_eq_some_iff`). The value of a run of
digits is the library's `Nat.ofDigitChars`.
-/
import Mathlib
import PatternSearch.Text.Number

namespace PatternSearch.Text

/-! ## 1. Runs of digits -/

/-- A run of characters is found again where it ends with a character that does
not belong to it. -/
theorem takeWhile_run {p : Char → Bool} {run rest : List Char} (inside : ∀ c ∈ run, p c = true)
    (boundary : ∀ c ∈ rest.head?, p c = false) : (run ++ rest).takeWhile p = run := by
  rw [List.takeWhile_append_of_pos inside]
  cases rest with
  | nil => simp
  | cons c rest => simp [boundary c rfl]

/-- A run of decimal digits, at least one. -/
def IsDigits (cs : List Char) : Prop := cs ≠ [] ∧ ∀ c ∈ cs, c.isDigit = true

/-- The value of a run of digits. -/
def digitsValue (cs : List Char) : Nat := Nat.ofDigitChars 10 cs 0

/-- No digit comes next: a run of digits that ends here is as long as it can be. -/
def NoDigitNext (rest : List Char) : Prop := ∀ c ∈ rest.head?, c.isDigit = false

theorem noDigitNext_cons {c : Char} {rest : List Char} :
    NoDigitNext (c :: rest) ↔ c.isDigit = false := by
  simp [NoDigitNext]

/-- A text begins with a run of digits as long as it can be, which may be empty. -/
theorem exists_digits_append (cs : List Char) :
    ∃ digits rest, cs = digits ++ rest ∧ (∀ c ∈ digits, c.isDigit = true) ∧ NoDigitNext rest := by
  refine ⟨cs.takeWhile Char.isDigit, cs.dropWhile Char.isDigit,
    List.takeWhile_append_dropWhile.symm, ?_, ?_⟩
  · intro c hc
    exact List.mem_takeWhile_imp hc
  · intro c hc
    have := List.head?_dropWhile_not Char.isDigit cs
    rw [Option.mem_def] at hc
    simpa [hc] using this

/-! ## 2. The readers -/

theorem decimalDigit?_eq (c : Char) :
    decimalDigit? c = if c.isDigit = true then some (c.toNat - '0'.toNat) else none := by
  have same : ('0' ≤ c ∧ c ≤ '9') ↔ c.isDigit = true := by
    simp [Char.isDigit, Char.le_def]
  simp only [decimalDigit?, same]

@[simp] theorem isSome_decimalDigit? (c : Char) : (decimalDigit? c).isSome = c.isDigit := by
  rw [decimalDigit?_eq]
  by_cases hc : c.isDigit = true <;> simp [hc]

theorem decimalFrom_eq_some_iff {cs : List Char} {n v : Nat} :
    decimalFrom n cs = some v ↔ (∀ c ∈ cs, c.isDigit = true) ∧ Nat.ofDigitChars 10 cs n = v := by
  induction cs generalizing n with
  | nil => simp [decimalFrom, Nat.ofDigitChars]
  | cons c cs ih =>
    rw [decimalFrom, decimalDigit?_eq]
    by_cases hc : c.isDigit = true
    · simp [hc, ih, Nat.ofDigitChars_cons]
    · simp [hc]

/-- A run of digits whose value fits in 64 bits, with its value. -/
def Numeral (digits : List Char) (n : Nat) : Prop :=
  IsDigits digits ∧ digitsValue digits = n ∧ n < 2 ^ 64

theorem wordBound_eq : wordBound = 2 ^ 64 := by decide

/-- The numbers there are to read are numerals. -/
theorem wordOfDigits?_eq_some_iff {cs : List Char} {n : Nat} :
    wordOfDigits? cs = some n ↔ Numeral cs n := by
  cases cs with
  | nil => simp [wordOfDigits?, Numeral, IsDigits]
  | cons c cs =>
    rw [wordOfDigits?, Numeral, IsDigits, digitsValue, ← wordBound_eq]
    cases hvalue : decimalFrom 0 (c :: cs) with
    | none =>
      have : ¬ ∀ d ∈ c :: cs, d.isDigit = true := by
        intro all
        simp [decimalFrom_eq_some_iff.mpr ⟨all, rfl⟩] at hvalue
      simp only [reduceCtorEq, false_iff]
      intro h
      exact this h.1.2
    | some v =>
      obtain ⟨all, rfl⟩ := decimalFrom_eq_some_iff.mp hvalue
      by_cases fits : Nat.ofDigitChars 10 (c :: cs) 0 < wordBound
      · simp only [if_pos fits, Option.some.injEq]
        constructor
        · rintro rfl
          exact ⟨⟨by simp, all⟩, rfl, fits⟩
        · intro h
          exact h.2.1
      · simp only [if_neg fits, reduceCtorEq, false_iff]
        rintro ⟨-, rfl, small⟩
        exact fits small

/-- A run of digits whose value does not fit is no number. -/
theorem wordOfDigits?_eq_none {digits : List Char} (big : 2 ^ 64 ≤ digitsValue digits) :
    wordOfDigits? digits = none := by
  rw [Option.eq_none_iff_forall_ne_some]
  intro n hn
  obtain ⟨-, hvalue, small⟩ := wordOfDigits?_eq_some_iff.mp hn
  omega

/-- A name that is a number: a numeral, with a plus sign before it or not. -/
def NumberedName (name : List Char) (n : Nat) : Prop :=
  ∃ digits, (name = digits ∨ name = '+' :: digits) ∧ Numeral digits n

/-- The names that are read as numbers are the numbered ones. -/
theorem wordOfName?_eq_some_iff {name : List Char} {n : Nat} :
    wordOfName? name = some n ↔ NumberedName name n := by
  unfold wordOfName?
  split
  · rename_i cs
    rw [wordOfDigits?_eq_some_iff]
    constructor
    · intro h
      exact ⟨cs, Or.inr rfl, h⟩
    · rintro ⟨digits, rfl | same, h⟩
      · -- A plus sign is no digit, so the name is not itself a numeral.
        have : ('+' : Char).isDigit = true := h.1.2 '+' (by simp)
        simp at this
      · obtain rfl := (List.cons.inj same).2
        exact h
  · rename_i noPlus
    rw [wordOfDigits?_eq_some_iff]
    constructor
    · intro h
      exact ⟨name, Or.inl rfl, h⟩
    · rintro ⟨digits, rfl | rfl, h⟩
      · exact h
      · exact absurd rfl (noPlus digits)

end PatternSearch.Text
