/-
PatternSearch.Proofs.Search.Places — where a cursor may stand.

A scan that steps by bytes may stand anywhere in a text, one that steps by
characters only between them: `Advance.Place`. A step from a place leads to
the next one (`Place.next`, `Place.next_le`), so stepping never splits a
character and never passes over a place. The thresholds of
`Advance.leadWidth` are looser than the encoding; `leadWidth_eq` says that on
the bytes that can lead a character they agree with it.
-/
import PatternSearch.Proofs.Text.Boundary
import PatternSearch.Search.Scan

namespace PatternSearch

open Text

namespace Advance

/-- The offsets of a text a cursor may stand at: any, or those between two
characters. -/
def Place : Advance → ByteArray → Nat → Prop
  | .byte, text, i => i ≤ text.size
  | .char, text, i => ∃ str : String, str.toByteArray = text ∧ IsBoundary str i

/-- Whether a text can be stepped through: any by bytes, by characters only
one that is UTF-8. -/
def Reads : Advance → ByteArray → Prop
  | .byte, _ => True
  | .char, text => ∃ str : String, str.toByteArray = text

/-- On the first byte of a character, the width is that of the character. -/
theorem leadWidth_eq (b : UInt8) (h : b.IsUTF8FirstByte) : leadWidth b = b.utf8ByteSize h := by
  have all : ∀ n : Fin 256, ∀ h : (UInt8.ofFin n).IsUTF8FirstByte,
      leadWidth (UInt8.ofFin n) = (UInt8.ofFin n).utf8ByteSize h := by decide +kernel
  exact all b.toFin h

theorem width_char {text : ByteArray} {i : Nat} (inside : i < text.size) :
    Advance.char.width text i = leadWidth text[i] := by
  rw [width, dif_pos inside]

/-- By characters, the places of a text are its boundaries. -/
theorem place_char_iff {text : String} {i : Nat} :
    Advance.char.Place text.toByteArray i ↔ IsBoundary text i := by
  constructor
  · rintro ⟨str, same, boundary⟩
    exact String.toByteArray_inj.mp same ▸ boundary
  · exact fun boundary => ⟨text, rfl, boundary⟩

variable {a : Advance} {text : ByteArray} {i j : Nat}

theorem Place.le (h : a.Place text i) : i ≤ text.size := by
  cases a with
  | byte => exact h
  | char =>
    obtain ⟨str, rfl, boundary⟩ := h
    simpa using boundary.le

theorem place_zero (h : a.Reads text) : a.Place text 0 := by
  cases a with
  | byte => exact Nat.zero_le _
  | char =>
    obtain ⟨str, same⟩ := h
    exact ⟨str, same, isBoundary_zero str⟩

/-- A step from a place leads to a place. -/
theorem Place.next (h : a.Place text i) (inside : i < text.size) :
    a.Place text (i + a.width text i) := by
  cases a with
  | byte => exact inside
  | char =>
    obtain ⟨str, rfl, boundary⟩ := h
    refine ⟨str, rfl, ?_⟩
    rw [width_char inside, leadWidth_eq _ (boundary.isFirst inside)]
    exact boundary.next inside

/-- A step from a place does not pass over another one. -/
theorem Place.next_le (h : a.Place text i) (hj : a.Place text j) (less : i < j) :
    i + a.width text i ≤ j := by
  have inside := Nat.lt_of_lt_of_le less hj.le
  cases a with
  | byte => exact less
  | char =>
    obtain ⟨str, rfl, boundary⟩ := h
    obtain ⟨other, same, later⟩ := hj
    obtain rfl : other = str := String.toByteArray_inj.mp same
    rw [width_char inside, leadWidth_eq _ (boundary.isFirst inside)]
    exact boundary.next_le later less inside

/-- Where a cursor may rest: at a place of the text, or beyond its end. -/
def Rests (a : Advance) (text : ByteArray) (i : Nat) : Prop := i ≤ text.size → a.Place text i

theorem Place.rests (h : a.Place text i) : a.Rests text i := fun _ => h

/-- A step from a place leads to a place or, from the last one, beyond the end
of the text. -/
theorem Place.rests_next (h : a.Place text i) : a.Rests text (i + a.width text i) := by
  intro le
  have := a.width_pos text i
  exact h.next (by omega)

end Advance

end PatternSearch
