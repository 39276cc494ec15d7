/-
PatternSearch.Proofs.Text.Boundary — offsets between characters.

`IsBoundary` is decided by the core library's notion of a valid position. This
module says what it means for stepping through a text and for cutting it: the
byte at a boundary leads a character, the next boundary is as many bytes
further as this byte tells (`IsBoundary.next`, `IsBoundary.next_le`), and a
span has a text exactly when it fits (`Span.slice?_isSome_iff`).
-/
import PatternSearch.Text.Span

namespace PatternSearch.Text

variable {text : String} {i j : Nat}

/-! ## 1. Boundaries -/

theorem isBoundary_zero (text : String) : IsBoundary text 0 := String.Pos.Raw.isValid_zero

theorem isBoundary_end (text : String) : IsBoundary text text.utf8ByteSize :=
  String.Pos.Raw.isValid_rawEndPos

theorem IsBoundary.le (h : IsBoundary text i) : i ≤ text.utf8ByteSize :=
  String.Pos.Raw.IsValid.le_utf8ByteSize h

/-- A boundary before the end is not the end position. -/
theorem IsBoundary.ne_endPos (h : IsBoundary text i) (inside : i < text.utf8ByteSize) :
    (⟨⟨i⟩, h⟩ : text.Pos) ≠ text.endPos := by
  intro same
  have : i = text.utf8ByteSize := congrArg (fun p => p.offset.byteIdx) same
  omega

/-- The byte at a boundary leads a character. -/
theorem IsBoundary.isFirst (h : IsBoundary text i) (inside : i < text.toByteArray.size) :
    text.toByteArray[i].IsUTF8FirstByte :=
  (⟨⟨i⟩, h⟩ : text.Pos).isUTF8FirstByte_getUTF8Byte_offset (h := by
    simpa [String.Pos.Raw.lt_iff, ← String.size_toByteArray] using inside)

/-- The next position lies as many bytes further as the byte at the boundary
tells. -/
theorem IsBoundary.offset_next (h : IsBoundary text i) (inside : i < text.toByteArray.size)
    (before : (⟨⟨i⟩, h⟩ : text.Pos) ≠ text.endPos) :
    ((⟨⟨i⟩, h⟩ : text.Pos).next before).offset.byteIdx =
      i + text.toByteArray[i].utf8ByteSize (h.isFirst inside) := by
  have lead : (⟨⟨i⟩, h⟩ : text.Pos).byte before = text.toByteArray[i] :=
    (String.Pos.getUTF8Byte_offset (h := by
      simpa [String.Pos.Raw.lt_iff, ← String.size_toByteArray] using inside)).symm
  rw [String.Pos.byteIdx_offset_next, ← String.Pos.utf8ByteSize_byte]
  simp only [lead]

/-- From a boundary, the character there leads to the next one. -/
theorem IsBoundary.next (h : IsBoundary text i) (inside : i < text.toByteArray.size) :
    IsBoundary text (i + text.toByteArray[i].utf8ByteSize (h.isFirst inside)) := by
  have before := h.ne_endPos (by simpa using inside)
  have valid := ((⟨⟨i⟩, h⟩ : text.Pos).next before).isValid
  have offset := h.offset_next inside before
  rwa [show ((⟨⟨i⟩, h⟩ : text.Pos).next before).offset = ⟨_⟩ from
    String.Pos.Raw.ext offset] at valid

/-- There is no boundary inside the character at a boundary. -/
theorem IsBoundary.next_le (h : IsBoundary text i) (hj : IsBoundary text j) (less : i < j)
    (inside : i < text.toByteArray.size) :
    i + text.toByteArray[i].utf8ByteSize (h.isFirst inside) ≤ j := by
  have before := h.ne_endPos (by simpa using inside)
  have le : (⟨⟨i⟩, h⟩ : text.Pos).next before ≤ ⟨⟨j⟩, hj⟩ := String.Pos.next_le_of_lt less
  rw [← h.offset_next inside before]
  exact le

/-! ## 2. Spans that fit -/

namespace Span

theorem Fits.stop_le {s : Span} (h : s.Fits text) : s.stop ≤ text.utf8ByteSize := h.2.2.le

/-- The bytes of a span that fits are a text. -/
theorem Fits.isValidUTF8 {s : Span} (h : s.Fits text) :
    (text.toByteArray.extract s.start s.stop).IsValidUTF8 :=
  (String.Pos.Raw.isValidUTF8_extract_iff ⟨s.start⟩ ⟨s.stop⟩ h.1 h.2.2.le_rawEndPos).mpr
    (Or.inr h.2)

/-- A span has a text exactly when it fits. -/
theorem slice?_isSome_iff {s : Span} : (s.slice? text).isSome ↔ s.Fits text := by
  unfold slice?
  split
  · rename_i fits
    simp [String.fromUTF8?, fits.isValidUTF8, fits]
  · rename_i fits
    simp [fits]

/-- The text of a span that fits has the bytes between its ends. -/
theorem Fits.toByteArray_slice {s : Span} (h : s.Fits text) :
    (s.slice text).toByteArray = text.toByteArray.extract s.start s.stop := by
  rw [slice, slice?, if_pos h, String.fromUTF8?, dif_pos h.isValidUTF8]
  rfl

/-- Two stretches that meet are one. -/
theorem slice_append_slice {k : Nat} (left : Fits ⟨i, j⟩ text) (right : Fits ⟨j, k⟩ text) :
    slice ⟨i, j⟩ text ++ slice ⟨j, k⟩ text = slice ⟨i, k⟩ text := by
  have le : i ≤ j := left.1
  have le' : j ≤ k := right.1
  have both : Fits ⟨i, k⟩ text := ⟨Nat.le_trans le le', left.2.1, right.2.2⟩
  rw [← String.toByteArray_inj, String.toByteArray_append, left.toByteArray_slice,
    right.toByteArray_slice, both.toByteArray_slice, ByteArray.extract_append_extract,
    Nat.min_eq_left le, Nat.max_eq_right le']

theorem fits_suffixSpan (h : IsBoundary text i) : (suffixSpan text i).Fits text :=
  ⟨h.le, h, isBoundary_end text⟩

/-- Everything from the beginning on is the text itself. -/
theorem slice_suffixSpan_zero (text : String) : (suffixSpan text 0).slice text = text := by
  rw [← String.toByteArray_inj, (fits_suffixSpan (isBoundary_zero text)).toByteArray_slice,
    suffixSpan, ← String.size_toByteArray, ByteArray.extract_zero_size]

end Span

end PatternSearch.Text
