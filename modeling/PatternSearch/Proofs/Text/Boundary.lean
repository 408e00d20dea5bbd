import PatternSearch.Text.Width

/-!
# Character boundaries

Offsets into a text count the bytes of its UTF-8 form, and not every offset can be cut at: it may lie
inside a character. The offset behind some characters of a text does not, and the bytes between two such
offsets are those of the characters between them.
-/

namespace PatternSearch.Text

/-- No character of the text goes across the offset. -/
def IsBoundary (text : List Char) (offset : Nat) : Prop :=
  (String.Pos.Raw.mk offset).IsValid (String.ofList text)

/-- A part of a text that is cut out by its two offsets, neither of them inside a character. -/
structure IsSlice (text : List Char) (span : Nat × Nat) (part : List Char) : Prop where
  start_le_stop : span.1 ≤ span.2
  isBoundary_start : IsBoundary text span.1
  isBoundary_stop : IsBoundary text span.2
  extract_eq : text.utf8Encode.extract span.1 span.2 = part.utf8Encode

theorem size_utf8Encode (text : List Char) : text.utf8Encode.size = byteWidth text := by
  induction text with
  | nil => simp
  | cons c rest ih =>
    rw [List.utf8Encode_cons, List.utf8Encode_singleton, ByteArray.size_append, ih, byteWidth_cons,
      List.size_toByteArray, String.length_utf8EncodeChar]

theorem isBoundary_byteWidth (before after : List Char) :
    IsBoundary (before ++ after) (byteWidth before) := by
  have bytes : (String.ofList before).toByteArray.size = byteWidth before := by
    rw [String.toByteArray_ofList, size_utf8Encode]
  have atEnd : (String.Pos.Raw.mk (byteWidth before)).IsValid (String.ofList before) :=
    String.Pos.Raw.isValid_of_eq_rawEndPos (String.Pos.Raw.ext bytes.symm)
  simpa [IsBoundary, String.ofList_append] using atEnd.append_right (String.ofList after)

/-- What stands behind some characters and before others is the slice between their offsets. -/
theorem isSlice_byteWidth (before part after : List Char) :
    IsSlice (before ++ (part ++ after)) (byteWidth before, byteWidth before + byteWidth part) part where
  start_le_stop := Nat.le_add_right _ _
  isBoundary_start := isBoundary_byteWidth before (part ++ after)
  isBoundary_stop := by simpa using isBoundary_byteWidth (before ++ part) after
  extract_eq := by
    simp only [List.utf8Encode_append]
    have behind := @ByteArray.extract_append_size_add' before.utf8Encode
      (part.utf8Encode ++ after.utf8Encode) 0 (byteWidth part) _ (size_utf8Encode before).symm
    exact behind.trans (ByteArray.extract_append_eq_left (size_utf8Encode part).symm)

end PatternSearch.Text
