/-! Texts as the bytes in which they are stored and written. -/

namespace TypedSum.Text

def bytes (s : String) : List UInt8 := s.toUTF8.data.toList

@[simp] theorem bytes_empty : bytes "" = [] := by simp [bytes]

@[simp] theorem bytes_append (s t : String) : bytes (s ++ t) = bytes s ++ bytes t := by
  simp [bytes]

theorem bytes_injective {s t : String} (h : bytes s = bytes t) : s = t := by
  simp only [bytes, String.toUTF8] at h
  exact String.toByteArray_inj.mp (ByteArray.ext (Array.toList_inj.mp h))

@[simp] theorem length_bytes (s : String) : (bytes s).length = s.utf8ByteSize := by
  simp [bytes]

theorem bytes_eq_flatMap (s : String) : bytes s = s.toList.flatMap String.utf8EncodeChar := by
  rw [bytes, String.toUTF8_eq_toByteArray, ← String.utf8Encode_toList, List.utf8Encode,
    List.data_toByteArray]

/-- The text that is stored as these bytes, if there is one. -/
def decode? (encoded : List UInt8) : Option String := String.fromUTF8? ⟨encoded.toArray⟩

theorem decode?_eq_some_iff {encoded : List UInt8} {s : String} :
    decode? encoded = some s ↔ encoded = bytes s := by
  rw [decode?, String.fromUTF8?, Option.dite_none_right_eq_some]
  constructor
  · rintro ⟨hvalid, h⟩
    obtain rfl := Option.some.inj h
    rfl
  · rintro rfl
    exact ⟨s.isValidUTF8, rfl⟩

@[simp] theorem decode?_bytes (s : String) : decode? (bytes s) = some s :=
  decode?_eq_some_iff.mpr rfl

end TypedSum.Text
