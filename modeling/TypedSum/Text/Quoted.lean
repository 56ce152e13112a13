import TypedSum.Text.Bytes
import TypedSum.Text.Combining
import TypedSum.Text.Unprintable

/-! Quoted text: a string between double quotes, in which the quote, the backslash and every
character that a reader could not make out are written as escapes.  Bytes are quoted alike, those that
are in no character by their value. -/

namespace TypedSum.Text

/-- Printable characters of ASCII are told by their range alone; the tables decide on the rest. -/
def needsCodePoint (c : Char) : Bool :=
  if c.toNat < 0x7f then c.toNat < 0x20 else isUnprintable c || isCombining c

/-- A character by its code point in hexadecimal. -/
def codePoint (c : Char) : List Char := '\\' :: 'u' :: '\x7b' :: Nat.toDigits 16 c.toNat ++ ['\x7d']

def escape (c : Char) : List Char :=
  match c with
  | '"' => ['\\', '"']
  | '\\' => ['\\', '\\']
  | '\n' => ['\\', 'n']
  | '\r' => ['\\', 'r']
  | '\t' => ['\\', 't']
  | '\x00' => ['\\', '0']
  | c => if needsCodePoint c then codePoint c else [c]

def quoted (s : String) : String := String.ofList ('"' :: s.toList.flatMap escape ++ ['"'])

theorem toList_quoted (s : String) :
    (quoted s).toList = '"' :: s.toList.flatMap escape ++ ['"'] := by simp [quoted]

/-- The character that bytes begin with. -/
def firstChar? (encoded : List UInt8) : Option Char := ByteArray.utf8DecodeChar? ⟨encoded.toArray⟩ 0

/-- A byte by its value in two hexadecimal digits. -/
def byteValue (b : UInt8) : List Char :=
  ['\\', 'x', (b.toNat / 16).digitChar.toUpper, (b.toNat % 16).digitChar.toUpper]

/-- Among bytes the single quote is escaped as well. -/
def escapeAmongBytes (c : Char) : List Char := if c = '\x27' then ['\\', '\x27'] else escape c

def escapeBytes : List UInt8 → List Char
  | [] => []
  | b :: rest =>
    match firstChar? (b :: rest) with
    | some c => escapeAmongBytes c ++ escapeBytes (rest.drop (c.utf8Size - 1))
    | none => byteValue b ++ escapeBytes rest
termination_by encoded => encoded.length
decreasing_by
  · rw [List.length_drop, List.length_cons]
    omega
  · exact Nat.lt_succ_self _

theorem firstChar?_encode_append (c : Char) (rest : List UInt8) :
    firstChar? (String.utf8EncodeChar c ++ rest) = some c := by
  have hsplit : (⟨(String.utf8EncodeChar c ++ rest).toArray⟩ : ByteArray) =
      (String.utf8EncodeChar c).toByteArray ++ ⟨rest.toArray⟩ := by
    apply ByteArray.ext
    simp
  rw [firstChar?, hsplit, ByteArray.utf8DecodeChar?_utf8EncodeChar_append]

theorem escapeBytes_encode_append (c : Char) (rest : List UInt8) :
    escapeBytes (String.utf8EncodeChar c ++ rest) = escapeAmongBytes c ++ escapeBytes rest := by
  have hfirst := firstChar?_encode_append c rest
  have hlength := String.length_utf8EncodeChar c
  generalize String.utf8EncodeChar c = encoded at hfirst hlength
  cases encoded with
  | nil =>
    have hpos := c.utf8Size_pos
    rw [← hlength] at hpos
    cases hpos
  | cons b behind =>
    rw [List.cons_append] at hfirst
    have hbehind : c.utf8Size - 1 = behind.length := by simp [← hlength]
    simp only [List.cons_append, escapeBytes, hfirst, hbehind, List.drop_left]

/-- The bytes of a text are escaped character by character. -/
theorem escapeBytes_bytes (s : String) :
    escapeBytes (bytes s) = s.toList.flatMap escapeAmongBytes := by
  rw [bytes_eq_flatMap]
  induction s.toList with
  | nil => simp [escapeBytes]
  | cons c cs ih => rw [List.flatMap_cons, escapeBytes_encode_append, ih, List.flatMap_cons]

def quotedBytes (encoded : List UInt8) : String :=
  String.ofList ('"' :: escapeBytes encoded ++ ['"'])

/-- But for single quotes, a text is quoted as its bytes are. -/
theorem quotedBytes_bytes {s : String} (h : '\x27' ∉ s.toList) : quotedBytes (bytes s) = quoted s := by
  have hescape : s.toList.map escapeAmongBytes = s.toList.map escape := by
    apply List.map_congr_left
    intro c hc
    apply if_neg
    rintro rfl
    exact h hc
  rw [quotedBytes, quoted, escapeBytes_bytes, List.flatMap_def, hescape, ← List.flatMap_def]

end TypedSum.Text
