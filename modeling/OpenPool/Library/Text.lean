import Mathlib.Data.List.DropRight

/-! # Text

White space at the ends of a text, and its bytes. -/

namespace Text

/-- The bytes of a text in UTF-8. -/
def utf8 (text : String) : List UInt8 := text.toUTF8.data.toList

/-- The text that these bytes are in UTF-8. -/
def ofUtf8 (bytes : List UInt8) : Option String := String.fromUTF8? ⟨bytes.toArray⟩

theorem ofUtf8_eq_some_iff (bytes : List UInt8) (text : String) :
    ofUtf8 bytes = some text ↔ bytes = utf8 text := by
  obtain ⟨⟨⟨stored⟩⟩, hvalid⟩ := text
  unfold ofUtf8 String.fromUTF8?
  constructor
  · intro h
    split at h
    · have hbytes := congrArg (fun text => text.toUTF8.data.toList) (Option.some.inj h)
      exact hbytes
    · cases h
  · rintro rfl
    exact dif_pos hvalid

/-- The Unicode property `White_Space`. -/
def isWhitespace (c : Char) : Bool :=
  (9 ≤ c.toNat && c.toNat ≤ 13) || (8192 ≤ c.toNat && c.toNat ≤ 8202) ||
    [32, 133, 160, 5760, 8232, 8233, 8239, 8287, 12288].contains c.toNat

/-- The text without the white space at its two ends. -/
def trimChars (text : List Char) : List Char :=
  (text.dropWhile isWhitespace).rdropWhile isWhitespace

def trim (text : String) : String := String.ofList (trimChars text.toList)

end Text
