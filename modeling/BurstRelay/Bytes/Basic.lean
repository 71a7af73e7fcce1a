/-!
# Byte strings

Everything the relay receives, checks or writes is a byte string. It is a list, so that the laws of
lists are the laws of framing: a stream is the concatenation of its records, and what a reader
leaves is a suffix of what it was given.
-/

namespace BurstRelay

/-- A byte string. -/
abbrev Bytes := List UInt8

namespace Bytes

/-- The bytes of a text in UTF-8. -/
def ofString (text : String) : Bytes := text.toByteArray.data.toList

/-- The text that the bytes spell in UTF-8, if they spell one. -/
def toString? (bytes : Bytes) : Option String := String.fromUTF8? ⟨bytes.toArray⟩

/-- Reading back the bytes of a text gives the text. -/
@[simp] theorem toString?_ofString (text : String) : toString? (ofString text) = some text := by
  have whole : (⟨(ofString text).toArray⟩ : ByteArray) = text.toByteArray := by simp [ofString]
  unfold toString? String.fromUTF8?
  rw [whole, dif_pos text.isValidUTF8]
  rfl

theorem ofString_of_toString? {bytes : Bytes} {text : String}
    (spelled : toString? bytes = some text) : ofString text = bytes := by
  unfold toString? String.fromUTF8? at spelled
  split at spelled
  · simp only [Option.some.injEq] at spelled
    subst spelled
    simp [ofString, String.fromUTF8]
  · simp at spelled

end Bytes

end BurstRelay
