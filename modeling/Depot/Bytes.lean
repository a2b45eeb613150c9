/-!
# Bytes

Artifact contents, header values and bodies are finite lists of bytes. Text becomes bytes by UTF-8,
and `utf8_append` says that the encoding of a text is put together from the encodings of its parts.
-/

namespace Depot

/-- A finite sequence of bytes. -/
abbrev Bytes := List UInt8

/-- The bytes of a text in UTF-8. -/
def utf8 (text : String) : Bytes :=
  text.toList.flatMap String.utf8EncodeChar

@[simp] theorem utf8_append (s t : String) : utf8 (s ++ t) = utf8 s ++ utf8 t := by
  simp [utf8]

/-- The bytes from position `first` to position `last`, both included. -/
def Bytes.slice (content : Bytes) (first last : Nat) : Bytes :=
  (content.drop first).take (last + 1 - first)

theorem Bytes.length_slice (content : Bytes) {first last : Nat} (inside : last < content.length) :
    (Bytes.slice content first last).length = last + 1 - first := by
  simp only [Bytes.slice, List.length_take, List.length_drop]
  omega

end Depot
