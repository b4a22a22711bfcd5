import RoomCall.Json.Spelling
import RoomCall.Text.Percent

/-!
# Reading percent-encoded texts

Reading takes a percent sign with two digits for the byte that they write, and any other character
for the bytes of its UTF-8 form. It undoes the encoding byte by byte, so what a text is does not
matter: the encoding never leaves a percent sign of the text in place, and every byte that it does
leave in place is a character by itself.
-/

namespace RoomCall.Text

/-- The bytes that a percent-encoded text stands for. A percent sign has to be followed by two
digits in base sixteen, of either case. -/
def percentBytes? : List Char → Option (List UInt8)
  | [] => some []
  | character :: rest =>
      if character = '%' then
        match rest with
        | high :: low :: rest => do
            let highValue ← Json.hexDigit? high
            let lowValue ← Json.hexDigit? low
            let bytes ← percentBytes? rest
            return UInt8.ofNat (16 * highValue + lowValue) :: bytes
        | _ => none
      else
        (percentBytes? rest).map fun bytes => String.utf8EncodeChar character ++ bytes

/-- The text that a percent-encoded text stands for. -/
def percentDecode? (text : String) : Option String :=
  percentBytes? text.toList >>= fun bytes => String.fromUTF8? bytes.toByteArray

/-! ## Bytes -/

theorem hexDigit?_upperHexDigit {value : Nat} (small : value < 16) :
    Json.hexDigit? (upperHexDigit value) = some value := by
  have all : ∀ digit : Fin 16, Json.hexDigit? (upperHexDigit digit) = some digit.val := by decide
  exact all ⟨value, small⟩

theorem exists_code (byte : UInt8) : ∃ code : Fin 256, UInt8.ofNat code = byte :=
  ⟨⟨byte.toNat, byte.toNat_lt⟩, UInt8.ofNat_toNat⟩

/-- A byte that stands for itself is the UTF-8 form of the character that it numbers. -/
theorem utf8EncodeChar_of_isUnreserved (byte : UInt8) :
    isUnreserved byte = true → String.utf8EncodeChar (Char.ofNat byte.toNat) = [byte] := by
  obtain ⟨code, rfl⟩ := exists_code byte
  revert code
  decide +kernel

theorem ne_sign_of_isUnreserved (byte : UInt8) :
    isUnreserved byte = true → Char.ofNat byte.toNat ≠ '%' := by
  obtain ⟨code, rfl⟩ := exists_code byte
  revert code
  decide +kernel

/-- The characters that encoded texts are written with. -/
def isPercentCharacter (character : Char) : Bool :=
  character.isAlphanum || ['-', '.', '_', '~', '%'].contains character

theorem all_percentByte (byte : UInt8) :
    (percentByte byte).all isPercentCharacter = true := by
  obtain ⟨code, rfl⟩ := exists_code byte
  revert code
  decide +kernel

theorem percentBytes?_of_ne {character : Char} (plain : character ≠ '%') (rest : List Char) :
    percentBytes? (character :: rest) =
      (percentBytes? rest).map fun bytes => String.utf8EncodeChar character ++ bytes := by
  rw [percentBytes?.eq_def]
  exact if_neg plain

/-- An encoded byte is read back, whatever follows. -/
theorem percentBytes?_percentByte_append (byte : UInt8) (rest : List Char) :
    percentBytes? (percentByte byte ++ rest) = (percentBytes? rest).map (byte :: ·) := by
  unfold percentByte
  split
  · rename_i unreserved
    rw [List.singleton_append, percentBytes?_of_ne (ne_sign_of_isUnreserved byte unreserved),
      utf8EncodeChar_of_isUnreserved byte unreserved]
    rfl
  · have bound := byte.toNat_lt
    have high : Json.hexDigit? (upperHexDigit (byte.toNat / 16)) = some (byte.toNat / 16) :=
      hexDigit?_upperHexDigit (by omega)
    have low : Json.hexDigit? (upperHexDigit (byte.toNat % 16)) = some (byte.toNat % 16) :=
      hexDigit?_upperHexDigit (by omega)
    have whole : UInt8.ofNat (16 * (byte.toNat / 16) + byte.toNat % 16) = byte := by
      rw [Nat.div_add_mod, UInt8.ofNat_toNat]
    simp only [List.cons_append, List.nil_append, percentBytes?, if_true, high, low,
      Option.bind_eq_bind, Option.bind_some, whole]
    cases percentBytes? rest <;> rfl

theorem percentBytes?_flatMap_percentByte (bytes : List UInt8) :
    percentBytes? (bytes.flatMap percentByte) = some bytes := by
  induction bytes with
  | nil => rfl
  | cons byte bytes ih =>
      rw [List.flatMap_cons, percentBytes?_percentByte_append, ih]
      rfl

/-! ## Texts -/

theorem fromUTF8?_utf8Bytes (text : String) :
    String.fromUTF8? (text.toList.flatMap String.utf8EncodeChar).toByteArray = some text := by
  have bytes : (text.toList.flatMap String.utf8EncodeChar).toByteArray = text.toByteArray :=
    String.utf8Encode_toList
  rw [bytes, String.fromUTF8?, dif_pos text.isValidUTF8]
  rfl

/-- What was encoded is read back. -/
theorem percentDecode?_percentEncode (text : String) :
    percentDecode? (percentEncode text) = some text := by
  rw [percentDecode?, percentEncode, String.toList_ofList, percentBytes?_flatMap_percentByte,
    Option.bind_eq_bind, Option.bind_some, fromUTF8?_utf8Bytes]

theorem isPercentCharacter_of_mem_percentEncode {text : String} {character : Char}
    (mem : character ∈ (percentEncode text).toList) : isPercentCharacter character = true := by
  rw [percentEncode, String.toList_ofList, List.mem_flatMap] at mem
  obtain ⟨byte, -, mem⟩ := mem
  exact List.all_eq_true.mp (all_percentByte byte) character mem

/-- No other character stands in an encoded text, for example none that separates parts of a URI. -/
theorem not_mem_percentEncode {text : String} {character : Char}
    (other : isPercentCharacter character = false) :
    character ∉ (percentEncode text).toList := by
  intro mem
  rw [isPercentCharacter_of_mem_percentEncode mem] at other
  exact absurd other (by decide)

end RoomCall.Text
