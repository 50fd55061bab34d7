set_option autoImplicit false

namespace Projection

/-- A text as the system has it: bytes, which need not be UTF-8. -/
structure RawText where
  bytes : List UInt8
  deriving DecidableEq, Repr

namespace RawText

def ofString (text : String) : RawText := ⟨text.toUTF8.data.toList⟩

instance : Coe String RawText := ⟨ofString⟩

instance : Append RawText := ⟨fun front behind => ⟨front.bytes ++ behind.bytes⟩⟩

def toString? (raw : RawText) : Option String := String.fromUTF8? ⟨raw.bytes.toArray⟩

theorem toString?_ofString (text : String) : (ofString text).toString? = some text :=
  dif_pos text.isValidUTF8

theorem ofString_inj {a b : String} : ofString a = ofString b ↔ a = b := by
  refine ⟨fun same => ?_, congrArg ofString⟩
  rw [← Option.some_inj, ← toString?_ofString, ← toString?_ofString, same]

theorem bytes_ofString (text : String) :
    (ofString text).bytes = text.toList.flatMap String.utf8EncodeChar := by
  rw [ofString, String.toUTF8, ← String.utf8Encode_toList, List.utf8Encode,
    List.toList_data_toByteArray]

def equalsSign : UInt8 := 61

def isEmpty (raw : RawText) : Bool := raw.bytes.isEmpty

def behind? (front raw : RawText) : Option RawText :=
  (front.bytes.isPrefixOf? raw.bytes).map RawText.mk

end RawText

end Projection
