import Seedbed.Text.System

/-!
# Texts among the texts of the system

A text of the system is read as a text exactly if its octets are those of the text
(`text?_eq_some_iff`), and two texts are the same if their octets are (`ofText_injective`).
-/

namespace Seedbed

theorem fromUTF8?_eq_some_iff {bytes : ByteArray} {text : String} :
    String.fromUTF8? bytes = some text ↔ bytes = text.toUTF8 := by
  rw [String.fromUTF8?]
  split
  · rw [Option.some.injEq, ← String.toByteArray_inj, String.toUTF8_eq_toByteArray]
    exact Iff.rfl
  · rename_i invalid
    refine ⟨nofun, fun same => ?_⟩
    rw [same] at invalid
    exact absurd text.isValidUTF8 invalid

namespace SystemText

variable {octets : SystemText} {text : String}

theorem bytes_ofText (text : String) : (ofText text).bytes = text.toUTF8 := by
  rw [String.toUTF8_eq_toByteArray, ← String.utf8Encode_toList]
  rfl

theorem bytes_injective {first second : SystemText} (same : first.bytes = second.bytes) :
    first = second := congrArg mk (List.toByteArray_inj.mp same)

theorem text?_eq_some_iff : octets.text? = some text ↔ octets = ofText text := by
  rw [text?, fromUTF8?_eq_some_iff, ← bytes_ofText]
  exact ⟨bytes_injective, congrArg bytes⟩

theorem text?_ofText (text : String) : (ofText text).text? = some text := text?_eq_some_iff.mpr rfl

theorem ofText_injective {first second : String} (same : ofText first = ofText second) :
    first = second := by
  have read := text?_ofText first
  rw [same, text?_ofText] at read
  exact (Option.some.inj read).symm

theorem append_right_inj {first second third : SystemText} :
    first ++ second = first ++ third ↔ second = third := by
  constructor
  · intro same
    exact congrArg mk (List.append_cancel_left (congrArg octets same))
  · rintro rfl
    rfl

end SystemText
end Seedbed
