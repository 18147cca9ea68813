/-!
# Text as bytes

Files and sinks hold bytes. A text is written in UTF-8, and bytes are a text when they are the
UTF-8 form of one: reading accepts exactly what writing gives.
-/

namespace VulkanPrefill.Text

def toBytes (s : String) : List UInt8 :=
  s.toByteArray.data.toList

def ofBytes? (bs : List UInt8) : Option String :=
  String.fromUTF8? ⟨bs.toArray⟩

theorem toBytes_append (s t : String) : toBytes (s ++ t) = toBytes s ++ toBytes t := by
  simp [toBytes, String.toByteArray_append]

theorem ofBytes?_eq_some_iff {bs : List UInt8} {s : String} :
    ofBytes? bs = some s ↔ bs = toBytes s := by
  unfold ofBytes? String.fromUTF8?
  constructor
  · intro h
    split at h
    · cases h
      rfl
    · simp at h
  · rintro rfl
    exact dif_pos s.isValidUTF8

end VulkanPrefill.Text
