import VulkanPrefill.Text.CodeRange

/-!
# White space

The characters that separate words are those with the Unicode property `White_Space`. The zero
width space and the byte order mark are not among them, and neither are the separators from U+001C
to U+001F.
-/

namespace VulkanPrefill.Text

def blankRanges : List CodeRange := [
  ⟨0x9, 0xD⟩, ⟨0x20, 0x20⟩, ⟨0x85, 0x85⟩, ⟨0xA0, 0xA0⟩, ⟨0x1680, 0x1680⟩, ⟨0x2000, 0x200A⟩,
  ⟨0x2028, 0x2029⟩, ⟨0x202F, 0x202F⟩, ⟨0x205F, 0x205F⟩, ⟨0x3000, 0x3000⟩]

def isBlank (c : Char) : Bool :=
  anyHolds blankRanges c

end VulkanPrefill.Text
