import VulkanPrefill.Text.Lower
import VulkanPrefill.Text.Search

/-!
# Names made from a structure type constant

A constant leads to the struct it belongs to by its key, and gives the initializer function its
name. The key drops three segments by their position, whatever they spell; the function name drops
the infix wherever it stands.
-/

namespace VulkanPrefill.Constant

/-- `vk` and the lowered segments from the fourth on, without the underscores between them. -/
def structKey (constant : String) : String :=
  .ofList ("vk".toList ++ (((Text.lower constant).toList.splitOn '_').drop 3).flatten)

def infixText : String := "_STRUCTURE_TYPE"

/-- Gives a trailing extension tag `khr` its capitals back. -/
def capitalizeKhr (cs : List Char) : List Char :=
  if "khr".toList.isSuffixOf cs then
    cs.take (cs.length - 3) ++ "KHR".toList
  else
    cs

/-- The constant without its infix, in lower case, except for a trailing `KHR`. -/
def functionName (constant : String) : String :=
  .ofList (capitalizeKhr
    (Text.lowerAfter [] (Text.without infixText.toList constant.toList)))

end VulkanPrefill.Constant
