/-!
# Initializers

A struct, the constant that is its structure type, and the name of the function that fills it in.
-/

namespace VulkanPrefill

structure Initializer where
  structName : String
  constant : String
  functionName : String
  deriving DecidableEq, Repr

/-- The function's source text: it returns its argument, or an empty struct, with the structure
type set. -/
def Initializer.definition (i : Initializer) : String :=
  "static inline " ++ i.structName ++ " " ++ i.functionName ++ "(" ++ i.structName
    ++ " value = \x7b\x7d) \x7b value.sType = " ++ i.constant ++ "; return value; \x7d"

end VulkanPrefill
