import VulkanPrefill.Scan.Marker

/-!
# What can be wrong with a header

Each fault is a line that lacks what its markers promise, or a marker that is nowhere. Lines are
named by their number, counted from one.
-/

namespace VulkanPrefill

inductive ScanFault
  /-- A struct is declared on the last line. -/
  | truncatedStruct (line : Nat)
  | missingStructName (line : Nat)
  | enumNotFound
  /-- No line after the declaration ends the enum. -/
  | unterminatedEnum (line : Nat)
  | missingConstantName (line : Nat)
  deriving DecidableEq, Repr

def ScanFault.message : ScanFault → String
  | truncatedStruct line =>
    "struct declaration on line " ++ toString line ++ " is the last line of the header"
  | missingStructName line =>
    "struct declaration on line " ++ toString line ++ " has no type name"
  | enumNotFound => "`" ++ Marker.structureTypeEnum ++ "` not found in header"
  | unterminatedEnum line =>
    "structure type enum declared on line " ++ toString line ++ " is never terminated"
  | missingConstantName line =>
    "line " ++ toString line ++ " of the structure type enum has no constant name"

end VulkanPrefill
