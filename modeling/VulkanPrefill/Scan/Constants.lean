import VulkanPrefill.Constant
import VulkanPrefill.Initializer
import VulkanPrefill.Scan.Fault
import VulkanPrefill.Table
import VulkanPrefill.Traced

/-!
# Matching constants to structs

Every line of the block has a constant as its first word. A constant whose key is in the struct
table gives an initializer; when two constants have one key the later one stays, in the place of
the first.
-/

namespace VulkanPrefill.Scan

/-- Enters the initializer for the constant on `line`, if a struct has its key. -/
def enterConstant (structs : Table String String) (initializers : Table String Initializer)
    (line : Line) : Traced ScanFault (Table String Initializer) := do
  match line.word? 0 with
  | none => Traced.fail (.missingConstantName line.number)
  | some constant =>
    let key := Constant.structKey constant
    match structs.get? key with
    | none =>
      Traced.tell (.unmatched constant)
      return initializers
    | some structName =>
      Traced.tell? ((initializers.get? key).map fun old =>
        .constantReplaced structName old.constant constant)
      return initializers.insert key ⟨structName, constant, Constant.functionName constant⟩

def initializerTable (structs : Table String String) (block : List Line) :
    Traced ScanFault (Table String Initializer) :=
  block.foldlM (enterConstant structs) .empty

end VulkanPrefill.Scan
