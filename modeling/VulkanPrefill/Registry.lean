import VulkanPrefill.Scan.Block
import VulkanPrefill.Scan.Given

/-!
# The registry

What a header's lines say about structs and their initializers. The structs are collected first,
then the enum is looked for, then its block, and its constants are matched last; the first of
these that fails is the answer.
-/

namespace VulkanPrefill

@[ext]
structure Registry where
  structs : Table String String
  initializers : Table String Initializer

namespace Registry

def ofLines (ls : List Line) : Traced ScanFault Registry := do
  let structs ← Scan.structTable ls
  let d ← Traced.ofExcept (Scan.enumDeclaration ls)
  let block ← Traced.ofExcept (Scan.enumBlock ls d)
  let initializers ← Scan.initializerTable structs block
  Traced.tell (.crawled structs.size block.length initializers.size)
  return ⟨structs, initializers⟩

/-- The registry of lines that may have been made by hand. The places of the enum and of its block
are counted in the list itself, where there is no overflow. -/
def ofGiven (ls : List Line) : Traced Scan.Halt Registry := do
  let structs ← Scan.Given.structTable ls
  let d ← Traced.mapFault .fault (Traced.ofExcept (Scan.enumDeclaration ls))
  let block ← Traced.mapFault .fault (Traced.ofExcept (Scan.enumBlock ls d))
  let initializers ← Scan.Given.initializerTable structs block
  Traced.tell (.crawled structs.size block.length initializers.size)
  return ⟨structs, initializers⟩

/-- The initializer of the struct `name`, written in any case. -/
def initializer? (r : Registry) (name : String) : Option Initializer :=
  r.initializers.get? (Text.lower name)

/-- The initializers in table order. -/
def initializerList (r : Registry) : List Initializer :=
  r.initializers.entries.map Prod.snd

end Registry

end VulkanPrefill
