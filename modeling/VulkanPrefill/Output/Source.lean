import VulkanPrefill.Output.Sink
import VulkanPrefill.Registry
import VulkanPrefill.Text.Bytes

/-!
# The generated source

A comment line, and then one function a line for each initializer, in table order. The text is
written line by line into a sink, which is flushed once at the end.
-/

namespace VulkanPrefill.Output

def defaultComment : String :=
  "// Generated by vk_initgen from vulkan_core.h. Do not edit."

def sourceLines (comment : String) (r : Registry) : List String :=
  comment :: r.initializerList.map (·.definition)

/-- The whole text, every line ended by a line feed. -/
def source (comment : String) (r : Registry) : String :=
  Text.ofLines (sourceLines comment r)

def writeLines : List String → Sink.Use Unit
  | [] => return ()
  | l :: ls => do
    Sink.write (Text.toBytes (l ++ "\n"))
    writeLines ls

/-- The end of a run that has written the source. -/
def finish {ε : Type} (r : Registry) (written : Except ε Unit) : Traced ε Unit := do
  Traced.ofExcept written
  Traced.tell (.generated r.initializers.size)

/-- Writes the source into `s`. -/
def generate (comment : String) (r : Registry) (s : Sink) : Traced Cause Unit × Sink :=
  let (written, s) := (do writeLines (sourceLines comment r); Sink.flush : Sink.Use Unit).run.run s
  (finish r written, s)

def writeFaultMessage : String := "failed to write generated initializers"

end VulkanPrefill.Output
