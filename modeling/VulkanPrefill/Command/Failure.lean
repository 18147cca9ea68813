import VulkanPrefill.Header
import VulkanPrefill.Output.Source
import VulkanPrefill.Scan.Fault

/-!
# Failures of the command

Each failure is reported by what could not be done and, where there is one, by its cause.
-/

namespace VulkanPrefill.Command

inductive Failure
  | header (fault : HeaderFault)
  /-- The header at `path` was read, but lacks what a registry needs. -/
  | scan (path : String) (fault : ScanFault)
  | create (path : String) (cause : Cause)
  | write (cause : Cause)
  deriving DecidableEq, Repr

namespace Failure

def message : Failure → String
  | header fault => fault.message
  | scan path _ => "'" ++ path ++ "' does not look like vulkan_core.h"
  | create path _ => "could not create '" ++ path ++ "'"
  | write _ => Output.writeFaultMessage

def cause? : Failure → Option String
  | header fault => fault.cause?.map (·.message)
  | scan _ fault => some fault.message
  | create _ cause | write cause => some cause.message

/-- The report, line by line. -/
def report (f : Failure) : List String :=
  ("Error: " ++ f.message) ::
    match f.cause? with
    | none => []
    | some cause => ["", "Caused by:", "    " ++ cause]

end Failure

end VulkanPrefill.Command
