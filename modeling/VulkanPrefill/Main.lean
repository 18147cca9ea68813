import VulkanPrefill.Command.Run

/-!
# The program

Runs the command on the system's own files.
-/

namespace VulkanPrefill

/-- The causes with a system error number of their own. -/
def Cause.ofNumber? : UInt32 → Option Cause
  | 2 => some notFound
  | 6 => some noDevice
  | 20 => some notDirectory
  | 21 => some isDirectory
  | 28 => some noSpace
  | 36 => some nameTooLong
  | _ => none

/-- Some system calls report their error numbers negated. -/
def Cause.ofError (e : IO.Error) : Cause :=
  let named := match e with
    | .noFileOrDirectory _ n _ | .inappropriateType _ n _ | .resourceExhausted _ n _
    | .invalidArgument _ n _ | .noSuchThing _ n _ => Cause.ofNumber? (min n (0 - n))
    | _ => none
  named.getD (.other (toString e))

def attempt {α : Type} (act : IO α) : IO (Except Cause α) :=
  try
    return .ok (← act)
  catch e =>
    return .error (.ofError e)

/-- The system, with the two streams that a program starts with. -/
def systemHost (output errors : IO.FS.Stream) : Command.Host IO IO.FS.Stream where
  read path := attempt do return (← IO.FS.readBinFile path).data.toList
  create path := attempt do return .ofHandle (← IO.FS.Handle.mk path .write)
  standardOutput := output
  standardError := errors
  write stream text := attempt do
    stream.putStr text
    stream.flush

end VulkanPrefill

def main (arguments : List String) : IO UInt32 := do
  let host := VulkanPrefill.systemHost (← IO.getStdout) (← IO.getStderr)
  let code ← VulkanPrefill.Command.execute host (← IO.getEnv "VULKAN_SDK") arguments
  return code.toUInt32
