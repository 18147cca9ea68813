/-!
# Why the system refused

What an attempt to read or write can run into, with the words in which the system says it.
-/

namespace VulkanPrefill

inductive Cause
  | notFound
  | noDevice
  | notDirectory
  | isDirectory
  | noSpace
  | nameTooLong
  | nulInPath
  | notUtf8
  /-- The attempt was interrupted, as the text says, and is to be made again. -/
  | interrupted (text : String)
  /-- A sink took none of the bytes it was offered. -/
  | nothingTaken
  /-- The attempt is made again and again without an end, so nothing is ever said of it. -/
  | endless
  | other (text : String)
  deriving DecidableEq, Repr

namespace Cause

def message : Cause → String
  | notFound => "No such file or directory (os error 2)"
  | noDevice => "No such device or address (os error 6)"
  | notDirectory => "Not a directory (os error 20)"
  | isDirectory => "Is a directory (os error 21)"
  | noSpace => "No space left on device (os error 28)"
  | nameTooLong => "File name too long (os error 36)"
  | nulInPath => "file name contained an unexpected NUL byte"
  | notUtf8 => "stream did not contain valid UTF-8"
  | interrupted text => text
  | nothingTaken => "failed to write whole buffer"
  | endless => ""
  | other text => text

/-- Whether whoever runs into it tries again. -/
def retried : Cause → Bool
  | interrupted _ => true
  | _ => false

end Cause

end VulkanPrefill
