import VulkanPrefill.Cause
import VulkanPrefill.Line
import VulkanPrefill.Text.Bytes
import VulkanPrefill.Traced

/-!
# Where the header is and what it says

A header is named outright or found below an SDK root. What was read there has to be text.
-/

namespace VulkanPrefill

inductive HeaderFault
  /-- Neither a header nor an SDK root is given. -/
  | missingSdk
  | unreadable (path : String) (cause : Cause)
  deriving DecidableEq, Repr

namespace HeaderFault

def message : HeaderFault → String
  | missingSdk => "no header given and VULKAN_SDK is not set"
  | unreadable path _ => "could not read header '" ++ path ++ "'"

def cause? : HeaderFault → Option Cause
  | missingSdk => none
  | unreadable _ cause => some cause

end HeaderFault

namespace Header

/-- Where an SDK keeps the header, below its root. -/
def sdkPath : String := "Include/vulkan/vulkan_core.h"

/-- `path` below `root`, with a slash between unless the root ends in one or is empty. -/
def below (root path : String) : String :=
  if root.isEmpty || root.toList.getLast? == some '/' then root ++ path else root ++ "/" ++ path

/-- An explicit header wins over an SDK root. -/
def locate (header sdk : Option String) : Except HeaderFault String :=
  match header, sdk with
  | some header, _ => .ok header
  | none, some sdk => .ok (below sdk sdkPath)
  | none, none => .error .missingSdk

/-- The lines of the header at `path`, where `content` is what reading it gave. -/
def lines (path : String) (content : Except Cause (List UInt8)) :
    Traced HeaderFault (List Line) :=
  match content with
  | .error cause => Traced.fail (.unreadable path cause)
  | .ok bytes =>
    match Text.ofBytes? bytes with
    | none => Traced.fail (.unreadable path .notUtf8)
    | some text => do
      let ls := Line.ofText text
      Traced.tell (.loaded path ls.length)
      return ls

end Header

end VulkanPrefill
