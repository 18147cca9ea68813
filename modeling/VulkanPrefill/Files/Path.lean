import VulkanPrefill.Cause

/-!
# Paths

A path is a text that names a place in a file tree, from the root or from where one stands. Empty
names between slashes are skipped; a slash at the end is remembered, since only a directory may
have one.
-/

namespace VulkanPrefill

structure Path where
  absolute : Bool
  names : List String
  slashed : Bool
  deriving DecidableEq, Repr

namespace Path

/-- A path's text has fewer bytes than this. -/
def byteLimit : Nat := 4096

/-- A single name has at most this many bytes. -/
def nameByteLimit : Nat := 255

def ofText (s : String) : Path where
  absolute := s.toList.head? == some '/'
  names := ((s.toList.splitOn '/').filter (!·.isEmpty)).map .ofList
  slashed := s.toList.getLast? == some '/'

/-- Reads a path. No path holds a null character, is empty or is too long. -/
def parse (s : String) : Except Cause Path :=
  if s.toList.contains '\x00' then
    .error .nulInPath
  else if s.isEmpty then
    .error .notFound
  else if byteLimit ≤ s.utf8ByteSize then
    .error .nameTooLong
  else
    .ok (ofText s)

end Path

end VulkanPrefill
