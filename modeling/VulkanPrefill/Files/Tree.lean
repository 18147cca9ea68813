import VulkanPrefill.Files.Path
import VulkanPrefill.Table

/-!
# File trees

A file tree has directories, regular files and devices, each at a place, and a directory to start
from. Names are followed one at a time, each in a directory. Reading needs a file at the end of
the path; creating needs only the directory it goes to, and empties a file that is already there.

Three things that a system has are left out. There are no links. There are no permissions, so no
node refuses to be read or made to one who may not. And reading always ends: `/dev/zero`,
`/dev/full`, `/dev/random` and `/dev/urandom`, which a system never comes to the end of, are read as
empty.
-/

namespace VulkanPrefill

/-- The names on the way to a node, the last one first. The root is `[]`. -/
abbrev Place := List String

/-- A device is for writing: who reads one that can be opened finds nothing, also where a system
would go on reading for ever. -/
inductive Device
  /-- Swallows what is written. -/
  | null
  /-- Has no room. -/
  | full
  /-- Is the standard output. -/
  | output
  /-- Is the standard error. -/
  | errors
  /-- Is the terminal of a process that has none. -/
  | terminal
  deriving DecidableEq, Repr

inductive Node
  | directory
  | file (content : List UInt8)
  | device (device : Device)
  deriving DecidableEq, Repr

@[ext]
structure Tree where
  nodes : Table Place Node
  /-- Where relative paths start. -/
  here : Place

namespace Tree

def node? (t : Tree) (place : Place) : Option Node :=
  if place = [] then some .directory else t.nodes.get? place

def setNode (t : Tree) (place : Place) (node : Node) : Tree :=
  { t with nodes := t.nodes.insert place node }

def start (t : Tree) (p : Path) : Place :=
  if p.absolute then [] else t.here

/-- The place that `name` leads to from `place`. -/
def step (t : Tree) (place : Place) (name : String) : Except Cause Place :=
  if t.node? place ≠ some .directory then
    .error .notDirectory
  else if name = "." then
    .ok place
  else if name = ".." then
    .ok place.tail
  else if Path.nameByteLimit < name.utf8ByteSize then
    .error .nameTooLong
  else if (t.node? (name :: place)).isNone then
    .error .notFound
  else
    .ok (name :: place)

def walk (t : Tree) (place : Place) (names : List String) : Except Cause Place :=
  names.foldlM t.step place

/-- What the file at a path holds. -/
def read (t : Tree) (path : String) : Except Cause (List UInt8) := do
  let p ← Path.parse path
  let place ← t.walk (t.start p) p.names
  match t.node? place with
  | some (.file content) => if p.slashed then .error .notDirectory else .ok content
  | some (.device device) =>
    if p.slashed then .error .notDirectory
    else if device = .terminal then .error .noDevice
    else .ok []
  | _ => .error .isDirectory

/-- Whether a directory takes new files. Those in which the system shows the state of its processes
and their streams take none. -/
def takesFiles (place : Place) : Bool :=
  place.getLast? != some "proc" && place != ["fd", "dev"]

/-- The place of the file that a path names, whether it is there or not. -/
def filePlace (t : Tree) (path : String) : Except Cause Place := do
  let p ← Path.parse path
  match p.names.getLast? with
  | none => .error .isDirectory
  | some name =>
    let parent ← t.walk (t.start p) p.names.dropLast
    if t.node? parent ≠ some .directory then
      .error .notDirectory
    else if p.slashed ∨ name = "." ∨ name = ".." then
      .error .isDirectory
    else if Path.nameByteLimit < name.utf8ByteSize then
      .error .nameTooLong
    else if t.node? (name :: parent) = some .directory then
      .error .isDirectory
    else if (t.node? (name :: parent)).isNone ∧ !takesFiles parent then
      .error .notFound
    else if t.node? (name :: parent) = some (.device .terminal) then
      .error .noDevice
    else
      .ok (name :: parent)

/-- The place that `name` leads to, made a directory if nothing is there. -/
def enter (t : Tree) (place : Place) (name : String) : Tree × Place :=
  if name = "." then
    (t, place)
  else if name = ".." then
    (t, place.tail)
  else
    match t.node? (name :: place) with
    | some _ => (t, name :: place)
    | none => (t.setNode (name :: place) .directory, name :: place)

/-- Makes the directories on the way to a path. -/
def enterAll (t : Tree) (place : Place) (names : List String) : Tree × Place :=
  names.foldl (fun s name => s.1.enter s.2 name) (t, place)

def withDirectory (t : Tree) (path : String) : Tree :=
  let p := Path.ofText path
  (t.enterAll (t.start p) p.names).1

/-- The tree with a file at a path, and the directories that lead to it. -/
def withFile (t : Tree) (path : String) (content : List UInt8) : Tree :=
  let p := Path.ofText path
  match p.names.getLast? with
  | none => t
  | some name =>
    let s := t.enterAll (t.start p) p.names.dropLast
    s.1.setNode (name :: s.2) (.file content)

/-- The directories that every system has at its root. -/
def rootDirectories : List String := [
  "bin", "boot", "dev", "etc", "home", "lib", "lib64", "media", "mnt", "opt", "proc", "root", "run",
  "sbin", "srv", "sys", "tmp", "usr", "var"]

/-- The streams of a process by number. -/
def streams : List (String × Device) :=
  [("0", .null), ("1", .output), ("2", .errors)]

def devices : List (String × Device) := [
  ("null", .null), ("zero", .null), ("random", .null), ("urandom", .null), ("full", .full),
  ("stdin", .null), ("stdout", .output), ("stderr", .errors), ("tty", .terminal)]

/-- A directory and the devices in it. -/
def deviceDirectory (place : Place) (ds : List (String × Device)) : List (Place × Node) :=
  (place, .directory) :: ds.map fun d => (d.1 :: place, .device d.2)

/-- A system with nothing but its directories and devices, seen from an empty directory. -/
def bare : Tree where
  nodes := .ofList (rootDirectories.map (([·], .directory))
    ++ deviceDirectory ["dev"] devices ++ deviceDirectory ["fd", "dev"] streams
    ++ [(["pts", "dev"], .directory), (["shm", "dev"], .directory), (["self", "proc"], .directory)]
    ++ deviceDirectory ["fd", "self", "proc"] streams ++ [(["work", "tmp"], .directory)])
  here := ["work", "tmp"]

/-- The path from where one stands to a place below. -/
def pathTo? (t : Tree) (place : Place) : Option String :=
  if t.here.isSuffixOf place then
    some ("/".intercalate (place.take (place.length - t.here.length)).reverse)
  else
    none

/-- The regular files below the start that `t` does not have with this content. -/
def changes (t after : Tree) : List (String × List UInt8) :=
  after.nodes.entries.filterMap fun (place, node) =>
    match node with
    | .file content =>
      if t.node? place = some node then none
      else (after.pathTo? place).map (·, content)
    | _ => none

end Tree

end VulkanPrefill
