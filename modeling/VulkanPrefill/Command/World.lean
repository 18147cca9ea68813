import VulkanPrefill.Command.Run
import VulkanPrefill.Files.Tree

/-!
# Running the command on a file tree

A world is a file tree and what has been printed and said. It is a host without a system behind it,
on which every effect of a run can be seen.
-/

namespace VulkanPrefill.Command

/-- What is written through in a world: one of its two streams, or a place in its tree. -/
inductive Target
  | standardOutput
  | standardError
  | place (place : Place)
  deriving DecidableEq, Repr

@[ext]
structure World where
  tree : Tree
  /-- What went to the standard output. -/
  printed : String := ""
  /-- What went to the standard error. -/
  said : String := ""

namespace World

def print (w : World) (text : String) : World :=
  { w with printed := w.printed ++ text }

def say (w : World) (text : String) : World :=
  { w with said := w.said ++ text }

/-- Makes the file at a path, or empties it. A device stays as it is. -/
def create (w : World) (path : String) : Except Cause Target × World :=
  match w.tree.filePlace path with
  | .error cause => (.error cause, w)
  | .ok place =>
    match w.tree.node? place with
    | some (.device _) => (.ok (.place place), w)
    | _ => (.ok (.place place), { w with tree := w.tree.setNode place (.file []) })

/-- Writes once. A regular file, which was empty, then holds the text. -/
def write (w : World) (target : Target) (text : String) : Except Cause Unit × World :=
  match target with
  | .standardOutput => (.ok (), w.print text)
  | .standardError => (.ok (), w.say text)
  | .place place =>
    match w.tree.node? place with
    | some (.device .null) => (.ok (), w)
    | some (.device .full) => (if text.isEmpty then .ok () else .error .noSpace, w)
    | some (.device .output) => (.ok (), w.print text)
    | some (.device .errors) => (.ok (), w.say text)
    | _ => (.ok (), { w with tree := w.tree.setNode place (.file (Text.toBytes text)) })

def host : Host (StateM World) Target where
  read path := do return (← get).tree.read path
  create path := modifyGet (·.create path)
  standardOutput := .standardOutput
  standardError := .standardError
  write target text := modifyGet (·.write target text)

/-- The lines on the standard error. -/
def errorLines (w : World) : List String :=
  Text.lines w.said

end World

/-- Runs the command where the files are `tree`. Answers the exit code, and the world it leaves. -/
def runOn (tree : Tree) (envSdk : Option String) (arguments : List String) : Nat × World :=
  (execute World.host envSdk arguments).run { tree }

end VulkanPrefill.Command
