import VulkanPrefill.Command.Failure
import VulkanPrefill.Command.Help
import VulkanPrefill.Command.Options

/-!
# Running the command

The command reads the header, builds the registry, and only then opens its output. What it has to
say goes to the standard error as the run goes on, so that a log line told before the output is
written stands before it even where both go the same way. The command sees files through a host,
so that the same run can be made on a real system and on a file tree.
-/

namespace VulkanPrefill.Command

/-- The acts that a run needs done for it. `η` is what a text is written through. -/
structure Host (m : Type → Type) (η : Type) where
  /-- What the file at a path holds. -/
  read : String → m (Except Cause (List UInt8))
  /-- Makes the file at a path, or empties it. -/
  create : String → m (Except Cause η)
  standardOutput : η
  standardError : η
  write : η → String → m (Except Cause Unit)

/-- The registry of the header at `path`, where `content` is what reading it gave. -/
def scan (path : String) (content : Except Cause (List UInt8)) : Traced Failure Registry := do
  let ls ← (Header.lines path content).mapFault .header
  (Registry.ofLines ls).mapFault (.scan path)

/-- The log lines that a user who asked `verbosity` times for more gets to see. -/
def logLines (verbosity : Nat) (events : List Event) : List String :=
  (events.filter (·.shownAt verbosity)).map (·.render)

variable {m : Type → Type} [Monad m] {η : Type}

/-- Says lines on the standard error. That they cannot be said is nowhere to be told. -/
def say (host : Host m η) (ls : List String) : m Unit := do
  let _ ← host.write host.standardError (Text.ofLines ls)

/-- What the output is written through: the standard output, if no file is asked for. -/
def openOutput (host : Host m η) : Option String → m (Except Failure η)
  | none => return .ok host.standardOutput
  | some path => return (← host.create path).mapError (.create path)

/-- Brings a text to the output. -/
def deliver (host : Host m η) (output : Option String) (text : String) :
    m (Except Failure Unit) := do
  match ← openOutput host output with
  | .error failure => return .error failure
  | .ok out => return (← host.write out text).mapError .write

/-- One run with the options given. -/
def perform (host : Host m η) (o : Options) : m (Except Failure Unit) := do
  match Header.locate o.header o.sdk with
  | .error fault => return .error (.header fault)
  | .ok path =>
    let scanned := scan path (← host.read path)
    say host (logLines o.verbosity scanned.events)
    match scanned.result with
    | .error failure => return .error failure
    | .ok registry =>
      let delivered ← deliver host o.output (Output.source Output.defaultComment registry)
      let finished := Output.finish registry delivered
      say host (logLines o.verbosity finished.events)
      return finished.result

/-- The whole command: reads the arguments, and shows the help, complains or runs. Answers the exit
code. -/
def execute (host : Host m η) (envSdk : Option String) (arguments : List String) : m Nat := do
  match Options.read envSdk arguments with
  | .error .help =>
    let _ ← host.write host.standardOutput (help envSdk)
    return 0
  | .error (.fault f) =>
    say host ["error: " ++ f.message]
    return 2
  | .ok o =>
    match ← perform host o with
    | .ok () => return 0
    | .error failure =>
      say host failure.report
      return 1

end VulkanPrefill.Command
