/-!
# Options

The arguments are read from left to right. Three settings take a value, in the same argument or in
the next one; two flags take none. The first thing that stops the reading, a fault or a call for
help, is the answer. The SDK root may come from the environment when no argument gives it.
-/

namespace VulkanPrefill.Command

/-- A setting that takes a value. -/
inductive Setting
  | sdk
  | header
  | output
  deriving DecidableEq, Repr

def Setting.name : Setting → String
  | sdk => "sdk"
  | header => "header"
  | output => "output"

structure Options where
  sdk : Option String := none
  header : Option String := none
  output : Option String := none
  verbosity : Nat := 0
  deriving DecidableEq, Repr

inductive UsageFault
  | unexpected (argument : String)
  | missingValue (setting : Setting)
  | emptyValue (setting : Setting)
  | repeated (setting : Setting)
  | valueForFlag (name : String)
  deriving DecidableEq, Repr

def UsageFault.message : UsageFault → String
  | unexpected argument => "unexpected argument '" ++ argument ++ "'"
  | missingValue setting => "a value is required for '--" ++ setting.name ++ "'"
  | emptyValue setting => "the value for '--" ++ setting.name ++ "' must not be empty"
  | repeated setting => "'--" ++ setting.name ++ "' cannot be given twice"
  | valueForFlag name => "'--" ++ name ++ "' takes no value"

/-- What ends the reading of arguments before the last one. -/
inductive Stop
  | help
  | fault (fault : UsageFault)
  deriving DecidableEq, Repr

def reject {α : Type} (fault : UsageFault) : Except Stop α :=
  .error (.fault fault)

namespace Options

def get? (o : Options) : Setting → Option String
  | .sdk => o.sdk
  | .header => o.header
  | .output => o.output

def assign (o : Options) (value : String) : Setting → Options
  | .sdk => { o with sdk := some value }
  | .header => { o with header := some value }
  | .output => { o with output := some value }

/-- Gives a setting its value: not an empty one, and not twice. -/
def give (o : Options) (s : Setting) (value : String) : Except Stop Options :=
  if value.isEmpty then
    reject (.emptyValue s)
  else if (o.get? s).isSome then
    reject (.repeated s)
  else
    .ok (o.assign value s)

/-- The count of verbosity marks stops at this. -/
def verbosityLimit : Nat := 255

def louder (o : Options) : Options :=
  { o with verbosity := min verbosityLimit (o.verbosity + 1) }

end Options

/-- What the name or the letter of an option stands for. -/
inductive Role
  | setting (s : Setting)
  | louder
  | help
  deriving DecidableEq, Repr

def Role.ofName? : String → Option Role
  | "sdk" => some (.setting .sdk)
  | "header" => some (.setting .header)
  | "output" => some (.setting .output)
  | "verbose" => some .louder
  | "help" => some .help
  | _ => none

def Role.ofLetter? : Char → Option Role
  | 'o' => some (.setting .output)
  | 'v' => some .louder
  | 'h' => some .help
  | _ => none

/-- The form of an argument. -/
inductive Argument
  /-- `--name` or `--name=value`. -/
  | long (name : String) (value : Option String)
  /-- A dash and one or more letters. -/
  | cluster (letters : List Char)
  /-- `--`: no options follow. -/
  | separator
  | plain (text : String)
  deriving DecidableEq, Repr

namespace Argument

/-- The value after the first equals sign, if there is one. -/
def assigned? (cs : List Char) : Option String :=
  match cs.dropWhile (· ≠ '=') with
  | [] => none
  | _ :: value => some (.ofList value)

/-- The value that follows a letter of a cluster, after an equals sign if there is one. -/
def attached? : List Char → Option String
  | [] => none
  | '=' :: cs => some (.ofList cs)
  | cs => some (.ofList cs)

def ofString (s : String) : Argument :=
  match s.toList with
  | ['-', '-'] => separator
  | '-' :: '-' :: cs => long (.ofList (cs.takeWhile (· ≠ '='))) (assigned? cs)
  | '-' :: c :: cs => cluster (c :: cs)
  | _ => plain s

end Argument

/-- How far the reading has come: the options so far, the setting whose value is the next
argument, and whether options have ended. -/
structure Reading where
  options : Options := {}
  awaiting : Option Setting := none
  separated : Bool := false
  deriving DecidableEq, Repr

namespace Reading

/-- Reads a setting with its value, or leaves the value to the next argument. -/
def setting (r : Reading) (s : Setting) : Option String → Except Stop Reading
  | none => .ok { r with awaiting := some s }
  | some value => do return { r with options := ← r.options.give s value }

def louder (r : Reading) : Reading :=
  { r with options := r.options.louder }

def long (r : Reading) (name : String) (value : Option String) : Except Stop Reading :=
  match Role.ofName? name, value with
  | some (.setting s), _ => r.setting s value
  | some .louder, none => .ok r.louder
  | some .help, none => .error .help
  | some _, some _ => reject (.valueForFlag name)
  | none, _ => reject (.unexpected ("--" ++ name))

/-- Reads a cluster letter by letter. A letter that takes a value takes the rest. -/
def cluster (r : Reading) : List Char → Except Stop Reading
  | [] => .ok r
  | c :: cs =>
    match Role.ofLetter? c with
    | some (.setting s) => r.setting s (Argument.attached? cs)
    | some .louder => cluster r.louder cs
    | some .help => .error .help
    | none => reject (.unexpected (.ofList ['-', c]))

/-- Reads an argument as the value of `s`. A value that stands alone does not look like an
option. -/
def value (r : Reading) (s : Setting) (argument : String) : Except Stop Reading :=
  match Argument.ofString argument with
  | .plain text => do return { r with options := ← r.options.give s text, awaiting := none }
  | _ => reject (.missingValue s)

def next (r : Reading) (argument : String) : Except Stop Reading :=
  if r.separated then
    reject (.unexpected argument)
  else
    match r.awaiting with
    | some s => r.value s argument
    | none =>
      match Argument.ofString argument with
      | .separator => .ok { r with separated := true }
      | .long name value => r.long name value
      | .cluster letters => r.cluster letters
      | .plain text => reject (.unexpected text)

/-- The options that were read, with the SDK root from the environment if they name none. -/
def finish (r : Reading) (envSdk : Option String) : Except Stop Options :=
  match r.awaiting, r.options.sdk, envSdk with
  | some s, _, _ => reject (.missingValue s)
  | none, none, some root => r.options.give .sdk root
  | none, _, _ => .ok r.options

end Reading

/-- Reads all arguments. -/
def Options.read (envSdk : Option String) (arguments : List String) : Except Stop Options := do
  let r ← arguments.foldlM Reading.next {}
  r.finish envSdk

end VulkanPrefill.Command
