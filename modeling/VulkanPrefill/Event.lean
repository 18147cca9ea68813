import VulkanPrefill.Text.Quoted

/-!
# The log

What is worth telling while a header is read and matched. An event is a fact with its numbers and
names; its level, its origin and its wording follow from which fact it is.
-/

namespace VulkanPrefill

inductive Level
  | info
  | debug
  | trace
  deriving DecidableEq, Repr

/-- How many times the user has to ask for more before events of this level are shown. -/
def Level.depth : Level → Nat
  | info => 1
  | debug => 2
  | trace => 3

def Level.name : Level → String
  | info => "INFO"
  | debug => "DEBUG"
  | trace => "TRACE"

inductive Event
  /-- The header at `path` was read. -/
  | loaded (path : String) (lines : Nat)
  /-- The struct `new`, announced on `line`, has the key of `old` and takes its place. -/
  | structReplaced (old new : String) (line : Nat)
  /-- No struct has the key of `constant`. -/
  | unmatched (constant : String)
  /-- The constant `new` matches the struct that `old` matched before. -/
  | constantReplaced (structName old new : String)
  /-- A registry was built from a block of `constants` lines. -/
  | crawled (structs constants initializers : Nat)
  /-- All initializers were written. -/
  | generated (initializers : Nat)
  deriving DecidableEq, Repr

/-- A value beside an event: a number, a text shown as it is, or a text shown in quotes. -/
inductive Field
  | number (n : Nat)
  | plain (s : String)
  | quoted (s : String)
  deriving DecidableEq, Repr

def Field.render : Field → String
  | number n => toString n
  | plain s => s
  | quoted s => Text.quoted s

namespace Event

def level : Event → Level
  | loaded .. | crawled .. | generated .. => .info
  | structReplaced .. | constantReplaced .. => .debug
  | unmatched .. => .trace

def origin : Event → String
  | loaded .. => "vk_initgen::header"
  | structReplaced .. | unmatched .. | constantReplaced .. => "vk_initgen::registry::crawler"
  | crawled .. => "vk_initgen::registry"
  | generated .. => "vk_initgen::generator"

def message : Event → String
  | loaded .. => "loaded header"
  | structReplaced .. => "struct key declared twice, keeping the later one"
  | unmatched .. => "no struct for constant"
  | constantReplaced .. => "struct matched twice, keeping the later constant"
  | crawled .. => "crawled header"
  | generated .. => "generated initializers"

def fields : Event → List (String × Field)
  | loaded path lines => [("path", .plain path), ("lines", .number lines)]
  | structReplaced old new line =>
    [("old", .quoted old), ("new", .quoted new), ("line", .number line)]
  | unmatched constant => [("constant", .quoted constant)]
  | constantReplaced structName old new =>
    [("struct_name", .quoted structName), ("old", .quoted old), ("new", .quoted new)]
  | crawled structs constants initializers =>
    [("structs", .number structs), ("constants", .number constants),
      ("initializers", .number initializers)]
  | generated initializers => [("initializers", .number initializers)]

/-- The level's name, set flush right in five columns. -/
def levelColumn (e : Event) : String :=
  "".pushn ' ' (5 - e.level.name.length) ++ e.level.name

def render (e : Event) : String :=
  e.levelColumn ++ " " ++ e.origin ++ ": " ++ e.message
    ++ String.join (e.fields.map fun f => " " ++ f.1 ++ "=" ++ f.2.render)

/-- Whether the event is shown to a user who asked `verbosity` times for more. -/
def shownAt (verbosity : Nat) (e : Event) : Bool :=
  e.level.depth ≤ verbosity

end Event

end VulkanPrefill
