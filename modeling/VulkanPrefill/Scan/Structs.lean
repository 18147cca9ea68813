import VulkanPrefill.Scan.Fault
import VulkanPrefill.Table
import VulkanPrefill.Text.Lower
import VulkanPrefill.Traced

/-!
# The struct table

A line that declares a struct announces it when the next line names the structure type. The
announced name is the line's third word. The table holds the announced names by their lower case;
when two names share it the later one stays.
-/

namespace VulkanPrefill.Scan

/-- The name that `line` announces, if any, where `next` is the line after it. -/
def announcedStruct (line : Line) (next : Option Line) : Except ScanFault (Option String) :=
  if line.declaresStruct then
    match next with
    | none => .error (.truncatedStruct line.number)
    | some next =>
      if next.namesStructureType then
        match line.word? 2 with
        | none => .error (.missingStructName line.number)
        | some name => .ok (some name)
      else
        .ok none
  else
    .ok none

/-- Each line with the line after it. -/
def withNext : List Line → List (Line × Option Line)
  | [] => []
  | l :: ls => (l, ls.head?) :: withNext ls

/-- Enters the struct that `line` announces. -/
def enterStruct (structs : Table String String) (line : Line) (next : Option Line) :
    Traced ScanFault (Table String String) := do
  match ← Traced.ofExcept (announcedStruct line next) with
  | none => return structs
  | some name =>
    let key := Text.lower name
    Traced.tell? ((structs.get? key).map fun old => .structReplaced old name line.number)
    return structs.insert key name

def structTable (ls : List Line) : Traced ScanFault (Table String String) :=
  (withNext ls).foldlM (fun structs l => enterStruct structs l.1 l.2) .empty

end VulkanPrefill.Scan
