import VulkanPrefill.Scan.Constants
import VulkanPrefill.Scan.Structs

/-!
# Scanning lines that were not cut from a text

Such lines may have numbers that no machine word holds. The scan takes the number of every line that
declares a struct and of every line of the block, whether or not there is a fault to report on it,
and it halts at the first one that overflows. Otherwise it goes on as if numbers had no limit.
-/

namespace VulkanPrefill.Scan

/-- Why a scan has no result. -/
inductive Halt
  | fault (fault : ScanFault)
  /-- A number is taken that a machine word does not hold. -/
  | overflow
  deriving DecidableEq, Repr

namespace Given

/-- A part of the scan that may take the number of `line` first. -/
def checked {α : Type} (takes : Bool) (line : Line) (run : Traced ScanFault α) : Traced Halt α :=
  if takes && !line.numberFits then
    Traced.fail .overflow
  else
    run.mapFault .fault

/-- A walk that may take the number of the line at each element. -/
def walk {α σ : Type} (takes : α → Bool) (line : α → Line) (f : σ → α → Traced ScanFault σ)
    (as : List α) (s : σ) : Traced Halt σ :=
  as.foldlM (fun s a => checked (takes a) (line a) (f s a)) s

def structTable (ls : List Line) : Traced Halt (Table String String) :=
  walk (·.1.declaresStruct) (·.1) (fun structs l => enterStruct structs l.1 l.2) (withNext ls)
    .empty

def initializerTable (structs : Table String String) (block : List Line) :
    Traced Halt (Table String Initializer) :=
  walk (fun _ => true) id (enterConstant structs) block .empty

end Given

end VulkanPrefill.Scan
