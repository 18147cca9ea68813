import VulkanPrefill.Scan.Fault

/-!
# The block of structure type constants

The enum is declared by the last line with its marker. Its block is what stands after that line and
before the next line with a terminator; a terminator on the declaring line itself ends nothing.
-/

namespace VulkanPrefill.Scan

/-- The position of the last element with `p`. -/
def lastPosition? {α : Type} (p : α → Bool) : List α → Option Nat
  | [] => none
  | a :: as =>
    match lastPosition? p as with
    | some i => some (i + 1)
    | none => if p a then some 0 else none

def enumDeclaration (ls : List Line) : Except ScanFault Nat :=
  match lastPosition? (·.declaresEnum) ls with
  | none => .error .enumNotFound
  | some d => .ok d

/-- The block of an enum declared at position `d`. -/
def enumBlock (ls : List Line) (d : Nat) : Except ScanFault (List Line) :=
  let body := ls.drop (d + 1)
  if body.any (·.endsEnum) then
    .ok (body.takeWhile fun l => !l.endsEnum)
  else
    .error (.unterminatedEnum (d + 1))

end VulkanPrefill.Scan
