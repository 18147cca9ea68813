import VulkanPrefill.Text.Cased
import VulkanPrefill.Text.LowerRuns

/-!
# Lower case of a text

Each character is lowered on its own, except the capital sigma, which looks around: it takes its
final form at the end of a word. The word ends where the nearest character before it that is not
case ignorable is cased and the nearest one after it is not. Nothing is normalised.
-/

namespace VulkanPrefill.Text

/-- Whether the first character that is not case ignorable is there and cased. -/
def reachesCased (cs : List Char) : Bool :=
  (cs.find? fun c => !isCaseIgnorable c).any isCased

/-- The lower case of `c`, which stands after `before`, read backwards, and before `after`. -/
def lowerBetween (before : List Char) (c : Char) (after : List Char) : List Char :=
  if c = 'Σ' then
    [if reachesCased before && !reachesCased after then 'ς' else 'σ']
  else if c = 'İ' then
    ['i', '\u0307']
  else
    [lowerChar c]

/-- The lower case of a text that stands after `before`, read backwards. -/
def lowerAfter (before : List Char) : List Char → List Char
  | [] => []
  | c :: cs => lowerBetween before c cs ++ lowerAfter (c :: before) cs

def lower (s : String) : String :=
  .ofList (lowerAfter [] s.toList)

@[simp] theorem toList_lower (s : String) : (lower s).toList = lowerAfter [] s.toList := by
  simp [lower]

end VulkanPrefill.Text
