import VulkanPrefill.Text.Blank

/-!
# Words

A text's words are its longest stretches without white space.
-/

namespace VulkanPrefill.Text

def words (cs : List Char) : List (List Char) :=
  (cs.splitOnP isBlank).filter (!·.isEmpty)

/-- The words on the two sides of a blank are found apart. -/
theorem words_append_blank {c : Char} (hc : isBlank c = true) (xs ys : List Char) :
    words (xs ++ c :: ys) = words xs ++ words ys := by
  unfold words
  rw [List.splitOnP_append_cons xs ys hc, List.filter_append]

end VulkanPrefill.Text
