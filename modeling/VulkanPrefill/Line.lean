import VulkanPrefill.Text.EndedLine
import VulkanPrefill.Text.Search
import VulkanPrefill.Text.Words

/-!
# Header lines

A header is read line by line. A line carries its position in the text it was cut from, so that a
fault can name it after lines have been left out or reordered. A position is never so large that a
machine word does not hold the number after it, but a line that was not cut from a text may have any
index that a word holds, and then its number may not fit (`Line.numberFits`).
-/

namespace VulkanPrefill

structure Line where
  index : Nat
  text : String
  deriving DecidableEq, Repr

namespace Line

/-- Lines are numbered from one where people read about them. -/
def number (l : Line) : Nat :=
  l.index + 1

/-- Whether a machine word holds the number. -/
def numberFits (l : Line) : Bool :=
  l.number < UInt64.size

def contains (l : Line) (pattern : String) : Bool :=
  Text.occursIn pattern.toList l.text.toList

def words (l : Line) : List String :=
  (Text.words l.text.toList).map .ofList

def word? (l : Line) (n : Nat) : Option String :=
  l.words[n]?

/-- The lines of a text, without what ends them. -/
def ofText (text : String) : List Line :=
  (Text.lines text).mapIdx fun i l => ⟨i, l⟩

theorem map_text_ofText (text : String) : (ofText text).map Line.text = Text.lines text := by
  refine List.ext_getElem? fun i => ?_
  rw [List.getElem?_map, ofText, List.getElem?_mapIdx, Option.map_map]
  exact Option.map_id'

end Line

theorem getElem?_ofText {text : String} {i : Nat} {l : Line}
    (h : (Line.ofText text)[i]? = some l) : l.index = i := by
  unfold Line.ofText at h
  rw [List.getElem?_mapIdx] at h
  obtain ⟨s, -, rfl⟩ := Option.map_eq_some_iff.1 h
  rfl

end VulkanPrefill
