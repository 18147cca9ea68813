/-!
# Lines and how they end

A line ends with a line feed, with a carriage return and a line feed, or, at the end of the text,
with nothing. A carriage return anywhere else belongs to the line it stands in. Cutting a text
into its lines loses nothing: joining them gives it back.
-/

namespace VulkanPrefill.Text

inductive Ending
  | nothing
  | feed
  | returnFeed
  deriving DecidableEq, Repr

def Ending.chars : Ending → List Char
  | nothing => []
  | feed => ['\n']
  | returnFeed => ['\r', '\n']

structure EndedLine where
  text : List Char
  ending : Ending
  deriving DecidableEq, Repr

/-- The lines of a text with one more character in front. -/
def prependChar (c : Char) (ls : List EndedLine) : List EndedLine :=
  if c = '\n' then
    ⟨[], .feed⟩ :: ls
  else
    match ls with
    | [] => [⟨[c], .nothing⟩]
    | l :: rest =>
      if c = '\r' ∧ l = ⟨[], .feed⟩ then
        ⟨[], .returnFeed⟩ :: rest
      else
        ⟨c :: l.text, l.ending⟩ :: rest

def endedLines (cs : List Char) : List EndedLine :=
  cs.foldr prependChar []

def joinEnded (ls : List EndedLine) : List Char :=
  ls.flatMap fun l => l.text ++ l.ending.chars

/-- The lines of a text, without what ends them. -/
def lines (s : String) : List String :=
  (endedLines s.toList).map fun l => .ofList l.text

/-- The text of lines that all end with a line feed. -/
def ofLines (ls : List String) : String :=
  String.join (ls.map (· ++ "\n"))

theorem joinEnded_prependChar (c : Char) (ls : List EndedLine) :
    joinEnded (prependChar c ls) = c :: joinEnded ls := by
  unfold prependChar
  split
  · simp_all [joinEnded, Ending.chars]
  · split
    · simp [joinEnded, Ending.chars]
    · split <;> simp_all [joinEnded, Ending.chars]

theorem joinEnded_endedLines : ∀ cs : List Char, joinEnded (endedLines cs) = cs
  | [] => rfl
  | c :: cs => by
    show joinEnded (prependChar c (endedLines cs)) = c :: cs
    rw [joinEnded_prependChar, joinEnded_endedLines cs]

theorem prependChar_append (c : Char) {ls : List EndedLine} (h : ls ≠ []) (ms : List EndedLine) :
    prependChar c (ls ++ ms) = prependChar c ls ++ ms := by
  obtain ⟨l, rest, rfl⟩ := List.exists_cons_of_ne_nil h
  simp only [prependChar, List.cons_append]
  split
  · rfl
  · split <;> rfl

theorem prependChar_ne_nil (c : Char) (ls : List EndedLine) : prependChar c ls ≠ [] := by
  unfold prependChar
  split
  · simp
  · split
    · simp
    · split <;> simp

theorem endedLines_ne_nil : ∀ {cs : List Char}, cs ≠ [] → endedLines cs ≠ []
  | [], h => absurd rfl h
  | c :: cs, _ => prependChar_ne_nil c (endedLines cs)

/-- What follows a line feed has no part in the lines before it. -/
theorem endedLines_append_feed (ds : List Char) : ∀ cs : List Char,
    endedLines (cs ++ '\n' :: ds) = endedLines (cs ++ ['\n']) ++ endedLines ds
  | [] => rfl
  | c :: cs => by
    show prependChar c (endedLines (cs ++ '\n' :: ds))
      = prependChar c (endedLines (cs ++ ['\n'])) ++ endedLines ds
    rw [endedLines_append_feed ds cs, prependChar_append c (endedLines_ne_nil (by simp))]

theorem ofLines_cons (l : String) (ls : List String) :
    ofLines (l :: ls) = l ++ "\n" ++ ofLines ls :=
  String.join_cons

theorem ofLines_append : ∀ ls ms : List String, ofLines (ls ++ ms) = ofLines ls ++ ofLines ms
  | [], ms => String.empty_append.symm
  | l :: ls, ms => by
    rw [List.cons_append, ofLines_cons, ofLines_cons, ofLines_append ls ms, ← String.append_assoc]

/-- Lines that hold breaks themselves are cut further, each apart from the others. -/
theorem lines_ofLines_cons (l : String) (ls : List String) :
    lines (ofLines (l :: ls)) = lines (l ++ "\n") ++ lines (ofLines ls) := by
  have htext : (ofLines (l :: ls)).toList = l.toList ++ '\n' :: (ofLines ls).toList := by
    simp [ofLines_cons]
  unfold lines
  rw [htext, endedLines_append_feed, List.map_append]
  simp

end VulkanPrefill.Text
