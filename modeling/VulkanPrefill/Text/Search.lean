/-!
# Looking for a pattern in a text

A pattern occurs in a text when it is a stretch of it. The occurrences of a pattern, taken from
the left and without overlap, cut the text into pieces, and the text without the pattern is what
the pieces hold.
-/

namespace VulkanPrefill.Text

def occursIn (pattern : List Char) : List Char → Bool
  | [] => pattern.isEmpty
  | c :: cs => pattern.isPrefixOf (c :: cs) || occursIn pattern cs

theorem occursIn_iff {pattern : List Char} :
    ∀ {cs : List Char}, occursIn pattern cs = true ↔ pattern <:+: cs
  | [] => by simp [occursIn]
  | c :: cs => by
    rw [occursIn, Bool.or_eq_true, List.isPrefixOf_iff_prefix, occursIn_iff, List.infix_cons_iff]

/-- Cuts at the occurrences, after `skip` characters that belong to an occurrence already seen.
`piece` is the piece so far, read backwards. -/
def piecesFrom (pattern : List Char) : Nat → List Char → List Char → List (List Char)
  | _, piece, [] => [piece.reverse]
  | skip + 1, piece, _ :: cs => piecesFrom pattern skip piece cs
  | 0, piece, c :: cs =>
    if pattern.isPrefixOf (c :: cs) then
      piece.reverse :: piecesFrom pattern (pattern.length - 1) [] cs
    else
      piecesFrom pattern 0 (c :: piece) cs

/-- The pieces between the occurrences of a pattern that is not empty. -/
def pieces (pattern cs : List Char) : List (List Char) :=
  piecesFrom pattern 0 [] cs

def without (pattern cs : List Char) : List Char :=
  (pieces pattern cs).flatten

end VulkanPrefill.Text
