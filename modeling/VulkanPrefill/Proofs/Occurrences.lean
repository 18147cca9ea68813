import VulkanPrefill.Text.Search
import Mathlib.Data.List.Basic
import Mathlib.Tactic

/-!
# Where a pattern occurs

A pattern that occurs nowhere leaves a text in one piece, and one at the front is cut off
(`without_append`). In words with a separator between them, a pattern with one separator inside
occurs only across two neighbouring words (`infix_flatMap_cons`).
-/

namespace VulkanPrefill.Text

section Pieces

variable {p : List Char}

theorem occursIn_eq_false {c : Char} {cs : List Char} (hp : c ∈ p) (hcs : c ∉ cs) :
    occursIn p cs = false := by
  rw [Bool.eq_false_iff]
  intro h
  exact hcs ((occursIn_iff.1 h).subset hp)

theorem occursIn_append (p cs : List Char) : occursIn p (p ++ cs) = true :=
  occursIn_iff.2 (List.prefix_append p cs).isInfix

theorem piecesFrom_skip : ∀ (as : List Char) (piece cs : List Char),
    piecesFrom p as.length piece (as ++ cs) = piecesFrom p 0 piece cs
  | [], _, _ => rfl
  | a :: as, piece, cs => by
    rw [List.length_cons, List.cons_append, piecesFrom]
    exact piecesFrom_skip as piece cs

theorem piecesFrom_of_not_infix : ∀ {cs : List Char} (piece : List Char), ¬ p <:+: cs →
    piecesFrom p 0 piece cs = [piece.reverse ++ cs]
  | [], piece, _ => by simp [piecesFrom]
  | c :: cs, piece, h => by
    rw [List.infix_cons_iff, not_or] at h
    rw [piecesFrom, if_neg (by simpa using h.1), piecesFrom_of_not_infix (c :: piece) h.2]
    simp

theorem piecesFrom_cons_of_ne {a c : Char} (h : a ≠ c) (piece cs : List Char) :
    piecesFrom (a :: p) 0 piece (c :: cs) = piecesFrom (a :: p) 0 (c :: piece) cs := by
  rw [piecesFrom, if_neg (by simp [h])]

theorem piecesFrom_append {a : Char} (piece cs : List Char) :
    piecesFrom (a :: p) 0 piece (a :: p ++ cs) = piece.reverse :: piecesFrom (a :: p) 0 [] cs := by
  rw [List.cons_append, piecesFrom, if_pos (by simp)]
  simp [piecesFrom_skip]

/-- The first occurrence is cut out, if what is before it shares no character with the pattern's
start and what is after it holds no other. -/
theorem without_append {a : Char} {xs cs : List Char} (hxs : a ∉ xs) (hcs : ¬ a :: p <:+: cs) :
    without (a :: p) (xs ++ (a :: p ++ cs)) = xs ++ cs := by
  -- Up to the occurrence the walk only adds to the piece it holds.
  have hwalk : ∀ (xs piece : List Char), a ∉ xs → piecesFrom (a :: p) 0 piece
      (xs ++ (a :: p ++ cs)) = [piece.reverse ++ xs, cs] := by
    intro xs
    induction xs with
    | nil =>
      intro piece _
      rw [List.nil_append, piecesFrom_append, piecesFrom_of_not_infix [] hcs]
      simp
    | cons x xs ih =>
      intro piece hx
      have hne : a ≠ x := fun h => hx (h ▸ List.mem_cons_self)
      rw [List.cons_append, piecesFrom_cons_of_ne hne,
        ih (x :: piece) fun h => hx (List.mem_cons_of_mem _ h)]
      simp
  unfold without pieces
  rw [hwalk xs [] hxs]
  simp

end Pieces

section Separated

variable {s : Char}

theorem infix_of_infix_append {p : List Char} : ∀ {w ys : List Char}, s ∉ w →
    s :: p <:+: w ++ ys → s :: p <:+: ys
  | [], _, _, h => h
  | c :: w, ys, hw, h => by
    rw [List.cons_append, List.infix_cons_iff] at h
    rcases h with h | h
    · exact absurd (List.cons_prefix_cons.1 h).1 fun hc => hw (hc ▸ List.mem_cons_self)
    · exact infix_of_infix_append (fun hm => hw (List.mem_cons_of_mem _ hm)) h

/-- In words with a separator before each, what stands before the first separator of a pattern is
all of a word. -/
theorem prefix_append_flatMap_cons {v : List Char} {ws : List (List Char)} :
    ∀ {u w : List Char}, s ∉ u → s ∉ w → u ++ s :: v <+: w ++ ws.flatMap (s :: ·) →
      u = w ∧ s :: v <+: ws.flatMap (s :: ·)
  | [], [], _, _, h => ⟨rfl, h⟩
  | [], c :: w, _, hw, h =>
    absurd (List.cons_prefix_cons.1 h).1 fun hc => hw (hc ▸ List.mem_cons_self)
  | a :: u, [], hu, _, h => by
    rcases ws with _ | ⟨w, ws⟩
    · simp at h
    · exact absurd (List.cons_prefix_cons.1 h).1 fun ha => hu (ha ▸ List.mem_cons_self)
  | a :: u, c :: w, hu, hw, h => by
    obtain ⟨rfl, htail⟩ := List.cons_prefix_cons.1 h
    obtain ⟨rfl, hv⟩ := prefix_append_flatMap_cons (fun hm => hu (List.mem_cons_of_mem _ hm))
      (fun hm => hw (List.mem_cons_of_mem _ hm)) htail
    exact ⟨rfl, hv⟩

/-- A pattern without a separator does not reach past the first word. -/
theorem prefix_of_prefix_append {v w : List Char} {ws : List (List Char)} (hv : s ∉ v)
    (h : v <+: w ++ ws.flatMap (s :: ·)) : v <+: w := by
  rcases List.prefix_or_prefix_of_prefix h (List.prefix_append w _) with hvw | ⟨r, rfl⟩
  · exact hvw
  · have hr : r <+: ws.flatMap (s :: ·) := (List.prefix_append_right_inj w).1 h
    rcases r with _ | ⟨a, r⟩
    · simp
    rcases ws with _ | ⟨w', ws⟩
    · simp at hr
    · exact absurd (List.cons_prefix_cons.1 hr).1 fun ha => hv (by simp [ha])

/-- The pattern `s u s v` occurs only where the word `u` is followed by a word that starts with
`v`. -/
theorem not_infix_flatMap_cons {u v : List Char} (hu : s ∉ u) (hv : s ∉ v) :
    ∀ {ws : List (List Char)}, (∀ w ∈ ws, s ∉ w) →
      (ws.IsChain fun w w' => ¬ (w = u ∧ v <+: w')) →
      ¬ s :: (u ++ s :: v) <:+: ws.flatMap (s :: ·)
  | [], _, _, h => by simp at h
  | w :: ws, hs, hchain, h => by
    obtain ⟨hw, hws⟩ := List.forall_mem_cons.1 hs
    rw [List.flatMap_cons, List.cons_append, List.infix_cons_iff] at h
    rcases h with h | h
    · obtain ⟨rfl, hnext⟩ := prefix_append_flatMap_cons hu hw (List.cons_prefix_cons.1 h).2
      rcases ws with _ | ⟨w', ws⟩
      · simp at hnext
      · have hfirst : v <+: w' ++ ws.flatMap (s :: ·) := (List.cons_prefix_cons.1 hnext).2
        exact (List.isChain_cons_cons.1 hchain).1 ⟨rfl, prefix_of_prefix_append hv hfirst⟩
    · exact not_infix_flatMap_cons hu hv hws hchain.tail (infix_of_infix_append hw h)

end Separated

end VulkanPrefill.Text
