import VulkanPrefill.Constant
import VulkanPrefill.Line
import VulkanPrefill.Proofs.AsciiText
import VulkanPrefill.Proofs.LowerCase
import VulkanPrefill.Proofs.Occurrences

/-!
# Words stay whole

The words of a text hold no blank, and words with blanks between them come back as they are
(`words_intercalate`). Nothing that is done to a constant on the way to its function's name brings a
blank in (`isBlank_functionName`).
-/

namespace VulkanPrefill

namespace Text

/-- A text that is a single word. -/
def IsWord (cs : List Char) : Prop :=
  cs ≠ [] ∧ ∀ c ∈ cs, isBlank c = false

instance (cs : List Char) : Decidable (IsWord cs) :=
  decidable_of_iff (cs ≠ [] ∧ cs.all (!isBlank ·) = true) (by simp [IsWord])

theorem isBlank_of_mem_splitOnP : ∀ {cs w : List Char}, w ∈ cs.splitOnP isBlank →
    ∀ c ∈ w, isBlank c = false
  | [], w, h => by
    obtain rfl := List.mem_singleton.1 h
    simp
  | a :: cs, w, h => by
    obtain ⟨v, vs, hvs⟩ := List.exists_cons_of_ne_nil (List.splitOnP_ne_nil isBlank cs)
    have ih := fun {u} => @isBlank_of_mem_splitOnP cs u
    rw [hvs] at ih
    rw [List.splitOnP_cons_eq_if_modifyHead, hvs] at h
    split_ifs at h with ha
    · rcases List.mem_cons.1 h with rfl | h
      · simp
      · exact ih h
    · rw [List.modifyHead_cons] at h
      rcases List.mem_cons.1 h with rfl | h
      · exact List.forall_mem_cons.2 ⟨by simpa using ha, ih List.mem_cons_self⟩
      · exact ih (List.mem_cons_of_mem v h)

theorem isWord_of_mem_words {cs w : List Char} (h : w ∈ words cs) : IsWord w := by
  obtain ⟨hw, hne⟩ := List.mem_filter.1 h
  exact ⟨by simpa using hne, isBlank_of_mem_splitOnP hw⟩

/-- Words that are written with blanks between them are read again. -/
theorem words_intercalate : ∀ {ws : List (List Char)}, (∀ w ∈ ws, IsWord w) →
    words ([' '].intercalate ws) = ws
  | [], _ => rfl
  | [w], h => by
    obtain ⟨hne, hw⟩ := h w List.mem_cons_self
    rw [List.intercalate_singleton, words_of_not_blank hne hw]
  | w :: w' :: ws, h => by
    obtain ⟨⟨hne, hw⟩, hws⟩ := List.forall_mem_cons.1 h
    rw [List.intercalate_cons_cons, List.append_assoc, List.singleton_append,
      words_append_blank_of_not_blank hne hw (by decide), words_intercalate hws]

theorem notMem_intercalate {a b : Char} (hab : a ≠ b) : ∀ {ws : List (List Char)},
    (∀ w ∈ ws, a ∉ w) → a ∉ [b].intercalate ws
  | [], _ => by simp
  | [w], h => by simpa using h
  | w :: w' :: ws, h => by
    obtain ⟨hw, hws⟩ := List.forall_mem_cons.1 h
    simpa [List.intercalate_cons_cons, hw, hab] using notMem_intercalate hab hws

theorem mem_of_mem_piecesFrom {p w : List Char} {c : Char} (hc : c ∈ w) :
    ∀ {cs : List Char} {skip : ℕ} {piece : List Char}, w ∈ piecesFrom p skip piece cs →
      c ∈ piece ∨ c ∈ cs
  | [], skip, piece, h => by
    rw [piecesFrom, List.mem_singleton] at h
    exact .inl (List.mem_reverse.1 (h ▸ hc))
  | a :: cs, skip + 1, piece, h => by
    rw [piecesFrom] at h
    exact (mem_of_mem_piecesFrom hc h).imp_right (List.mem_cons_of_mem a)
  | a :: cs, 0, piece, h => by
    rw [piecesFrom] at h
    split_ifs at h
    · rcases List.mem_cons.1 h with rfl | h
      · exact .inl (List.mem_reverse.1 hc)
      · exact .inr (List.mem_cons_of_mem a ((mem_of_mem_piecesFrom hc h).resolve_left (by simp)))
    · rcases mem_of_mem_piecesFrom hc h with h | h
      · rcases List.mem_cons.1 h with rfl | h
        · exact .inr List.mem_cons_self
        · exact .inl h
      · exact .inr (List.mem_cons_of_mem a h)

/-- What is left without a pattern was there. -/
theorem mem_of_mem_without {p cs : List Char} {c : Char} (h : c ∈ without p cs) : c ∈ cs := by
  obtain ⟨w, hw, hc⟩ := List.mem_flatten.1 h
  exact (mem_of_mem_piecesFrom hc hw).resolve_left (by simp)

end Text

theorem Line.isWord_of_word? {l : Line} {n : ℕ} {s : String} (h : l.word? n = some s) :
    Text.IsWord s.toList := by
  obtain ⟨w, hw, rfl⟩ := List.mem_map.1 (List.mem_of_getElem? h)
  rw [String.toList_ofList]
  exact Text.isWord_of_mem_words hw

namespace Constant

theorem mem_capitalizeKhr {cs : List Char} {c : Char} (h : c ∈ capitalizeKhr cs) :
    c ∈ cs ∨ c ∈ "KHR".toList := by
  unfold capitalizeKhr at h
  split_ifs at h
  · exact (List.mem_append.1 h).imp_left List.mem_of_mem_take
  · exact .inl h

/-- A function's name holds no blank if the constant holds none. -/
theorem isBlank_functionName {constant : String}
    (h : ∀ c ∈ constant.toList, Text.isBlank c = false) :
    ∀ c ∈ (functionName constant).toList, Text.isBlank c = false := by
  intro c hc
  rw [functionName, String.toList_ofList] at hc
  rcases mem_capitalizeKhr hc with hc | hc
  · exact Text.isBlank_lowerAfter (fun d hd => h d (Text.mem_of_mem_without hd)) [] c hc
  · have htag : Text.IsWord "KHR".toList := by decide
    exact htag.2 c hc

end Constant

end VulkanPrefill
