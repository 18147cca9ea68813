import VulkanPrefill.Text.EndedLine
import VulkanPrefill.Text.Lower
import VulkanPrefill.Text.Search
import VulkanPrefill.Text.Words
import Mathlib.Data.List.Basic
import Mathlib.Tactic

/-!
# Texts that hold no surprises

On ASCII texts lowering works letter by letter (`lowerAfter_of_ascii`), lines without breaks come
back from the text made of them (`lines_ofLines`), and a text without blanks is one word.
-/

namespace VulkanPrefill.Text

section Ascii

theorem ascii_forall {P : Char → Prop} (h : ∀ n < 128, P (.ofNat n)) {c : Char}
    (hc : c.toNat < 128) : P c := by
  have := h c.toNat hc
  rwa [Char.ofNat_toNat] at this

theorem ascii_of_isAlphanum {c : Char} (h : c.isAlphanum = true) : c.toNat < 128 := by
  have hranges : ((decide ('A'.val ≤ c.val ∧ c.val ≤ 'Z'.val)
      || (decide ('a'.val ≤ c.val) && decide (c.val ≤ 'z'.val)))
      || (decide ('0'.val ≤ c.val) && decide (c.val ≤ '9'.val))) = true := h
  simp only [Bool.or_eq_true, Bool.and_eq_true, decide_eq_true_eq] at hranges
  have hle : c ≤ 'z' := by
    rcases hranges with (⟨-, h⟩ | ⟨-, h⟩) | ⟨-, h⟩
    · exact UInt32.le_trans h (by decide)
    · exact h
    · exact UInt32.le_trans h (by decide)
  exact lt_of_le_of_lt (UInt32.le_iff_toNat_le.1 hle) (by decide)

/-- A property of all letters and digits is one of finitely many of them. -/
theorem alphanum_forall {P : Char → Prop}
    (h : ∀ n < 128, (Char.ofNat n).isAlphanum = true → P (.ofNat n)) {c : Char}
    (hc : c.isAlphanum = true) : P c :=
  ascii_forall (P := fun c => c.isAlphanum = true → P c) h (ascii_of_isAlphanum hc) hc

theorem lowerBetween_of_ascii {c : Char} (hc : c.toNat < 128) (before after : List Char) :
    lowerBetween before c after = [c.toLower] := by
  have hsigma : c ≠ 'Σ' := by
    rintro rfl
    simp at hc
  have hdot : c ≠ 'İ' := by
    rintro rfl
    simp at hc
  have hlower : lowerChar c = c.toLower :=
    ascii_forall (P := fun c => lowerChar c = c.toLower) lowerChar_ascii hc
  rw [lowerBetween, if_neg hsigma, if_neg hdot, hlower]

/-- In ASCII no letter looks around. -/
theorem lowerAfter_of_ascii : ∀ {cs : List Char}, (∀ c ∈ cs, c.toNat < 128) →
    ∀ before, lowerAfter before cs = cs.map Char.toLower
  | [], _, _ => rfl
  | c :: cs, h, before => by
    obtain ⟨hc, hcs⟩ := List.forall_mem_cons.1 h
    rw [lowerAfter, lowerBetween_of_ascii hc, lowerAfter_of_ascii hcs, List.map_cons]
    rfl

end Ascii

section Words

theorem words_of_not_blank {cs : List Char} (hne : cs ≠ []) (h : ∀ c ∈ cs, isBlank c = false) :
    words cs = [cs] := by
  unfold words
  rw [List.splitOnP_eq_singleton h]
  simp [hne]

theorem words_blank_cons {c : Char} (hc : isBlank c = true) (cs : List Char) :
    words (c :: cs) = words cs :=
  words_append_blank hc [] cs

theorem words_append_blank_of_not_blank {cs : List Char} (hne : cs ≠ [])
    (h : ∀ c ∈ cs, isBlank c = false) {b : Char} (hb : isBlank b = true) (ds : List Char) :
    words (cs ++ b :: ds) = cs :: words ds := by
  rw [words_append_blank hb, words_of_not_blank hne h, List.singleton_append]

end Words

section Lines

/-- A line that ends as a text's line does. -/
def Unbroken (cs : List Char) : Prop :=
  '\n' ∉ cs ∧ cs.getLast? ≠ some '\r'

instance (cs : List Char) : Decidable (Unbroken cs) :=
  inferInstanceAs (Decidable (_ ∧ _))

theorem unbroken_of_notMem {cs : List Char} (hfeed : '\n' ∉ cs) (hreturn : '\r' ∉ cs) :
    Unbroken cs :=
  ⟨hfeed, fun hlast => hreturn (List.mem_of_getLast? hlast)⟩

theorem endedLines_unbroken : ∀ {cs : List Char}, Unbroken cs →
    endedLines (cs ++ ['\n']) = [⟨cs, .feed⟩]
  | [], _ => rfl
  | c :: cs, ⟨hfeed, hreturn⟩ => by
    have hc : c ≠ '\n' := fun h => hfeed (h ▸ List.mem_cons_self)
    have hcs : '\n' ∉ cs := fun h => hfeed (List.mem_cons_of_mem _ h)
    have ih : endedLines (cs ++ ['\n']) = [⟨cs, .feed⟩] := by
      refine endedLines_unbroken ⟨hcs, fun hlast => hreturn ?_⟩
      rw [List.getLast?_cons, hlast]
      rfl
    show prependChar c (endedLines (cs ++ ['\n'])) = _
    have hend : ¬ (c = '\r' ∧ (⟨cs, .feed⟩ : EndedLine) = ⟨[], .feed⟩) := by
      rintro ⟨rfl, heq⟩
      simp only [EndedLine.mk.injEq, and_true] at heq
      simp [heq] at hreturn
    simp only [ih, prependChar, hc, hend, if_false]

/-- Lines without breaks come back from the text made of them. -/
theorem lines_ofLines : ∀ {ls : List String}, (∀ l ∈ ls, Unbroken l.toList) →
    lines (ofLines ls) = ls
  | [], _ => by simp [lines, ofLines, endedLines]
  | l :: ls, h => by
    obtain ⟨hl, hls⟩ := List.forall_mem_cons.1 h
    rw [lines_ofLines_cons, lines_ofLines hls, lines]
    simp [endedLines_unbroken hl]

end Lines

end VulkanPrefill.Text
