import VulkanPrefill.Proofs.EnumParts
import Mathlib.Order.Bounds.Basic

/-!
# The place of the block

From a position that is given, the block is made of the lines behind it, up to the first one with a
terminator, whatever stands at the position itself (`enumBlock_ok_iff_isLeast`). With the search for
the declaration the block is where the lines come apart around it, which they do in one way at most
(`enumBlock_place`).
-/

namespace VulkanPrefill.Scan

/-- The positions behind `d` of the lines with a terminator. -/
def terminators (ls : List Line) (d : ℕ) : Set ℕ :=
  {i | d < i ∧ ∃ l, ls[i]? = some l ∧ l.endsEnum = true}

variable {ls : List Line} {d : ℕ}

theorem mem_terminators_iff {n : ℕ} : d + 1 + n ∈ terminators ls d
    ↔ ∃ l, (ls.drop (d + 1))[n]? = some l ∧ l.endsEnum = true := by
  have hlt : d < d + 1 + n := by omega
  rw [List.getElem?_drop]
  exact and_iff_right hlt

theorem exists_of_mem_terminators {i : ℕ} (h : i ∈ terminators ls d) : ∃ n, i = d + 1 + n :=
  Nat.exists_eq_add_of_le h.1

theorem terminators_eq_empty_iff :
    terminators ls d = ∅ ↔ ∀ l ∈ ls.drop (d + 1), l.endsEnum = false := by
  rw [Set.eq_empty_iff_forall_notMem]
  refine ⟨fun h l hl => ?_, fun h i hi => ?_⟩
  · obtain ⟨n, hn⟩ := List.mem_iff_getElem?.1 hl
    exact Bool.not_eq_true _ ▸ fun hend => h _ (mem_terminators_iff.2 ⟨l, hn, hend⟩)
  · obtain ⟨n, rfl⟩ := exists_of_mem_terminators hi
    obtain ⟨l, hn, hend⟩ := mem_terminators_iff.1 hi
    rw [h l (List.mem_of_getElem? hn)] at hend
    cases hend

/-- From any position the block is what stands between it and the least position behind it that has
a terminator. -/
theorem enumBlock_ok_iff_isLeast {block : List Line} : enumBlock ls d = .ok block
    ↔ ∃ t, IsLeast (terminators ls d) t ∧ block = (ls.take t).drop (d + 1) := by
  rw [enumBlock_ok_iff_drop]
  refine ⟨?_, ?_⟩
  · rintro ⟨l, after, hdrop, hinside, hend⟩
    refine ⟨d + 1 + block.length, ⟨mem_terminators_iff.2 ⟨l, by simp [hdrop], hend⟩, ?_⟩, ?_⟩
    · -- What stands before the terminator is in the block.
      intro i hi
      obtain ⟨n, rfl⟩ := exists_of_mem_terminators hi
      obtain ⟨m, hm, hmend⟩ := mem_terminators_iff.1 hi
      by_contra hlt
      rw [hdrop, List.getElem?_append_left (by omega)] at hm
      rw [hinside m (List.mem_of_getElem? hm)] at hmend
      cases hmend
    · rw [List.drop_take, hdrop, Nat.add_sub_cancel_left, List.take_left]
  · rintro ⟨t, ⟨ht, hleast⟩, rfl⟩
    obtain ⟨n, rfl⟩ := exists_of_mem_terminators ht
    obtain ⟨l, hn, hend⟩ := mem_terminators_iff.1 ht
    obtain ⟨hlt, hl⟩ := List.getElem?_eq_some_iff.1 hn
    rw [List.drop_take, Nat.add_sub_cancel_left]
    refine ⟨l, (ls.drop (d + 1)).drop (n + 1), ?_, fun m hm => ?_, hend⟩
    · rw [← hl, List.getElem_cons_drop, List.take_append_drop]
    · obtain ⟨j, hj⟩ := List.mem_iff_getElem?.1 hm
      rw [List.getElem?_take] at hj
      split_ifs at hj with hjn
      refine Bool.not_eq_true _ ▸ fun hmend => ?_
      have := hleast (mem_terminators_iff.2 ⟨m, hj, hmend⟩)
      omega

/-- The search finds the block around which the lines come apart, and the declaration before it; the
lines come apart in one way at most. From any position, declared there or not, the block goes up to
the first terminator behind it, and is unterminated exactly if there is none. -/
theorem enumBlock_place :
    (∀ ls block : List Line,
      (enumDeclaration ls >>= enumBlock ls) = .ok block ↔ ∃ p : EnumParts ls, p.block = block)
    ∧ (∀ (ls : List Line) (p : EnumParts ls),
      enumDeclaration ls = .ok p.before.length ∧ ∀ q : EnumParts ls, q = p)
    ∧ (∀ (ls block : List Line) (d : ℕ), enumBlock ls d = .ok block
      ↔ ∃ t, IsLeast (terminators ls d) t ∧ block = (ls.take t).drop (d + 1))
    ∧ ∀ (ls : List Line) (d : ℕ) (f : ScanFault), enumBlock ls d = .error f
      ↔ f = .unterminatedEnum (d + 1) ∧ terminators ls d = ∅ := by
  refine ⟨fun ls block => ?_, fun ls p => ?_, fun ls block d => enumBlock_ok_iff_isLeast,
    fun ls d f => ?_⟩
  · have hstages : (enumDeclaration ls >>= enumBlock ls) = .ok block
        ↔ ∃ d, enumDeclaration ls = .ok d ∧ enumBlock ls d = .ok block := by
      rcases enumDeclaration ls with fault | d <;> simp [bind, Except.bind]
    simp only [hstages, enumBlock_ok_iff]
    exact ⟨fun ⟨_, p, _, hp⟩ => ⟨p, hp⟩, fun ⟨p, hp⟩ => ⟨_, p, rfl, hp⟩⟩
  · exact ⟨enumDeclaration_ok_iff.2 ⟨p.toDeclaredEnum, rfl⟩, fun q => q.unique p⟩
  · rw [enumBlock_error_iff_drop, terminators_eq_empty_iff]

/-- A terminator on the line at the position itself ends nothing. -/
example : enumBlock [⟨0, "typedef enum VkStructureType;"⟩, ⟨1, "A"⟩, ⟨2, ";"⟩] 0
    = .ok [⟨1, "A"⟩] := by
  decide +kernel

end VulkanPrefill.Scan
