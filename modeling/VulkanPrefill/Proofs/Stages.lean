import VulkanPrefill.Proofs.EnumParts
import VulkanPrefill.Proofs.TracedResult
import VulkanPrefill.Registry

/-!
# The stages of a registry

How building a registry ends, as a plain computation in four stages, and what a registry that was
built has behind it.
-/

namespace VulkanPrefill.Registry

open Scan

theorem result_ofLines (ls : List Line) : (ofLines ls).result = do
    let structs ← (structTable ls).result
    let d ← enumDeclaration ls
    let block ← enumBlock ls d
    let initializers ← (initializerTable structs block).result
    return ⟨structs, initializers⟩ := by
  simp only [ofLines, Traced.result_bind, Traced.result_ofExcept, Traced.result_tell,
    Traced.result_pure]
  rfl

theorem ofLines_ok_iff {ls : List Line} {r : Registry} : (ofLines ls).result = .ok r
    ↔ (structTable ls).result = .ok r.structs
      ∧ ∃ p : EnumParts ls, (initializerTable r.structs p.block).result = .ok r.initializers := by
  rw [result_ofLines]
  rcases (structTable ls).result with f | structs
  · simp [bind, Except.bind]
  rcases hd : enumDeclaration ls with f | d
  · simp only [bind, Except.bind, reduceCtorEq, false_iff, not_and, not_exists]
    intro _ p
    rw [enumDeclaration_ok_iff.2 ⟨p.toDeclaredEnum, rfl⟩] at hd
    cases hd
  rcases hb : enumBlock ls d with f | block
  · simp only [bind, Except.bind, hb, reduceCtorEq, false_iff, not_and, not_exists]
    intro _ p
    have hp := (enumBlock_ok_iff.2 ⟨p, rfl, rfl⟩)
    rw [hd] at hp
    rw [Except.ok.inj hp.1, hp.2] at hb
    cases hb
  obtain ⟨p, rfl, rfl⟩ := enumBlock_ok_iff.1 ⟨hd, hb⟩
  have hone : (∃ q : EnumParts ls, (initializerTable r.structs q.block).result = .ok r.initializers)
      ↔ (initializerTable r.structs p.block).result = .ok r.initializers :=
    ⟨fun ⟨q, hq⟩ => p.unique q ▸ hq, fun h => ⟨p, h⟩⟩
  simp only [bind, Except.bind, hb, hone]
  obtain ⟨structs', initializers'⟩ := r
  rcases hi : (initializerTable structs p.block).result with f | initializers
  · simp only [reduceCtorEq, false_iff, not_and, Except.ok.injEq]
    rintro rfl
    simp [hi]
  · simp only [pure, Except.pure, Except.ok.injEq, Registry.mk.injEq]
    refine ⟨?_, ?_⟩
    · rintro ⟨rfl, rfl⟩
      exact ⟨rfl, hi⟩
    · rintro ⟨rfl, h⟩
      exact ⟨rfl, Except.ok.inj (hi.symm.trans h)⟩

/-- A run whose entries can be computed is one that ended well. -/
theorem exists_of_entries {ls : List Line} {es : List (String × Initializer)}
    (h : (ofLines ls).result.toOption.map (·.initializers.entries) = some es) :
    ∃ r, (ofLines ls).result = .ok r ∧ r.initializers.entries = es := by
  rcases hr : (ofLines ls).result with f | r <;> rw [hr] at h
  · cases h
  · exact ⟨r, rfl, Option.some.inj h⟩

end VulkanPrefill.Registry
