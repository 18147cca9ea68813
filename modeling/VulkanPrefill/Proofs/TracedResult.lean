import VulkanPrefill.Traced
import Mathlib.Data.List.Basic

/-!
# How traced runs end

How a run ends does not depend on what it told, so the results of runs compose as those of plain
computations do. A walk whose steps fail for reasons of the elements alone fails for the first
reason, and otherwise ends as the walk that cannot fail (`result_foldlM`).
-/

namespace VulkanPrefill.Traced

variable {ε ε' α β : Type}

@[simp] theorem result_pure (a : α) : (pure a : Traced ε α).result = .ok a := rfl

@[simp] theorem result_tell (e : Event) : (tell e : Traced ε Unit).result = .ok () := rfl

@[simp] theorem result_tell? (e : Option Event) : (tell? e : Traced ε Unit).result = .ok () := rfl

@[simp] theorem result_fail (fault : ε) : (fail fault : Traced ε α).result = .error fault := rfl

@[simp] theorem result_ofExcept (x : Except ε α) : (ofExcept x).result = x := rfl

@[simp] theorem result_bind (x : Traced ε α) (f : α → Traced ε β) :
    (x >>= f).result = x.result >>= fun a => (f a).result := by
  rcases hx : x.result with fault | a
  · rw [bind_of_error hx]
    rfl
  · rw [bind_of_ok hx]
    rfl

@[simp] theorem result_map (f : α → β) (x : Traced ε α) : (f <$> x).result = x.result.map f := by
  rw [map_eq_pure_bind, result_bind]
  rcases x.result with fault | a <;> rfl

theorem result_bind_eq_ok_iff {x : Traced ε α} {f : α → Traced ε β} {b : β} :
    (x >>= f).result = .ok b ↔ ∃ a, x.result = .ok a ∧ (f a).result = .ok b := by
  rw [result_bind]
  rcases x.result with fault | a
  · simp [bind, Except.bind]
  · simp [bind, Except.bind]

theorem result_mapFault_eq_ok_iff {f : ε → ε'} {x : Traced ε α} {a : α} :
    (x.mapFault f).result = .ok a ↔ x.result = .ok a := by
  unfold mapFault
  rcases x.result with fault | a' <;> simp [Except.mapError]

theorem result_foldlM {f : β → α → Traced ε β} {fault? : α → Option ε} {g : β → α → β}
    (h : ∀ b a, (f b a).result = (fault? a).elim (.ok (g b a)) .error) :
    ∀ (as : List α) (b : β),
      (as.foldlM f b).result = (as.findSome? fault?).elim (.ok (as.foldl g b)) .error
  | [], b => rfl
  | a :: as, b => by
    rw [List.foldlM_cons, result_bind, h, List.findSome?_cons, List.foldl_cons]
    rcases fault? a with _ | fault
    · exact result_foldlM h as (g b a)
    · rfl

end VulkanPrefill.Traced
