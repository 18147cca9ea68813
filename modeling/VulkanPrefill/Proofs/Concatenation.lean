import VulkanPrefill.Proofs.ConstantWalk
import VulkanPrefill.Proofs.StructWalk

/-!
# Lines in two parts

A table is updated with another by its keys and their values (`keys_update`, `get?_update`), so it
makes no difference whether values are entered as they come, or are first collected in a table of
their own (`update_insertAll`). Both walks can therefore be made over two parts of the lines, if no
declaration looks across the seam: the first part's fault comes first, then the second part's, and
without a fault the second table updates the first (`tables_append`).
-/

namespace VulkanPrefill

namespace Table

variable {κ α β ε : Type} [DecidableEq κ]

section Update

theorem find_eq_none {k : κ} : ∀ {es : List (κ × α)}, k ∉ es.map Prod.fst → find k es = none
  | [], _ => rfl
  | e :: es, h => by
    rw [List.map_cons, List.mem_cons, not_or] at h
    rw [find, if_neg (Ne.symm h.1), find_eq_none h.2]

theorem keys_insertAll : ∀ {es : List (κ × α)}, (es.map Prod.fst).Nodup → ∀ t : Table κ α,
    (t.insertAll es).keys = t.keys ++ (es.map Prod.fst).filter (· ∉ t.keys)
  | [], _, t => (List.append_nil t.keys).symm
  | e :: es, h, t => by
    obtain ⟨he, hes⟩ := List.nodup_cons.1 h
    have ih : (t.insertAll (e :: es)).keys = _ := keys_insertAll hes (t.insert e.1 e.2)
    rw [ih, keys_insert, List.map_cons, List.filter_cons]
    by_cases hk : e.1 ∈ t.keys
    · simp [hk]
    · have hrest : (es.map Prod.fst).filter (· ∉ t.keys ++ [e.1])
          = (es.map Prod.fst).filter (· ∉ t.keys) := by
        refine List.filter_congr fun k hmem => ?_
        have hne : k ≠ e.1 := fun heq => he (heq ▸ hmem)
        simp [hne]
      simp only [hk, if_false, not_false_eq_true, decide_true, if_true, hrest, List.append_assoc,
        List.singleton_append]

theorem get?_insertAll (k : κ) : ∀ {es : List (κ × α)}, (es.map Prod.fst).Nodup →
    ∀ t : Table κ α, (t.insertAll es).get? k = (find k es).or (t.get? k)
  | [], _, _ => rfl
  | e :: es, h, t => by
    obtain ⟨he, hes⟩ := List.nodup_cons.1 h
    have ih : (t.insertAll (e :: es)).get? k = _ := get?_insertAll k hes (t.insert e.1 e.2)
    rw [ih, get?_insert, find]
    split_ifs with hk
    · rw [find_eq_none (hk ▸ he)]
      rfl
    · rfl

/-- The keys of the first table keep their places; the new keys of the second follow in order. -/
theorem keys_update (t u : Table κ α) : (t.update u).keys = t.keys ++ u.keys.filter (· ∉ t.keys) :=
  keys_insertAll u.nodup_keys t

/-- The values of the second table win. -/
theorem get?_update (t u : Table κ α) (k : κ) :
    (t.update u).get? k = (u.get? k).or (t.get? k) :=
  get?_insertAll k u.nodup_keys t

theorem update_insert (t u : Table κ α) (k : κ) (v : α) :
    t.update (u.insert k v) = (t.update u).insert k v := by
  refine eq_of_keys_of_get? ?_ fun k' => ?_
  · rw [keys_update, keys_insert, keys_insert, keys_update, List.filter_append, List.append_assoc]
    congr 2
    by_cases hu : k ∈ u.keys <;> by_cases ht : k ∈ t.keys <;> simp [hu, ht]
  · rw [get?_update, get?_insert, get?_insert, get?_update]
    split_ifs <;> rfl

theorem update_insertAll (t : Table κ α) : ∀ (es : List (κ × α)) (u : Table κ α),
    t.update (u.insertAll es) = (t.update u).insertAll es
  | [], _ => rfl
  | e :: es, u => by
    have ih : t.update (u.insertAll (e :: es)) = _ := update_insertAll t es (u.insert e.1 e.2)
    rw [ih, update_insert]
    rfl

/-- A walk may start from an empty table and update the one before it. -/
theorem foldl_enter_eq_update (pair? : β → Option (κ × α)) (bs : List β) (t : Table κ α) :
    bs.foldl (enter pair?) t = t.update (bs.foldl (enter pair?) empty) := by
  rw [foldl_enter, foldl_enter, update_insertAll]
  rfl

end Update

theorem walk_append (fault? : β → Option ε) (pair? : β → Option (κ × α)) (as bs : List β) :
    walk fault? pair? (as ++ bs) = do
      let t ← walk fault? pair? as
      let u ← walk fault? pair? bs
      return t.update u := by
  unfold walk
  rw [List.findSome?_append, List.foldl_append, foldl_enter_eq_update]
  rcases as.findSome? fault? with _ | fault
  · rcases bs.findSome? fault? with _ | fault <;> rfl
  · rfl

end Table

open Scan

/-- Over two parts of the lines both walks end as the one over the first part, if that fails, or
else as the one over the second, if that fails, and otherwise in the first part's table updated with
the second's. The structs ask for a seam that no declaration looks across. -/
theorem tables_append :
    (∀ (structs : Table String String) (as bs : List Line),
      (initializerTable structs (as ++ bs)).result = do
        let t ← (initializerTable structs as).result
        let u ← (initializerTable structs bs).result
        return t.update u)
    ∧ ∀ as bs : List Line, (∀ l ∈ as.getLast?, l.declaresStruct = false) →
      (structTable (as ++ bs)).result = do
        let t ← (structTable as).result
        let u ← (structTable bs).result
        return t.update u := by
  refine ⟨fun structs as bs => ?_, fun as bs hseam => ?_⟩
  · simp only [result_initializerTable]
    exact Table.walk_append constantFault? (matched? structs) as bs
  · simp only [result_structTable_declared, declared_append hseam]
    exact Table.walk_append structFault? announced? (declared as) (declared bs)

/-- Two structs, and the same in other spellings with a third one between them. -/
def twoNames : List Line := [
  ⟨0, "typedef struct VkA"⟩, ⟨1, "VkStructureType"⟩, ⟨2, "typedef struct VkB"⟩,
  ⟨3, "VkStructureType"⟩]

def respelledNames : List Line := [
  ⟨4, "typedef struct VKB"⟩, ⟨5, "VkStructureType"⟩, ⟨6, "typedef struct VkC"⟩,
  ⟨7, "VkStructureType"⟩, ⟨8, "typedef struct VKA"⟩, ⟨9, "VkStructureType"⟩]

theorem tables_append_respelledNames :
    (∀ l ∈ twoNames.getLast?, l.declaresStruct = false)
      ∧ (structTable (twoNames ++ respelledNames)).result.map (·.entries)
        = .ok [("vka", "VKA"), ("vkb", "VKB"), ("vkc", "VkC")]
      ∧ (structTable (twoNames ++ respelledNames)).result = do
        let t ← (structTable twoNames).result
        let u ← (structTable respelledNames).result
        return t.update u := by
  have hseam : ∀ l ∈ twoNames.getLast?, l.declaresStruct = false := by
    decide +kernel
  exact ⟨hseam, by decide +kernel, tables_append.2 _ _ hseam⟩

end VulkanPrefill
