import VulkanPrefill.Proofs.Collects
import VulkanPrefill.Proofs.TracedResult

/-!
# What a walk tells

What a walk tells at an element depends on the elements before it. `told` says so without the state
of the walk, and a run has told that up to its first fault (`Traced.events_foldlM`). Where the walk
enters the elements' values in a table and tells which value each one replaces, no value gets lost.
It is in the table or was replaced (`Table.Enters.length_filterMap`), and the values of one key
replace each other one by one, up to the value in the table (`Table.Enters.chain_replaced`).
-/

namespace VulkanPrefill

section Told

variable {β γ δ : Type}

/-- What is told over a list that stands behind `before`, where `note` says what is told at an
element behind others. -/
def told (note : List β → β → Option γ) : List β → List β → List γ
  | _, [] => []
  | before, b :: bs => (note before b).toList ++ told note (before ++ [b]) bs

theorem filterMap_told (note : List β → β → Option γ) (g : γ → Option δ) :
    ∀ before bs : List β, (told note before bs).filterMap g
      = told (fun before b => (note before b).bind g) before bs
  | _, [] => rfl
  | before, b :: bs => by
    rw [told, told, List.filterMap_append, filterMap_told note g]
    congr 1
    rcases note before b with _ | c
    · rfl
    · simp only [Option.toList_some, List.filterMap_cons, List.filterMap_nil, Option.bind_some]
      cases g c <;> rfl

/-- Where the elements before play no part, the tellings are those of the single elements. -/
theorem told_const (g : β → Option γ) : ∀ before bs : List β,
    told (fun _ => g) before bs = bs.filterMap g
  | _, [] => rfl
  | before, b :: bs => by
    rw [told, told_const g, List.filterMap_cons]
    cases g b <;> rfl

theorem told_snoc (note : List β → β → Option γ) (b : β) : ∀ before bs : List β,
    told note before (bs ++ [b]) = told note before bs ++ (note (before ++ bs) b).toList
  | before, [] => by simp [told]
  | before, c :: bs => by
    rw [List.cons_append, told, told, told_snoc note b, List.append_assoc, List.append_assoc,
      List.singleton_append]

theorem exists_of_mem_told {note : List β → β → Option γ} {c : γ} : ∀ {before bs : List β},
    c ∈ told note before bs → ∃ xs b, note xs b = some c
  | before, b :: bs, h => by
    rw [told, List.mem_append] at h
    rcases h with h | h
    · exact ⟨before, b, Option.mem_toList.1 h⟩
    · exact exists_of_mem_told h

variable {ε σ : Type}

/-- A walk whose state and whose log come from the elements before has told, in the end, what there
is to tell up to the first element at fault. -/
theorem Traced.events_foldlM {f : σ → β → Traced ε σ} {fault? : β → Option ε} (walk : List β → σ)
    {note : List β → β → Option Event}
    (h : ∀ before b, f (walk before) b
      = (fault? b).elim ⟨(note before b).toList, .ok (walk (before ++ [b]))⟩ Traced.fail) :
    ∀ bs before : List β, (bs.foldlM f (walk before)).events
      = told note before (bs.takeWhile fun b => (fault? b).isNone)
  | [], _ => rfl
  | b :: bs, before => by
    rw [List.foldlM_cons, h, List.takeWhile_cons]
    rcases fault? b with _ | fault
    · rw [Option.elim_none, bind_of_ok rfl, events_foldlM walk h bs]
      rfl
    · rw [Option.elim_some, bind_of_error rfl]
      rfl

end Told

section Chains

variable {α : Type}

/-- The steps `ps` lead through the values `vs` to the last one, `v`. -/
structure Chain (vs : List α) (v : α) (ps : List (α × α)) : Prop where
  first : ∀ s ∈ ps.head?, vs.head? = some s.1
  linked : ps.IsChain fun s t => t.1 = s.2
  last : ∀ s ∈ ps.getLast?, s.2 = v
  single : ps = [] → vs = [v]

theorem Chain.cons {b v : α} {vs : List α} {ps : List (α × α)} (h : Chain (b :: vs) v ps) (a : α) :
    Chain (a :: b :: vs) v ((a, b) :: ps) := by
  rcases ps with _ | ⟨s, ps⟩
  · obtain ⟨rfl, -⟩ := List.cons_eq_cons.1 (h.single rfl)
    refine ⟨fun s hs => ?_, List.isChain_singleton _, fun s hs => ?_, fun hnil => by cases hnil⟩
    · obtain rfl := Option.some.inj hs
      rfl
    · obtain rfl := Option.some.inj hs
      rfl
  · have hs : s.1 = b := (Option.some.inj (h.first s rfl)).symm
    refine ⟨fun t ht => ?_, List.isChain_cons_cons.2 ⟨hs, h.linked⟩, fun t ht => ?_,
      fun hnil => by cases hnil⟩
    · obtain rfl := Option.some.inj ht
      rfl
    · rw [List.getLast?_cons_cons] at ht
      exact h.last t ht

/-- Each value with the one after it. -/
def neighbours (vs : List α) : List (α × α) :=
  vs.zip vs.tail

theorem chain_neighbours : ∀ {vs : List α} {v : α}, vs.getLast? = some v →
    Chain vs v (neighbours vs)
  | [a], v, h => by
    obtain rfl := Option.some.inj h
    exact ⟨by simp [neighbours], List.isChain_nil, by simp [neighbours], fun _ => rfl⟩
  | a :: b :: vs, v, h => by
    rw [List.getLast?_cons_cons] at h
    exact (chain_neighbours h).cons a

end Chains

namespace Table

variable {κ ν α β : Type} [DecidableEq κ]

theorem get?_isSome_iff {t : Table κ ν} {k : κ} : (t.get? k).isSome ↔ k ∈ t.keys := by
  rw [mem_keys_iff, Option.isSome_iff_exists]

theorem size_insert (t : Table κ ν) (k : κ) (v : ν) :
    (t.insert k v).size = t.size + if (t.get? k).isSome then 0 else 1 := by
  have hsize : ∀ u : Table κ ν, u.size = u.keys.length := fun u => (List.length_map _).symm
  rw [hsize, hsize, keys_insert, List.length_append]
  simp only [get?_isSome_iff]
  split_ifs <;> rfl

section Recorded

variable (val? : β → Option α) (key : α → κ)

/-- The values with the key `k`, as they come. -/
def recorded (k : κ) (bs : List β) : List α :=
  (bs.filterMap val?).filter (key · = k)

/-- The value that an element's own value replaces, and that value: the last one before it that has
the same key. -/
def replaced (before : List β) (b : β) : Option (α × α) :=
  (val? b).bind fun new => (recorded val? key (key new) before).getLast?.map fun old => (old, new)

variable {val? key}

theorem recorded_append (k : κ) (as bs : List β) :
    recorded val? key k (as ++ bs) = recorded val? key k as ++ recorded val? key k bs := by
  unfold recorded
  rw [List.filterMap_append, List.filter_append]

theorem recorded_singleton (k : κ) (b : β) :
    recorded val? key k [b] = ((val? b).filter (key · = k)).toList := by
  unfold recorded
  rcases h : val? b with _ | a
  · simp [h]
  · by_cases hk : key a = k <;> simp [h, hk, Option.filter]

theorem recorded_cons (k : κ) (b : β) (bs : List β) :
    recorded val? key k (b :: bs)
      = ((val? b).filter (key · = k)).toList ++ recorded val? key k bs := by
  rw [← recorded_singleton, ← recorded_append, List.singleton_append]

/-- The replacements for one key are the neighbours among its values, of which the last one before
the list is the first. -/
theorem filter_told_replaced (k : κ) : ∀ bs before : List β,
    (told (replaced val? key) before bs).filter (key ·.2 = k)
      = neighbours ((recorded val? key k before).getLast?.toList ++ recorded val? key k bs)
  | [], before => by
    rcases (recorded val? key k before).getLast? with _ | old <;> rfl
  | b :: bs, before => by
    rw [told, List.filter_append, filter_told_replaced k bs, recorded_append, recorded_singleton,
      recorded_cons]
    unfold neighbours
    rcases h : val? b with _ | new
    · simp [replaced, h]
    rw [replaced, h, Option.bind_some, Option.filter_some]
    by_cases hk : key new = k
    · subst hk
      rcases (recorded val? key (key new) before).getLast? with _ | old <;> simp
    · rcases (recorded val? key (key new) before).getLast? with _ | old <;> simp [hk]

end Recorded

section Entered

/-- Every element enters its own value, which is what `proj` shows of the value entered, under the
key of its own value. -/
def Enters (pair? : β → Option (κ × ν)) (val? : β → Option α) (key : α → κ) (proj : ν → α) : Prop :=
  ∀ b, pair? b = none ∧ val? b = none
    ∨ ∃ v, pair? b = some (key (proj v), v) ∧ val? b = some (proj v)

variable {pair? : β → Option (κ × ν)} {val? : β → Option α} {key : α → κ} {proj : ν → α}

/-- The table has the last value of each key. -/
theorem Enters.map_get?_foldl (h : Enters pair? val? key proj) (k : κ) (bs : List β) :
    ((bs.foldl (enter pair?) empty).get? k).map proj = (recorded val? key k bs).getLast? := by
  induction bs using List.reverseRecOn with
  | nil => rfl
  | append_singleton bs b ih =>
    rw [List.foldl_concat, recorded_append, recorded_singleton, enter]
    rcases h b with ⟨hp, hv⟩ | ⟨v, hp, hv⟩
    · simpa [hp, hv] using ih
    · simp only [hp, hv, get?_insert, Option.filter_some, decide_eq_true_eq]
      split_ifs with hk
      · simp
      · simpa using ih

/-- Every value is in the table, or another one came in its place. -/
theorem Enters.length_filterMap (h : Enters pair? val? key proj) (bs : List β) :
    (bs.filterMap val?).length
      = (bs.foldl (enter pair?) empty).size + (told (replaced val? key) [] bs).length := by
  induction bs using List.reverseRecOn with
  | nil => rfl
  | append_singleton bs b ih =>
    rw [List.foldl_concat, told_snoc, enter, List.filterMap_append, List.length_append,
      List.length_append, ih, List.nil_append, replaced]
    rcases h b with ⟨hp, hv⟩ | ⟨v, hp, hv⟩
    · simp [hp, hv]
    · -- Something is replaced exactly if the table has the key already.
      have hget := h.map_get?_foldl (key (proj v)) bs
      simp only [hp, hv, Option.bind_some, ← hget, size_insert]
      rcases (bs.foldl (enter pair?) empty).get? (key (proj v)) with _ | old
      · simp [hv]
        omega
      · simp [hv]
        omega

/-- The replacements for a key of the table lead from its first value to the one in the table. -/
theorem Enters.chain_replaced (h : Enters pair? val? key proj) {bs : List β} {k : κ} {v : ν}
    (hv : (bs.foldl (enter pair?) empty).get? k = some v) :
    Chain (recorded val? key k bs) (proj v)
      ((told (replaced val? key) [] bs).filter (key ·.2 = k)) := by
  have hlast : (recorded val? key k bs).getLast? = some (proj v) := by
    rw [← h.map_get?_foldl, hv, Option.map_some]
  rw [filter_told_replaced]
  exact chain_neighbours hlast

end Entered

end Table

end VulkanPrefill
