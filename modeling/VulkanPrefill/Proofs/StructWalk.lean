import VulkanPrefill.Proofs.Collects
import VulkanPrefill.Proofs.TracedResult
import VulkanPrefill.Scan.Structs

/-!
# The walk over the structs

A line that declares a struct is at fault if it is the last one, or if it announces the struct
without a name. The walk fails with the fault at the least position (`structTable_error_iff`);
without any it collects the announced names.
-/

namespace VulkanPrefill.Scan

theorem findSome?_eq_some_iff_getElem? {α β : Type} {g : α → Option β} {as : List α} {b : β} :
    as.findSome? g = some b ↔ ∃ (i : ℕ) (a : α), as[i]? = some a ∧ g a = some b
      ∧ ∀ j < i, ∀ c : α, as[j]? = some c → g c = none := by
  rw [List.findSome?_eq_some_iff]
  refine ⟨?_, ?_⟩
  · rintro ⟨xs, a, ys, rfl, ha, hxs⟩
    refine ⟨xs.length, a, by simp, ha, fun j hj c hc => hxs c ?_⟩
    rw [List.getElem?_append_left hj] at hc
    exact List.mem_of_getElem? hc
  · rintro ⟨i, a, hi, ha, hlt⟩
    obtain ⟨hlen, rfl⟩ := List.getElem?_eq_some_iff.1 hi
    refine ⟨as.take i, as[i], as.drop (i + 1), by simp, ha, fun c hc => ?_⟩
    obtain ⟨j, hj⟩ := List.mem_iff_getElem?.1 hc
    rw [List.getElem?_take] at hj
    split_ifs at hj with hji
    exact hlt j hji c hj

/-- The struct that is declared at position `i` is at fault. -/
inductive StructFaultAt (ls : List Line) (i : ℕ) : ScanFault → Prop
  | truncated {l : Line} : ls[i]? = some l → l.declaresStruct = true → i + 1 = ls.length →
    StructFaultAt ls i (.truncatedStruct (l.index + 1))
  | nameless {l next : Line} : ls[i]? = some l → l.declaresStruct = true →
    ls[i + 1]? = some next → next.namesStructureType = true → l.words.length < 3 →
    StructFaultAt ls i (.missingStructName (l.index + 1))

def SoundStructs (ls : List Line) : Prop :=
  ∀ i f, ¬ StructFaultAt ls i f

def structFault? (p : Line × Option Line) : Option ScanFault :=
  match announcedStruct p.1 p.2 with
  | .error fault => some fault
  | .ok _ => none

/-- What a line and the line after it give: the announced name with its key. -/
def announced? (p : Line × Option Line) : Option (String × String) :=
  match announcedStruct p.1 p.2 with
  | .error _ => none
  | .ok name => name.map fun name => (Text.lower name, name)

theorem announcedStruct_of_not_declares {l : Line} (h : l.declaresStruct = false)
    (next : Option Line) : announcedStruct l next = .ok none := by
  unfold announcedStruct
  rw [h]
  rfl

theorem announced?_eq_some_iff {p : Line × Option Line} {k name : String} :
    announced? p = some (k, name) ↔ p.1.declaresStruct = true
      ∧ (∃ next, p.2 = some next ∧ next.namesStructureType = true)
      ∧ p.1.word? 2 = some name ∧ Text.lower name = k := by
  unfold announced? announcedStruct
  rcases p with ⟨l, _ | next⟩
  · by_cases hd : l.declaresStruct = true <;> simp [hd]
  · by_cases hd : l.declaresStruct = true <;> by_cases hn : next.namesStructureType = true
    · rcases hw : l.word? 2 with _ | name'
      · simp [hd, hn]
      · simp only [hd, hn, if_true, Option.map_some, Option.some.injEq, Prod.mk.injEq, true_and,
          exists_eq_left']
        refine ⟨?_, ?_⟩
        · rintro ⟨rfl, rfl⟩
          exact ⟨rfl, rfl⟩
        · rintro ⟨rfl, rfl⟩
          exact ⟨rfl, rfl⟩
    all_goals simp [hd, hn]

theorem getElem?_withNext : ∀ (ls : List Line) (i : ℕ),
    (withNext ls)[i]? = ls[i]?.map fun l => (l, ls[i + 1]?)
  | [], i => by simp [withNext]
  | l :: ls, 0 => by simp [withNext, List.head?_eq_getElem?]
  | l :: ls, i + 1 => by
    rw [withNext, List.getElem?_cons_succ, getElem?_withNext ls i]
    simp

theorem mem_of_mem_withNext : ∀ {ls : List Line} {p : Line × Option Line},
    p ∈ withNext ls → p.1 ∈ ls
  | [], _, h => by simp [withNext] at h
  | l :: ls, p, h => by
    rw [withNext, List.mem_cons] at h
    rcases h with rfl | h
    · exact List.mem_cons_self
    · exact List.mem_cons_of_mem _ (mem_of_mem_withNext h)

theorem structFaultAt_iff {ls : List Line} {i : ℕ} {f : ScanFault} :
    StructFaultAt ls i f ↔ ∃ p, (withNext ls)[i]? = some p ∧ structFault? p = some f := by
  rw [getElem?_withNext]
  refine ⟨?_, ?_⟩
  · rintro (⟨hl, hd, hlen⟩ | ⟨hl, hd, hn, hs, hw⟩)
    · have hnone : ls[i + 1]? = none := List.getElem?_eq_none_iff.2 hlen.ge
      rw [hl, hnone]
      exact ⟨_, rfl, by simp [structFault?, announcedStruct, hd, Line.number]⟩
    · have hword : ∀ {l : Line}, l.words.length < 3 → l.word? 2 = none := fun h =>
        List.getElem?_eq_none_iff.2 (by omega)
      rw [hl, hn]
      exact ⟨_, rfl, by simp [structFault?, announcedStruct, hd, hs, hword hw, Line.number]⟩
  · rintro ⟨p, hp, hf⟩
    obtain ⟨l, hl, rfl⟩ := Option.map_eq_some_iff.1 hp
    unfold structFault? announcedStruct at hf
    by_cases hd : l.declaresStruct = true
    · rcases hn : ls[i + 1]? with _ | next
      · simp only [hd, hn, if_true, Option.some.injEq] at hf
        subst hf
        have hlt := (List.getElem?_eq_some_iff.1 hl).1
        exact .truncated hl hd (by have := List.getElem?_eq_none_iff.1 hn; omega)
      · by_cases hs : next.namesStructureType = true
        · rcases hw : l.word? 2 with _ | name
          · simp only [hd, hn, hs, hw, if_true, Option.some.injEq] at hf
            subst hf
            exact .nameless hl hd hn hs (Nat.lt_succ_of_le (List.getElem?_eq_none_iff.1 hw))
          · simp [hd, hn, hs, hw] at hf
        · simp [hd, hn, hs] at hf
    · simp [hd] at hf

theorem result_enterStruct (t : Table String String) (p : Line × Option Line) :
    (enterStruct t p.1 p.2).result
      = (structFault? p).elim (.ok (t.enter announced? p)) .error := by
  unfold enterStruct structFault? Table.enter announced?
  rw [Traced.result_bind, Traced.result_ofExcept]
  rcases announcedStruct p.1 p.2 with fault | _ | name
  · rfl
  · rfl
  · simp [bind, Except.bind]

theorem result_structTable (ls : List Line) :
    (structTable ls).result = Table.walk structFault? announced? (withNext ls) :=
  Traced.result_foldlM result_enterStruct (withNext ls) .empty

/-- The walk fails with the fault at the least position that has one. -/
theorem structTable_error_iff {ls : List Line} {f : ScanFault} :
    (structTable ls).result = .error f
      ↔ ∃ i, StructFaultAt ls i f ∧ ∀ j < i, ∀ g, ¬ StructFaultAt ls j g := by
  rw [result_structTable, Table.walk_eq_error_iff, findSome?_eq_some_iff_getElem?]
  refine ⟨?_, ?_⟩
  · rintro ⟨i, p, hp, hf, hlt⟩
    refine ⟨i, structFaultAt_iff.2 ⟨p, hp, hf⟩, fun j hj g hg => ?_⟩
    obtain ⟨q, hq, hqg⟩ := structFaultAt_iff.1 hg
    rw [hlt j hj q hq] at hqg
    cases hqg
  · rintro ⟨i, hi, hlt⟩
    obtain ⟨p, hp, hf⟩ := structFaultAt_iff.1 hi
    refine ⟨i, p, hp, hf, fun j hj q hq => ?_⟩
    rcases hg : structFault? q with _ | g
    · rfl
    · exact absurd (structFaultAt_iff.2 ⟨q, hq, hg⟩) (hlt j hj g)

theorem soundStructs_iff {ls : List Line} :
    SoundStructs ls ↔ ∀ p ∈ withNext ls, structFault? p = none := by
  refine ⟨?_, ?_⟩
  · intro h p hp
    obtain ⟨i, hi⟩ := List.mem_iff_getElem?.1 hp
    rw [Option.eq_none_iff_forall_ne_some]
    exact fun f hf => h i f (structFaultAt_iff.2 ⟨p, hi, hf⟩)
  · intro h i f hf
    obtain ⟨p, hp, hpf⟩ := structFaultAt_iff.1 hf
    rw [h p (List.mem_of_getElem? hp)] at hpf
    cases hpf

theorem structTable_ok_iff {ls : List Line} {t : Table String String} :
    (structTable ls).result = .ok t
      ↔ SoundStructs ls ∧ t = (withNext ls).foldl (Table.enter announced?) .empty := by
  rw [result_structTable, Table.walk_eq_ok_iff, soundStructs_iff]

section Declared

/-- The lines that declare a struct, each with the line after it. -/
def declared (ls : List Line) : List (Line × Option Line) :=
  (withNext ls).filter (·.1.declaresStruct)

theorem declared_cons (l : Line) (ls : List Line) : declared (l :: ls)
    = if l.declaresStruct then (l, ls.head?) :: declared ls else declared ls := by
  rw [declared, withNext, List.filter_cons]
  rfl

/-- Where no declaration looks across the seam, the declarations are those of the two parts. -/
theorem declared_append : ∀ {as : List Line}, (∀ l ∈ as.getLast?, l.declaresStruct = false) →
    ∀ bs : List Line, declared (as ++ bs) = declared as ++ declared bs
  | [], _, _ => rfl
  | [a], h, bs => by
    rw [List.singleton_append, declared_cons, declared_cons, h a rfl]
    rfl
  | a :: a' :: as, h, bs => by
    rw [List.getLast?_cons_cons] at h
    rw [List.cons_append, declared_cons, declared_cons, declared_append h bs]
    split_ifs <;> rfl

theorem declared_eq_nil {xs : List Line} (h : ∀ x ∈ xs, x.declaresStruct = false) :
    declared xs = [] := by
  refine List.filter_eq_nil_iff.2 fun p hp => ?_
  rw [h p.1 (mem_of_mem_withNext hp)]
  exact Bool.false_ne_true

theorem announced?_eq_none {p : Line × Option Line} (h : p.1.declaresStruct = false) :
    announced? p = none := by
  simp [announced?, announcedStruct_of_not_declares h]

theorem structFault?_eq_none {p : Line × Option Line} (h : p.1.declaresStruct = false) :
    structFault? p = none := by
  simp [structFault?, announcedStruct_of_not_declares h]

/-- What the other lines give plays no part, if they give nothing. -/
theorem filterMap_declared {γ : Type} {g : Line × Option Line → Option γ}
    (hg : ∀ p, p.1.declaresStruct = false → g p = none) (ls : List Line) :
    (declared ls).filterMap g = (withNext ls).filterMap g := by
  rw [declared, List.filterMap_filter]
  refine List.filterMap_congr fun p _ => ?_
  split_ifs with hd
  · rfl
  · exact (hg p (Bool.not_eq_true _ ▸ hd)).symm

theorem result_structTable_declared (ls : List Line) :
    (structTable ls).result = Table.walk structFault? announced? (declared ls) := by
  rw [result_structTable, Table.walk, Table.walk, Table.foldl_enter, Table.foldl_enter,
    ← List.head?_filterMap, ← List.head?_filterMap,
    filterMap_declared fun _ => structFault?_eq_none,
    filterMap_declared fun _ => announced?_eq_none]

theorem structTable_ok_iff_declared {ls : List Line} {t : Table String String} :
    (structTable ls).result = .ok t ↔ (∀ p ∈ declared ls, structFault? p = none)
      ∧ t = Table.empty.insertAll ((declared ls).filterMap announced?) := by
  rw [result_structTable_declared, Table.walk_eq_ok_iff, Table.foldl_enter]

end Declared

end VulkanPrefill.Scan
