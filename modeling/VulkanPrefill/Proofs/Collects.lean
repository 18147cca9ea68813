import VulkanPrefill.Table
import Mathlib.Data.List.Basic
import Mathlib.Data.List.Sort
import Mathlib.Order.Bounds.Basic
import Mathlib.Tactic

/-!
# What a walk collects in a table

A walk over a list enters the pair that each element gives, if it gives one. The table it ends with
has the keys given anywhere, in the order of the first elements that give them, each with the value
that the last such element gives (`collects_foldl`). This says what the table is
(`Collects.unique`).
-/

namespace VulkanPrefill.Table

variable {κ α β : Type} [DecidableEq κ]

section Lookup

theorem find_eq_some_iff {k : κ} {v : α} : ∀ {es : List (κ × α)}, (es.map Prod.fst).Nodup →
    (find k es = some v ↔ (k, v) ∈ es)
  | [], _ => by simp [find]
  | e :: es, h => by
    obtain ⟨he, h⟩ := List.nodup_cons.1 h
    have ih := find_eq_some_iff (k := k) (v := v) h
    rw [find, List.mem_cons]
    split_ifs with hk
    · subst hk
      have hv : (e.1, v) ∉ es := fun hm => he (List.mem_map.2 ⟨_, hm, rfl⟩)
      rw [Option.some.injEq, Prod.ext_iff]
      simp [hv, eq_comm]
    · rw [ih]
      refine ⟨.inr, fun h => h.resolve_left ?_⟩
      rintro rfl
      exact hk rfl

theorem get?_eq_some_iff {t : Table κ α} {k : κ} {v : α} :
    t.get? k = some v ↔ (k, v) ∈ t.entries :=
  find_eq_some_iff t.nodup_keys

theorem mem_keys_iff {t : Table κ α} {k : κ} : k ∈ t.keys ↔ ∃ v, t.get? k = some v := by
  simp only [get?_eq_some_iff, keys, List.mem_map]
  refine ⟨?_, ?_⟩
  · rintro ⟨⟨k, v⟩, hm, rfl⟩
    exact ⟨v, hm⟩
  · rintro ⟨v, hm⟩
    exact ⟨(k, v), hm, rfl⟩

theorem entries_eq (t : Table κ α) :
    t.entries = t.keys.filterMap fun k => (t.get? k).map fun v => (k, v) := by
  rw [keys, List.filterMap_map]
  refine (List.filterMap_some.symm.trans (List.filterMap_congr fun e he => ?_))
  rw [Function.comp_apply, get?_eq_some_iff.2 he]
  rfl

/-- A table is its keys in their order and what they are mapped to. -/
theorem eq_of_keys_of_get? {t u : Table κ α} (hk : t.keys = u.keys)
    (hv : ∀ k, t.get? k = u.get? k) : t = u := by
  refine Table.ext ?_
  rw [entries_eq t, entries_eq u, hk]
  simp only [hv]

end Lookup

section Walk

variable (pair? : β → Option (κ × α))

def Gives (k : κ) (b : β) : Prop :=
  (pair? b).map Prod.fst = some k

instance (k : κ) : DecidablePred (Gives pair? k) :=
  fun b => inferInstanceAs (Decidable ((pair? b).map Prod.fst = some k))

/-- The position of the first element that gives a value for `k`. -/
def firstFor (ls : List β) (k : κ) : Nat :=
  ls.findIdx (Gives pair? k ·)

/-- The last element that gives a value for `k` gives `v`. -/
def LastFor (ls : List β) (k : κ) (v : α) : Prop :=
  ∃ xs b ys, ls = xs ++ b :: ys ∧ pair? b = some (k, v) ∧ ∀ c ∈ ys, ¬ Gives pair? k c

def enter (t : Table κ α) (b : β) : Table κ α :=
  match pair? b with
  | none => t
  | some e => t.insert e.1 e.2

/-- `t` is what a walk over `ls` collects. -/
structure Collects (ls : List β) (t : Table κ α) : Prop where
  mem_keys : ∀ k, k ∈ t.keys ↔ ∃ b ∈ ls, Gives pair? k b
  order : t.keys.Pairwise fun k k' => firstFor pair? ls k < firstFor pair? ls k'
  get?_iff : ∀ k v, t.get? k = some v ↔ LastFor pair? ls k v

variable {pair?}

theorem firstFor_append {ls : List β} {k : κ} (h : ∃ b ∈ ls, Gives pair? k b) (ms : List β) :
    firstFor pair? (ls ++ ms) k = firstFor pair? ls k := by
  unfold firstFor
  rw [List.findIdx_append, if_pos]
  simpa [List.findIdx_lt_length] using h

theorem firstFor_lt {ls : List β} {k : κ} (h : ∃ b ∈ ls, Gives pair? k b) :
    firstFor pair? ls k < ls.length := by
  simpa [firstFor, List.findIdx_lt_length] using h

theorem length_le_firstFor {ls : List β} {k : κ} (h : ¬ ∃ b ∈ ls, Gives pair? k b)
    (ms : List β) : ls.length ≤ firstFor pair? (ls ++ ms) k := by
  unfold firstFor
  rw [List.findIdx_append, if_neg]
  · omega
  · simpa [List.findIdx_lt_length] using h

omit [DecidableEq κ] in
theorem lastFor_snoc {ls : List β} {b : β} {k : κ} {v : α} :
    LastFor pair? (ls ++ [b]) k v
      ↔ pair? b = some (k, v) ∨ ¬ Gives pair? k b ∧ LastFor pair? ls k v := by
  refine ⟨?_, ?_⟩
  · rintro ⟨xs, c, ys, heq, hc, hys⟩
    rcases List.eq_nil_or_concat ys with rfl | ⟨ys, d, rfl⟩
    · obtain ⟨-, hbc⟩ := List.append_inj' heq rfl
      obtain rfl := List.singleton_inj.1 hbc
      exact .inl hc
    · rw [List.concat_eq_append] at heq hys
      rw [← List.cons_append, ← List.append_assoc] at heq
      obtain ⟨rfl, hbd⟩ := List.append_inj' heq rfl
      obtain rfl := List.singleton_inj.1 hbd
      exact .inr ⟨hys b (by simp), xs, c, ys, rfl, hc, fun d hd => hys d (by simp [hd])⟩
  · rintro (h | ⟨hb, xs, c, ys, rfl, hc, hys⟩)
    · exact ⟨ls, b, [], rfl, h, by simp⟩
    · refine ⟨xs, c, ys ++ [b], by simp, hc, fun d hd => ?_⟩
      rcases List.mem_append.1 hd with hd | hd
      · exact hys d hd
      · rwa [List.mem_singleton.1 hd]

theorem collects_empty : Collects pair? [] (empty : Table κ α) := by
  refine ⟨fun k => by simp [keys, empty], List.Pairwise.nil, fun k v => ?_⟩
  simp [get?, empty, find, LastFor]

theorem keys_enter (t : Table κ α) (b : β) (k : κ) :
    k ∈ (enter pair? t b).keys ↔ k ∈ t.keys ∨ Gives pair? k b := by
  unfold enter Gives
  rcases pair? b with _ | ⟨k', v⟩
  · simp
  · rw [keys_insert, List.mem_append]
    by_cases hk : k' ∈ t.keys
    · simp only [hk, if_true, List.not_mem_nil, or_false, Option.map_some, Option.some.injEq]
      exact ⟨.inl, fun h => h.elim id fun h => h ▸ hk⟩
    · simp [hk, eq_comm]

theorem Collects.snoc {ls : List β} {t : Table κ α} (h : Collects pair? ls t) (b : β) :
    Collects pair? (ls ++ [b]) (enter pair? t b) := by
  have hold : t.keys.Pairwise fun k k' =>
      firstFor pair? (ls ++ [b]) k < firstFor pair? (ls ++ [b]) k' := by
    refine h.order.imp_of_mem fun {k k'} hk hk' hlt => ?_
    rwa [firstFor_append ((h.mem_keys k).1 hk), firstFor_append ((h.mem_keys k').1 hk')]
  refine ⟨fun k => ?_, ?_, fun k v => ?_⟩
  · rw [keys_enter, h.mem_keys]
    simp [or_and_right, exists_or]
  · unfold enter
    rcases he : pair? b with _ | ⟨k', v⟩
    · exact hold
    · simp only [keys_insert]
      split_ifs with hk
      · simpa using hold
      · -- The new key stands last, and nothing before `b` gives it.
        refine List.pairwise_append.2 ⟨hold, List.pairwise_singleton _ _, fun k hmem k'' hk'' => ?_⟩
        obtain rfl := List.mem_singleton.1 hk''
        have hfirst := (h.mem_keys k).1 hmem
        rw [firstFor_append hfirst]
        exact (firstFor_lt hfirst).trans_le
          (length_le_firstFor (fun hex => hk ((h.mem_keys _).2 hex)) [b])
  · rw [lastFor_snoc, ← h.get?_iff]
    unfold enter Gives
    rcases he : pair? b with _ | ⟨k', v'⟩
    · simp
    · simp only [get?_insert, Option.map_some, Option.some.injEq, Prod.mk.injEq]
      split_ifs with hk <;> simp [hk]

theorem Collects.foldl : ∀ (ms : List β) {ls : List β} {t : Table κ α}, Collects pair? ls t →
    Collects pair? (ls ++ ms) (ms.foldl (enter pair?) t)
  | [], ls, t, h => by simpa using h
  | b :: ms, ls, t, h => by
    have := (h.snoc b).foldl ms
    rwa [List.append_assoc] at this

theorem collects_foldl (pair? : β → Option (κ × α)) (ls : List β) :
    Collects pair? ls (ls.foldl (enter pair?) empty) :=
  collects_empty.foldl ls

theorem Collects.exists_pair {ls : List β} {t : Table κ α} (h : Collects pair? ls t) {k : κ} {v : α}
    (hk : t.get? k = some v) : ∃ b ∈ ls, pair? b = some (k, v) := by
  obtain ⟨xs, b, ys, rfl, hb, -⟩ := (h.get?_iff k v).1 hk
  exact ⟨b, by simp, hb⟩

theorem LastFor.unique {ls : List β} {k : κ} {v v' : α} (h : LastFor pair? ls k v)
    (h' : LastFor pair? ls k v') : v = v' := by
  have hiff := (collects_foldl pair? ls).get?_iff k
  exact Option.some.inj (((hiff v).2 h).symm.trans ((hiff v').2 h'))

theorem Collects.unique {ls : List β} {t u : Table κ α} (ht : Collects pair? ls t)
    (hu : Collects pair? ls u) : t = u := by
  have hmem : ∀ k, k ∈ t.keys ↔ k ∈ u.keys := fun k => (ht.mem_keys k).trans (hu.mem_keys k).symm
  have hkeys : t.keys = u.keys := by
    refine List.Perm.eq_of_pairwise (fun a b _ _ hab hba => (hab.asymm hba).elim) ht.order hu.order
      ((List.perm_ext_iff_of_nodup t.nodup_keys u.nodup_keys).2 hmem)
  refine eq_of_keys_of_get? hkeys fun k => ?_
  exact Option.ext fun v => (ht.get?_iff k v).trans (hu.get?_iff k v).symm

end Walk

section Faults

variable {ε : Type} {fault? : β → Option ε} {pair? : β → Option (κ × α)} {bs : List β}

/-- How a walk ends that stops at the first fault and otherwise collects the given pairs. -/
def walk (fault? : β → Option ε) (pair? : β → Option (κ × α)) (bs : List β) :
    Except ε (Table κ α) :=
  (bs.findSome? fault?).elim (.ok (bs.foldl (enter pair?) empty)) .error

theorem walk_eq_error_iff {fault : ε} :
    walk fault? pair? bs = .error fault ↔ bs.findSome? fault? = some fault := by
  unfold walk
  rcases bs.findSome? fault? with _ | fault' <;> simp

theorem walk_eq_ok_iff {t : Table κ α} : walk fault? pair? bs = .ok t
    ↔ (∀ b ∈ bs, fault? b = none) ∧ t = bs.foldl (enter pair?) empty := by
  unfold walk
  rw [← List.findSome?_eq_none_iff]
  rcases bs.findSome? fault? with _ | fault'
  · simp [eq_comm]
  · simp

end Faults

section Positions

variable {pair? : β → Option (κ × α)} {bs : List β}

/-- The positions of the elements that give a value for `k`. -/
def givers (pair? : β → Option (κ × α)) (bs : List β) (k : κ) : Set ℕ :=
  {i | ∃ b, bs[i]? = some b ∧ Gives pair? k b}

theorem isLeast_firstFor {k : κ} (h : ∃ b ∈ bs, Gives pair? k b) :
    IsLeast (givers pair? bs k) (firstFor pair? bs k) := by
  have hlt : bs.findIdx (Gives pair? k ·) < bs.length := firstFor_lt h
  refine ⟨⟨_, List.getElem?_eq_getElem hlt, ?_⟩, ?_⟩
  · simpa using List.findIdx_getElem (w := hlt)
  · rintro i ⟨b, hi, hb⟩
    by_contra hlti
    obtain ⟨hbs, rfl⟩ := List.getElem?_eq_some_iff.1 hi
    exact of_decide_eq_false (List.not_of_lt_findIdx (not_le.1 hlti)) hb

omit [DecidableEq κ] in
theorem lastFor_iff_isGreatest {k : κ} {v : α} : LastFor pair? bs k v
    ↔ ∃ i, IsGreatest (givers pair? bs k) i ∧ ∃ b, bs[i]? = some b ∧ pair? b = some (k, v) := by
  refine ⟨?_, ?_⟩
  · rintro ⟨xs, b, ys, rfl, hb, hys⟩
    have hgives : Gives pair? k b := by rw [Gives, hb, Option.map_some]
    refine ⟨xs.length, ⟨⟨b, by simp, hgives⟩, ?_⟩, b, by simp, hb⟩
    rintro i ⟨c, hi, hc⟩
    by_contra hlt
    obtain ⟨n, rfl⟩ := Nat.exists_eq_add_of_lt (not_le.1 hlt)
    rw [Nat.add_assoc, List.getElem?_append_right (Nat.le_add_right _ _), Nat.add_sub_cancel_left,
      List.getElem?_cons_succ] at hi
    exact hys c (List.mem_of_getElem? hi) hc
  · rintro ⟨i, ⟨-, hmax⟩, b, hi, hb⟩
    obtain ⟨hlt, rfl⟩ := List.getElem?_eq_some_iff.1 hi
    refine ⟨bs.take i, bs[i], bs.drop (i + 1), by simp, hb, fun c hc hgives => ?_⟩
    obtain ⟨j, hj⟩ := List.mem_iff_getElem?.1 hc
    rw [List.getElem?_drop] at hj
    have : i + 1 + j ≤ i := hmax ⟨c, hj, hgives⟩
    omega

omit [DecidableEq κ] in
theorem nonempty_givers_iff {k : κ} :
    (givers pair? bs k).Nonempty ↔ ∃ b ∈ bs, Gives pair? k b := by
  refine ⟨?_, ?_⟩
  · rintro ⟨i, b, hi, hb⟩
    exact ⟨b, List.mem_of_getElem? hi, hb⟩
  · rintro ⟨b, hmem, hb⟩
    obtain ⟨i, hi⟩ := List.mem_iff_getElem?.1 hmem
    exact ⟨i, b, hi, hb⟩

/-- What a walk collects, by the positions of the elements. -/
theorem collects_iff_givers {t : Table κ α} : Collects pair? bs t
    ↔ (∀ k, k ∈ t.keys ↔ (givers pair? bs k).Nonempty)
      ∧ (t.keys.Pairwise fun k k' => ∃ i j, IsLeast (givers pair? bs k) i
        ∧ IsLeast (givers pair? bs k') j ∧ i < j)
      ∧ ∀ k v, (k, v) ∈ t.entries ↔ ∃ i, IsGreatest (givers pair? bs k) i
        ∧ ∃ b, bs[i]? = some b ∧ pair? b = some (k, v) := by
  simp only [nonempty_givers_iff, ← lastFor_iff_isGreatest, ← get?_eq_some_iff]
  refine ⟨fun h => ⟨h.mem_keys, ?_, h.get?_iff⟩, fun ⟨hkeys, horder, hget⟩ => ⟨hkeys, ?_, hget⟩⟩
  · refine h.order.imp_of_mem fun {k k'} hk hk' hlt => ?_
    exact ⟨_, _, isLeast_firstFor ((h.mem_keys k).1 hk), isLeast_firstFor ((h.mem_keys k').1 hk'),
      hlt⟩
  · refine horder.imp_of_mem fun {k k'} hk hk' hlt => ?_
    obtain ⟨i, j, hi, hj, hij⟩ := hlt
    rwa [(isLeast_firstFor ((hkeys k).1 hk)).unique hi,
      (isLeast_firstFor ((hkeys k').1 hk')).unique hj]

end Positions

section NewKeys

theorem put_of_notMem {k : κ} {v : α} : ∀ {es : List (κ × α)}, k ∉ es.map Prod.fst →
    put k v es = es ++ [(k, v)]
  | [], _ => rfl
  | e :: es, h => by
    rw [List.map_cons, List.mem_cons, not_or] at h
    rw [put, if_neg (Ne.symm h.1), put_of_notMem h.2, List.cons_append]

/-- Entries with new keys come to stand in their order behind the old ones. -/
theorem entries_insertAll : ∀ {es : List (κ × α)} {t : Table κ α},
    ((t.entries ++ es).map Prod.fst).Nodup → (t.insertAll es).entries = t.entries ++ es
  | [], t, _ => (List.append_nil t.entries).symm
  | e :: es, t, h => by
    have hnew : e.1 ∉ t.entries.map Prod.fst := by
      intro hmem
      rw [List.map_append] at h
      exact (List.nodup_append.1 h).2.2 _ hmem _ (by simp) rfl
    have hput : (t.insert e.1 e.2).entries = t.entries ++ [e] := put_of_notMem hnew
    have h' : (((t.insert e.1 e.2).entries ++ es).map Prod.fst).Nodup := by
      rw [hput]
      simpa using h
    have ih := entries_insertAll h'
    rw [hput, List.append_assoc] at ih
    exact ih

theorem foldl_enter {pair? : β → Option (κ × α)} : ∀ (ls : List β) (t : Table κ α),
    ls.foldl (enter pair?) t = t.insertAll (ls.filterMap pair?)
  | [], t => rfl
  | b :: ls, t => by
    rw [List.foldl_cons, foldl_enter ls, enter]
    rcases h : pair? b with _ | e
    · rw [List.filterMap_cons_none h]
    · rw [List.filterMap_cons_some h]
      rfl

/-- A walk that is given no key twice collects the given pairs as they come. -/
theorem entries_foldl_enter {pair? : β → Option (κ × α)} {ls : List β}
    (h : ((ls.filterMap pair?).map Prod.fst).Nodup) :
    (ls.foldl (enter pair?) empty).entries = ls.filterMap pair? := by
  rw [foldl_enter]
  exact entries_insertAll h

end NewKeys

end VulkanPrefill.Table
