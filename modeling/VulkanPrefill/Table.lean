/-!
# Tables in order of arrival

A table gives each of its keys one value. A key that comes again keeps its place and takes the new
value, so the keys stand in the order in which they first came.
-/

namespace VulkanPrefill

@[ext]
structure Table (κ α : Type) where
  entries : List (κ × α)
  nodup_keys : (entries.map Prod.fst).Nodup

namespace Table

variable {κ α : Type} [DecidableEq κ]

def empty : Table κ α :=
  ⟨[], List.nodup_nil⟩

def keys (t : Table κ α) : List κ :=
  t.entries.map Prod.fst

def size (t : Table κ α) : Nat :=
  t.entries.length

/-- The value of the first entry for `k`. -/
def find (k : κ) : List (κ × α) → Option α
  | [] => none
  | e :: es => if e.1 = k then some e.2 else find k es

def get? (t : Table κ α) (k : κ) : Option α :=
  find k t.entries

/-- Entries with `k` set to `v`: in its place if it is there, and last if not. -/
def put (k : κ) (v : α) : List (κ × α) → List (κ × α)
  | [] => [(k, v)]
  | e :: es => if e.1 = k then (k, v) :: es else e :: put k v es

theorem map_fst_put (k : κ) (v : α) : ∀ es : List (κ × α),
    (put k v es).map Prod.fst
      = es.map Prod.fst ++ if k ∈ es.map Prod.fst then [] else [k]
  | [] => by simp [put]
  | e :: es => by
    by_cases h : e.1 = k
    · simp [put, h]
    · have hk : k ∈ (e :: es).map Prod.fst ↔ k ∈ es.map Prod.fst := by simp [Ne.symm h]
      simp only [put, h, if_false, List.map_cons, map_fst_put k v es, List.cons_append]
      simp only [← List.map_cons, hk]

def insert (t : Table κ α) (k : κ) (v : α) : Table κ α where
  entries := put k v t.entries
  nodup_keys := by
    rw [map_fst_put]
    split
    · simpa using t.nodup_keys
    · next h =>
      refine List.nodup_append.2 ⟨t.nodup_keys, List.pairwise_singleton _ _, ?_⟩
      rintro a ha b hb rfl
      exact h (List.mem_singleton.1 hb ▸ ha)

/-- Inserts the entries one after the other. -/
def insertAll (t : Table κ α) (es : List (κ × α)) : Table κ α :=
  es.foldl (fun t e => t.insert e.1 e.2) t

def ofList (es : List (κ × α)) : Table κ α :=
  empty.insertAll es

/-- Inserts the entries of `u`, in their order. -/
def update (t u : Table κ α) : Table κ α :=
  t.insertAll u.entries

theorem keys_insert (t : Table κ α) (k : κ) (v : α) :
    (t.insert k v).keys = t.keys ++ if k ∈ t.keys then [] else [k] :=
  map_fst_put k v t.entries

theorem find_put (k k' : κ) (v : α) : ∀ es : List (κ × α),
    find k' (put k v es) = if k = k' then some v else find k' es
  | [] => rfl
  | e :: es => by
    by_cases h : e.1 = k
    · by_cases h' : k = k' <;> simp [put, find, h, h']
    · by_cases h' : e.1 = k'
      · subst h'
        simp [put, find, h, Ne.symm h]
      · simp [put, find, h, h', find_put k k' v es]

theorem get?_insert (t : Table κ α) (k k' : κ) (v : α) :
    (t.insert k v).get? k' = if k = k' then some v else t.get? k' :=
  find_put k k' v t.entries

end Table

end VulkanPrefill
