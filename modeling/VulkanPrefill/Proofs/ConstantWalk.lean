import VulkanPrefill.Proofs.Collects
import VulkanPrefill.Proofs.TracedResult
import VulkanPrefill.Scan.Constants

/-!
# The walk over the constants

Every line of the block has to have a word. If all have one, the walk collects the initializers of
the constants that have a struct (`initializerTable_collects`); the first that has none is the
fault.
-/

namespace VulkanPrefill

def Line.key? (l : Line) : Option String :=
  (l.word? 0).map Constant.structKey

namespace Scan

/-- What a line of the block gives: the key of its constant and the initializer, if a struct has
the key. -/
def matched? (structs : Table String String) (line : Line) : Option (String × Initializer) :=
  (line.word? 0).bind fun constant =>
    (structs.get? (Constant.structKey constant)).map fun structName =>
      (Constant.structKey constant, ⟨structName, constant, Constant.functionName constant⟩)

def constantFault? (line : Line) : Option ScanFault :=
  if line.word? 0 = none then some (.missingConstantName line.number) else none

theorem matched?_eq_some_iff {structs : Table String String} {l : Line} {k : String}
    {i : Initializer} :
    matched? structs l = some (k, i)
      ↔ l.word? 0 = some i.constant ∧ Constant.structKey i.constant = k
        ∧ structs.get? k = some i.structName
        ∧ i.functionName = Constant.functionName i.constant := by
  simp only [matched?, Option.bind_eq_some_iff, Option.map_eq_some_iff, Prod.mk.injEq]
  refine ⟨?_, ?_⟩
  · rintro ⟨c, hc, name, hname, rfl, rfl⟩
    exact ⟨hc, rfl, hname, rfl⟩
  · rintro ⟨hc, rfl, hname, hf⟩
    refine ⟨i.constant, hc, i.structName, hname, rfl, ?_⟩
    rw [← hf]

theorem gives_matched?_iff {structs : Table String String} {l : Line} {k : String} :
    Table.Gives (matched? structs) k l ↔ k ∈ structs.keys ∧ l.key? = some k := by
  simp only [Table.Gives, matched?, Line.key?, Table.mem_keys_iff]
  rcases l.word? 0 with _ | c
  · simp
  · rcases h : structs.get? (Constant.structKey c) with _ | name
    · simp only [Option.bind_some, h, Option.map_none, reduceCtorEq, Option.map_some,
        Option.some.injEq, false_iff, not_and]
      rintro ⟨name, hname⟩ rfl
      simp [h] at hname
    · simp only [Option.bind_some, h, Option.map_some, Option.some.injEq]
      refine ⟨?_, And.right⟩
      rintro rfl
      exact ⟨⟨name, h⟩, rfl⟩

theorem result_enterConstant (structs : Table String String) (t : Table String Initializer)
    (line : Line) :
    (enterConstant structs t line).result
      = (constantFault? line).elim (.ok (t.enter (matched? structs) line)) .error := by
  unfold enterConstant constantFault? Table.enter matched?
  rcases line.word? 0 with _ | c
  · rfl
  · rcases h : structs.get? (Constant.structKey c) with _ | name
    · simp [h, Except.map]
    · simp [h, Except.map]

theorem result_initializerTable (structs : Table String String) (block : List Line) :
    (initializerTable structs block).result
      = Table.walk constantFault? (matched? structs) block :=
  Traced.result_foldlM (result_enterConstant structs) block .empty

theorem constantFault?_eq_some_iff {l : Line} {f : ScanFault} :
    constantFault? l = some f ↔ l.words = [] ∧ f = .missingConstantName (l.index + 1) := by
  have hw : l.word? 0 = none ↔ l.words = [] := by simp [Line.word?]
  unfold constantFault?
  simp only [hw]
  split_ifs with h
  · simp [h, Line.number, eq_comm]
  · simp [h]

theorem constantFault?_eq_none_iff {l : Line} : constantFault? l = none ↔ l.words ≠ [] := by
  simp [Option.eq_none_iff_forall_ne_some, constantFault?_eq_some_iff]

/-- The walk fails with the fault of the first line without a word. -/
theorem initializerTable_error_iff {structs : Table String String} {block : List Line}
    {f : ScanFault} : (initializerTable structs block).result = .error f
      ↔ ∃ xs l ys, block = xs ++ l :: ys ∧ l.words = [] ∧ f = .missingConstantName (l.index + 1)
        ∧ ∀ m ∈ xs, m.words ≠ [] := by
  rw [result_initializerTable, Table.walk_eq_error_iff, List.findSome?_eq_some_iff]
  simp only [constantFault?_eq_some_iff, constantFault?_eq_none_iff]
  refine ⟨?_, ?_⟩
  · rintro ⟨xs, l, ys, hb, ⟨hl, hf⟩, hxs⟩
    exact ⟨xs, l, ys, hb, hl, hf, hxs⟩
  · rintro ⟨xs, l, ys, hb, hl, hf, hxs⟩
    exact ⟨xs, l, ys, hb, ⟨hl, hf⟩, hxs⟩

theorem initializerTable_ok_iff {structs : Table String String} {block : List Line}
    {t : Table String Initializer} : (initializerTable structs block).result = .ok t
      ↔ (∀ l ∈ block, l.words ≠ []) ∧ t = block.foldl (Table.enter (matched? structs)) .empty := by
  rw [result_initializerTable, Table.walk_eq_ok_iff]
  simp only [constantFault?_eq_none_iff]

/-- If it does not fail, the walk collects what its lines give. -/
theorem initializerTable_collects {structs : Table String String} {block : List Line}
    {t : Table String Initializer} (h : (initializerTable structs block).result = .ok t) :
    Table.Collects (matched? structs) block t := by
  rw [(initializerTable_ok_iff.1 h).2]
  exact Table.collects_foldl _ block

end Scan

end VulkanPrefill
