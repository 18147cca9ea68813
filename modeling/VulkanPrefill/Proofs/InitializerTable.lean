import VulkanPrefill.Proofs.ConstantWalk
import VulkanPrefill.Proofs.Stages

/-!
# The initializer table

The table of an accepted header is determined by its struct table and the block of constants
(`ofLines_matches`): the first line that matches a key gives the key its place, and the last one
gives it its constant.
-/

namespace VulkanPrefill

open Scan

/-- `t` holds the constants of `block` that have a struct: every key once, in the order of the
first lines with the keys, and with the constant of the last such line. -/
structure MatchTable (structs : Table String String) (block : List Line)
    (t : Table String Initializer) : Prop where
  mem_keys : ∀ k, k ∈ t.keys ↔ k ∈ structs.keys ∧ ∃ l ∈ block, l.key? = some k
  nodup : t.keys.Nodup
  order : t.keys.Pairwise fun k k' =>
    block.findIdx (fun l => l.key? = some k) < block.findIdx (fun l => l.key? = some k')
  entry : ∀ k i, (k, i) ∈ t.entries → structs.get? k = some i.structName
    ∧ (∃ xs l ys, block = xs ++ l :: ys ∧ l.word? 0 = some i.constant
      ∧ Constant.structKey i.constant = k ∧ ∀ m ∈ ys, m.key? ≠ some k)
    ∧ i.functionName = Constant.functionName i.constant

namespace Table

variable {structs : Table String String} {block : List Line} {t : Table String Initializer}

theorem firstFor_matched? {k : String} (hk : k ∈ structs.keys) :
    firstFor (matched? structs) block k = block.findIdx fun l => l.key? = some k := by
  unfold firstFor
  congr 1
  funext l
  simp [gives_matched?_iff, hk]

theorem lastFor_matched?_iff {k : String} {i : Initializer} :
    LastFor (matched? structs) block k i ↔ structs.get? k = some i.structName
      ∧ (∃ xs l ys, block = xs ++ l :: ys ∧ l.word? 0 = some i.constant
        ∧ Constant.structKey i.constant = k ∧ ∀ m ∈ ys, m.key? ≠ some k)
      ∧ i.functionName = Constant.functionName i.constant := by
  refine ⟨?_, ?_⟩
  · rintro ⟨xs, l, ys, hb, hl, hys⟩
    obtain ⟨hc, hk, hn, hf⟩ := matched?_eq_some_iff.1 hl
    refine ⟨hn, ⟨xs, l, ys, hb, hc, hk, fun m hm hkey => hys m hm ?_⟩, hf⟩
    exact gives_matched?_iff.2 ⟨mem_keys_iff.2 ⟨_, hn⟩, hkey⟩
  · rintro ⟨hn, ⟨xs, l, ys, hb, hc, hk, hys⟩, hf⟩
    refine ⟨xs, l, ys, hb, matched?_eq_some_iff.2 ⟨hc, hk, hn, hf⟩, fun m hm hg => hys m hm ?_⟩
    exact (gives_matched?_iff.1 hg).2

theorem collects_matched?_iff :
    Collects (matched? structs) block t ↔ MatchTable structs block t := by
  have hmem : (∀ k, k ∈ t.keys ↔ ∃ l ∈ block, Gives (matched? structs) k l)
      ↔ ∀ k, k ∈ t.keys ↔ k ∈ structs.keys ∧ ∃ l ∈ block, l.key? = some k := by
    simp only [gives_matched?_iff]
    grind
  refine ⟨?_, ?_⟩
  · intro h
    refine ⟨hmem.1 h.mem_keys, t.nodup_keys, ?_, fun k i hi => ?_⟩
    · refine h.order.imp_of_mem fun {k k'} hk hk' hlt => ?_
      rwa [firstFor_matched? ((hmem.1 h.mem_keys k).1 hk).1,
        firstFor_matched? ((hmem.1 h.mem_keys k').1 hk').1] at hlt
    · exact lastFor_matched?_iff.1 ((h.get?_iff k i).1 (get?_eq_some_iff.2 hi))
  · intro h
    refine ⟨hmem.2 h.mem_keys, ?_, fun k i => ?_⟩
    · refine h.order.imp_of_mem fun {k k'} hk hk' hlt => ?_
      rwa [firstFor_matched? ((h.mem_keys k).1 hk).1, firstFor_matched? ((h.mem_keys k').1 hk').1]
    · rw [get?_eq_some_iff]
      refine ⟨fun hi => lastFor_matched?_iff.2 (h.entry k i hi), fun hlast => ?_⟩
      obtain ⟨xs, l, ys, rfl, hl, -⟩ := id hlast
      obtain ⟨hc, hkey, hn, -⟩ := matched?_eq_some_iff.1 hl
      have hk : k ∈ t.keys := (h.mem_keys k).2
        ⟨mem_keys_iff.2 ⟨_, hn⟩, l, by simp, by rw [Line.key?, hc, Option.map_some, hkey]⟩
      obtain ⟨i', hi'⟩ := mem_keys_iff.1 hk
      have hmem := get?_eq_some_iff.1 hi'
      obtain rfl := (lastFor_matched?_iff.2 (h.entry k i' hmem)).unique hlast
      exact hmem

end Table

/-- An accepted header has one block of constants, and the struct table and the block determine the
initializer table. -/
theorem ofLines_matches {ls : List Line} {r : Registry} (h : (Registry.ofLines ls).result = .ok r) :
    ∃ p : EnumParts ls, (∀ q : EnumParts ls, q = p) ∧ MatchTable r.structs p.block r.initializers
      ∧ ∀ t, MatchTable r.structs p.block t → t = r.initializers := by
  obtain ⟨-, p, hi⟩ := Registry.ofLines_ok_iff.1 h
  have hc := initializerTable_collects hi
  refine ⟨p, fun q => q.unique p, Table.collects_matched?_iff.1 hc, fun t ht => ?_⟩
  exact (Table.collects_matched?_iff.2 ht).unique hc

/-- Two spellings of a constant with another one between them. -/
def respelledConstant : List Line := [
  ⟨0, "typedef struct VkA1 \x7b"⟩, ⟨1, "VkStructureType s;"⟩,
  ⟨2, "typedef struct VkB \x7b"⟩, ⟨3, "VkStructureType s;"⟩,
  ⟨4, "typedef enum VkStructureType \x7b"⟩, ⟨5, "VK_STRUCTURE_TYPE_A_1"⟩,
  ⟨6, "VK_STRUCTURE_TYPE_B"⟩, ⟨7, "VK_STRUCTURE_TYPE_A1"⟩, ⟨8, "\x7d;"⟩]

theorem ofLines_matches_respelledConstant :
    ∃ r, (Registry.ofLines respelledConstant).result = .ok r
      ∧ r.initializers.entries = [("vka1", ⟨"VkA1", "VK_STRUCTURE_TYPE_A1", "vk_a1"⟩),
        ("vkb", ⟨"VkB", "VK_STRUCTURE_TYPE_B", "vk_b"⟩)]
      ∧ ∃ p : EnumParts respelledConstant, (∀ q : EnumParts respelledConstant, q = p)
        ∧ MatchTable r.structs p.block r.initializers
        ∧ ∀ t, MatchTable r.structs p.block t → t = r.initializers := by
  have h : (Registry.ofLines respelledConstant).result.toOption.map (·.initializers.entries)
      = some [("vka1", ⟨"VkA1", "VK_STRUCTURE_TYPE_A1", "vk_a1"⟩),
        ("vkb", ⟨"VkB", "VK_STRUCTURE_TYPE_B", "vk_b"⟩)] := by
    decide +kernel
  rcases hr : (Registry.ofLines respelledConstant).result with f | r <;> rw [hr] at h
  · cases h
  · exact ⟨r, rfl, Option.some.inj h, ofLines_matches hr⟩

end VulkanPrefill
