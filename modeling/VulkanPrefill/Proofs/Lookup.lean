import VulkanPrefill.Proofs.ConstantWalk
import VulkanPrefill.Proofs.LowerCase
import VulkanPrefill.Proofs.Stages
import VulkanPrefill.Proofs.StructWalk

/-!
# Looking an initializer up

The two tables of a registry agree: an initializer stands under the key of its constant, and that is
the lower case of its struct's name (`coherent_of_mem`). So a name leads to the initializer whose
key is the name's lower case, whatever the case it is written in, and to no other
(`ofLines_lookup`).
-/

namespace VulkanPrefill

open Scan

/-- An entry of a struct table is a line's third word, under its lower case. -/
theorem Scan.structTable_get? {ls : List Line} {t : Table String String}
    (h : (structTable ls).result = .ok t) {k name : String} (hk : t.get? k = some name) :
    Text.lower name = k ∧ ∃ l : Line, l.word? 2 = some name := by
  have hcollects : Table.Collects announced? (withNext ls) t := by
    rw [(structTable_ok_iff.1 h).2]
    exact Table.collects_foldl announced? _
  obtain ⟨p, -, hp⟩ := hcollects.exists_pair hk
  obtain ⟨-, -, hword, hlower⟩ := announced?_eq_some_iff.1 hp
  exact ⟨hlower, p.1, hword⟩

namespace Registry

/-- The tables of `r` agree on the initializer `i` with the key `k`. -/
structure Coherent (r : Registry) (k : String) (i : Initializer) : Prop where
  structKey_constant : Constant.structKey i.constant = k
  lower_structName : Text.lower i.structName = k
  get?_structs : r.structs.get? k = some i.structName
  functionName_eq : i.functionName = Constant.functionName i.constant

variable {ls : List Line} {r : Registry}

theorem exists_matched? (h : (ofLines ls).result = .ok r) {k : String} {i : Initializer}
    (hmem : (k, i) ∈ r.initializers.entries) : ∃ l, matched? r.structs l = some (k, i) := by
  obtain ⟨-, p, hi⟩ := ofLines_ok_iff.1 h
  obtain ⟨l, -, hl⟩ := (initializerTable_collects hi).exists_pair (Table.get?_eq_some_iff.2 hmem)
  exact ⟨l, hl⟩

theorem coherent_of_mem (h : (ofLines ls).result = .ok r) {k : String} {i : Initializer}
    (hmem : (k, i) ∈ r.initializers.entries) : r.Coherent k i := by
  obtain ⟨l, hl⟩ := exists_matched? h hmem
  obtain ⟨-, hkey, hget, hfunction⟩ := matched?_eq_some_iff.1 hl
  exact ⟨hkey, (structTable_get? (ofLines_ok_iff.1 h).1 hget).1, hget, hfunction⟩

theorem initializer?_eq_some_iff {n : String} {i : Initializer} :
    r.initializer? n = some i ↔ (Text.lower n, i) ∈ r.initializers.entries :=
  Table.get?_eq_some_iff

theorem initializer?_iff_of_mem (h : (ofLines ls).result = .ok r) {k : String} {i : Initializer}
    (hmem : (k, i) ∈ r.initializers.entries) (n : String) :
    r.initializer? n = some i ↔ Text.lower n = k := by
  rw [initializer?_eq_some_iff]
  refine ⟨fun hn => ?_, fun hn => hn ▸ hmem⟩
  have hlower := (coherent_of_mem h hn).lower_structName
  rw [← hlower, (coherent_of_mem h hmem).lower_structName]

end Registry

/-- Every initializer is coherent with its key and the struct table. A name finds it exactly if the
name's lower case is its key; so do its struct's name and the key itself. What a name finds is an
entry under the name's lower case. -/
theorem ofLines_lookup {ls : List Line} {r : Registry} (h : (Registry.ofLines ls).result = .ok r) :
    (∀ k i, (k, i) ∈ r.initializers.entries → r.Coherent k i
      ∧ (∀ n, r.initializer? n = some i ↔ Text.lower n = k)
      ∧ r.initializer? i.structName = some i ∧ r.initializer? k = some i)
    ∧ ∀ n i, r.initializer? n = some i → (Text.lower n, i) ∈ r.initializers.entries := by
  refine ⟨fun k i hmem => ?_, fun n i hn => Registry.initializer?_eq_some_iff.1 hn⟩
  have hfound := Registry.initializer?_iff_of_mem h hmem
  have hcoherent := Registry.coherent_of_mem h hmem
  refine ⟨hcoherent, hfound, (hfound _).2 hcoherent.lower_structName, (hfound k).2 ?_⟩
  rw [← hcoherent.lower_structName, Text.lower_lower]

/-- A struct whose name ends in a capital sigma. -/
def finalSigma : List Line := [
  ⟨0, "typedef struct VkΟΔΟΣ \x7b"⟩, ⟨1, "VkStructureType s;"⟩,
  ⟨2, "typedef enum VkStructureType \x7b"⟩, ⟨3, "VK_STRUCTURE_TYPE_ΟΔ_ΟΣ"⟩, ⟨4, "\x7d;"⟩]

/-- The sigma at the end is lowered to its final form, and a name with the other form is not
found. -/
theorem ofLines_lookup_finalSigma :
    ∃ r, (Registry.ofLines finalSigma).result = .ok r
      ∧ ∃ i, ("vkοδος", i) ∈ r.initializers.entries ∧ i.structName = "VkΟΔΟΣ"
        ∧ r.Coherent "vkοδος" i ∧ r.initializer? "VKοΔοΣ" = some i
        ∧ r.initializer? "VkΟΔΟΣ" = some i ∧ r.initializer? "vkοδος" = some i
        ∧ r.initializer? "vkοδοσ" ≠ some i := by
  have hrun : (Registry.ofLines finalSigma).result.toOption.map (·.initializers.entries)
      = some [("vkοδος", ⟨"VkΟΔΟΣ", "VK_STRUCTURE_TYPE_ΟΔ_ΟΣ", "vk_οδ_ος"⟩)] := by
    decide +kernel
  obtain ⟨r, hr, hentries⟩ := Registry.exists_of_entries hrun
  have hmem : ("vkοδος", ⟨"VkΟΔΟΣ", "VK_STRUCTURE_TYPE_ΟΔ_ΟΣ", "vk_οδ_ος"⟩)
      ∈ r.initializers.entries := hentries ▸ List.mem_cons_self
  obtain ⟨hcoherent, hfound, hname, hkey⟩ := (ofLines_lookup hr).1 _ _ hmem
  refine ⟨r, hr, _, hmem, rfl, hcoherent, (hfound _).2 ?_, hname, hkey, (hfound _).not.2 ?_⟩
  · decide +kernel
  · decide +kernel

end VulkanPrefill
