import VulkanPrefill.Proofs.Lookup
import VulkanPrefill.Proofs.Occurrences

/-!
# Functions do not share a name

A trailing tag in capitals can be put back into lower case, where no capitals are left
(`restoreKhr_capitalizeKhr`), so two constants give one function name only if they are the same in
lower case without the infix. A regular constant has its infix where every constant has it; its
function name leads back to its key (`key_of_functionName`), and so the functions of a registry
whose constants are regular have different names.
-/

namespace VulkanPrefill

namespace Constant

open Text

section Khr

/-- Puts a trailing `KHR` back into lower case. -/
def restoreKhr (cs : List Char) : List Char :=
  if "KHR".toList.isSuffixOf cs then
    cs.take (cs.length - 3) ++ "khr".toList
  else
    cs

theorem capitalizeKhr_append (cs : List Char) :
    capitalizeKhr (cs ++ "khr".toList) = cs ++ "KHR".toList := by
  have hsuffix : "khr".toList.isSuffixOf (cs ++ "khr".toList) = true :=
    List.isSuffixOf_iff_suffix.2 (List.suffix_append _ _)
  rw [capitalizeKhr, if_pos hsuffix, List.length_append]
  exact congrArg (· ++ "KHR".toList) (List.take_left ..)

theorem restoreKhr_append (cs : List Char) :
    restoreKhr (cs ++ "KHR".toList) = cs ++ "khr".toList := by
  have hsuffix : "KHR".toList.isSuffixOf (cs ++ "KHR".toList) = true :=
    List.isSuffixOf_iff_suffix.2 (List.suffix_append _ _)
  rw [restoreKhr, if_pos hsuffix, List.length_append]
  exact congrArg (· ++ "khr".toList) (List.take_left ..)

/-- Lower case has no capitals of its own at the end. -/
theorem restoreKhr_of_settled {cs : List Char} (h : ∀ c ∈ cs, Settled c) : restoreKhr cs = cs := by
  refine if_neg fun hsuffix => ?_
  have hmem : 'R' ∈ cs := (List.isSuffixOf_iff_suffix.1 hsuffix).subset (by simp)
  exact absurd (h _ hmem) (by decide +kernel)

theorem restoreKhr_capitalizeKhr {cs : List Char} (h : ∀ c ∈ cs, Settled c) :
    restoreKhr (capitalizeKhr cs) = cs := by
  by_cases hsuffix : "khr".toList <:+ cs
  · obtain ⟨as, rfl⟩ := hsuffix
    rw [capitalizeKhr_append, restoreKhr_append]
  · have hsame : capitalizeKhr cs = cs := if_neg (mt List.isSuffixOf_iff_suffix.1 hsuffix)
    rw [hsame, restoreKhr_of_settled h]

end Khr

/-- The constant without its infix. -/
def bare (constant : String) : String :=
  .ofList (without infixText.toList constant.toList)

theorem restoreKhr_functionName (c : String) :
    restoreKhr (functionName c).toList = (lower (bare c)).toList := by
  have hsettled : ∀ d ∈ lowerAfter [] (without infixText.toList c.toList), Settled d :=
    fun _ hd => (mem_lowerAfter hd).1
  rw [functionName, String.toList_ofList, restoreKhr_capitalizeKhr hsettled, toList_lower, bare,
    String.toList_ofList]

theorem functionName_eq_iff {c c' : String} :
    functionName c = functionName c' ↔ lower (bare c) = lower (bare c') := by
  refine ⟨fun h => ?_, fun h => ?_⟩
  · rw [← String.toList_inj, ← restoreKhr_functionName, h, restoreKhr_functionName]
  · have hlist := congrArg String.toList h
    simp only [toList_lower, bare, String.toList_ofList] at hlist
    rw [functionName, functionName, hlist]

/-- A constant that starts as constants do, and has its infix nowhere else. -/
structure Regular (c : String) : Prop where
  start : "VK_STRUCTURE_TYPE_".toList <+: c.toList
  only : ∀ n, infixText.toList <+: c.toList.drop n → n = 2

section Regular

theorem regular_iff {c : String} : Regular c ↔ "VK_STRUCTURE_TYPE_".toList <+: c.toList
    ∧ ∀ n < c.toList.length, infixText.toList <+: c.toList.drop n → n = 2 := by
  refine ⟨fun h => ⟨h.start, fun n _ => h.only n⟩, fun ⟨hstart, honly⟩ => ⟨hstart, fun n hn => ?_⟩⟩
  refine honly n ?_ hn
  by_contra hle
  rw [List.drop_eq_nil_of_le (not_lt.1 hle)] at hn
  simp [infixText] at hn

instance (c : String) : Decidable (Regular c) :=
  decidable_of_iff _ regular_iff.symm

theorem flatten_splitOn (a : Char) : ∀ cs : List Char,
    (cs.splitOn a).flatten = cs.filter (· ≠ a)
  | [] => rfl
  | c :: cs => by
    have ih := flatten_splitOn a cs
    obtain ⟨w, ws, hws⟩ := List.exists_cons_of_ne_nil (List.splitOn_ne_nil a cs)
    rw [hws] at ih
    rw [List.splitOn_cons_eq_if_modifyHead, List.filter_cons, hws]
    by_cases hc : c = a
    · simpa [hc] using ih
    · simpa [hc] using ih

/-- What follows the start of a regular constant is all that the infix leaves behind `VK`. -/
theorem Regular.exists_rest {c : String} (h : Regular c) : ∃ r,
    c.toList = "VK".toList ++ (infixText.toList ++ '_' :: r)
      ∧ without infixText.toList c.toList = "VK".toList ++ '_' :: r := by
  obtain ⟨r, hr⟩ := h.start
  have hc : c.toList = "VK".toList ++ (infixText.toList ++ '_' :: r) := hr.symm
  refine ⟨r, hc, ?_⟩
  have hrest : ¬ infixText.toList <:+: '_' :: r := by
    rintro ⟨u, v, huv⟩
    -- A further infix would stand behind the first one.
    have hn := h.only (17 + u.length) <| by
      rw [hc, ← huv, ← List.drop_drop]
      exact ⟨v, by simp [infixText]⟩
    omega
  rw [hc]
  exact without_append (by decide) hrest

theorem lowerAfter_rest (r : List Char) :
    lowerAfter [] ("VK".toList ++ '_' :: r) = "vk".toList ++ '_' :: lowerAfter [] r := by
  have hvk : lowerAfter [] "VK".toList = "vk".toList := by decide +kernel
  rw [lowerAfter_append_underscore, hvk]

theorem structKey_rest {c : String} {r : List Char}
    (h : c.toList = "VK".toList ++ (infixText.toList ++ '_' :: r)) :
    structKey c = .ofList ("vk".toList ++ (lowerAfter [] r).filter (· ≠ '_')) := by
  have hsegments : c.toList = "VK".toList ++ '_' :: ("STRUCTURE".toList ++ '_' ::
      ("TYPE".toList ++ '_' :: r)) := h
  have hstructure : lowerAfter [] "STRUCTURE".toList = "structure".toList := by decide +kernel
  have htype : lowerAfter [] "TYPE".toList = "type".toList := by decide +kernel
  rw [structKey, toList_lower, hsegments, lowerAfter_rest, lowerAfter_append_underscore,
    lowerAfter_append_underscore, hstructure, htype,
    List.splitOn_append_cons_self_of_not_mem (by decide),
    List.splitOn_append_cons_self_of_not_mem (by decide),
    List.splitOn_append_cons_self_of_not_mem (by decide), ← flatten_splitOn]
  rfl

/-- The function name of a regular constant leads back to its key. -/
theorem Regular.key_of_functionName {c : String} (h : Regular c) :
    .ofList ((restoreKhr (functionName c).toList).filter (· ≠ '_')) = structKey c := by
  obtain ⟨r, hc, hwithout⟩ := h.exists_rest
  rw [restoreKhr_functionName, toList_lower, bare, String.toList_ofList, hwithout, lowerAfter_rest,
    structKey_rest hc, List.filter_append, List.filter_cons_of_neg (by simp)]
  rfl

end Regular

end Constant

open Constant

/-- Function names are equal exactly if the constants are, in lower case and without the infix. The
name for a regular constant leads back to its key, and so different keys with regular constants have
differently named functions. -/
theorem functionName_separates :
    (∀ c c', functionName c = functionName c' ↔ Text.lower (bare c) = Text.lower (bare c'))
    ∧ (∀ c, Regular c →
      .ofList ((restoreKhr (functionName c).toList).filter (· ≠ '_')) = structKey c)
    ∧ ∀ ls r, (Registry.ofLines ls).result = .ok r →
      ∀ k i k' i', (k, i) ∈ r.initializers.entries → (k', i') ∈ r.initializers.entries →
        k ≠ k' → Regular i.constant → Regular i'.constant → i.functionName ≠ i'.functionName := by
  refine ⟨fun c c' => functionName_eq_iff, fun c h => h.key_of_functionName, ?_⟩
  intro ls r h k i k' i' hmem hmem' hne hregular hregular' hname
  have hi := Registry.coherent_of_mem h hmem
  have hi' := Registry.coherent_of_mem h hmem'
  refine hne ?_
  rw [← hi.structKey_constant, ← hi'.structKey_constant, ← hregular.key_of_functionName,
    ← hregular'.key_of_functionName, ← hi.functionName_eq, ← hi'.functionName_eq, hname]

/-- Two constants that differ in an extension tag, which is spelled with a Kelvin sign. -/
def kelvinTag : List Line := [
  ⟨0, "typedef struct VkOsKHR \x7b"⟩, ⟨1, "VkStructureType s;"⟩,
  ⟨2, "typedef struct VkOs \x7b"⟩, ⟨3, "VkStructureType s;"⟩,
  ⟨4, "typedef enum VkStructureType \x7b"⟩, ⟨5, "VK_STRUCTURE_TYPE_OS_\u212aHR"⟩,
  ⟨6, "VK_STRUCTURE_TYPE_OS"⟩, ⟨7, "\x7d;"⟩]

theorem functionName_separates_kelvinTag :
    ∃ r i i', (Registry.ofLines kelvinTag).result = .ok r
      ∧ r.initializers.entries = [("vkoskhr", i), ("vkos", i')]
      ∧ i.functionName = "vk_os_KHR" ∧ i'.functionName = "vk_os"
      ∧ i.functionName ≠ i'.functionName
      ∧ .ofList ((restoreKhr (functionName "VK_STRUCTURE_TYPE_OS_\u212aHR").toList).filter
          (· ≠ '_'))
        = structKey "VK_STRUCTURE_TYPE_OS_\u212aHR" := by
  have hrun : (Registry.ofLines kelvinTag).result.toOption.map (·.initializers.entries)
      = some [("vkoskhr", ⟨"VkOsKHR", "VK_STRUCTURE_TYPE_OS_\u212aHR", "vk_os_KHR"⟩),
        ("vkos", ⟨"VkOs", "VK_STRUCTURE_TYPE_OS", "vk_os"⟩)] := by
    decide +kernel
  obtain ⟨r, hr, hentries⟩ := Registry.exists_of_entries hrun
  obtain ⟨-, hkey, hapart⟩ := functionName_separates
  have hregular : Regular "VK_STRUCTURE_TYPE_OS_\u212aHR" := by decide +kernel
  have hregular' : Regular "VK_STRUCTURE_TYPE_OS" := by decide +kernel
  refine ⟨r, _, _, hr, hentries, rfl, rfl, ?_, hkey _ hregular⟩
  exact hapart _ r hr _ _ _ _ (hentries ▸ List.mem_cons_self)
    (hentries ▸ List.mem_cons_of_mem _ List.mem_cons_self) (by decide) hregular hregular'

end VulkanPrefill
