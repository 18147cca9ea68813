import VulkanPrefill.Proofs.AsciiText
import VulkanPrefill.Proofs.FunctionNames

/-!
# Struct keys

An underscore has no case, so a text that is lowered as a whole has the segments of the text, each
lowered on its own (`splitOn_lowerAfter`). That is what a key is made of: neither the underscores
nor what the first three segments spell has a part in it. Only a capital sigma sees where the
underscores stand. Behind three segments without one, a key is the lower case of the letters that
are left, and so a struct's name has the key of a constant if the two spell the same letters
(`structKey_segments`).
-/

namespace VulkanPrefill

namespace Text

section Segments

/-- The segments of a lowered text are the lowered segments of the text. -/
theorem splitOn_lowerAfter (cs : List Char) :
    (lowerAfter [] cs).splitOn '_' = (cs.splitOn '_').map (lowerAfter []) := by
  by_cases h : '_' ∈ cs
  · obtain ⟨xs, ys, rfl, -⟩ := List.eq_append_cons_of_mem h
    rw [lowerAfter_append_underscore, List.splitOn_append_cons_self, List.splitOn_append_cons_self,
      List.map_append, splitOn_lowerAfter xs, splitOn_lowerAfter ys]
  · have hlower : '_' ∉ lowerAfter [] cs := fun hmem => by
      rcases (mem_lowerAfter hmem).2 with hcs | ⟨hne, -⟩
      · exact h hcs
      · exact hne rfl
    rw [List.splitOn_eq_singleton h, List.splitOn_eq_singleton hlower, List.map_singleton]
termination_by cs.length

end Segments

section Alone

/-- The lower case of a character that stands alone. -/
def lowerAlone (c : Char) : List Char :=
  lowerBetween [] c []

theorem lowerBetween_of_ne_sigma {c : Char} (hc : c ≠ 'Σ') (before after : List Char) :
    lowerBetween before c after = lowerAlone c := by
  simp only [lowerAlone, lowerBetween, if_neg hc]

/-- Without a capital sigma no character looks around. -/
theorem lowerAfter_eq_flatMap : ∀ {cs : List Char}, 'Σ' ∉ cs → ∀ before,
    lowerAfter before cs = cs.flatMap lowerAlone
  | [], _, _ => rfl
  | c :: cs, h, before => by
    obtain ⟨hc, hcs⟩ := List.ne_and_not_mem_of_not_mem_cons h
    rw [lowerAfter, lowerBetween_of_ne_sigma hc.symm, lowerAfter_eq_flatMap hcs, List.flatMap_cons]

theorem filter_lowerAlone (c : Char) :
    (lowerAlone c).filter (· ≠ '_') = if c = '_' then [] else lowerAlone c := by
  split_ifs with hc
  · subst hc
    decide +kernel
  · refine List.filter_eq_self.2 fun d hd => ?_
    rcases (mem_lowerBetween hd).2 with rfl | ⟨hne, -⟩
    · exact decide_eq_true hc
    · exact decide_eq_true hne

theorem filter_flatMap_lowerAlone : ∀ cs : List Char,
    (cs.flatMap lowerAlone).filter (· ≠ '_') = (cs.filter (· ≠ '_')).flatMap lowerAlone
  | [] => rfl
  | c :: cs => by
    rw [List.flatMap_cons, List.filter_append, filter_lowerAlone, filter_flatMap_lowerAlone cs,
      List.filter_cons]
    by_cases hc : c = '_'
    · simp [hc]
    · simp [hc]

theorem toLower_eq_or_ascii (c : Char) : c.toLower = c ∨ c.toNat < 128 := by
  by_cases hc : 'A'.val ≤ c.val ∧ c.val ≤ 'Z'.val
  · have hle : c ≤ 'Z' := hc.2
    exact .inr (lt_of_le_of_lt (UInt32.le_iff_toNat_le.1 hle) (by decide))
  · exact .inl (dif_neg hc)

/-- Lowering forgets the case of an ASCII letter. -/
theorem lowerAlone_toLower (c : Char) : lowerAlone c.toLower = lowerAlone c := by
  rcases toLower_eq_or_ascii c with hc | hc
  · rw [hc]
  · exact ascii_forall (P := fun c => lowerAlone c.toLower = lowerAlone c) (by decide +kernel) hc

theorem toLower_ne_sigma {c : Char} (h : c ≠ 'Σ') : c.toLower ≠ 'Σ' := by
  rcases toLower_eq_or_ascii c with hc | hc
  · rwa [hc]
  · exact ascii_forall (P := fun c => c.toLower ≠ 'Σ') (by decide +kernel) hc

/-- A text with its ASCII letters in lower case. -/
def asciiLower (s : String) : String :=
  .ofList (s.toList.map Char.toLower)

theorem lower_of_ascii {s : String} (h : ∀ c ∈ s.toList, c.toNat < 128) :
    lower s = asciiLower s := by
  rw [lower, lowerAfter_of_ascii h, asciiLower]

theorem sigma_mem_asciiLower {s : String} : 'Σ' ∈ (asciiLower s).toList ↔ 'Σ' ∈ s.toList := by
  rw [asciiLower, String.toList_ofList]
  refine ⟨fun h => ?_, fun h => List.mem_map.2 ⟨'Σ', h, rfl⟩⟩
  obtain ⟨c, hc, hlower⟩ := List.mem_map.1 h
  by_contra hs
  exact toLower_ne_sigma (fun heq => hs (heq ▸ hc)) hlower

/-- Texts without a capital sigma that differ only in the case of ASCII letters have one lower
case. -/
theorem lower_congr {s t : String} (hs : 'Σ' ∉ s.toList) (h : asciiLower s = asciiLower t) :
    lower s = lower t := by
  have ht : 'Σ' ∉ t.toList := by rwa [← sigma_mem_asciiLower, ← h, sigma_mem_asciiLower]
  have hchars : s.toList.map Char.toLower = t.toList.map Char.toLower := String.ofList_inj.1 h
  have hfolded : ∀ cs : List Char,
      cs.flatMap lowerAlone = (cs.map Char.toLower).flatMap lowerAlone :=
    fun cs => by simp only [List.flatMap_map, lowerAlone_toLower]
  rw [lower, lower, lowerAfter_eq_flatMap hs, lowerAfter_eq_flatMap ht, hfolded, hchars, ← hfolded]

/-- Underscores may go before a text without a capital sigma is lowered, or after. -/
theorem filter_lowerAfter {cs : List Char} (h : 'Σ' ∉ cs) :
    (lowerAfter [] cs).filter (· ≠ '_') = lowerAfter [] (cs.filter (· ≠ '_')) := by
  have hfilter : 'Σ' ∉ cs.filter (· ≠ '_') := fun hmem => h (List.mem_of_mem_filter hmem)
  rw [lowerAfter_eq_flatMap h, lowerAfter_eq_flatMap hfilter, filter_flatMap_lowerAlone]

end Alone

end Text

namespace Constant

open Text

/-- What stands before, between and behind the underscores of a constant. -/
def segments (c : String) : List String :=
  (c.toList.splitOn '_').map .ofList

/-- What stands behind the third underscore of `c` is `r`. -/
def HasRest (c r : String) : Prop :=
  ∃ x y z : String, ('_' ∉ x.toList ∧ '_' ∉ y.toList ∧ '_' ∉ z.toList)
    ∧ c = x ++ "_" ++ y ++ "_" ++ z ++ "_" ++ r

/-- A text without its underscores. -/
def letters (s : String) : String :=
  .ofList (s.toList.filter (· ≠ '_'))

theorem sigma_mem_letters {s : String} : 'Σ' ∈ (letters s).toList ↔ 'Σ' ∈ s.toList := by
  simp [letters]

variable {c c' r r' : String}

section Rest

theorem length_splitOn (cs : List Char) : (cs.splitOn '_').length = cs.count '_' + 1 := by
  by_cases h : '_' ∈ cs
  · obtain ⟨xs, ys, rfl, -⟩ := List.eq_append_cons_of_mem h
    have hxs := length_splitOn xs
    have hys := length_splitOn ys
    rw [List.splitOn_append_cons_self, List.length_append, List.count_append, List.count_cons_self]
    omega
  · rw [List.splitOn_eq_singleton h, List.count_eq_zero.2 h, List.length_singleton]
termination_by cs.length

/-- The first segment of a text with an underscore, and the text behind it. -/
theorem exists_first_segment {s : String} {n : ℕ} (h : n + 1 ≤ s.toList.count '_') :
    ∃ x t : String, s = x ++ "_" ++ t ∧ '_' ∉ x.toList ∧ n ≤ t.toList.count '_' := by
  have hmem : '_' ∈ s.toList := List.one_le_count_iff.1 (by omega)
  obtain ⟨xs, ys, hs, hxs⟩ := List.eq_append_cons_of_mem hmem
  refine ⟨.ofList xs, .ofList ys, ?_, by rwa [String.toList_ofList], ?_⟩
  · rw [← String.toList_inj, hs]
    simp
  · rw [hs, List.count_append, List.count_cons_self, List.count_eq_zero.2 hxs] at h
    rw [String.toList_ofList]
    omega

theorem exists_hasRest (h : 3 ≤ c.toList.count '_') : ∃ r, HasRest c r := by
  obtain ⟨x, c₁, rfl, hx, h⟩ := exists_first_segment h
  obtain ⟨y, c₂, rfl, hy, h⟩ := exists_first_segment h
  obtain ⟨z, r, rfl, hz, -⟩ := exists_first_segment h
  exact ⟨r, x, y, z, ⟨hx, hy, hz⟩, by simp only [String.append_assoc]⟩

theorem HasRest.drop_splitOn (h : HasRest c r) :
    (c.toList.splitOn '_').drop 3 = r.toList.splitOn '_' := by
  obtain ⟨x, y, z, ⟨hx, hy, hz⟩, rfl⟩ := h
  have hchars : (x ++ "_" ++ y ++ "_" ++ z ++ "_" ++ r).toList
      = x.toList ++ '_' :: (y.toList ++ '_' :: (z.toList ++ '_' :: r.toList)) := by
    simp
  rw [hchars, List.splitOn_append_cons_self_of_not_mem hx,
    List.splitOn_append_cons_self_of_not_mem hy, List.splitOn_append_cons_self_of_not_mem hz]
  rfl

theorem HasRest.mem (h : HasRest c r) {d : Char} (hd : d ∈ r.toList) : d ∈ c.toList := by
  obtain ⟨x, y, z, -, rfl⟩ := h
  rw [String.toList_append]
  exact List.mem_append_right _ hd

theorem HasRest.unique (h : HasRest c r) (h' : HasRest c r') : r' = r := by
  have hjoined : ∀ s : String, ['_'].intercalate (s.toList.splitOn '_') = s.toList := fun s =>
    List.intercalate_splitOn '_'
  rw [← String.toList_inj, ← hjoined r', ← h'.drop_splitOn, h.drop_splitOn, hjoined]

end Rest

section Keys

theorem structKey_eq (c : String) :
    structKey c = "vk" ++ String.join (((segments c).drop 3).map lower) := by
  have hlower : ((segments c).map lower).map String.toList
      = (c.toList.splitOn '_').map (lowerAfter []) := by
    rw [segments, List.map_map, List.map_map]
    exact List.map_congr_left fun w _ => by simp
  rw [structKey, toList_lower, splitOn_lowerAfter, ← hlower, ← String.toList_inj,
    String.toList_append, String.toList_join, String.toList_ofList, List.flatMap_def, List.map_drop,
    List.map_drop]

theorem structKey_of_count_lt (h : c.toList.count '_' < 3) : structKey c = "vk" := by
  have hlength := length_splitOn c.toList
  have hnone : (segments c).drop 3 = [] := by
    rw [List.drop_eq_nil_iff, segments, List.length_map]
    omega
  rw [structKey_eq, hnone]
  rfl

theorem notMem_structKey (c : String) : '_' ∉ (structKey c).toList := by
  intro h
  rw [structKey, String.toList_ofList, List.mem_append] at h
  rcases h with h | h
  · exact absurd h (by decide)
  · have hall := (List.drop_sublist 3 ((lower c).toList.splitOn '_')).flatten.subset h
    rw [flatten_splitOn] at hall
    simp at hall

theorem HasRest.structKey_eq_letters (h : HasRest c r) :
    structKey c = "vk" ++ letters (lower r) := by
  rw [structKey, toList_lower, splitOn_lowerAfter, ← List.map_drop, h.drop_splitOn,
    ← splitOn_lowerAfter, flatten_splitOn, letters, toList_lower, String.ofList_append]
  rfl

theorem letters_lower (h : 'Σ' ∉ r.toList) : letters (lower r) = lower (letters r) := by
  rw [letters, toList_lower, filter_lowerAfter h, lower, letters, String.toList_ofList]

theorem HasRest.structKey_eq_lower (h : HasRest c r) (hc : 'Σ' ∉ c.toList) :
    structKey c = "vk" ++ lower (letters r) := by
  rw [h.structKey_eq_letters, letters_lower fun hr => hc (h.mem hr)]

/-- A struct's name has the key of a constant if it spells what stands in the constant behind the
third underscore. -/
theorem HasRest.lower_eq_structKey_iff (h : HasRest c r) (hc : ∀ d ∈ c.toList, d.toNat < 128)
    {s : String} (hs : ∀ d ∈ s.toList, d.toNat < 128) :
    lower ("Vk" ++ s) = structKey c ↔ asciiLower s = asciiLower (letters r) := by
  have hletters : ∀ d ∈ (letters r).toList, d.toNat < 128 := fun d hd => by
    rw [letters, String.toList_ofList] at hd
    exact hc d (h.mem (List.mem_of_mem_filter hd))
  have hname : ∀ d ∈ ("Vk" ++ s).toList, d.toNat < 128 := fun d hd => by
    rw [String.toList_append, List.mem_append] at hd
    exact hd.elim ((by simp : ∀ d ∈ "Vk".toList, d.toNat < 128) d) (hs d)
  have hsigma : 'Σ' ∉ c.toList := fun hmem => absurd (hc _ hmem) (by decide)
  have hvk : asciiLower ("Vk" ++ s) = "vk" ++ asciiLower s := by
    simp [← String.toList_inj, asciiLower]
  rw [h.structKey_eq_lower hsigma, lower_of_ascii hname, lower_of_ascii hletters, hvk,
    ← String.toList_inj, String.toList_append, String.toList_append, List.append_cancel_left_eq,
    String.toList_inj]

end Keys

end Constant

open Constant

/-- A key is `vk` and the segments from the fourth on, each lowered on its own; it holds no
underscore, and with fewer than three underscores it is `vk` alone. What stands before the third
underscore has no part in it. Without a capital sigma it is the lower case of the letters behind
that underscore, so neither underscores nor the case of ASCII letters make a difference there. In
ASCII a struct's name leads to the key exactly if it spells those letters. -/
theorem structKey_segments :
    (∀ c, structKey c = "vk" ++ String.join (((segments c).drop 3).map Text.lower)
      ∧ '_' ∉ (structKey c).toList)
    ∧ (∀ c : String, c.toList.count '_' < 3 → structKey c = "vk")
    ∧ (∀ c : String, 3 ≤ c.toList.count '_' → ∃! r, HasRest c r)
    ∧ ∀ c r, HasRest c r →
      (∀ c', HasRest c' r → structKey c' = structKey c)
      ∧ ('Σ' ∉ c.toList →
        structKey c = "vk" ++ letters (Text.lower r) ∧ structKey c = "vk" ++ Text.lower (letters r)
        ∧ ∀ c' r', HasRest c' r' → Text.asciiLower (letters r') = Text.asciiLower (letters r) →
          structKey c' = structKey c)
      ∧ ((∀ d ∈ c.toList, d.toNat < 128) → ∀ s : String, (∀ d ∈ s.toList, d.toNat < 128) →
        (Text.lower ("Vk" ++ s) = structKey c
          ↔ Text.asciiLower s = Text.asciiLower (letters r))) := by
  refine ⟨fun c => ⟨structKey_eq c, notMem_structKey c⟩, fun c => structKey_of_count_lt,
    fun c hc => ?_, fun c r h => ⟨fun c' h' => ?_, fun hsigma => ⟨?_, ?_, fun c' r' h' hr => ?_⟩,
      fun hc s hs => h.lower_eq_structKey_iff hc hs⟩⟩
  · obtain ⟨r, h⟩ := exists_hasRest hc
    exact ⟨r, h, fun r' h' => h.unique h'⟩
  · rw [h.structKey_eq_letters, h'.structKey_eq_letters]
  · exact h.structKey_eq_letters
  · exact h.structKey_eq_lower hsigma
  · have hletters : 'Σ' ∉ (letters r).toList := fun hmem =>
      hsigma (h.mem (sigma_mem_letters.1 hmem))
    have hrest : 'Σ' ∉ r'.toList := by
      rwa [← sigma_mem_letters, ← Text.sigma_mem_asciiLower, hr, Text.sigma_mem_asciiLower]
    rw [h.structKey_eq_lower hsigma, h'.structKey_eq_letters, letters_lower hrest,
      Text.lower_congr hletters hr.symm]

/-- Two spellings of one key, the second behind odd segments, and a name that has the key of a
constant. A capital sigma sees the underscore behind it. -/
theorem structKey_segments_spellings :
    HasRest "VK_STRUCTURE_TYPE_\u0130_oS" "\u0130_oS" ∧ HasRest "Σ___\u0130Os" "\u0130Os"
      ∧ structKey "Σ___\u0130Os" = structKey "VK_STRUCTURE_TYPE_\u0130_oS"
      ∧ structKey "VK_STRUCTURE_TYPE_\u0130_oS" = "vk" ++ Text.lower (letters "\u0130_oS")
      ∧ HasRest "VK_STRUCTURE_TYPE_BUFFER_INFO" "BUFFER_INFO"
      ∧ Text.lower ("Vk" ++ "BufferInfo") = structKey "VK_STRUCTURE_TYPE_BUFFER_INFO"
      ∧ HasRest "VK_STRUCTURE_TYPE_ΟΣ_Α" "ΟΣ_Α"
      ∧ structKey "VK_STRUCTURE_TYPE_ΟΣ_Α" ≠ "vk" ++ Text.lower (letters "ΟΣ_Α") := by
  obtain ⟨-, -, -, hrest⟩ := structKey_segments
  have hdotted : HasRest "VK_STRUCTURE_TYPE_\u0130_oS" "\u0130_oS" :=
    ⟨"VK", "STRUCTURE", "TYPE", by decide +kernel, by decide +kernel⟩
  have hodd : HasRest "Σ___\u0130Os" "\u0130Os" :=
    ⟨"Σ", "", "", by decide +kernel, by decide +kernel⟩
  have hinfo : HasRest "VK_STRUCTURE_TYPE_BUFFER_INFO" "BUFFER_INFO" :=
    ⟨"VK", "STRUCTURE", "TYPE", by decide +kernel, by decide +kernel⟩
  obtain ⟨-, hletters, hspelled⟩ := (hrest _ _ hdotted).2.1 (by decide +kernel)
  refine ⟨hdotted, hodd, hspelled _ _ hodd (by decide +kernel), hletters, hinfo, ?_,
    ⟨"VK", "STRUCTURE", "TYPE", by decide +kernel, by decide +kernel⟩, by decide +kernel⟩
  exact ((hrest _ _ hinfo).2.2 (by simp) "BufferInfo" (by simp)).2 (by decide +kernel)

end VulkanPrefill
