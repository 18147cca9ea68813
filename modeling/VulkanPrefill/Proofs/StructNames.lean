import VulkanPrefill.Proofs.StructWalk

/-!
# The names in the struct table

The struct table says which names the lines announce: every key is the lower case of an announced
name, the keys stand in the order of the first lines that announce them, and each has the name that
the last such line gives (`structTable_names`). Lines that announce structs may follow each other
directly, since a declaration can name the structure type as well.
-/

namespace VulkanPrefill

namespace Scan

/-- The line at position `i` declares a struct, and the line after it names the structure type. -/
def AnnouncesAt (ls : List Line) (i : ℕ) : Prop :=
  ∃ l next, ls[i]? = some l ∧ l.declaresStruct = true
    ∧ ls[i + 1]? = some next ∧ next.namesStructureType = true

/-- The line at position `i` announces a struct, and its third word is `name`. -/
def NameAt (ls : List Line) (i : ℕ) (name : String) : Prop :=
  AnnouncesAt ls i ∧ ∃ l, ls[i]? = some l ∧ l.word? 2 = some name

/-- The positions of the lines that announce a name with the lower case `k`. -/
def announcers (ls : List Line) (k : String) : Set ℕ :=
  {i | ∃ name, NameAt ls i name ∧ Text.lower name = k}

/-- `t` holds the names that `ls` announces: one for each lower case, in the order of the first
lines with it, and in the spelling of the last. -/
structure NameTable (ls : List Line) (t : Table String String) : Prop where
  mem_keys : ∀ k, k ∈ t.keys ↔ (announcers ls k).Nonempty
  nodup : t.keys.Nodup
  order : t.keys.Pairwise fun k k' =>
    ∃ i j, IsLeast (announcers ls k) i ∧ IsLeast (announcers ls k') j ∧ i < j
  entry : ∀ k name, (k, name) ∈ t.entries
    ↔ ∃ i, IsGreatest (announcers ls k) i ∧ NameAt ls i name
  lower_name : ∀ k name, (k, name) ∈ t.entries → Text.lower name = k

variable {ls : List Line} {t : Table String String}

theorem nameAt_iff {i : ℕ} {name : String} : NameAt ls i name
    ↔ ∃ p, (withNext ls)[i]? = some p ∧ announced? p = some (Text.lower name, name) := by
  rw [getElem?_withNext]
  refine ⟨?_, ?_⟩
  · rintro ⟨⟨l, next, hl, hd, hnext, hn⟩, l', hl', hw⟩
    obtain rfl := Option.some.inj (hl.symm.trans hl')
    exact ⟨(l, some next), by rw [hl, hnext, Option.map_some],
      announced?_eq_some_iff.2 ⟨hd, ⟨next, rfl, hn⟩, hw, rfl⟩⟩
  · rintro ⟨p, hp, hname⟩
    obtain ⟨l, hl, rfl⟩ := Option.map_eq_some_iff.1 hp
    obtain ⟨hd, ⟨next, hnext, hn⟩, hw, -⟩ := announced?_eq_some_iff.1 hname
    exact ⟨⟨l, next, hl, hd, hnext, hn⟩, l, hl, hw⟩

theorem NameAt.unique {i : ℕ} {name name' : String} (h : NameAt ls i name)
    (h' : NameAt ls i name') : name = name' := by
  obtain ⟨-, l, hl, hw⟩ := h
  obtain ⟨-, l', hl', hw'⟩ := h'
  obtain rfl := Option.some.inj (hl.symm.trans hl')
  exact Option.some.inj (hw.symm.trans hw')

theorem announcers_eq (k : String) :
    announcers ls k = Table.givers announced? (withNext ls) k := by
  ext i
  refine ⟨?_, ?_⟩
  · rintro ⟨name, hname, rfl⟩
    obtain ⟨p, hp, hpair⟩ := nameAt_iff.1 hname
    exact ⟨p, hp, by rw [Table.Gives, hpair, Option.map_some]⟩
  · rintro ⟨p, hp, hgives⟩
    obtain ⟨⟨k', name⟩, hpair, rfl⟩ := Option.map_eq_some_iff.1 hgives
    obtain ⟨-, -, -, rfl⟩ := announced?_eq_some_iff.1 hpair
    exact ⟨name, nameAt_iff.2 ⟨p, hp, hpair⟩, rfl⟩

theorem nameAt_iff_of_mem {k name : String} {i : ℕ} (hi : i ∈ announcers ls k) : NameAt ls i name
    ↔ ∃ p, (withNext ls)[i]? = some p ∧ announced? p = some (k, name) := by
  obtain ⟨name', hname', rfl⟩ := hi
  refine ⟨fun h => ?_, ?_⟩
  · obtain rfl := h.unique hname'
    exact nameAt_iff.1 h
  · rintro ⟨p, hp, hpair⟩
    obtain ⟨-, -, -, hk⟩ := announced?_eq_some_iff.1 hpair
    exact nameAt_iff.2 ⟨p, hp, hk ▸ hpair⟩

theorem nameTable_iff_collects :
    NameTable ls t ↔ Table.Collects announced? (withNext ls) t := by
  have hentry : ∀ k name, (∃ i, IsGreatest (announcers ls k) i ∧ NameAt ls i name)
      ↔ ∃ i, IsGreatest (announcers ls k) i
        ∧ ∃ p, (withNext ls)[i]? = some p ∧ announced? p = some (k, name) := fun k name =>
    exists_congr fun i => and_congr_right fun hi => nameAt_iff_of_mem hi.1
  rw [Table.collects_iff_givers]
  simp only [← announcers_eq, ← hentry]
  refine ⟨fun h => ⟨h.mem_keys, h.order, h.entry⟩, fun ⟨hkeys, horder, hmem⟩ =>
    ⟨hkeys, t.nodup_keys, horder, hmem, fun k name h => ?_⟩⟩
  obtain ⟨i, ⟨⟨name', hname', rfl⟩, -⟩, hname⟩ := (hmem k name).1 h
  rw [hname.unique hname']

theorem SoundStructs.exists_nameAt (h : SoundStructs ls) {i : ℕ} (hi : AnnouncesAt ls i) :
    ∃ name, NameAt ls i name := by
  obtain ⟨l, next, hl, hd, hnext, hn⟩ := id hi
  rcases hw : l.word? 2 with _ | name
  · refine absurd (.nameless hl hd hnext hn ?_) (h i _)
    exact Nat.lt_succ_of_le (List.getElem?_eq_none_iff.1 hw)
  · exact ⟨name, hi, l, hl, hw⟩

/-- The walk ends well exactly if no struct is at fault, and then every line that announces a struct
names it, and the table holds the announced names. -/
theorem structTable_names : (structTable ls).result = .ok t
    ↔ SoundStructs ls ∧ (∀ i, AnnouncesAt ls i → ∃ name, NameAt ls i name) ∧ NameTable ls t := by
  have hcollects := Table.collects_foldl announced? (withNext ls)
  rw [structTable_ok_iff, nameTable_iff_collects]
  refine ⟨?_, ?_⟩
  · rintro ⟨hsound, rfl⟩
    exact ⟨hsound, fun i hi => hsound.exists_nameAt hi, hcollects⟩
  · rintro ⟨hsound, -, ht⟩
    exact ⟨hsound, ht.unique hcollects⟩

/-- A line can declare a struct and name the structure type of the one before it. -/
example : (structTable [⟨0, "typedef struct VkA"⟩, ⟨1, "typedef struct VkB VkStructureType"⟩,
    ⟨2, "typedef struct VKA VkStructureType"⟩, ⟨3, "VkStructureType"⟩]).result.map (·.entries)
      = .ok [("vka", "VKA"), ("vkb", "VkB")] := by
  decide +kernel

end Scan

end VulkanPrefill
