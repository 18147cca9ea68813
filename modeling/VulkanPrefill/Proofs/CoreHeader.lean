import VulkanPrefill.Proofs.ConstantWalk
import VulkanPrefill.Proofs.Delivery
import VulkanPrefill.Proofs.EntryLines
import VulkanPrefill.Proofs.Stages
import VulkanPrefill.Proofs.StructWalk

/-!
# Core headers are read in full

Every entry of a core header ends up in the generated source, in the order of the constants
(`generate_core`). The structs are announced one by one, the enum's block is what stands between its
first and its last line, and every constant there finds its struct.
-/

namespace VulkanPrefill

open Scan

section Structs

theorem announcedStruct_declaration {e : Entry} {l next : Line} (h : l.text = e.declaration)
    (hnext : next.namesStructureType = true) :
    announcedStruct l (some next) = .ok (some e.name) := by
  simp [announcedStruct, declaresStruct_declaration h, hnext, word?_declaration h]

/-- The structs of entries are announced in their order, and nothing after them is. -/
theorem walk_structLines : ∀ {structs : List Entry} {ls : List Line} {rest : List String},
    ls.map Line.text = structs.flatMap Entry.structLines ++ rest →
    (∀ l : Line, l.text ∈ rest → l.declaresStruct = false) →
    (withNext ls).findSome? structFault? = none
      ∧ (withNext ls).filterMap announced? = structs.map fun e => (e.key, e.name)
  | [], ls, rest, hls, hrest => by
    have hquiet : ∀ p ∈ withNext ls, announcedStruct p.1 p.2 = .ok none := by
      intro p hp
      refine announcedStruct_of_not_declares (hrest p.1 ?_) p.2
      rw [List.flatMap_nil, List.nil_append] at hls
      rw [← hls]
      exact List.mem_map_of_mem (mem_of_mem_withNext hp)
    refine ⟨List.findSome?_eq_none_iff.2 fun p hp => ?_, List.filterMap_eq_nil_iff.2 fun p hp => ?_⟩
    · simp [structFault?, hquiet p hp]
    · simp [announced?, hquiet p hp]
  | e :: structs, ls, rest, hls, hrest => by
    rw [List.flatMap_cons, List.append_assoc] at hls
    simp only [Entry.structLines, List.cons_append, List.nil_append, List.map_eq_cons_iff] at hls
    obtain ⟨d, _, rfl, hd, f, _, rfl, hf, c, tail, rfl, hc, htail⟩ := hls
    obtain ⟨hfault, hpairs⟩ := walk_structLines htail hrest
    have hquiet : f.declaresStruct = false := (contains_eq hf _).trans (by decide)
    have hnames : f.namesStructureType = true := (contains_eq hf _).trans (by decide)
    -- Of the three lines of an entry only the first announces anything.
    have h1 := announcedStruct_declaration hd hnames
    have h2 := announcedStruct_of_not_declares hquiet (some c)
    have h3 := announcedStruct_of_not_declares (declaresStruct_closing hc) tail.head?
    simp only [withNext, List.head?_cons, List.findSome?_cons, List.filterMap_cons, structFault?,
      announced?, h1, h2, h3, Option.map_some, Option.map_none, List.map_cons]
    exact ⟨hfault, by rw [hpairs, Entry.lower_name]⟩

end Structs

section Core

variable {structs : List Entry} {constants : List Numbered} {ls : List Line}

/-- No line after the structs declares one. -/
theorem declaresStruct_enumLines {l : Line} (h : l.text ∈ enumLines constants) :
    l.declaresStruct = false := by
  simp only [enumLines, List.mem_cons, List.mem_append, List.mem_map, List.not_mem_nil,
    or_false] at h
  rcases h with h | ⟨c, -, h⟩ | h
  · exact (contains_eq h _).trans (by decide)
  · exact contains_line h.symm (by decide)
  · exact (contains_eq h _).trans (by decide)

/-- The struct table has the structs in their order. -/
theorem structTable_core (hls : ls.map Line.text = coreLines structs constants)
    (hnodup : (structs.map Entry.key).Nodup) : ∃ t, (structTable ls).result = .ok t
      ∧ t.entries = structs.map fun e => (e.key, e.name) := by
  obtain ⟨hfault, hpairs⟩ := walk_structLines hls fun l hl => declaresStruct_enumLines hl
  have hsound := soundStructs_iff.2 (List.findSome?_eq_none_iff.1 hfault)
  refine ⟨_, structTable_ok_iff.2 ⟨hsound, rfl⟩, ?_⟩
  rw [Table.entries_foldl_enter, hpairs]
  rw [hpairs, List.map_map]
  exact hnodup

/-- The enum's block holds the lines of the constants. -/
theorem enumParts_core (hls : ls.map Line.text = coreLines structs constants) :
    ∃ p : EnumParts ls, p.block.map Line.text = constants.map Numbered.line := by
  obtain ⟨before, enum, rfl, -, henum⟩ := List.map_eq_append_iff.1 hls
  obtain ⟨decl, _, rfl, hdecl, hrest⟩ := List.map_eq_cons_iff.1 henum
  obtain ⟨block, ending, rfl, hblock, hending⟩ := List.map_eq_append_iff.1 hrest
  obtain ⟨terminator, _, rfl, hterm, hnil⟩ := List.map_eq_cons_iff.1 hending
  obtain rfl := List.map_eq_nil_iff.1 hnil
  have hline : ∀ l ∈ block, ∃ c : Numbered, l.text = c.line := by
    intro l hl
    have hmem := List.mem_map_of_mem (f := Line.text) hl
    rw [hblock] at hmem
    obtain ⟨c, -, hc⟩ := List.mem_map.1 hmem
    exact ⟨c, hc.symm⟩
  refine ⟨⟨⟨before, decl, block ++ [terminator], rfl, ?_, ?_⟩, block, terminator, [], rfl, ?_, ?_⟩,
    hblock⟩
  · exact (contains_eq hdecl _).trans (by decide)
  · intro l hl
    rcases List.mem_append.1 hl with hl | hl
    · obtain ⟨c, hc⟩ := hline l hl
      exact contains_line hc (by decide)
    · obtain rfl := List.mem_singleton.1 hl
      exact (contains_eq hterm _).trans (by decide)
  · intro l hl
    obtain ⟨c, hc⟩ := hline l hl
    exact contains_line hc (by decide)
  · exact (contains_eq hterm _).trans (by decide)

theorem matched?_line {t : Table String String} {l : Line} {c : Numbered} (h : l.text = c.line)
    (hc : t.get? c.entry.key = some c.entry.name) :
    matched? t l = some (c.entry.key, c.entry.initializer) := by
  refine matched?_eq_some_iff.2 ⟨word?_line h, c.entry.structKey_constant, hc, ?_⟩
  exact c.entry.functionName_constant.symm

/-- Every line of a block is matched if every constant has its struct. -/
theorem filterMap_matched? {t : Table String String} : ∀ {constants : List Numbered}
    {block : List Line}, block.map Line.text = constants.map Numbered.line →
    (∀ c ∈ constants, t.get? c.entry.key = some c.entry.name) →
    (∀ l ∈ block, l.words ≠ []) ∧
    block.filterMap (matched? t) = constants.map fun c => (c.entry.key, c.entry.initializer)
  | [], block, hblock, _ => by
    rw [List.map_nil, List.map_eq_nil_iff] at hblock
    subst hblock
    exact ⟨by simp, rfl⟩
  | c :: constants, block, hblock, hget => by
    obtain ⟨l, rest, rfl, hl, hrest⟩ := List.map_eq_cons_iff.1 hblock
    obtain ⟨hc, hcs⟩ := List.forall_mem_cons.1 hget
    obtain ⟨hwords, hpairs⟩ := filterMap_matched? hrest hcs
    have hword : l.words ≠ [] := by
      intro hnil
      have hfirst := word?_line hl
      rw [Line.word?, hnil] at hfirst
      cases hfirst
    refine ⟨List.forall_mem_cons.2 ⟨hword, hwords⟩, ?_⟩
    rw [List.filterMap_cons_some (matched?_line hl hc), hpairs, List.map_cons]

theorem initializerTable_core {t : Table String String} {block : List Line}
    (hblock : block.map Line.text = constants.map Numbered.line)
    (hget : ∀ c ∈ constants, t.get? c.entry.key = some c.entry.name)
    (hnodup : (constants.map fun c => c.entry.key).Nodup) :
    ∃ u, (initializerTable t block).result = .ok u
      ∧ u.entries = constants.map fun c => (c.entry.key, c.entry.initializer) := by
  obtain ⟨hwords, hpairs⟩ := filterMap_matched? hblock hget
  refine ⟨_, initializerTable_ok_iff.2 ⟨hwords, rfl⟩, ?_⟩
  rw [Table.entries_foldl_enter, hpairs]
  rw [hpairs, List.map_map]
  exact hnodup

/-- Both tables of a core header are what its entries say. -/
theorem ofLines_core (hls : ls.map Line.text = coreLines structs constants)
    (hnodup : (structs.map Entry.key).Nodup) (hperm : (constants.map Numbered.entry).Perm structs) :
    ∃ r, (Registry.ofLines ls).result = .ok r
      ∧ r.initializerList = constants.map fun c => c.entry.initializer := by
  obtain ⟨t, ht, hentries⟩ := structTable_core hls hnodup
  obtain ⟨p, hblock⟩ := enumParts_core hls
  have hget : ∀ c ∈ constants, t.get? c.entry.key = some c.entry.name := by
    intro c hc
    have hmem : c.entry ∈ structs := hperm.subset (List.mem_map_of_mem hc)
    rw [Table.get?_eq_some_iff, hentries]
    exact List.mem_map_of_mem hmem
  have hkeys : (constants.map fun c => c.entry.key).Nodup := by
    have := (hperm.map Entry.key).nodup_iff.2 hnodup
    rwa [List.map_map] at this
  obtain ⟨u, hu, huentries⟩ := initializerTable_core hblock hget hkeys
  refine ⟨⟨t, u⟩, Registry.ofLines_ok_iff.2 ⟨ht, p, hu⟩, ?_⟩
  rw [Registry.initializerList, huentries, List.map_map]
  rfl

end Core

/-- From text to bytes: a header with entries whose names differ in more than case is read in full,
and a sink without a limit ends up with the comment and one function for each entry, in the order
of the constants. -/
theorem generate_core {entries structs : List Entry} {constants : List Numbered}
    (hdistinct : (entries.map Entry.folded).Nodup) (hstructs : structs.Perm entries)
    (hconstants : (constants.map Numbered.entry).Perm entries) :
    ∃ r, (Registry.ofLines (Line.ofText (coreText structs constants))).result = .ok r
      ∧ ∀ (comment : String) (portions : List ℕ) (refusal : Refusal),
        let run := Output.generate comment r { portions, refusal }
        run.1.result = .ok () ∧ run.2.taken = Text.toBytes (comment ++ "\n"
          ++ String.join (constants.map fun c => c.entry.definition ++ "\n")) := by
  have hls : (Line.ofText (coreText structs constants)).map Line.text
      = coreLines structs constants := by
    rw [Line.map_text_ofText, coreText, Text.lines_ofLines unbroken_coreLines]
  have hnodup : (structs.map Entry.key).Nodup := by
    have hfolded := (hstructs.map Entry.folded).nodup_iff.2 hdistinct
    rw [List.Nodup, List.pairwise_map] at hfolded ⊢
    exact hfolded.imp fun hne hkey => hne (Entry.folded_eq_of_key_eq hkey)
  obtain ⟨r, hr, hlist⟩ := ofLines_core hls hnodup (hconstants.trans hstructs.symm)
  refine ⟨r, hr, fun comment portions refusal => ?_⟩
  have hfull : Output.fullText comment r = comment ++ "\n"
      ++ String.join (constants.map fun c => c.entry.definition ++ "\n") := by
    rw [Output.fullText, hlist, List.map_map]
    rfl
  have hfits : ∀ n, ({ portions, refusal } : Sink).fitting n = n := fun _ => rfl
  obtain ⟨ps, is, hrun⟩ :=
    Output.generate_of_fits (hfits (Text.toBytes (Output.fullText comment r)).length)
  simp only [hrun, hfull]
  exact ⟨rfl, rfl⟩

def presentInfo : Entry :=
  ⟨["Present".toList, "Info".toList, "KHR".toList], by simp, by simp, by simp, by simp⟩

def structureInfo : Entry :=
  ⟨["Structure".toList, "info".toList], by simp, by simp, by simp, by simp⟩

def twoConstants : List Numbered :=
  [⟨structureInfo, "48".toList, by simp, by simp⟩,
    ⟨presentInfo, "1000001001".toList, by simp, by simp⟩]

def twoFunctions : String :=
  "static inline VkStructureinfo vk_structure_info(VkStructureinfo value = \x7b\x7d) "
    ++ "\x7b value.sType = VK_STRUCTURE_TYPE_STRUCTURE_INFO; return value; \x7d\n"
    ++ "static inline VkPresentInfoKHR vk_present_info_KHR(VkPresentInfoKHR value = \x7b\x7d) "
    ++ "\x7b value.sType = VK_STRUCTURE_TYPE_PRESENT_INFO_KHR; return value; \x7d\n"

/-- Two structs, whose constants stand the other way round. -/
theorem generate_core_twoEntries :
    ∃ r, (Registry.ofLines (Line.ofText
        (coreText [presentInfo, structureInfo] twoConstants))).result = .ok r
      ∧ ∀ (comment : String) (portions : List ℕ) (refusal : Refusal),
        let run := Output.generate comment r { portions, refusal }
        run.1.result = .ok () ∧ run.2.taken = Text.toBytes (comment ++ "\n" ++ twoFunctions) := by
  have hsource : String.join (twoConstants.map fun c => c.entry.definition ++ "\n")
      = twoFunctions := by
    decide +kernel
  have hdistinct : ([presentInfo, structureInfo].map Entry.folded).Nodup := by decide +kernel
  rw [← hsource]
  exact generate_core hdistinct (.refl _) (.swap _ _ _)

end VulkanPrefill
