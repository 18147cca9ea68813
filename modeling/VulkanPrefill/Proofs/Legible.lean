import VulkanPrefill.Proofs.Delivery
import VulkanPrefill.Proofs.Lookup
import VulkanPrefill.Proofs.WholeWords

/-!
# The generated source can be read back

The names in a registry are words of the header and hold no blank, so the words of a function's line
stand where its template has them, even if the function's name is empty. Three of them tell the
struct, the function and the constant (`shownBy_iff`). So each line of the generated source shows
exactly one initializer, and the source determines the list of them (`generated_legible`).
-/

namespace VulkanPrefill

namespace Initializer

/-- The struct and the constant are single words, and the function's name does not break one. -/
structure Solid (i : Initializer) : Prop where
  struct : Text.IsWord i.structName.toList
  constant : Text.IsWord i.constant.toList
  function : ∀ c ∈ i.functionName.toList, Text.isBlank c = false

/-- The words of the function's source text. -/
def definitionWords (i : Initializer) : List (List Char) := [
  "static".toList, "inline".toList, i.structName.toList,
  i.functionName.toList ++ '(' :: i.structName.toList, "value".toList, "=".toList,
  "\x7b\x7d)".toList, "\x7b".toList, "value.sType".toList, "=".toList, i.constant.toList ++ [';'],
  "return".toList, "value;".toList, "\x7d".toList]

/-- The third word of `line` is the struct, the fourth starts with the function and goes on with the
struct behind a parenthesis, and the eleventh is the constant with a semicolon. -/
structure ShownBy (i : Initializer) (line : List Char) : Prop where
  struct : (Text.words line)[2]? = some i.structName.toList
  function : (Text.words line)[3]? = some (i.functionName.toList ++ '(' :: i.structName.toList)
  constant : (Text.words line)[10]? = some (i.constant.toList ++ [';'])

theorem toList_definition (i : Initializer) :
    i.definition.toList = [' '].intercalate i.definitionWords := by
  unfold definition definitionWords
  simp only [String.toList_append, List.intercalate_cons_cons, List.intercalate_singleton,
    List.append_assoc]
  rfl

variable {i j : Initializer} {line : List Char}

theorem Solid.isWord_of_mem (h : i.Solid) : ∀ w ∈ i.definitionWords, Text.IsWord w := by
  obtain ⟨⟨hne, hs⟩, ⟨hne', hc⟩, hf⟩ := h
  have hcall : Text.IsWord (i.functionName.toList ++ '(' :: i.structName.toList) := by
    refine ⟨by simp, fun c hmem => ?_⟩
    rcases List.mem_append.1 hmem with hmem | hmem
    · exact hf c hmem
    · exact List.forall_mem_cons.2 ⟨by decide, hs⟩ c hmem
  have hvalue : Text.IsWord (i.constant.toList ++ [';']) := by
    refine ⟨by simp, fun c hmem => ?_⟩
    rcases List.mem_append.1 hmem with hmem | hmem
    · exact hc c hmem
    · rw [List.mem_singleton.1 hmem]
      decide
  simp only [definitionWords, List.forall_mem_cons]
  refine ⟨?_, ?_, ⟨hne, hs⟩, hcall, ?_, ?_, ?_, ?_, ?_, ?_, hvalue, ?_, ?_, ?_, nofun⟩ <;> decide

theorem Solid.words_definition (h : i.Solid) :
    Text.words i.definition.toList = i.definitionWords := by
  rw [toList_definition, Text.words_intercalate h.isWord_of_mem]

theorem Solid.shownBy (h : i.Solid) : i.ShownBy i.definition.toList := by
  constructor <;> rw [h.words_definition] <;> rfl

theorem ShownBy.unique (hi : i.ShownBy line) (hj : j.ShownBy line) : i = j := by
  have hstruct := Option.some.inj (hi.struct.symm.trans hj.struct)
  have hfunction := Option.some.inj (hi.function.symm.trans hj.function)
  have hconstant := Option.some.inj (hi.constant.symm.trans hj.constant)
  rw [hstruct, List.append_cancel_right_eq, String.toList_inj] at hfunction
  rw [List.append_cancel_right_eq, String.toList_inj] at hconstant
  rw [String.toList_inj] at hstruct
  obtain ⟨structName, constant, functionName⟩ := i
  rw [show structName = _ from hstruct, show constant = _ from hconstant,
    show functionName = _ from hfunction]

/-- The line of a function shows its initializer and no other. -/
theorem Solid.shownBy_iff (h : i.Solid) : j.ShownBy i.definition.toList ↔ i = j :=
  ⟨h.shownBy.unique, fun hij => hij ▸ h.shownBy⟩

theorem Solid.feed_notMem (h : i.Solid) : '\n' ∉ i.definition.toList := by
  rw [toList_definition]
  refine Text.notMem_intercalate (by decide) fun w hw hmem => ?_
  exact absurd ((h.isWord_of_mem w hw).2 _ hmem) (by decide)

end Initializer

/-- The names in a registry come from words. -/
theorem Registry.solid_of_mem {ls : List Line} {r : Registry} (h : (ofLines ls).result = .ok r)
    {i : Initializer} (hmem : i ∈ r.initializerList) : i.Solid := by
  obtain ⟨⟨k, i⟩, hentry, rfl⟩ := List.mem_map.1 hmem
  obtain ⟨l, hl⟩ := exists_matched? h hentry
  obtain ⟨hword, -, hget, hfunction⟩ := Scan.matched?_eq_some_iff.1 hl
  obtain ⟨-, l', hword'⟩ := Scan.structTable_get? (ofLines_ok_iff.1 h).1 hget
  have hconstant := Line.isWord_of_word? hword
  refine ⟨Line.isWord_of_word? hword', hconstant, ?_⟩
  rw [hfunction]
  exact Constant.isBlank_functionName hconstant.2

theorem Text.splitOn_ofLines : ∀ {ls : List String}, (∀ l ∈ ls, '\n' ∉ l.toList) →
    (ofLines ls).toList.splitOn '\n' = ls.map String.toList ++ [[]]
  | [], _ => by simp [ofLines]
  | l :: ls, h => by
    obtain ⟨hl, hls⟩ := List.forall_mem_cons.1 h
    have ih := splitOn_ofLines hls
    unfold ofLines at ih ⊢
    have htext : (String.join ((l :: ls).map (· ++ "\n"))).toList
        = l.toList ++ '\n' :: (String.join (ls.map (· ++ "\n"))).toList := by
      simp [String.join_cons]
    rw [htext, List.splitOn_append_cons_self_of_not_mem hl, ih]
    rfl

namespace Output

/-- `bytes` are in a sink without a limit after a registry of some lines was generated into it,
under a comment that is a single line. -/
inductive Generated (r : Registry) : List UInt8 → Prop
  | intro {ls : List Line} {comment : String} {s : Sink} : (Registry.ofLines ls).result = .ok r →
    '\n' ∉ comment.toList → s.limit = none → s.taken = [] →
    Generated r (generate comment r s).2.taken

/-- The bytes are the text of the comment's line and a line for each initializer, in their order. -/
theorem Generated.exists_lines {r : Registry} {bytes : List UInt8} (h : Generated r bytes) :
    ∃ text lines, Text.ofBytes? bytes = some text ∧ text.toList.splitOn '\n' = lines ++ [[]]
      ∧ lines.length = 1 + r.initializerList.length
      ∧ ∀ n line, lines[n + 1]? = some line →
        ∀ i : Initializer, i.ShownBy line ↔ r.initializerList[n]? = some i := by
  obtain ⟨hr, hcomment, hlimit, htaken⟩ := h
  rename_i ls comment s
  have hfits := Sink.fitting_of_limit_eq_none hlimit (Text.toBytes (fullText comment r)).length
  obtain ⟨ps, is, hrun⟩ := generate_of_fits hfits
  have hsolid : ∀ i ∈ r.initializerList, i.Solid := fun i => Registry.solid_of_mem hr
  have hfeed : ∀ l ∈ sourceLines comment r, '\n' ∉ l.toList := by
    refine List.forall_mem_cons.2 ⟨hcomment, fun l hl => ?_⟩
    obtain ⟨i, hi, rfl⟩ := List.mem_map.1 hl
    exact (hsolid i hi).feed_notMem
  refine ⟨source comment r, (sourceLines comment r).map String.toList, ?_,
    Text.splitOn_ofLines hfeed, by simp [sourceLines, Nat.add_comm], fun n line hline i => ?_⟩
  · rw [Text.ofBytes?_eq_some_iff, hrun, source_eq_fullText, htaken, List.nil_append]
  · simp only [sourceLines, List.map_cons, List.getElem?_cons_succ, List.map_map,
      List.getElem?_map, Option.map_eq_some_iff, Function.comp_apply] at hline
    obtain ⟨j, hj, rfl⟩ := hline
    rw [(hsolid j (List.mem_of_getElem? hj)).shownBy_iff, hj, Option.some.injEq]

/-- The generated source is one line for the comment and one for each initializer. The line of an
initializer shows that one and no other, and so equal sources have equal initializers. -/
theorem generated_legible :
    (∀ r bytes, Generated r bytes → ∃ text lines, Text.ofBytes? bytes = some text
      ∧ text.toList.splitOn '\n' = lines ++ [[]] ∧ lines.length = 1 + r.initializers.size
      ∧ ∀ n line, lines[n + 1]? = some line →
        ∀ i : Initializer, i.ShownBy line ↔ r.initializerList[n]? = some i)
    ∧ ∀ r r' bytes, Generated r bytes → Generated r' bytes →
      r.initializerList = r'.initializerList := by
  refine ⟨fun r bytes h => ?_, fun r r' bytes h h' => ?_⟩
  · have hsize : r.initializerList.length = r.initializers.size := List.length_map _
    exact hsize ▸ h.exists_lines
  · obtain ⟨text, lines, htext, hlines, hlength, hshown⟩ := h.exists_lines
    obtain ⟨text', lines', htext', hlines', hlength', hshown'⟩ := h'.exists_lines
    obtain rfl := Option.some.inj (htext.symm.trans htext')
    obtain rfl := List.append_cancel_right (hlines.symm.trans hlines')
    refine List.ext_getElem? fun n => ?_
    rcases hn : lines[n + 1]? with _ | line
    · -- Behind the last line both lists have ended.
      rw [List.getElem?_eq_none_iff] at hn
      rw [List.getElem?_eq_none (by omega), List.getElem?_eq_none (by omega)]
    · exact Option.ext fun i => (hshown n line hn i).symm.trans (hshown' n line hn i)

/-- A constant that is all infix, a name with a parenthesis and a brace, and a line with a break in
it. -/
def oddNames : List Line := [
  ⟨0, "typedef struct vk"⟩, ⟨1, "VkStructureType s;"⟩,
  ⟨2, "typedef struct VkF(x\x7b y"⟩, ⟨3, "VkStructureType s;"⟩,
  ⟨4, "typedef enum VkStructureType \x7b"⟩, ⟨5, "_STRUCTURE_TYPE\n= 1,"⟩,
  ⟨6, "VK_STRUCTURE_TYPE_F(X\x7b"⟩, ⟨7, "\x7d;"⟩]

/-- The first function has no name, and its line still shows the struct and the constant. -/
theorem generated_legible_oddNames :
    ∃ r, (Registry.ofLines oddNames).result = .ok r
      ∧ r.initializerList = [⟨"vk", "_STRUCTURE_TYPE", ""⟩,
        ⟨"VkF(x\x7b", "VK_STRUCTURE_TYPE_F(X\x7b", "vk_f(x\x7b"⟩]
      ∧ Generated r (generate "// odd" r {}).2.taken
      ∧ ∃ text lines, Text.ofBytes? (generate "// odd" r {}).2.taken = some text
        ∧ text.toList.splitOn '\n' = lines ++ [[]] ∧ lines.length = 3
        ∧ ∃ line, lines[1]? = some line
          ∧ (⟨"vk", "_STRUCTURE_TYPE", ""⟩ : Initializer).ShownBy line := by
  have hrun : (Registry.ofLines oddNames).result.toOption.map (·.initializers.entries)
      = some [("vk", ⟨"vk", "_STRUCTURE_TYPE", ""⟩),
        ("vkf(x\x7b", ⟨"VkF(x\x7b", "VK_STRUCTURE_TYPE_F(X\x7b", "vk_f(x\x7b"⟩)] := by
    decide +kernel
  obtain ⟨r, hr, hentries⟩ := Registry.exists_of_entries hrun
  have hlist : r.initializerList = [⟨"vk", "_STRUCTURE_TYPE", ""⟩,
      ⟨"VkF(x\x7b", "VK_STRUCTURE_TYPE_F(X\x7b", "vk_f(x\x7b"⟩] := by
    rw [Registry.initializerList, hentries]
    rfl
  have hgenerated : Generated r (generate "// odd" r {}).2.taken :=
    .intro hr (by decide) rfl rfl
  obtain ⟨text, lines, htext, hlines, hlength, hshown⟩ := generated_legible.1 r _ hgenerated
  have hsize : r.initializers.size = 2 := congrArg List.length hentries
  rw [hsize] at hlength
  have hline : 1 < lines.length := by omega
  refine ⟨r, hr, hlist, hgenerated, text, lines, htext, hlines, hlength, lines[1],
    List.getElem?_eq_getElem hline, ?_⟩
  exact (hshown 0 _ (List.getElem?_eq_getElem hline) _).2 (by rw [hlist]; rfl)

end Output

end VulkanPrefill
