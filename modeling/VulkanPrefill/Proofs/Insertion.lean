import VulkanPrefill.Proofs.Dependence
import VulkanPrefill.Proofs.GivenLines

/-!
# Lines that make no difference

The scan passes over a line that declares neither a struct nor the enum, wherever it stands outside
the block, unless it comes between a declaration and the line that announces the struct. So such
lines can be put into an accepted header, and it is accepted with the same tables
(`ofLines_insert`). The numbers of the lines are only told, in faults and in the log
(`ofLines_ok_renumbered`). They play no other part than that those the scan takes have to fit in a
word, or it is halted (`ofGiven_insert`).
-/

namespace VulkanPrefill

open Scan

namespace Scan

section Renumbered

/-- The same text, perhaps with another number. -/
def SameText (l m : Line) : Prop :=
  l.text = m.text

variable {l m : Line} {ls ms : List Line}

theorem SameText.word?_eq (h : SameText l m) (n : ℕ) : l.word? n = m.word? n := by
  simp only [Line.word?, Line.words, show l.text = m.text from h]

theorem SameText.contains_eq (h : SameText l m) (pattern : String) :
    l.contains pattern = m.contains pattern := by
  simp only [Line.contains, show l.text = m.text from h]

theorem SameText.declaresStruct_eq (h : SameText l m) : l.declaresStruct = m.declaresStruct :=
  h.contains_eq _

theorem SameText.namesStructureType_eq (h : SameText l m) :
    l.namesStructureType = m.namesStructureType :=
  h.contains_eq _

theorem announcedStruct_of_sameText {p q : Line × Option Line} {name : Option String}
    (h : RelWithNext SameText p q) (hp : announcedStruct p.1 p.2 = .ok name) :
    announcedStruct q.1 q.2 = .ok name := by
  obtain ⟨l, next⟩ := p
  obtain ⟨m, next'⟩ := q
  obtain ⟨hlm, hnext⟩ := h
  unfold announcedStruct at hp ⊢
  simp only [hlm.declaresStruct_eq, hlm.word?_eq] at hp
  split_ifs at hp ⊢
  · rcases hnext with hnn | _
    · simp only [hnn.namesStructureType_eq] at hp ⊢
      split_ifs at hp ⊢
      · rcases hw : m.word? 2 with _ | word <;> rw [hw] at hp
        · cases hp
        · exact hp
      · exact hp
    · cases hp
  · exact hp

variable {ε σ α : Type} {R : α → α → Prop}

/-- A walk that ends well ends in the same way over related elements, if each of its steps does. -/
theorem foldlM_ok_congr {f : σ → α → Traced ε σ}
    (hf : ∀ s a b s', R a b → (f s a).result = .ok s' → (f s b).result = .ok s') :
    ∀ {as bs : List α}, List.Forall₂ R as bs → ∀ {s s' : σ}, (as.foldlM f s).result = .ok s' →
      (bs.foldlM f s).result = .ok s'
  | _, _, .nil, _, _, hrun => hrun
  | _, _, .cons hab h, _, _, hrun => by
    rw [List.foldlM_cons, Traced.result_bind_eq_ok_iff] at hrun ⊢
    obtain ⟨t, ht, hrest⟩ := hrun
    exact ⟨t, hf _ _ _ _ hab ht, foldlM_ok_congr hf h hrest⟩

theorem structTable_of_sameText {t : Table String String} (h : List.Forall₂ SameText ls ms)
    (hls : (structTable ls).result = .ok t) : (structTable ms).result = .ok t := by
  refine foldlM_ok_congr (fun t p q t' hpq hp => ?_) (forall₂_withNext h) hls
  simp only [enterStruct, Traced.result_bind_eq_ok_iff, Traced.result_ofExcept] at hp ⊢
  obtain ⟨name, hname, hrest⟩ := hp
  refine ⟨name, announcedStruct_of_sameText hpq hname, ?_⟩
  rcases name with _ | name
  · exact hrest
  · simpa using hrest

theorem initializerTable_of_sameText {structs : Table String String}
    {t : Table String Initializer} (h : List.Forall₂ SameText ls ms)
    (hls : (initializerTable structs ls).result = .ok t) :
    (initializerTable structs ms).result = .ok t := by
  refine foldlM_ok_congr (fun t l m t' hlm hl => ?_) h hls
  unfold enterConstant at hl ⊢
  rw [hlm.word?_eq] at hl
  rcases hw : m.word? 0 with _ | constant <;> rw [hw] at hl
  · cases hl
  · exact hl

/-- Markers that stand in the same lines mark off blocks in the same place. -/
theorem EnumParts.exists_same_place (p : EnumParts ls)
    (hdecl : List.Forall₂ (·.declaresEnum = ·.declaresEnum) ls ms)
    (hends : List.Forall₂ (·.endsEnum = ·.endsEnum) ls ms) :
    ∃ q : EnumParts ms, p.before.length = q.before.length ∧ p.block.length = q.block.length := by
  obtain ⟨hd, hb⟩ := enumBlock_ok_iff.2 ⟨p, rfl, rfl⟩
  rw [enumDeclaration_congr hdecl] at hd
  rcases enumBlock_congr hends p.before.length with ⟨f, hf, -⟩ | ⟨b, c, hb', hc, hlen⟩
  · rw [hb] at hf
    cases hf
  · obtain ⟨q, hq, rfl⟩ := enumBlock_ok_iff.1 ⟨hd, hc⟩
    rw [hb] at hb'
    cases hb'
    exact ⟨q, hq.symm, hlen⟩

end Renumbered

section Parts

theorem EnumParts.insert {as bs xs : List Line} (p : EnumParts (as ++ bs))
    (hxs : ∀ x ∈ xs, x.declaresEnum = false)
    (hplace : as.length ≤ p.before.length ∨ p.before.length + 1 + p.block.length < as.length) :
    ∃ q : EnumParts (as ++ (xs ++ bs)), q.block = p.block := by
  rcases hplace with hbefore | hafter
  · obtain ⟨w, hw⟩ : as <+: p.before :=
      List.prefix_of_prefix_length_le (List.prefix_append as bs) ⟨_, p.eq.symm⟩ hbefore
    have hbs : bs = w ++ p.decl :: p.rest := by
      have heq := p.eq
      rw [← hw, List.append_assoc] at heq
      exact List.append_cancel_left heq
    exact ⟨⟨⟨as ++ (xs ++ w), p.decl, p.rest, by simp [hbs], p.declares, p.last⟩, p.block,
      p.terminator, p.after, p.rest_eq, p.inside, p.ends⟩, rfl⟩
  · have heq : as ++ bs = (p.before ++ p.decl :: (p.block ++ [p.terminator])) ++ p.after :=
      p.eq.trans (by rw [p.rest_eq]; simp)
    obtain ⟨w, hw⟩ : p.before ++ p.decl :: (p.block ++ [p.terminator]) <+: as := by
      refine List.prefix_of_prefix_length_le ⟨_, heq.symm⟩ (List.prefix_append as bs) ?_
      simp only [List.length_append, List.length_cons, List.length_nil]
      omega
    have htail : p.after = w ++ bs := by
      refine List.append_cancel_left (heq.symm.trans ?_)
      rw [← List.append_assoc, hw]
    refine ⟨⟨⟨p.before, p.decl, p.block ++ p.terminator :: (w ++ (xs ++ bs)), ?_, p.declares, ?_⟩,
      p.block, p.terminator, w ++ (xs ++ bs), rfl, p.inside, p.ends⟩, rfl⟩
    · simp [← hw]
    · have hlast := p.last
      rw [p.rest_eq, htail] at hlast
      simp only [List.forall_mem_append, List.forall_mem_cons] at hlast ⊢
      obtain ⟨hblock, hterminator, hw, hbs⟩ := hlast
      exact ⟨hblock, hterminator, hw, hxs, hbs⟩

end Parts

end Scan

namespace Registry

variable {ls ms : List Line} {r : Registry}

/-- An accepted header is accepted under any numbering of its lines. -/
theorem ofLines_ok_renumbered (h : ms.map Line.text = ls.map Line.text)
    (hls : (ofLines ls).result = .ok r) : (ofLines ms).result = .ok r := by
  have htexts : List.Forall₂ SameText ls ms := by
    have heq := h.symm
    rwa [← List.forall₂_eq_eq_eq, List.forall₂_map_left_iff, List.forall₂_map_right_iff] at heq
  obtain ⟨hstructs, p, hp⟩ := ofLines_ok_iff.1 hls
  obtain ⟨q, hbefore, hblock⟩ := p.exists_same_place
    (htexts.imp fun _ _ hlm => hlm.contains_eq _) (htexts.imp fun _ _ hlm => hlm.contains_eq _)
  have hsame := EnumParts.forall₂_block_of_forall₂ htexts p q hbefore hblock
  exact ofLines_ok_iff.2
    ⟨structTable_of_sameText htexts hstructs, q, initializerTable_of_sameText hsame hp⟩

/-- Lines that declare nothing can be put between two parts of an accepted header, if they do not
come right after the declaration of a struct, nor into the block. -/
theorem ofLines_ok_insert {as bs xs : List Line} (hls : (ofLines (as ++ bs)).result = .ok r)
    (p : EnumParts (as ++ bs)) (hstruct : ∀ x ∈ xs, x.declaresStruct = false)
    (henum : ∀ x ∈ xs, x.declaresEnum = false)
    (hplace : as.length ≤ p.before.length ∨ p.before.length + 1 + p.block.length < as.length)
    (hseam : ∀ l ∈ as.getLast?, l.declaresStruct = false) :
    (ofLines (as ++ (xs ++ bs))).result = .ok r := by
  obtain ⟨hstructs, p', hp⟩ := ofLines_ok_iff.1 hls
  rw [p'.unique p] at hp
  obtain ⟨q, hq⟩ := p.insert henum hplace
  refine ofLines_ok_iff.2 ⟨?_, q, hq ▸ hp⟩
  have hlast : ∀ x ∈ xs.getLast?, x.declaresStruct = false := fun x hx =>
    hstruct x (List.mem_of_getLast? hx)
  rw [structTable_ok_iff_declared] at hstructs ⊢
  rwa [declared_append hseam, declared_append hlast, declared_eq_nil hstruct, List.nil_append,
    ← declared_append hseam]

end Registry

/-- Lines without a declaration can be put into an accepted header before any position up to the
enum's declaration or behind its terminator, except right after the declaration of a struct. However
the lines are numbered then, the header is accepted with the same tables. -/
theorem ofLines_insert {ls xs ms : List Line} {r : Registry} {n : ℕ}
    (h : (Registry.ofLines ls).result = .ok r) (p : EnumParts ls)
    (hxs : ∀ x ∈ xs, x.declaresStruct = false ∧ x.declaresEnum = false)
    (hplace : n ≤ p.before.length ∨ p.before.length + 1 + p.block.length < n ∧ n ≤ ls.length)
    (hprevious : ∀ l, 0 < n → ls[n - 1]? = some l → l.declaresStruct = false)
    (hms : ms.map Line.text = (ls.take n ++ xs ++ ls.drop n).map Line.text) :
    (Registry.ofLines ms).result = .ok r := by
  have hn : n ≤ ls.length := by
    have hlength := congrArg List.length p.eq
    rw [List.length_append] at hlength
    omega
  obtain ⟨as, bs, rfl, rfl⟩ : ∃ as bs, ls = as ++ bs ∧ n = as.length :=
    ⟨ls.take n, ls.drop n, (List.take_append_drop n ls).symm, (List.length_take_of_le hn).symm⟩
  rw [List.take_left, List.drop_left, List.append_assoc] at hms
  have hseam : ∀ l ∈ as.getLast?, l.declaresStruct = false := by
    intro l hl
    have hpos : 0 < as.length := List.length_pos_of_ne_nil fun has => by simp [has] at hl
    refine hprevious l hpos ?_
    rw [List.getElem?_append_left (by omega), ← List.getLast?_eq_getElem?]
    exact hl
  exact Registry.ofLines_ok_renumbered hms (Registry.ofLines_ok_insert h p
    (fun x hx => (hxs x hx).1) (fun x hx => (hxs x hx).2) (hplace.imp_right And.left) hseam)

/-- The bytes that are generated for given lines. -/
def Output.bytesOfGiven (comment : String) (ls : List Line) : Except Halt (List UInt8) :=
  (Registry.ofGiven ls).result.map fun r => (Output.generate comment r {}).2.taken

/-- A header that is accepted with the numbers it has is accepted with the lines put in, with the
same tables, if the numbers then taken fit in a word too, and the same source is generated. If they
do not, the scan is halted. Indices below the largest that a word holds are always small enough. -/
theorem ofGiven_insert {ls xs ms : List Line} {r : Registry} {n : ℕ}
    (h : (Registry.ofGiven ls).result = .ok r) (p : EnumParts ls)
    (hxs : ∀ x ∈ xs, x.declaresStruct = false ∧ x.declaresEnum = false)
    (hplace : n ≤ p.before.length ∨ p.before.length + 1 + p.block.length < n ∧ n ≤ ls.length)
    (hprevious : ∀ l, 0 < n → ls[n - 1]? = some l → l.declaresStruct = false)
    (hms : ms.map Line.text = (ls.take n ++ xs ++ ls.drop n).map Line.text) :
    (Registry.Numbered ms → (Registry.ofGiven ms).result = .ok r
        ∧ ∀ comment : String, Output.bytesOfGiven comment ms = Output.bytesOfGiven comment ls)
      ∧ (¬ Registry.Numbered ms → (Registry.ofGiven ms).result = .error .overflow)
      ∧ ((∀ l ∈ ms, l.index < 2 ^ 64 - 1) → Registry.Numbered ms) := by
  have hms' : (Registry.ofLines ms).result = .ok r :=
    ofLines_insert (Registry.ofGiven_ok_iff.1 h).1 p hxs hplace hprevious hms
  refine ⟨fun hn => ?_, Registry.ofGiven_overflow hms', Registry.numbered_of_index_lt⟩
  have hgiven : (Registry.ofGiven ms).result = .ok r := Registry.ofGiven_ok_iff.2 ⟨hms', hn⟩
  exact ⟨hgiven, fun comment => by rw [Output.bytesOfGiven, Output.bytesOfGiven, h, hgiven]⟩

/-- Two structs around the enum of their constants. -/
def splitHeader : List Line := [
  ⟨0, "typedef struct Vk"⟩, ⟨1, "VkStructureType"⟩, ⟨2, "typedef enum VkStructureType"⟩, ⟨3, "A"⟩,
  ⟨4, "___B"⟩, ⟨5, ";"⟩, ⟨6, "typedef struct VkB"⟩, ⟨7, "VkStructureType"⟩]

def splitParts : EnumParts splitHeader where
  before := splitHeader.take 2
  decl := ⟨2, "typedef enum VkStructureType"⟩
  rest := splitHeader.drop 3
  eq := rfl
  declares := by decide +kernel
  last := by decide +kernel
  block := [⟨3, "A"⟩, ⟨4, "___B"⟩]
  terminator := ⟨5, ";"⟩
  after := splitHeader.drop 6
  rest_eq := rfl
  inside := by decide +kernel
  ends := by decide +kernel

/-- Lines with a terminator, the structure type or nothing, and those of the header, out of order in
their numbers. -/
def splitHeaderFilled : List Line := [
  ⟨7, "typedef struct Vk"⟩, ⟨6, "VkStructureType"⟩, ⟨5, "VkStructureType x;"⟩, ⟨5, ""⟩,
  ⟨4, "typedef enum VkStructureType"⟩, ⟨3, "A"⟩, ⟨2, "___B"⟩, ⟨1, ";"⟩, ⟨0, "typedef struct VkB"⟩,
  ⟨0, "VkStructureType"⟩]

theorem exists_ofLines_splitHeader : ∃ r, (Registry.ofLines splitHeader).result = .ok r
    ∧ r.initializers.entries = [("vk", ⟨"Vk", "A", "a"⟩), ("vkb", ⟨"VkB", "___B", "___b"⟩)] := by
  have hrun : (Registry.ofLines splitHeader).result.toOption.map (·.initializers.entries)
      = some [("vk", ⟨"Vk", "A", "a"⟩), ("vkb", ⟨"VkB", "___B", "___b"⟩)] := by
    decide +kernel
  exact Registry.exists_of_entries hrun

theorem numbered_splitHeader : Registry.Numbered splitHeader :=
  Registry.numbered_of_index_lt (by decide +kernel)

theorem ofGiven_insert_splitHeader :
    ∃ r, (Registry.ofGiven splitHeader).result = .ok r
      ∧ r.initializers.entries = [("vk", ⟨"Vk", "A", "a"⟩), ("vkb", ⟨"VkB", "___B", "___b"⟩)]
      ∧ (Registry.ofGiven splitHeaderFilled).result = .ok r
      ∧ ∀ comment : String,
        Output.bytesOfGiven comment splitHeaderFilled
          = Output.bytesOfGiven comment splitHeader := by
  obtain ⟨r, hr, hentries⟩ := exists_ofLines_splitHeader
  have hgiven : (Registry.ofGiven splitHeader).result = .ok r :=
    Registry.ofGiven_ok_iff.2 ⟨hr, numbered_splitHeader⟩
  have hxs : ∀ x ∈ [(⟨5, "VkStructureType x;"⟩ : Line), ⟨5, ""⟩],
      x.declaresStruct = false ∧ x.declaresEnum = false := by
    decide +kernel
  have hprevious : ∀ l, 0 < 2 → splitHeader[1]? = some l → l.declaresStruct = false := by
    intro l _ hl
    obtain rfl := Option.some.inj hl
    decide +kernel
  have htexts : splitHeaderFilled.map Line.text = (splitHeader.take 2
      ++ [(⟨5, "VkStructureType x;"⟩ : Line), ⟨5, ""⟩] ++ splitHeader.drop 2).map Line.text := rfl
  obtain ⟨hfilled, -, hindices⟩ :=
    ofGiven_insert hgiven splitParts hxs (.inl (le_refl 2)) hprevious htexts
  exact ⟨r, hgiven, hentries, hfilled (hindices (by decide +kernel))⟩

/-- The same lines, the first with the largest index that a word holds. -/
def splitHeaderRenumbered : List Line :=
  ⟨2 ^ 64 - 1, "typedef struct Vk"⟩ :: splitHeader.tail

/-- With no line put in and one line renumbered, an accepted header is no longer accepted. -/
theorem ofGiven_insert_largestIndex :
    (∃ r, (Registry.ofGiven splitHeader).result = .ok r)
      ∧ splitHeaderRenumbered.map Line.text
        = (splitHeader.take 0 ++ [] ++ splitHeader.drop 0).map Line.text
      ∧ (Registry.ofGiven splitHeaderRenumbered).result = .error .overflow := by
  obtain ⟨r, hr, -⟩ := exists_ofLines_splitHeader
  have htexts : splitHeaderRenumbered.map Line.text = splitHeader.map Line.text := rfl
  refine ⟨⟨r, Registry.ofGiven_ok_iff.2 ⟨hr, numbered_splitHeader⟩⟩, htexts, ?_⟩
  refine Registry.ofGiven_overflow (Registry.ofLines_ok_renumbered htexts hr) fun hn => ?_
  have hfits := Line.numberFits_iff.1 (hn.declaring _ List.mem_cons_self (by decide +kernel))
  exact lt_irrefl _ hfits

end VulkanPrefill
