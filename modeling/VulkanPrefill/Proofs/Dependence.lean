import VulkanPrefill.Output.Source
import VulkanPrefill.Proofs.Stages
import Mathlib.Data.List.Forall2

/-!
# What a registry depends on

The scan looks at a line through its number and the four markers, at the third word of a line that
declares a struct, and at the first word of a line of the block. Where two lists of lines agree on
these, every stage answers alike (`structTable_congr`, `enumBlock_congr`, `initializerTable_congr`),
and so the registries are built with the same log and end alike (`ofLines_agree`). What the other
words are makes no difference.
-/

namespace VulkanPrefill

/-- The scan for structs and for the block sees no difference between `l` and `m`. -/
structure Line.Alike (l m : Line) : Prop where
  index : l.index = m.index
  declaresStruct : l.declaresStruct = m.declaresStruct
  namesStructureType : l.namesStructureType = m.namesStructureType
  declaresEnum : l.declaresEnum = m.declaresEnum
  endsEnum : l.endsEnum = m.endsEnum
  structName : l.declaresStruct = true → l.word? 2 = m.word? 2

instance (l m : Line) : Decidable (l.Alike m) :=
  decidable_of_iff (l.index = m.index ∧ l.declaresStruct = m.declaresStruct
      ∧ l.namesStructureType = m.namesStructureType ∧ l.declaresEnum = m.declaresEnum
      ∧ l.endsEnum = m.endsEnum ∧ (l.declaresStruct = true → l.word? 2 = m.word? 2))
    ⟨fun ⟨h₁, h₂, h₃, h₄, h₅, h₆⟩ => ⟨h₁, h₂, h₃, h₄, h₅, h₆⟩,
      fun ⟨h₁, h₂, h₃, h₄, h₅, h₆⟩ => ⟨h₁, h₂, h₃, h₄, h₅, h₆⟩⟩

/-- The walk over the block sees no difference between `l` and `m`. -/
structure Line.SameConstant (l m : Line) : Prop where
  index : l.index = m.index
  constant : l.word? 0 = m.word? 0

namespace Scan

section Walks

variable {ε σ α : Type} {R : α → α → Prop}

theorem foldlM_congr {f : σ → α → Traced ε σ} (hf : ∀ s a b, R a b → f s a = f s b) :
    ∀ {as bs : List α}, List.Forall₂ R as bs → ∀ s, as.foldlM f s = bs.foldlM f s
  | _, _, .nil, _ => rfl
  | _, _, .cons hab h, s => by
    rw [List.foldlM_cons, List.foldlM_cons, hf s _ _ hab]
    exact bind_congr fun s' => foldlM_congr hf h s'

end Walks

section Structs

/-- The lines are related, and so are the lines after them. -/
def RelWithNext (R : Line → Line → Prop) (p q : Line × Option Line) : Prop :=
  R p.1 q.1 ∧ Option.Rel R p.2 q.2

theorem forall₂_withNext {R : Line → Line → Prop} : ∀ {ls ms : List Line},
    List.Forall₂ R ls ms → List.Forall₂ (RelWithNext R) (withNext ls) (withNext ms)
  | _, _, .nil => .nil
  | _, _, .cons hlm .nil => .cons ⟨hlm, .none⟩ .nil
  | _, _, .cons hlm (.cons hnext h) =>
    .cons ⟨hlm, .some hnext⟩ (forall₂_withNext (.cons hnext h))

theorem announcedStruct_congr {p q : Line × Option Line} (h : RelWithNext Line.Alike p q) :
    announcedStruct p.1 p.2 = announcedStruct q.1 q.2 := by
  obtain ⟨l, next⟩ := p
  obtain ⟨m, next'⟩ := q
  obtain ⟨hlm, hnext⟩ := h
  unfold announcedStruct Line.number
  rw [← hlm.declaresStruct, ← hlm.index]
  split_ifs with hd
  · rcases hnext with hnn | _
    · simp only [hnn.namesStructureType, hlm.structName hd]
    · rfl
  · rfl

theorem enterStruct_congr (t : Table String String) {p q : Line × Option Line}
    (h : RelWithNext Line.Alike p q) : enterStruct t p.1 p.2 = enterStruct t q.1 q.2 := by
  unfold enterStruct Line.number
  rw [announcedStruct_congr h, h.1.index]

theorem structTable_congr {ls ms : List Line} (h : List.Forall₂ Line.Alike ls ms) :
    structTable ls = structTable ms := by
  have hstep : ∀ (t : Table String String) (p q : Line × Option Line),
      RelWithNext Line.Alike p q → enterStruct t p.1 p.2 = enterStruct t q.1 q.2 :=
    fun t _ _ => enterStruct_congr t
  exact foldlM_congr hstep (forall₂_withNext h) .empty

end Structs

section Block

theorem lastPosition?_congr {α : Type} {p : α → Bool} {as bs : List α}
    (h : List.Forall₂ (p · = p ·) as bs) : lastPosition? p as = lastPosition? p bs := by
  induction h with
  | nil => rfl
  | cons hab _ ih => rw [lastPosition?, lastPosition?, ih, hab]

theorem enumDeclaration_congr {ls ms : List Line}
    (h : List.Forall₂ (·.declaresEnum = ·.declaresEnum) ls ms) :
    enumDeclaration ls = enumDeclaration ms := by
  unfold enumDeclaration
  rw [lastPosition?_congr h]

theorem any_congr {α : Type} {p : α → Bool} {as bs : List α}
    (h : List.Forall₂ (p · = p ·) as bs) : as.any p = bs.any p := by
  induction h with
  | nil => rfl
  | cons hab _ ih => rw [List.any_cons, List.any_cons, hab, ih]

theorem length_takeWhile_congr {α : Type} {p : α → Bool} {as bs : List α}
    (h : List.Forall₂ (p · = p ·) as bs) :
    (as.takeWhile p).length = (bs.takeWhile p).length := by
  induction h with
  | nil => rfl
  | cons hab _ ih =>
    rw [List.takeWhile_cons, List.takeWhile_cons, hab]
    split
    · rw [List.length_cons, List.length_cons, ih]
    · rfl

/-- Either both lists have no block, or they have blocks of one length. -/
theorem enumBlock_congr {ls ms : List Line} (h : List.Forall₂ (·.endsEnum = ·.endsEnum) ls ms)
    (d : ℕ) : (∃ f, enumBlock ls d = .error f ∧ enumBlock ms d = .error f)
      ∨ ∃ b c, enumBlock ls d = .ok b ∧ enumBlock ms d = .ok c ∧ b.length = c.length := by
  have hends : List.Forall₂ (fun l m : Line => l.endsEnum = m.endsEnum)
      (ls.drop (d + 1)) (ms.drop (d + 1)) := List.forall₂_drop (d + 1) h
  have hgoes : List.Forall₂ (fun l m : Line => (!l.endsEnum) = !m.endsEnum)
      (ls.drop (d + 1)) (ms.drop (d + 1)) := hends.imp fun _ _ hlm => congrArg _ hlm
  unfold enumBlock
  simp only [any_congr hends]
  split
  · exact .inr ⟨_, _, rfl, rfl, length_takeWhile_congr hgoes⟩
  · exact .inl ⟨_, rfl, rfl⟩

end Block

section Constants

theorem enterConstant_congr (structs : Table String String) (t : Table String Initializer)
    {l m : Line} (h : l.SameConstant m) :
    enterConstant structs t l = enterConstant structs t m := by
  unfold enterConstant Line.number
  rw [h.constant, h.index]

theorem initializerTable_congr (structs : Table String String) {b c : List Line}
    (h : List.Forall₂ Line.SameConstant b c) :
    initializerTable structs b = initializerTable structs c := by
  have hstep : ∀ (t : Table String Initializer) (l m : Line), l.SameConstant m →
      enterConstant structs t l = enterConstant structs t m := fun t _ _ =>
    enterConstant_congr structs t
  exact foldlM_congr hstep h .empty

end Constants

section Positions

variable {ls ms : List Line}

theorem EnumParts.getElem?_inside (p : EnumParts ls) {j : ℕ} (hj : j < p.block.length) :
    ls[p.before.length + 1 + j]? = p.block[j]? := by
  have hls : ls = p.before ++ p.decl :: (p.block ++ p.terminator :: p.after) := p.rest_eq ▸ p.eq
  refine (congrArg (·[p.before.length + 1 + j]?) hls).trans ?_
  rw [Nat.add_assoc, List.getElem?_append_right (Nat.le_add_right _ _), Nat.add_sub_cancel_left,
    Nat.add_comm 1, List.getElem?_cons_succ, List.getElem?_append_left hj]

/-- Blocks at the same place are related if the lines of the lists are, from the declaration to the
terminator. -/
theorem EnumParts.forall₂_block {R : Line → Line → Prop} (p : EnumParts ls) (q : EnumParts ms)
    (hbefore : p.before.length = q.before.length) (hblock : p.block.length = q.block.length)
    (h : ∀ (i : ℕ) (l m : Line), p.before.length < i → i < p.before.length + 1 + p.block.length →
      ls[i]? = some l → ms[i]? = some m → R l m) : List.Forall₂ R p.block q.block := by
  refine List.forall₂_iff_get.2 ⟨hblock, fun j hp hq => ?_⟩
  have hl := p.getElem?_inside hp
  have hm := q.getElem?_inside hq
  rw [← hbefore] at hm
  rw [List.getElem?_eq_getElem hp] at hl
  rw [List.getElem?_eq_getElem hq] at hm
  exact h _ _ _ (by omega) (by omega) hl hm

theorem EnumParts.forall₂_block_of_forall₂ {R : Line → Line → Prop} (h : List.Forall₂ R ls ms)
    (p : EnumParts ls) (q : EnumParts ms) (hbefore : p.before.length = q.before.length)
    (hblock : p.block.length = q.block.length) : List.Forall₂ R p.block q.block := by
  refine p.forall₂_block q hbefore hblock fun i l m _ _ hl hm => ?_
  obtain ⟨hi, rfl⟩ := List.getElem?_eq_some_iff.1 hl
  obtain ⟨hi', rfl⟩ := List.getElem?_eq_some_iff.1 hm
  exact h.get hi hi'

end Positions

end Scan

open Scan

/-- Registries of lists that the scan sees alike differ in nothing if their blocks have the same
constants. -/
theorem Registry.ofLines_congr {ls ms : List Line} (h : List.Forall₂ Line.Alike ls ms)
    (hconstants : ∀ (p : EnumParts ls) (q : EnumParts ms), p.before.length = q.before.length →
      p.block.length = q.block.length → List.Forall₂ Line.SameConstant p.block q.block) :
    ofLines ls = ofLines ms := by
  unfold ofLines
  have hdecl := enumDeclaration_congr (h.imp fun _ _ hlm => hlm.declaresEnum)
  have hends := h.imp fun _ _ hlm => hlm.endsEnum
  rw [structTable_congr h, ← hdecl]
  refine bind_congr fun structs => ?_
  rcases hd : enumDeclaration ls with f | d
  · rfl
  rcases enumBlock_congr hends d with ⟨f, hb, hc⟩ | ⟨b, c, hb, hc, hlen⟩
  · simp only [bind, Traced.ofExcept, hb, hc]
  obtain ⟨p, rfl, rfl⟩ := enumBlock_ok_iff.1 ⟨hd, hb⟩
  obtain ⟨q, hq, rfl⟩ := enumBlock_ok_iff.1 ⟨hdecl.symm.trans hd, hc⟩
  have hsame := initializerTable_congr structs (hconstants p q hq.symm hlen)
  simp only [bind, Traced.ofExcept, hb, hc, hlen, hsame]

/-- The bytes that are generated for the lines of a header, if they have no fault. -/
def Output.bytesOf (comment : String) (ls : List Line) : Except ScanFault (List UInt8) :=
  (Registry.ofLines ls).result.map fun r => (generate comment r {}).2.taken

/-- Lists of one length that are alike at every position and have the same first words from the
enum's declaration to its terminator. -/
structure Agree (ls ms : List Line) : Prop where
  length_eq : ls.length = ms.length
  alike : ∀ (i : ℕ) (l m : Line), ls[i]? = some l → ms[i]? = some m → l.Alike m
  constant : ∀ (p : EnumParts ls) (i : ℕ) (l m : Line), p.before.length < i →
    i < p.before.length + 1 + p.block.length → ls[i]? = some l → ms[i]? = some m →
    l.word? 0 = m.word? 0

/-- Where two lists of lines agree, building the registry tells the same, fails with the same fault
or ends with the same tables. -/
theorem ofLines_agree {ls ms : List Line} (h : Agree ls ms) :
    Registry.ofLines ls = Registry.ofLines ms := by
  have halike : List.Forall₂ Line.Alike ls ms :=
    List.forall₂_iff_get.2 ⟨h.length_eq, fun i hl hm =>
      h.alike i _ _ (List.getElem?_eq_getElem hl) (List.getElem?_eq_getElem hm)⟩
  refine Registry.ofLines_congr halike fun p q hbefore hblock => ?_
  refine p.forall₂_block q hbefore hblock fun i l m hlt hgt hl hm => ?_
  exact ⟨(h.alike i l m hl hm).index, h.constant p i l m hlt hgt hl hm⟩

/-- Two constants of one struct, the second with the first as its value. -/
def aliasedConstant : List Line := [
  ⟨0, "typedef struct VkA1 \x7b"⟩, ⟨1, "VkStructureType s;"⟩, ⟨2, "int x;"⟩,
  ⟨3, "typedef enum VkStructureType \x7b"⟩, ⟨4, "VK_STRUCTURE_TYPE_A_1 = 1,"⟩,
  ⟨5, "VK_STRUCTURE_TYPE_A1 = A_1,"⟩, ⟨6, "\x7d E;"⟩]

/-- The same with another member and other values, and with comments. -/
def aliasedConstantEdited : List Line := [
  ⟨0, "typedef struct VkA1 // s"⟩, ⟨1, "const VkStructureType t;"⟩, ⟨2, "char y[2];"⟩,
  ⟨3, "typedef enum VkStructureType // e"⟩, ⟨4, "VK_STRUCTURE_TYPE_A_1 // 1"⟩,
  ⟨5, "VK_STRUCTURE_TYPE_A1 = 0x7"⟩, ⟨6, "; E"⟩]

def aliasedParts : EnumParts aliasedConstant where
  before := aliasedConstant.take 3
  decl := ⟨3, "typedef enum VkStructureType \x7b"⟩
  rest := aliasedConstant.drop 4
  eq := rfl
  declares := by decide +kernel
  last := by decide +kernel
  block := (aliasedConstant.drop 4).take 2
  terminator := ⟨6, "\x7d E;"⟩
  after := []
  rest_eq := rfl
  inside := by decide +kernel
  ends := by decide +kernel

theorem ofLines_agree_edited :
    Agree aliasedConstant aliasedConstantEdited
      ∧ (∃ r, (Registry.ofLines aliasedConstant).result = .ok r ∧ r.initializers.entries
        = [("vka1", ⟨"VkA1", "VK_STRUCTURE_TYPE_A1", "vk_a1"⟩)])
      ∧ Registry.ofLines aliasedConstant = Registry.ofLines aliasedConstantEdited := by
  have hpairs : ∀ q ∈ aliasedConstant.zip aliasedConstantEdited, q.1.Alike q.2 := by
    decide +kernel
  have hwords : ∀ i < 6, 3 < i → (aliasedConstant[i]?.bind (·.word? 0))
      = aliasedConstantEdited[i]?.bind (·.word? 0) := by
    decide +kernel
  have hagree : Agree aliasedConstant aliasedConstantEdited := by
    refine ⟨rfl, fun i l m hl hm => ?_, fun p i l m hlt hgt hl hm => ?_⟩
    · exact hpairs (l, m) (List.mem_of_getElem? (List.getElem?_zip_eq_some.2 ⟨hl, hm⟩))
    · rw [p.unique aliasedParts] at hlt hgt
      have hword := hwords i hgt hlt
      rwa [hl, hm] at hword
  have hrun : (Registry.ofLines aliasedConstant).result.toOption.map (·.initializers.entries)
      = some [("vka1", ⟨"VkA1", "VK_STRUCTURE_TYPE_A1", "vk_a1"⟩)] := by
    decide +kernel
  exact ⟨hagree, Registry.exists_of_entries hrun, ofLines_agree hagree⟩

end VulkanPrefill
