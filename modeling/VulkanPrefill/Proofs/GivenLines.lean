import VulkanPrefill.Proofs.Stages
import VulkanPrefill.Proofs.StructWalk

/-!
# Numbers that a word holds

The scan of given lines takes the numbers of those that declare a struct and of those in the block
(`Registry.Numbered`). If a word holds all of these, it is the scan in which numbers have no limit
(`ofGiven_eq`). So a header is accepted exactly if that one accepts it and the numbers fit
(`ofGiven_ok_iff`), and where only a number is in the way, an overflow halts the scan
(`ofGiven_overflow`).
-/

namespace VulkanPrefill

namespace Traced

variable {ε ε' α β : Type}

theorem result_bind_of_ok {x : Traced ε α} {a : α} (h : x.result = .ok a) (f : α → Traced ε β) :
    (x >>= f).result = (f a).result := by
  rw [bind_of_ok h]

theorem mapFault_bind (g : ε → ε') (x : Traced ε α) (f : α → Traced ε β) :
    (x >>= f).mapFault g = x.mapFault g >>= fun a => (f a).mapFault g := by
  rcases hx : x.result with fault | a
  · have hg : (x.mapFault g).result = .error (g fault) := by rw [mapFault, hx]; rfl
    rw [bind_of_error hx, bind_of_error hg]
    rfl
  · have hg : (x.mapFault g).result = .ok a := result_mapFault_eq_ok_iff.2 hx
    rw [bind_of_ok hx, bind_of_ok hg]
    rfl

end Traced

theorem Line.numberFits_iff {l : Line} : l.numberFits = true ↔ l.index < 2 ^ 64 - 1 := by
  have hsize : UInt64.size = 2 ^ 64 := rfl
  rw [Line.numberFits, Line.number, decide_eq_true_iff, hsize]
  omega

namespace Scan.Given

variable {α σ : Type} {takes : Bool} {line : Line}

theorem checked_of_fits (h : takes = true → line.numberFits = true) (run : Traced ScanFault α) :
    checked takes line run = run.mapFault .fault := by
  refine if_neg fun hover => ?_
  obtain ⟨htakes, hnot⟩ := Bool.and_eq_true_iff.1 hover
  rw [h htakes] at hnot
  cases hnot

theorem checked_of_not_fits (htakes : takes = true) (h : line.numberFits = false)
    (run : Traced ScanFault α) : checked takes line run = Traced.fail .overflow :=
  if_pos (by rw [htakes, h]; rfl)

section Walk

variable {takes : α → Bool} {line : α → Line} {f : σ → α → Traced ScanFault σ}

theorem walk_of_fits : ∀ {as : List α}, (∀ a ∈ as, takes a = true → (line a).numberFits = true) →
    ∀ s, walk takes line f as s = (as.foldlM f s).mapFault .fault
  | [], _, _ => rfl
  | a :: as, h, s => by
    obtain ⟨ha, has⟩ := List.forall_mem_cons.1 h
    rw [walk, List.foldlM_cons, checked_of_fits ha, List.foldlM_cons, Traced.mapFault_bind]
    exact congrArg _ (funext fun t => walk_of_fits has t)

theorem fits_of_walk_ok : ∀ {as : List α} {s t : σ}, (walk takes line f as s).result = .ok t →
    ∀ a ∈ as, takes a = true → (line a).numberFits = true
  | [], _, _, _ => List.forall_mem_nil _
  | a :: as, s, t, h => by
    rw [walk, List.foldlM_cons, Traced.result_bind_eq_ok_iff] at h
    obtain ⟨u, ha, has⟩ := h
    refine List.forall_mem_cons.2 ⟨fun htakes => ?_, fits_of_walk_ok has⟩
    by_contra hnot
    rw [checked_of_not_fits htakes (Bool.eq_false_iff.2 hnot)] at ha
    cases ha

/-- The first number that does not fit halts a walk in which nothing else is wrong. -/
theorem walk_overflow : ∀ {as : List α} {s t : σ}, (as.foldlM f s).result = .ok t →
    ¬ (∀ a ∈ as, takes a = true → (line a).numberFits = true) →
    (walk takes line f as s).result = .error .overflow
  | [], _, _, _, hnot => absurd (List.forall_mem_nil _) hnot
  | a :: as, s, t, h, hnot => by
    rw [List.foldlM_cons, Traced.result_bind_eq_ok_iff] at h
    obtain ⟨u, ha, has⟩ := h
    rw [walk, List.foldlM_cons, Traced.result_bind]
    by_cases hfits : takes a = true → (line a).numberFits = true
    · rw [checked_of_fits hfits, Traced.result_mapFault_eq_ok_iff.2 ha]
      exact walk_overflow has fun hall => hnot (List.forall_mem_cons.2 ⟨hfits, hall⟩)
    · obtain ⟨htakes, hover⟩ := Classical.not_imp.1 hfits
      rw [checked_of_not_fits htakes (Bool.eq_false_iff.2 hover)]
      rfl

end Walk

section Tables

variable {ls : List Line} {structs : Table String String} {t : Table String String}
  {u : Table String Initializer}

/-- A word holds the number of every line that declares a struct. -/
def FitsDeclaring (ls : List Line) : Prop :=
  ∀ l ∈ ls, l.declaresStruct = true → l.numberFits = true

theorem forall_withNext_iff :
    (∀ p ∈ withNext ls, p.1.declaresStruct = true → p.1.numberFits = true)
      ↔ FitsDeclaring ls := by
  refine ⟨fun h l hl => ?_, fun h p hp => h p.1 (mem_of_mem_withNext hp)⟩
  obtain ⟨i, hi⟩ := List.mem_iff_getElem?.1 hl
  refine h (l, ls[i + 1]?) (List.mem_of_getElem? (i := i) ?_)
  rw [getElem?_withNext, hi]
  rfl

theorem structTable_of_fits (h : FitsDeclaring ls) :
    structTable ls = (Scan.structTable ls).mapFault .fault :=
  walk_of_fits (forall_withNext_iff.2 h) _

theorem fits_of_structTable_ok (h : (structTable ls).result = .ok t) : FitsDeclaring ls :=
  forall_withNext_iff.1 (fits_of_walk_ok h)

theorem structTable_overflow (h : (Scan.structTable ls).result = .ok t)
    (hnot : ¬ FitsDeclaring ls) : (structTable ls).result = .error .overflow :=
  walk_overflow h (mt forall_withNext_iff.1 hnot)

theorem initializerTable_of_fits (h : ∀ l ∈ ls, l.numberFits = true) :
    initializerTable structs ls = (Scan.initializerTable structs ls).mapFault .fault :=
  walk_of_fits (fun l hl _ => h l hl) _

theorem fits_of_initializerTable_ok (h : (initializerTable structs ls).result = .ok u) :
    ∀ l ∈ ls, l.numberFits = true :=
  fun l hl => fits_of_walk_ok h l hl rfl

theorem initializerTable_overflow (h : (Scan.initializerTable structs ls).result = .ok u)
    (hnot : ¬ ∀ l ∈ ls, l.numberFits = true) :
    (initializerTable structs ls).result = .error .overflow :=
  walk_overflow h fun hall => hnot fun l hl => hall l hl rfl

end Tables

end Scan.Given

namespace Registry

open Scan

variable {ls : List Line} {r : Registry}

/-- A word holds the number of every line that declares a struct or is in the block. -/
structure Numbered (ls : List Line) : Prop where
  declaring : Given.FitsDeclaring ls
  block : ∀ p : EnumParts ls, ∀ l ∈ p.block, l.numberFits = true

theorem numbered_of_index_lt (h : ∀ l ∈ ls, l.index < 2 ^ 64 - 1) : Numbered ls := by
  have hfits : ∀ l ∈ ls, l.numberFits = true := fun l hl =>
    Line.numberFits_iff.2 (h l hl)
  refine ⟨fun l hl _ => hfits l hl, fun p l hl => hfits l ?_⟩
  rw [p.eq, p.rest_eq]
  simp [hl]

/-- Where the numbers fit, the scan is the one without a limit. -/
theorem ofGiven_eq (h : Numbered ls) : ofGiven ls = (ofLines ls).mapFault .fault := by
  unfold ofGiven ofLines
  rw [Given.structTable_of_fits h.declaring]
  simp only [Traced.mapFault_bind]
  refine congrArg _ (funext fun structs => ?_)
  rcases hd : enumDeclaration ls with f | d
  · rfl
  show pure d >>= _ = pure d >>= _
  rw [pure_bind, pure_bind]
  rcases hb : enumBlock ls d with f | block
  · rfl
  show pure block >>= _ = pure block >>= _
  rw [pure_bind, pure_bind]
  obtain ⟨p, -, rfl⟩ := enumBlock_ok_iff.1 ⟨hd, hb⟩
  rw [Given.initializerTable_of_fits (h.block p)]
  rfl

theorem numbered_of_ok (h : (ofGiven ls).result = .ok r) : Numbered ls := by
  simp only [ofGiven, Traced.result_bind_eq_ok_iff, Traced.result_mapFault_eq_ok_iff,
    Traced.result_ofExcept] at h
  obtain ⟨structs, hstructs, d, hd, block, hb, initializers, hinitializers, -⟩ := h
  obtain ⟨p, rfl, rfl⟩ := enumBlock_ok_iff.1 ⟨hd, hb⟩
  refine ⟨Given.fits_of_structTable_ok hstructs, fun q => ?_⟩
  rw [q.unique p]
  exact Given.fits_of_initializerTable_ok hinitializers

theorem ofGiven_ok_iff :
    (ofGiven ls).result = .ok r ↔ (ofLines ls).result = .ok r ∧ Numbered ls := by
  refine ⟨fun h => ⟨?_, numbered_of_ok h⟩, fun ⟨h, hn⟩ => ?_⟩
  · rwa [ofGiven_eq (numbered_of_ok h), Traced.result_mapFault_eq_ok_iff] at h
  · rwa [ofGiven_eq hn, Traced.result_mapFault_eq_ok_iff]

/-- Where the lines are accepted but for their numbers, one of these overflows. -/
theorem ofGiven_overflow (h : (ofLines ls).result = .ok r) (hnot : ¬ Numbered ls) :
    (ofGiven ls).result = .error .overflow := by
  obtain ⟨hstructs, p, hinitializers⟩ := ofLines_ok_iff.1 h
  obtain ⟨hd, hb⟩ := enumBlock_ok_iff.2 ⟨p, rfl, rfl⟩
  unfold ofGiven
  by_cases hdeclaring : Given.FitsDeclaring ls
  · have hblock : ¬ ∀ l ∈ p.block, l.numberFits = true := fun hall =>
      hnot ⟨hdeclaring, fun q => by rw [q.unique p]; exact hall⟩
    rw [Given.structTable_of_fits hdeclaring,
      Traced.result_bind_of_ok (Traced.result_mapFault_eq_ok_iff.2 hstructs), hd,
      Traced.result_bind_of_ok rfl, hb, Traced.result_bind_of_ok rfl,
      Traced.bind_of_error (Given.initializerTable_overflow hinitializers hblock)]
  · rw [Traced.bind_of_error (Given.structTable_overflow hstructs hdeclaring)]

end Registry

end VulkanPrefill
