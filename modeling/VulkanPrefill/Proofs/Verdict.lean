import VulkanPrefill.Proofs.ConstantWalk
import VulkanPrefill.Proofs.Stages
import VulkanPrefill.Proofs.StructWalk

/-!
# The verdict on a header

Four things can be wrong with a header, and they mask each other in a fixed order. `Verdict` says
which fault a list of lines has and at which position, without saying how the lines are scanned.
Building the registry fails with exactly that fault, and succeeds exactly if there is none
(`ofLines_verdict`). The lines of a text have their positions as indices, so there every reported
number is that of the offending line.
-/

namespace VulkanPrefill

def ScanFault.line? : ScanFault → Option ℕ
  | truncatedStruct n | missingStructName n | unterminatedEnum n | missingConstantName n => some n
  | enumNotFound => none

namespace Scan

/-- The fault of `ls`, if it has one, and the position of the line at fault, if it is one line. -/
inductive Verdict (ls : List Line) : Option ScanFault → Option ℕ → Prop
  | badStruct {i : ℕ} {f : ScanFault} : StructFaultAt ls i f →
    (∀ j < i, ∀ g, ¬ StructFaultAt ls j g) → Verdict ls (some f) (some i)
  | noEnum : SoundStructs ls → (∀ l ∈ ls, l.declaresEnum = false) →
    Verdict ls (some .enumNotFound) none
  | openEnum (e : DeclaredEnum ls) : SoundStructs ls → (∀ l ∈ e.rest, l.endsEnum = false) →
    Verdict ls (some (.unterminatedEnum (e.before.length + 1))) (some e.before.length)
  | noConstant (p : EnumParts ls) {xs : List Line} {l : Line} {ys : List Line} :
    SoundStructs ls → p.block = xs ++ l :: ys → l.words = [] → (∀ m ∈ xs, m.words ≠ []) →
    Verdict ls (some (.missingConstantName (l.index + 1)))
      (some (p.before.length + 1 + xs.length))
  | accepted (p : EnumParts ls) : SoundStructs ls → (∀ l ∈ p.block, l.words ≠ []) →
    Verdict ls none none

end Scan

open Scan

namespace Registry

theorem result_of_verdict {ls : List Line} {v : Option ScanFault} {i : Option ℕ}
    (h : Verdict ls v i) : (∃ f, v = some f ∧ (ofLines ls).result = .error f)
      ∨ v = none ∧ ∃ r, (ofLines ls).result = .ok r := by
  rw [result_ofLines]
  rcases h with ⟨hf, hlt⟩ | ⟨hs, hno⟩ | ⟨e, hs, hno⟩ | ⟨p, hs, hb, hl, hxs⟩ | ⟨p, hs, hw⟩
  · rw [structTable_error_iff.2 ⟨_, hf, hlt⟩]
    exact .inl ⟨_, rfl, rfl⟩
  · rw [structTable_ok_iff.2 ⟨hs, rfl⟩, enumDeclaration_error_iff.2 ⟨rfl, hno⟩]
    exact .inl ⟨_, rfl, rfl⟩
  · rw [structTable_ok_iff.2 ⟨hs, rfl⟩, enumDeclaration_ok_iff.2 ⟨e, rfl⟩]
    simp only [bind, Except.bind, (enumBlock_error_iff e).2 ⟨rfl, hno⟩]
    exact .inl ⟨_, rfl, rfl⟩
  · rw [structTable_ok_iff.2 ⟨hs, rfl⟩, enumDeclaration_ok_iff.2 ⟨p.toDeclaredEnum, rfl⟩]
    simp only [bind, Except.bind, p.enumBlock_eq,
      initializerTable_error_iff.2 ⟨_, _, _, hb, hl, rfl, hxs⟩]
    exact .inl ⟨_, rfl, rfl⟩
  · rw [structTable_ok_iff.2 ⟨hs, rfl⟩, enumDeclaration_ok_iff.2 ⟨p.toDeclaredEnum, rfl⟩]
    simp only [bind, Except.bind, p.enumBlock_eq, initializerTable_ok_iff.2 ⟨hw, rfl⟩]
    exact .inr ⟨trivial, _, rfl⟩

theorem exists_verdict (ls : List Line) : ∃ v i, Verdict ls v i := by
  rcases hs : (structTable ls).result with f | structs
  · obtain ⟨i, hi, hlt⟩ := structTable_error_iff.1 hs
    exact ⟨_, _, .badStruct hi hlt⟩
  have hsound := (structTable_ok_iff.1 hs).1
  rcases hd : enumDeclaration ls with f | d
  · exact ⟨_, _, .noEnum hsound (enumDeclaration_error_iff.1 hd).2⟩
  obtain ⟨e, rfl⟩ := enumDeclaration_ok_iff.1 hd
  rcases hb : enumBlock ls e.before.length with f | block
  · exact ⟨_, _, .openEnum e hsound ((enumBlock_error_iff e).1 hb).2⟩
  obtain ⟨p, hp, rfl⟩ := enumBlock_ok_iff.1 ⟨hd, hb⟩
  rcases hi : (initializerTable structs p.block).result with f | initializers
  · obtain ⟨xs, l, ys, hblock, hl, -, hxs⟩ := initializerTable_error_iff.1 hi
    exact ⟨_, _, .noConstant p hsound hblock hl hxs⟩
  · exact ⟨_, _, .accepted p hsound (initializerTable_ok_iff.1 hi).1⟩

theorem error_iff_verdict {ls : List Line} {f : ScanFault} :
    (ofLines ls).result = .error f ↔ ∃ i, Verdict ls (some f) i := by
  refine ⟨?_, ?_⟩
  · intro h
    obtain ⟨v, i, hv⟩ := exists_verdict ls
    rcases result_of_verdict hv with ⟨g, rfl, hg⟩ | ⟨-, r, hr⟩
    · obtain rfl : g = f := Except.error.inj (hg.symm.trans h)
      exact ⟨i, hv⟩
    · simp [hr] at h
  · rintro ⟨i, hv⟩
    rcases result_of_verdict hv with ⟨g, hg, h⟩ | ⟨hnone, -⟩
    · rwa [Option.some.inj hg]
    · cases hnone

theorem ok_iff_verdict {ls : List Line} :
    (∃ r, (ofLines ls).result = .ok r) ↔ ∃ i, Verdict ls none i := by
  refine ⟨?_, ?_⟩
  · rintro ⟨r, h⟩
    obtain ⟨v, i, hv⟩ := exists_verdict ls
    rcases result_of_verdict hv with ⟨g, rfl, hg⟩ | ⟨rfl, -⟩
    · simp [hg] at h
    · exact ⟨i, hv⟩
  · rintro ⟨i, hv⟩
    rcases result_of_verdict hv with ⟨g, hg, -⟩ | ⟨-, hok⟩
    · cases hg
    · exact hok

end Registry

section Numbers

theorem Scan.EnumParts.getElem?_block {ls : List Line} (p : EnumParts ls) {xs ys : List Line}
    {l : Line} (h : p.block = xs ++ l :: ys) : ls[p.before.length + 1 + xs.length]? = some l := by
  have hrest := p.rest_eq
  rw [h] at hrest
  obtain ⟨⟨before, decl, rest, rfl, _, _⟩, block, t, after, _, _, _⟩ := p
  simp only [] at hrest ⊢
  rw [Nat.add_assoc, List.getElem?_append_right (Nat.le_add_right _ _), Nat.add_sub_cancel_left,
    Nat.add_comm 1, List.getElem?_cons_succ, hrest]
  simp

theorem Scan.StructFaultAt.getElem? {ls : List Line} {i : ℕ} {f : ScanFault}
    (h : StructFaultAt ls i f) : ∃ l, ls[i]? = some l ∧ f.line? = some (l.index + 1) := by
  rcases h with ⟨hl, -, -⟩ | ⟨hl, -, -, -, -⟩
  · exact ⟨_, hl, rfl⟩
  · exact ⟨_, hl, rfl⟩

/-- Where every line has its position as index, a fault reports the position of the line at fault,
counted from one. -/
theorem Scan.Verdict.line?_eq {ls : List Line}
    (hidx : ∀ (i : ℕ) (l : Line), ls[i]? = some l → l.index = i) {f : ScanFault} {i : Option ℕ}
    (h : Verdict ls (some f) i) :
    f.line? = i.map (· + 1) ∧ ∀ j, i = some j → j < ls.length := by
  have hlt : ∀ {j : ℕ} {l : Line}, ls[j]? = some l → j < ls.length := fun h =>
    (List.getElem?_eq_some_iff.1 h).1
  rcases h with ⟨hf, -⟩ | ⟨-, -⟩ | ⟨e, -, -⟩ | ⟨p, -, hb, -, -⟩
  · obtain ⟨l, hl, hline⟩ := hf.getElem?
    rw [hline, hidx _ l hl]
    exact ⟨rfl, fun j hj => Option.some.inj hj ▸ hlt hl⟩
  · exact ⟨rfl, fun j hj => by cases hj⟩
  · refine ⟨rfl, fun j hj => ?_⟩
    obtain rfl := Option.some.inj hj
    conv_rhs => rw [e.eq]
    simp
  · have hl := p.getElem?_block hb
    refine ⟨by rw [ScanFault.line?, hidx _ _ hl]; rfl, fun j hj => ?_⟩
    exact Option.some.inj hj ▸ hlt hl

theorem length_ofText (text : String) : (Line.ofText text).length = (Text.lines text).length := by
  simp [Line.ofText]

end Numbers

/-- Building the registry fails with the fault of the lines and succeeds if they have none. The
number reported for a text is that of the line at fault. -/
theorem ofLines_verdict :
    (∀ (ls : List Line) (f : ScanFault),
      (Registry.ofLines ls).result = .error f ↔ ∃ i, Verdict ls (some f) i)
    ∧ (∀ ls : List Line, (∃ r, (Registry.ofLines ls).result = .ok r) ↔ ∃ i, Verdict ls none i)
    ∧ ∀ (text : String) (f : ScanFault) (n : ℕ),
      (Registry.ofLines (Line.ofText text)).result = .error f → f.line? = some n →
      1 ≤ n ∧ n ≤ (Text.lines text).length
        ∧ Verdict (Line.ofText text) (some f) (some (n - 1)) := by
  refine ⟨fun ls f => Registry.error_iff_verdict, fun ls => Registry.ok_iff_verdict, ?_⟩
  intro text f n h hn
  obtain ⟨i, hv⟩ := Registry.error_iff_verdict.1 h
  obtain ⟨hline, hlt⟩ := hv.line?_eq fun i l hl => getElem?_ofText hl
  obtain ⟨j, rfl, rfl⟩ := Option.map_eq_some_iff.1 (hline.symm.trans hn)
  have hj := hlt j rfl
  rw [length_ofText] at hj
  exact ⟨by omega, by omega, hv⟩

end VulkanPrefill
