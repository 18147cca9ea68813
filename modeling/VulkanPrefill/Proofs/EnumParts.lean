import VulkanPrefill.Scan.Block
import Mathlib.Data.List.TakeWhile
import Mathlib.Tactic

/-!
# Where the block of constants stands

The enum's declaration is the last line with its marker, and its block ends before the next line
with a terminator. Lines that have both come apart in one way around the block (`EnumParts`), and
the search finds the block that stands there (`enumBlock_ok_iff`).
-/

namespace VulkanPrefill.Scan

section LastPosition

variable {α : Type} {p : α → Bool}

theorem lastPosition?_eq_none_iff : ∀ {as : List α},
    lastPosition? p as = none ↔ ∀ a ∈ as, p a = false
  | [] => by simp [lastPosition?]
  | a :: as => by
    have ih : lastPosition? p as = none ↔ ∀ a ∈ as, p a = false := lastPosition?_eq_none_iff
    rw [lastPosition?, List.forall_mem_cons]
    rcases h : lastPosition? p as with _ | i
    · rw [← ih]
      simp [h]
    · rw [← ih]
      simp [h]

theorem lastPosition?_eq_some_iff : ∀ {as : List α} {d : ℕ},
    lastPosition? p as = some d
      ↔ ∃ xs a ys, as = xs ++ a :: ys ∧ xs.length = d ∧ p a = true ∧ ∀ b ∈ ys, p b = false
  | [], d => by simp [lastPosition?]
  | a :: as, d => by
    have ih := fun {i} => @lastPosition?_eq_some_iff as i
    rw [lastPosition?]
    rcases h : lastPosition? p as with _ | i
    · have hnone := lastPosition?_eq_none_iff.1 h
      refine ⟨?_, ?_⟩
      · intro hd
        by_cases ha : p a = true
        · rw [if_pos ha] at hd
          cases hd
          exact ⟨[], a, as, rfl, rfl, ha, hnone⟩
        · simp [ha] at hd
      · rintro ⟨_ | ⟨x, xs⟩, b, ys, heq, rfl, hb, -⟩
        · obtain ⟨rfl, -⟩ := List.cons_eq_cons.1 heq
          simp [hb]
        · obtain ⟨-, rfl⟩ := List.cons_eq_cons.1 heq
          simp [hnone b (by simp)] at hb
    · refine ⟨?_, ?_⟩
      · intro hd
        cases hd
        obtain ⟨xs, b, ys, rfl, hi, hb, hys⟩ := ih.1 h
        exact ⟨a :: xs, b, ys, rfl, by simp [hi], hb, hys⟩
      · rintro ⟨_ | ⟨x, xs⟩, b, ys, heq, rfl, hb, hys⟩
        · obtain ⟨-, rfl⟩ := List.cons_eq_cons.1 heq
          rw [lastPosition?_eq_none_iff.2 hys] at h
          cases h
        · obtain ⟨-, rfl⟩ := List.cons_eq_cons.1 heq
          rw [ih.2 ⟨xs, b, ys, rfl, rfl, hb, hys⟩] at h
          cases h
          rfl

end LastPosition

/-- The last line that declares the enum, and the lines before and after it. -/
structure DeclaredEnum (ls : List Line) where
  before : List Line
  decl : Line
  rest : List Line
  eq : ls = before ++ decl :: rest
  declares : decl.declaresEnum = true
  last : ∀ l ∈ rest, l.declaresEnum = false

/-- The enum's block, which stands between its declaration and the first line after that with a
terminator. -/
structure EnumParts (ls : List Line) extends DeclaredEnum ls where
  block : List Line
  terminator : Line
  after : List Line
  rest_eq : rest = block ++ terminator :: after
  inside : ∀ l ∈ block, l.endsEnum = false
  ends : terminator.endsEnum = true

variable {ls : List Line}

theorem enumDeclaration_ok_iff {d : ℕ} :
    enumDeclaration ls = .ok d ↔ ∃ e : DeclaredEnum ls, e.before.length = d := by
  have h : enumDeclaration ls = .ok d ↔ lastPosition? (·.declaresEnum) ls = some d := by
    unfold enumDeclaration
    split <;> simp_all
  rw [h, lastPosition?_eq_some_iff]
  refine ⟨?_, ?_⟩
  · rintro ⟨xs, a, ys, heq, hd, ha, hys⟩
    exact ⟨⟨xs, a, ys, heq, ha, hys⟩, hd⟩
  · rintro ⟨e, hd⟩
    exact ⟨e.before, e.decl, e.rest, e.eq, hd, e.declares, e.last⟩

theorem enumDeclaration_error_iff {f : ScanFault} :
    enumDeclaration ls = .error f ↔ f = .enumNotFound ∧ ∀ l ∈ ls, l.declaresEnum = false := by
  have h : lastPosition? (·.declaresEnum) ls = none ↔ ∀ l ∈ ls, l.declaresEnum = false :=
    lastPosition?_eq_none_iff
  rw [← h]
  unfold enumDeclaration
  split
  · next hl => simp [hl, eq_comm]
  · next hl => simp [hl]

theorem DeclaredEnum.unique (e e' : DeclaredEnum ls) : e = e' := by
  have h := (enumDeclaration_ok_iff.2 ⟨e, rfl⟩).symm.trans (enumDeclaration_ok_iff.2 ⟨e', rfl⟩)
  have hlen : e.before.length = e'.before.length := Except.ok.inj h
  obtain ⟨before, decl, rest, rfl, hd, hr⟩ := e
  obtain ⟨before', decl', rest', heq, hd', hr'⟩ := e'
  obtain ⟨rfl, htail⟩ := List.append_inj heq hlen
  obtain ⟨rfl, rfl⟩ := List.cons_eq_cons.1 htail
  rfl

/-- From any position the block goes up to the first line with a terminator. -/
theorem enumBlock_ok_iff_drop {d : ℕ} {block : List Line} :
    enumBlock ls d = .ok block ↔ ∃ t after, ls.drop (d + 1) = block ++ t :: after
      ∧ (∀ l ∈ block, l.endsEnum = false) ∧ t.endsEnum = true := by
  unfold enumBlock
  refine ⟨fun h => ?_, ?_⟩
  · simp only [] at h
    split_ifs at h with hany
    cases h
    have hne : (ls.drop (d + 1)).dropWhile (fun l => !l.endsEnum) ≠ [] := by
      intro hnil
      obtain ⟨l, hl, hend⟩ := List.any_eq_true.1 hany
      simpa [hend] using List.dropWhile_eq_nil_iff.1 hnil l hl
    obtain ⟨t, after, ht⟩ := List.exists_cons_of_ne_nil hne
    refine ⟨t, after, List.takeWhile_append_dropWhile.symm.trans (by rw [ht]), ?_, ?_⟩
    · intro l hl
      simpa using List.mem_takeWhile_imp hl
    · have := List.head?_dropWhile_not (fun l : Line => !l.endsEnum) (ls.drop (d + 1))
      rw [ht] at this
      simpa using this
  · rintro ⟨t, after, hdrop, hinside, hend⟩
    have hany : (ls.drop (d + 1)).any (·.endsEnum) = true := by
      rw [hdrop]
      simp [hend]
    simp only [hany, if_true]
    rw [hdrop, List.takeWhile_append_of_pos fun l hl => by simp [hinside l hl]]
    simp [hend]

theorem enumBlock_error_iff_drop {d : ℕ} {f : ScanFault} :
    enumBlock ls d = .error f
      ↔ f = .unterminatedEnum (d + 1) ∧ ∀ l ∈ ls.drop (d + 1), l.endsEnum = false := by
  unfold enumBlock
  simp only []
  split_ifs with h
  · obtain ⟨l, hl, hend⟩ := List.any_eq_true.1 h
    simp only [false_iff, not_and, not_forall]
    exact fun _ => ⟨l, hl, by simp [hend]⟩
  · simp only [List.any_eq_true, not_exists, not_and, Bool.not_eq_true] at h
    simp only [Except.error.injEq]
    exact ⟨fun hf => ⟨hf.symm, h⟩, fun hf => hf.1.symm⟩

theorem DeclaredEnum.drop_eq (e : DeclaredEnum ls) : ls.drop (e.before.length + 1) = e.rest := by
  obtain ⟨before, decl, rest, rfl, -, -⟩ := e
  rw [List.drop_length_add_append, List.drop_succ_cons, List.drop_zero]

theorem enumBlock_error_iff (e : DeclaredEnum ls) {f : ScanFault} :
    enumBlock ls e.before.length = .error f
      ↔ f = .unterminatedEnum (e.before.length + 1) ∧ ∀ l ∈ e.rest, l.endsEnum = false := by
  rw [enumBlock_error_iff_drop, e.drop_eq]

theorem EnumParts.enumBlock_eq (p : EnumParts ls) :
    enumBlock ls p.before.length = .ok p.block :=
  enumBlock_ok_iff_drop.2
    ⟨p.terminator, p.after, p.drop_eq.trans p.rest_eq, p.inside, p.ends⟩

/-- The search finds the block that stands between the last declaration and the first terminator
after it. -/
theorem enumBlock_ok_iff {d : ℕ} {block : List Line} :
    enumDeclaration ls = .ok d ∧ enumBlock ls d = .ok block
      ↔ ∃ p : EnumParts ls, p.before.length = d ∧ p.block = block := by
  refine ⟨?_, ?_⟩
  · rintro ⟨hd, hb⟩
    obtain ⟨e, rfl⟩ := enumDeclaration_ok_iff.1 hd
    obtain ⟨t, after, hdrop, hinside, hend⟩ := enumBlock_ok_iff_drop.1 hb
    exact ⟨⟨e, block, t, after, e.drop_eq.symm.trans hdrop, hinside, hend⟩, rfl, rfl⟩
  · rintro ⟨p, rfl, rfl⟩
    exact ⟨enumDeclaration_ok_iff.2 ⟨p.toDeclaredEnum, rfl⟩, p.enumBlock_eq⟩

theorem EnumParts.unique (p q : EnumParts ls) : p = q := by
  have he : p.toDeclaredEnum = q.toDeclaredEnum := p.toDeclaredEnum.unique q.toDeclaredEnum
  have hb : p.block = q.block := by
    have hq := q.enumBlock_eq
    rw [← he, p.enumBlock_eq] at hq
    exact Except.ok.inj hq
  obtain ⟨e, block, t, after, hrest, hin, hend⟩ := p
  obtain ⟨e', block', t', after', hrest', hin', hend'⟩ := q
  obtain rfl : e = e' := he
  obtain rfl : block = block' := hb
  obtain ⟨rfl, rfl⟩ := List.cons_eq_cons.1 (List.append_cancel_left (hrest.symm.trans hrest'))
  rfl

end VulkanPrefill.Scan
