import VulkanPrefill.Proofs.AsciiText
import VulkanPrefill.Proofs.FunctionNames

/-!
# Parts of a function name

No end of the infix is also a start of it, so its occurrences in a constant never overlap, and there
is one way to cut the constant at infixes into parts that hold none (`Cut.unique`, `exists_cut`).
The function name is made of the lower case of these parts, joined first and lowered as one text,
and only a trailing tag in it has capitals (`functionName_parts`).
-/

namespace VulkanPrefill

namespace Text

variable {p q cs : List Char} {ps : List (List Char)} {n m : ℕ}

/-- No end of `p`, short of the whole, is also a start of it. -/
def Unbordered (p : List Char) : Prop :=
  ∀ n < p.length, 0 < n → ¬ p.drop n <+: p

instance (p : List Char) : Decidable (Unbordered p) :=
  inferInstanceAs (Decidable (∀ n < p.length, _ → _))

/-- `cs` is `ps` with `p` between them, and none of `ps` holds `p`. -/
structure Cut (p cs : List Char) (ps : List (List Char)) : Prop where
  ne_nil : ps ≠ []
  joined : p.intercalate ps = cs
  apart : ∀ q ∈ ps, ¬ p <:+: q

/-- `n` is where a `p` between two of `ps` starts. -/
def Separator (p : List Char) (ps : List (List Char)) (n : ℕ) : Prop :=
  ∃ before after, ps = before ++ after ∧ before ≠ [] ∧ after ≠ []
    ∧ n = (p.intercalate before).length

section Occurrences

theorem infix_of_prefix_drop (h : p <+: cs.drop n) : p <:+: cs :=
  h.isInfix.trans (List.drop_suffix n cs).isInfix

/-- Two occurrences do not overlap. -/
theorem Unbordered.apart (hp : Unbordered p) (hn : p <+: cs.drop n) (hm : p <+: cs.drop m)
    (h : n < m) : n + p.length ≤ m := by
  by_contra hlt
  obtain ⟨k, rfl⟩ := Nat.exists_eq_add_of_lt h
  obtain ⟨ys, hys⟩ := hn
  rw [Nat.add_assoc, ← List.drop_drop, ← hys,
    List.drop_append_of_le_length (by omega)] at hm
  refine hp (k + 1) (by omega) (by omega) ?_
  exact List.prefix_of_prefix_length_le (List.prefix_append _ ys) hm (by simp)

/-- Behind a text without the pattern, the next occurrence is the first one, and all others stand
behind it. -/
theorem Unbordered.prefix_drop_iff (hp : Unbordered p) (hq : ¬ p <:+: q) :
    p <+: (q ++ (p ++ cs)).drop n
      ↔ n = q.length ∨ ∃ m, n = q.length + p.length + m ∧ p <+: cs.drop m := by
  have hfirst : p <+: (q ++ (p ++ cs)).drop q.length := by
    rw [List.drop_left]
    exact List.prefix_append p cs
  refine ⟨fun h => ?_, ?_⟩
  · rcases Nat.lt_trichotomy n q.length with hn | hn | hn
    · -- It would end before the first occurrence starts.
      have hend := hp.apart h hfirst hn
      rw [List.drop_append_of_le_length hn.le] at h
      have hshort : p <+: q.drop n :=
        List.prefix_of_prefix_length_le h (List.prefix_append _ _) (by simp; omega)
      exact absurd (infix_of_prefix_drop hshort) hq
    · exact .inl hn
    · obtain ⟨m, rfl⟩ := Nat.exists_eq_add_of_le (hp.apart hfirst h hn)
      refine .inr ⟨m, rfl, ?_⟩
      rwa [Nat.add_assoc, ← List.drop_drop, List.drop_left, ← List.drop_drop, List.drop_left] at h
  · rintro (rfl | ⟨m, rfl, hm⟩)
    · exact hfirst
    · rwa [Nat.add_assoc, ← List.drop_drop, List.drop_left, ← List.drop_drop, List.drop_left]

end Occurrences

section Cuts

theorem Cut.singleton (h : ¬ p <:+: cs) : Cut p cs [cs] where
  ne_nil := List.cons_ne_nil _ _
  joined := List.intercalate_singleton
  apart := by simpa using h

theorem Cut.cons (hq : ¬ p <:+: q) (h : Cut p cs ps) : Cut p (q ++ (p ++ cs)) (q :: ps) where
  ne_nil := List.cons_ne_nil _ _
  joined := by rw [List.intercalate_cons_of_ne_nil h.ne_nil, h.joined, List.append_assoc]
  apart := List.forall_mem_cons.2 ⟨hq, h.apart⟩

theorem exists_first_occurrence (hp : p ≠ []) : ∀ {cs : List Char}, p <:+: cs →
    ∃ q ys, cs = q ++ (p ++ ys) ∧ ¬ p <:+: q
  | [], h => absurd (List.infix_nil.1 h) hp
  | c :: cs, h => by
    by_cases hc : p <+: c :: cs
    · obtain ⟨ys, hys⟩ := hc
      exact ⟨[], ys, hys.symm, fun hnil => hp (List.infix_nil.1 hnil)⟩
    · obtain ⟨q, ys, rfl, hq⟩ :=
        exists_first_occurrence hp ((List.infix_cons_iff.1 h).resolve_left hc)
      refine ⟨c :: q, ys, rfl, fun hcq => ?_⟩
      rcases List.infix_cons_iff.1 hcq with hpre | hin
      · exact hc (hpre.trans (List.prefix_append (c :: q) (p ++ ys)))
      · exact hq hin

theorem exists_cut (hp : p ≠ []) (cs : List Char) : ∃ ps, Cut p cs ps := by
  by_cases h : p <:+: cs
  · obtain ⟨q, ys, hcs, hq⟩ := exists_first_occurrence hp h
    have hshorter : ys.length < cs.length := by
      have := List.length_pos_iff.2 hp
      rw [hcs, List.length_append, List.length_append]
      omega
    obtain ⟨ps, hps⟩ := exists_cut hp ys
    exact ⟨q :: ps, hcs ▸ hps.cons hq⟩
  · exact ⟨[cs], .singleton h⟩
termination_by cs.length

/-- The walk that cuts a text finds the first occurrence, and goes on behind it. -/
theorem piecesFrom_first (hp : Unbordered p) (hne : p ≠ []) : ∀ {q : List Char} (piece : List Char),
    ¬ p <:+: q → piecesFrom p 0 piece (q ++ (p ++ cs)) = (piece.reverse ++ q) :: pieces p cs
  | [], piece, _ => by
    obtain ⟨a, p, rfl⟩ := List.exists_cons_of_ne_nil hne
    rw [List.nil_append, piecesFrom_append, List.append_nil]
    rfl
  | c :: q, piece, hq => by
    have hstart : ¬ p <+: c :: (q ++ (p ++ cs)) := fun h => by
      rcases (hp.prefix_drop_iff hq (n := 0)).1 h with h | ⟨m, h, -⟩
      · simp at h
      · rw [List.length_cons] at h
        omega
    have hrest : ¬ p <:+: q := fun h => hq (List.infix_cons_iff.2 (.inr h))
    rw [List.cons_append, piecesFrom, if_neg (mt List.isPrefixOf_iff_prefix.1 hstart),
      piecesFrom_first hp hne (c :: piece) hrest, List.reverse_cons, List.append_assoc]
    rfl

theorem Cut.exists_tail {q' : List Char} {qs : List (List Char)} (h : Cut p cs (q :: q' :: qs)) :
    ¬ p <:+: q ∧ ∃ ys, cs = q ++ (p ++ ys) ∧ Cut p ys (q' :: qs) := by
  obtain ⟨hq, hqs⟩ := List.forall_mem_cons.1 h.apart
  refine ⟨hq, p.intercalate (q' :: qs), ?_, List.cons_ne_nil _ _, rfl, hqs⟩
  rw [← h.joined, List.intercalate_cons_cons, List.append_assoc]

theorem Cut.eq_of_singleton (h : Cut p cs [q]) : q = cs :=
  List.intercalate_singleton.symm.trans h.joined

/-- The pieces of a text are its only cut. -/
theorem Cut.eq_pieces (hp : Unbordered p) (hne : p ≠ []) :
    ∀ {ps : List (List Char)} {cs : List Char}, Cut p cs ps → ps = pieces p cs
  | [], _, h => absurd rfl h.ne_nil
  | [q], cs, h => by
    obtain rfl := h.eq_of_singleton
    rw [pieces, piecesFrom_of_not_infix [] (h.apart q List.mem_cons_self)]
    rfl
  | q :: q' :: qs, cs, h => by
    obtain ⟨hq, ys, rfl, htail⟩ := h.exists_tail
    rw [pieces, piecesFrom_first hp hne [] hq, ← htail.eq_pieces hp hne]
    rfl

end Cuts

section Separators

theorem not_separator_singleton : ¬ Separator p [q] n := by
  rintro ⟨before, after, happend, hbefore, hafter, -⟩
  rcases List.append_eq_singleton_iff.1 happend.symm with ⟨h, -⟩ | ⟨-, h⟩
  · exact hbefore h
  · exact hafter h

theorem separator_cons (hps : ps ≠ []) :
    Separator p (q :: ps) n
      ↔ n = q.length ∨ ∃ m, n = q.length + p.length + m ∧ Separator p ps m := by
  constructor
  · rintro ⟨before, after, happend, hbefore, hafter, rfl⟩
    obtain ⟨q', before, rfl⟩ := List.exists_cons_of_ne_nil hbefore
    obtain ⟨rfl, rfl⟩ := List.cons_eq_cons.1 happend
    rcases eq_or_ne before [] with rfl | hne
    · exact .inl (by rw [List.intercalate_singleton])
    · refine .inr ⟨_, ?_, before, after, rfl, hne, hafter, rfl⟩
      rw [List.intercalate_cons_of_ne_nil hne, List.length_append, List.length_append]
  · rintro (rfl | ⟨m, rfl, before, after, rfl, hbefore, hafter, rfl⟩)
    · exact ⟨[q], ps, rfl, List.cons_ne_nil _ _, hps, by rw [List.intercalate_singleton]⟩
    · refine ⟨q :: before, after, rfl, List.cons_ne_nil _ _, hafter, ?_⟩
      rw [List.intercalate_cons_of_ne_nil hbefore, List.length_append, List.length_append]

/-- The occurrences in a text that was cut are the separators. -/
theorem Cut.prefix_drop_iff (hp : Unbordered p) :
    ∀ {ps : List (List Char)} {cs : List Char} {n : ℕ}, Cut p cs ps →
      (p <+: cs.drop n ↔ Separator p ps n)
  | [], _, _, h => absurd rfl h.ne_nil
  | [q], cs, n, h => by
    obtain rfl := h.eq_of_singleton
    exact iff_of_false (fun hn => h.apart q List.mem_cons_self (infix_of_prefix_drop hn))
      not_separator_singleton
  | q :: q' :: qs, cs, n, h => by
    obtain ⟨hq, ys, rfl, htail⟩ := h.exists_tail
    simp only [hp.prefix_drop_iff hq, separator_cons htail.ne_nil, htail.prefix_drop_iff hp]

end Separators

section Suffix

/-- What is in lower case already stays as it is in front of any text. -/
theorem lowerAfter_append_of_settled (ys : List Char) : ∀ {xs : List Char}, (∀ c ∈ xs, Settled c) →
    ∀ before, lowerAfter before (xs ++ ys) = xs ++ lowerAfter (xs.reverse ++ before) ys
  | [], _, _ => rfl
  | c :: xs, h, before => by
    obtain ⟨hc, hxs⟩ := List.forall_mem_cons.1 h
    rw [List.cons_append, lowerAfter, hc.lowerBetween_eq, lowerAfter_append_of_settled ys hxs]
    simp

end Suffix

end Text

namespace Constant

open Text

theorem unbordered_infixText : Unbordered infixText.toList := by
  decide +kernel

theorem infixText_ne_nil : infixText.toList ≠ [] := by
  decide +kernel

section Names

variable {c x : String} {ps : List (List Char)}

/-- The parts of a constant, joined and then lowered as one text. -/
def loweredParts (ps : List (List Char)) : String :=
  lower (.ofList ps.flatten)

theorem settled_of_mem_loweredParts {d : Char} (h : d ∈ (loweredParts ps).toList) : Settled d := by
  rw [loweredParts, toList_lower] at h
  exact (mem_lowerAfter h).1

theorem settled_of_loweredParts_eq {y : String} (hx : loweredParts ps = x ++ y) :
    ∀ d ∈ x.toList, Settled d := fun d hd => by
  have hmem : d ∈ (loweredParts ps).toList := by
    rw [hx, String.toList_append]
    exact List.mem_append_left _ hd
  exact settled_of_mem_loweredParts hmem

variable (h : Cut infixText.toList c.toList ps)
include h

theorem toList_functionName :
    (functionName c).toList = capitalizeKhr (loweredParts ps).toList := by
  rw [functionName, without, ← h.eq_pieces unbordered_infixText infixText_ne_nil, loweredParts]
  simp

theorem functionName_of_khr (hx : loweredParts ps = x ++ "khr") : functionName c = x ++ "KHR" := by
  rw [← String.toList_inj, toList_functionName h, hx, String.toList_append, capitalizeKhr_append,
    String.toList_append]

theorem functionName_of_not_khr (hx : ∀ x, loweredParts ps ≠ x ++ "khr") :
    functionName c = loweredParts ps := by
  rw [← String.toList_inj, toList_functionName h]
  refine if_neg fun hsuffix => ?_
  obtain ⟨as, has⟩ := List.isSuffixOf_iff_suffix.1 hsuffix
  refine hx (.ofList as) ?_
  rw [← String.toList_inj, ← has]
  simp

/-- Capitals at the end of a function name are those of the tag, for lower case has none. -/
theorem functionName_eq_append_iff :
    functionName c = x ++ "KHR" ↔ loweredParts ps = x ++ "khr" := by
  refine ⟨fun hname => ?_, functionName_of_khr h⟩
  by_cases htag : ∃ y, loweredParts ps = y ++ "khr"
  · obtain ⟨y, hy⟩ := htag
    rw [functionName_of_khr h hy, ← String.toList_inj, String.toList_append, String.toList_append,
      List.append_cancel_right_eq, String.toList_inj] at hname
    rw [hy, hname]
  · rw [functionName_of_not_khr h (not_exists.1 htag)] at hname
    have hmem : 'R' ∈ (loweredParts ps).toList := by
      rw [hname, String.toList_append]
      exact List.mem_append_right _ (by decide)
    exact absurd (settled_of_mem_loweredParts hmem) (by decide +kernel)

theorem lower_functionName : lower (functionName c) = loweredParts ps := by
  by_cases htag : ∃ x, loweredParts ps = x ++ "khr"
  · obtain ⟨x, hx⟩ := htag
    have hkhr : ∀ before, lowerAfter before "KHR".toList = "khr".toList :=
      lowerAfter_of_ascii (by simp)
    rw [functionName_of_khr h hx, lower, String.toList_append,
      lowerAfter_append_of_settled _ (settled_of_loweredParts_eq hx), hkhr, ← String.toList_append,
      String.ofList_toList, hx]
  · rw [functionName_of_not_khr h (not_exists.1 htag), loweredParts, lower_lower]

end Names

end Constant

open Constant

/-- A constant is cut in one way into parts between infixes, at every place where the infix stands,
and these places do not overlap. With the parts joined and lowered as one text, which may bring
forth the infix again, the function name is that text, but with capitals in a trailing tag; lowering
the name again changes no more than the tag. -/
theorem functionName_parts (c : String) :
    (∃! ps, Text.Cut infixText.toList c.toList ps)
    ∧ ∀ ps, Text.Cut infixText.toList c.toList ps →
      (∀ n, infixText.toList <+: c.toList.drop n ↔ Text.Separator infixText.toList ps n)
      ∧ (∀ n m, Text.Separator infixText.toList ps n → Text.Separator infixText.toList ps m →
        n < m → n + infixText.toList.length ≤ m)
      ∧ (∀ x, functionName c = x ++ "KHR" ↔ loweredParts ps = x ++ "khr")
      ∧ ((∀ x, loweredParts ps ≠ x ++ "khr") → functionName c = loweredParts ps)
      ∧ Text.lower (functionName c) = loweredParts ps
      ∧ ∀ x, functionName c = x ++ "KHR" →
        ∀ d ∈ x.toList, ∀ before after, Text.lowerBetween before d after = [d] := by
  have hinfix := unbordered_infixText
  refine ⟨?_, fun ps h => ⟨fun n => h.prefix_drop_iff hinfix, fun n m hn hm => ?_,
    fun x => functionName_eq_append_iff h, functionName_of_not_khr h, lower_functionName h,
    fun x hx d hd before after => ?_⟩⟩
  · obtain ⟨ps, h⟩ := Text.exists_cut infixText_ne_nil c.toList
    refine ⟨ps, h, fun ps' h' => ?_⟩
    rw [h.eq_pieces hinfix infixText_ne_nil, h'.eq_pieces hinfix infixText_ne_nil]
  · exact hinfix.apart ((h.prefix_drop_iff hinfix).2 hn) ((h.prefix_drop_iff hinfix).2 hm)
  · have hlowered := (functionName_eq_append_iff h).1 hx
    exact (settled_of_loweredParts_eq hlowered d hd).lowerBetween_eq before after

/-- Taking the infix out makes a new one, and the tag is spelled with a Kelvin sign. -/
theorem functionName_parts_nested :
    let c := "VK_STRUCTURE_STRUCTURE_TYPE_TYPE_Os_\u212ahR"
    let ps := ["VK_STRUCTURE".toList, "_TYPE_Os_\u212ahR".toList]
    Text.Cut infixText.toList c.toList ps
      ∧ (∀ n, infixText.toList <+: c.toList.drop n ↔ Text.Separator infixText.toList ps n)
      ∧ loweredParts ps = "vk_structure_type_os_" ++ "khr"
      ∧ functionName c = "vk_structure_type_os_" ++ "KHR"
      ∧ Text.lower (functionName c) = "vk_structure_type_os_" ++ "khr" := by
  intro c ps
  have hcut : Text.Cut infixText.toList c.toList ps :=
    ⟨by decide, by decide +kernel, by decide +kernel⟩
  have hlowered : loweredParts ps = "vk_structure_type_os_" ++ "khr" := by decide +kernel
  obtain ⟨hseparators, -, htag, -, hlower, -⟩ := (functionName_parts c).2 ps hcut
  exact ⟨hcut, hseparators, hlowered, (htag _).2 hlowered, hlower.trans hlowered⟩

end VulkanPrefill
