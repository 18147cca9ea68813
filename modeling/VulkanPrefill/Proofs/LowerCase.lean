import VulkanPrefill.Text.Blank
import VulkanPrefill.Text.Lower
import Mathlib.Data.List.Basic
import Mathlib.Tactic

/-!
# Texts in lower case

Lowering leads to characters that it leaves alone, so lowering twice is lowering once
(`lower_lower`). It brings in no white space and no underscore (`mem_lowerAfter`). An underscore
has no case and ends a word, so a capital sigma does not see past it, and the texts on its two
sides are lowered apart (`lowerAfter_append_underscore`).
-/

namespace VulkanPrefill.Text

section Runs

theorem LowerRun.covers_iff {r : LowerRun} {n : ℕ} :
    r.covers n = true ↔ r.first ≤ n ∧ n ≤ r.last ∧ (n - r.first) % r.step = 0 := by
  simp [covers, and_assoc]

/-- The last of the lower cases in a run. -/
def LowerRun.lastImage (r : LowerRun) : ℕ :=
  r.lower r.last

theorem LowerRun.lower_bounds {r : LowerRun} {n : ℕ} (hn : r.covers n = true) :
    r.image ≤ r.lower n ∧ r.lower n ≤ r.lastImage := by
  obtain ⟨hfirst, hlast, -⟩ := covers_iff.1 hn
  simp only [lastImage, lower]
  omega

/-- Whether `rs`, which stand in order, cover no lower case in `r`. Where `rs` alternate, the lower
cases of an alternating run have the other parity. -/
def LowerRun.missedBy (r : LowerRun) : List LowerRun → Bool
  | [] => true
  | s :: rs =>
    if s.last < r.image then
      r.missedBy rs
    else if r.lastImage < s.first then
      true
    else
      s.step == 2 && (r.image + s.first) % 2 == 1 && (r.step == 2 || r.first == r.last)
        && r.missedBy rs

theorem coveringRun?_lower {r : LowerRun} {n : ℕ} (hn : r.covers n = true) :
    ∀ {rs : List LowerRun}, r.missedBy rs = true → coveringRun? (r.lower n) rs = none
  | [], _ => rfl
  | s :: rs, h => by
    obtain ⟨hlow, hhigh⟩ := LowerRun.lower_bounds hn
    have hcovers := LowerRun.covers_iff (r := s) (n := r.lower n)
    rw [LowerRun.missedBy] at h
    rw [coveringRun?]
    split_ifs at h with hbehind hbefore
    · rw [if_neg (hcovers.not.2 (by omega)), coveringRun?_lower hn h, ite_self]
    · rw [if_pos (by omega)]
    · simp only [Bool.and_eq_true, Bool.or_eq_true, beq_iff_eq] at h
      obtain ⟨⟨⟨hs, hodd⟩, hr⟩, h⟩ := h
      have hparity : r.lower n % 2 = r.image % 2 := by
        obtain ⟨hfirst, hlast, hstep⟩ := LowerRun.covers_iff.1 hn
        rw [LowerRun.lower]
        rcases hr with hr | hr
        · rw [hr] at hstep
          omega
        · omega
      have hnot : ¬ s.covers (r.lower n) = true := by
        rw [hcovers, hs]
        omega
      rw [if_neg hnot, coveringRun?_lower hn h, ite_self]

theorem missedBy_lowerRuns : ∀ r ∈ lowerRuns, r.missedBy lowerRuns = true := by
  decide +kernel

theorem isValidChar_images : ∀ r ∈ lowerRuns,
    r.lastImage < 0xD800 ∨ 0xDFFF < r.image ∧ r.lastImage < 0x110000 := by
  decide +kernel

/-- No lower case in a run is an underscore, a capital I with a dot above or a blank. -/
theorem images_apart : ∀ r ∈ lowerRuns, ∀ q ∈ ⟨0x5F, 0x5F⟩ :: ⟨0x130, 0x130⟩ :: blankRanges,
    r.lastImage < q.first ∨ q.last < r.image := by
  decide +kernel

end Runs

section Settled

/-- `c` is its own lower case, wherever it stands. -/
def Settled (c : Char) : Prop :=
  c ≠ 'Σ' ∧ c ≠ 'İ' ∧ lowerChar c = c

instance (c : Char) : Decidable (Settled c) :=
  inferInstanceAs (Decidable (_ ∧ _))

theorem lowerChar_cases (c : Char) : lowerChar c = c
    ∨ Settled (lowerChar c) ∧ lowerChar c ≠ '_' ∧ isBlank (lowerChar c) = false := by
  rcases h : coveringRun? c.toNat lowerRuns with _ | r
  · exact .inl (by rw [lowerChar, h])
  obtain ⟨hr, hc⟩ := coveringRun?_mem h
  obtain ⟨hlow, hhigh⟩ := LowerRun.lower_bounds hc
  have hvalid : (r.lower c.toNat).isValidChar := by
    have := isValidChar_images r hr
    unfold Nat.isValidChar
    omega
  have hcode : (lowerChar c).toNat = r.lower c.toNat := by
    rw [lowerChar, h]
    exact congrArg Char.toNat (dif_pos hvalid)
  have hapart : ∀ q ∈ ⟨0x5F, 0x5F⟩ :: ⟨0x130, 0x130⟩ :: blankRanges,
      ¬ (q.first ≤ (lowerChar c).toNat ∧ (lowerChar c).toNat ≤ q.last) := by
    intro q hq
    have := images_apart r hr q hq
    omega
  have hfixed : lowerChar (lowerChar c) = lowerChar c := by
    rw [lowerChar, hcode, coveringRun?_lower hc (missedBy_lowerRuns r hr)]
  refine .inr ⟨⟨fun hsigma => ?_, fun hdot => ?_, hfixed⟩, fun hunder => ?_, ?_⟩
  · rw [hsigma] at hfixed
    exact absurd hfixed (by decide +kernel)
  · exact hapart ⟨0x130, 0x130⟩ (by simp) (by rw [hdot]; decide)
  · exact hapart ⟨0x5F, 0x5F⟩ (by simp) (by rw [hunder]; decide)
  · rw [Bool.eq_false_iff, ne_eq, isBlank, anyHolds_iff]
    rintro ⟨q, hq, hin⟩
    exact hapart q (by simp [hq]) hin

theorem Settled.lowerBetween_eq {c : Char} (h : Settled c) (before after : List Char) :
    lowerBetween before c after = [c] := by
  rw [lowerBetween, if_neg h.1, if_neg h.2.1, h.2.2]

/-- A character of lower case is settled, and it is no blank and no underscore unless it stood there
before. -/
theorem mem_lowerBetween {before after : List Char} {c d : Char}
    (h : d ∈ lowerBetween before c after) :
    Settled d ∧ (d = c ∨ d ≠ '_' ∧ isBlank d = false) := by
  unfold lowerBetween at h
  split_ifs at h with hsigma hfinal hdot
  · obtain rfl := List.mem_singleton.1 h
    exact ⟨by decide +kernel, .inr (by decide +kernel)⟩
  · obtain rfl := List.mem_singleton.1 h
    exact ⟨by decide +kernel, .inr (by decide +kernel)⟩
  · rw [List.mem_cons, List.mem_singleton] at h
    rcases h with rfl | rfl
    · exact ⟨by decide +kernel, .inr (by decide +kernel)⟩
    · exact ⟨by decide +kernel, .inr (by decide +kernel)⟩
  · obtain rfl := List.mem_singleton.1 h
    rcases lowerChar_cases c with hc | ⟨hc, hother⟩
    · rw [hc]
      exact ⟨⟨hsigma, hdot, hc⟩, .inl rfl⟩
    · exact ⟨hc, .inr hother⟩

theorem mem_lowerAfter : ∀ {cs before : List Char} {d : Char}, d ∈ lowerAfter before cs →
    Settled d ∧ (d ∈ cs ∨ d ≠ '_' ∧ isBlank d = false)
  | [], _, _, h => by simp [lowerAfter] at h
  | c :: cs, before, d, h => by
    rw [lowerAfter, List.mem_append] at h
    rcases h with h | h
    · obtain ⟨hd, hc⟩ := mem_lowerBetween h
      exact ⟨hd, hc.imp_left fun hdc => List.mem_cons.2 (.inl hdc)⟩
    · obtain ⟨hd, hcs⟩ := mem_lowerAfter h
      exact ⟨hd, hcs.imp_left (List.mem_cons_of_mem c)⟩

theorem lowerAfter_of_settled : ∀ {cs : List Char}, (∀ c ∈ cs, Settled c) → ∀ before,
    lowerAfter before cs = cs
  | [], _, _ => rfl
  | c :: cs, h, before => by
    obtain ⟨hc, hcs⟩ := List.forall_mem_cons.1 h
    rw [lowerAfter, hc.lowerBetween_eq, lowerAfter_of_settled hcs, List.singleton_append]

theorem lowerAfter_lowerAfter (before before' cs : List Char) :
    lowerAfter before (lowerAfter before' cs) = lowerAfter before' cs :=
  lowerAfter_of_settled (fun _ h => (mem_lowerAfter h).1) before

theorem lower_lower (s : String) : lower (lower s) = lower s := by
  rw [lower, toList_lower, lowerAfter_lowerAfter, lower]

theorem isBlank_lowerAfter {cs : List Char} (h : ∀ c ∈ cs, isBlank c = false)
    (before : List Char) : ∀ d ∈ lowerAfter before cs, isBlank d = false :=
  fun d hd => (mem_lowerAfter hd).2.elim (h d) And.right

end Settled

section Underscore

theorem reachesCased_underscore (xs ys : List Char) :
    reachesCased (xs ++ '_' :: ys) = reachesCased xs := by
  have hstop : isCaseIgnorable '_' = false := by decide +kernel
  have hcase : isCased '_' = false := by decide +kernel
  unfold reachesCased
  rw [List.find?_append, List.find?_cons_of_pos (by simp [hstop])]
  rcases xs.find? fun c => !isCaseIgnorable c with _ | c
  · simp [hcase]
  · rfl

theorem lowerBetween_congr {before before' after after' : List Char}
    (hbefore : reachesCased before = reachesCased before')
    (hafter : reachesCased after = reachesCased after') (c : Char) :
    lowerBetween before c after = lowerBetween before' c after' := by
  unfold lowerBetween
  rw [hbefore, hafter]

/-- What stands before an underscore is not seen from after it. -/
theorem lowerAfter_underscore (ys : List Char) : ∀ cs before : List Char,
    lowerAfter (before ++ '_' :: ys) cs = lowerAfter before cs
  | [], _ => rfl
  | c :: cs, before => by
    rw [lowerAfter, lowerAfter, lowerBetween_congr (reachesCased_underscore before ys) rfl,
      ← List.cons_append, lowerAfter_underscore ys cs (c :: before)]

/-- The texts on the two sides of an underscore are lowered apart. -/
theorem lowerAfter_append_underscore (ys : List Char) : ∀ xs before : List Char,
    lowerAfter before (xs ++ '_' :: ys) = lowerAfter before xs ++ '_' :: lowerAfter [] ys
  | [], before => by
    have hsettled : Settled '_' := by decide +kernel
    have hcut := lowerAfter_underscore before ys []
    rw [List.nil_append] at hcut
    rw [List.nil_append, lowerAfter.eq_2, hsettled.lowerBetween_eq, hcut]
    rfl
  | x :: xs, before => by
    rw [List.cons_append, lowerAfter, lowerAfter,
      lowerBetween_congr rfl (reachesCased_underscore xs ys),
      lowerAfter_append_underscore ys xs (x :: before), List.append_assoc]

end Underscore

end VulkanPrefill.Text
