import VulkanPrefill.Output.Source
import VulkanPrefill.Proofs.Stages
import Mathlib.Data.List.Basic
import Mathlib.Tactic

/-!
# What a sink holds in the end

A sink takes of a text what fits, whatever portions it takes it in, wherever it is interrupted and
however the text is cut into writes (`Delivers.append`), and refuses exactly if something is left
over. So after a run the sink holds the longest beginning of the generated source that fits; it is
flushed only after all of it is taken (`generate_into_sink`).

Turn by turn, writing is done with after some turns or goes on for ever. If it is done with, it came
to what writing is (`run_forM_of_writeWithin`); it goes on for ever exactly where something is left
over and the full sink turns down every write as interrupted (`writeWithin_eq_none_iff`).
-/

namespace VulkanPrefill

/-- Whether whoever is turned down so tries again. -/
def Refusal.retried : Refusal → Bool
  | fails cause => cause.retried
  | takesNothing => false

/-- What becomes of a writer whose bytes are turned down. -/
def Refusal.told : Refusal → Cause
  | fails cause => if cause.retried then .endless else cause
  | takesNothing => .nothingTaken

theorem Refusal.told_of_retried {refusal : Refusal} (h : refusal.retried) :
    refusal.told = .endless := by
  rcases refusal with cause | _
  · exact if_pos h
  · cases h

namespace Sink

variable {α β : Type}

theorem run_bind (x : Use α) (f : α → Use β) (s : Sink) :
    (x >>= f).run.run s = match x.run.run s with
      | (.ok a, s') => (f a).run.run s'
      | (.error cause, s') => (.error cause, s') := by
  show (ExceptT.bind x f).run.run s = _
  simp only [ExceptT.bind, ExceptT.mk, ExceptT.run, StateT.run]
  show (match x s with | (a, s') => ExceptT.bindCont f a s') = _
  rcases x s with ⟨_ | a, s'⟩ <;> rfl

theorem run_write (bs : List UInt8) (s : Sink) : (write bs).run.run s = s.offerAll bs :=
  rfl

theorem fitting_le (s : Sink) (n : ℕ) : s.fitting n ≤ n := by
  unfold fitting
  split <;> simp

theorem fitting_of_limit_eq_none {s : Sink} (h : s.limit = none) (n : ℕ) : s.fitting n = n := by
  unfold fitting
  rw [h]

theorem portion_le (s : Sink) (n : ℕ) : s.portion n ≤ n := by
  unfold portion
  split <;> simp

theorem portion_pos (s : Sink) {n : ℕ} (h : 0 < n) : 0 < s.portion n := by
  unfold portion
  split <;> omega

theorem fitting_eq_zero {s : Sink} {m : ℕ} (h : s.fitting m = 0) (hm : 0 < m) (n : ℕ) :
    s.fitting n = 0 := by
  unfold fitting at h ⊢
  split at h <;> omega

theorem fitting_add (s : Sink) (ps : List ℕ) (is : List Bool) {xs : List UInt8} {m : ℕ}
    (h : s.fitting m = xs.length) (n : ℕ) :
    s.fitting (xs.length + n)
      = xs.length
        + { s with taken := s.taken ++ xs, portions := ps, interruptions := is }.fitting n := by
  unfold fitting at h ⊢
  simp only []
  split at h
  · rfl
  · rw [List.length_append]
    omega

theorem fitting_append_of_lt {s : Sink} {xs : List UInt8} (h : s.fitting xs.length < xs.length)
    (ys : List UInt8) : s.fitting (xs ++ ys).length = s.fitting xs.length := by
  rw [List.length_append]
  unfold fitting at h ⊢
  split at h <;> omega

/-- Bringing `bs` to `s` ends with `result` and leaves the sink as `s'`: what fits was taken, in
some portions and with some interruptions, and what is left over was refused. -/
structure Delivers (s : Sink) (bs : List UInt8) (result : Except Cause Unit) (s' : Sink) :
    Prop where
  result_eq : result = if s.fitting bs.length = bs.length then .ok () else .error s.refusal.told
  sink_eq : ∃ ps is, s' = { s with
    taken := s.taken ++ bs.take (s.fitting bs.length), portions := ps, interruptions := is }

theorem Delivers.fitting_eq {s s' : Sink} {bs : List UInt8} (h : Delivers s bs (.ok ()) s') :
    s.fitting bs.length = bs.length := by
  by_contra hne
  simpa [hne] using h.result_eq

theorem Delivers.fitting_lt {s s' : Sink} {bs : List UInt8} {cause : Cause}
    (h : Delivers s bs (.error cause) s') : s.fitting bs.length < bs.length := by
  refine lt_of_le_of_ne (fitting_le s _) fun heq => ?_
  simpa [heq] using h.result_eq

/-- An interruption is no part of what is brought. -/
theorem Delivers.nil (s : Sink) (is : List Bool) :
    Delivers s [] (.ok ()) { s with interruptions := is } := by
  have h : s.fitting 0 = 0 := Nat.le_zero.1 (fitting_le s 0)
  exact ⟨by simp [h], s.portions, is, by simp [h]⟩

/-- A cut between two writes makes no difference. -/
theorem Delivers.append {s s' s'' : Sink} {xs ys : List UInt8} {result : Except Cause Unit}
    (hx : Delivers s xs (.ok ()) s') (hy : Delivers s' ys result s'') :
    Delivers s (xs ++ ys) result s'' := by
  have hfit := hx.fitting_eq
  obtain ⟨-, ps, is, rfl⟩ := hx
  rw [hfit, List.take_length] at hy
  obtain ⟨hyr, ps', is', rfl⟩ := hy
  have hadd := fitting_add s ps is hfit ys.length
  refine ⟨?_, ps', is', ?_⟩
  · rw [hyr, List.length_append, hadd]
    simp
  · rw [List.length_append, hadd, List.take_length_add_append]
    simp

theorem Delivers.append_of_error {s s' : Sink} {xs : List UInt8} {cause : Cause}
    (h : Delivers s xs (.error cause) s') (ys : List UInt8) :
    Delivers s (xs ++ ys) (.error cause) s' := by
  have hlt := h.fitting_lt
  have hsame := fitting_append_of_lt hlt ys
  obtain ⟨hr, ps, is, rfl⟩ := h
  refine ⟨?_, ps, is, ?_⟩
  · rw [hr, hsame, if_neg (by omega), if_neg (by rw [List.length_append]; omega)]
  · rw [hsame, List.take_append_of_le_length (by omega)]

/-- The ways one write of `bs` can go. -/
inductive Offered (s : Sink) (bs : List UInt8) : Except Cause ℕ × Sink → Prop
  | interrupted {text : String} {is : List Bool} (h : s.interruptions = true :: is) :
    Offered s bs (.error (.interrupted text), { s with interruptions := is })
  | failed {cause : Cause} (full : s.fitting bs.length = 0) (h : s.refusal = .fails cause) :
    Offered s bs (.error cause, { s with interruptions := s.interruptions.tail })
  | refused (full : s.fitting bs.length = 0) (h : s.refusal = .takesNothing) :
    Offered s bs (.ok 0, { s with interruptions := s.interruptions.tail })
  | took {n : ℕ} (hn : n < bs.length) (fits : s.fitting (n + 1) = n + 1) :
    Offered s bs (.ok (n + 1), { s with
      taken := s.taken ++ bs.take (n + 1), portions := s.portions.tail,
      interruptions := s.interruptions.tail })

theorem offered (s : Sink) {bs : List UInt8} (hbs : bs ≠ []) : Offered s bs (s.offer bs) := by
  have hpos := List.length_pos_iff.2 hbs
  unfold offer
  dsimp only
  split
  · next h =>
    rcases hi : s.interruptions with _ | ⟨i, is⟩ <;> rw [hi] at h <;> cases h
    exact .interrupted hi
  · set after := { s with interruptions := s.interruptions.tail }
    unfold answer
    have hn : after.fitting (after.portion bs.length) = s.fitting (s.portion bs.length) := rfl
    rw [hn]
    rcases hfit : s.fitting (s.portion bs.length) with _ | n
    · have hfull : s.fitting bs.length = 0 := fitting_eq_zero hfit (portion_pos s hpos) _
      dsimp only
      rw [if_pos ⟨rfl, hbs⟩]
      rcases hr : s.refusal with cause | _
      · exact .failed hfull hr
      · exact .refused hfull hr
    · have hle := hfit ▸ (fitting_le s _).trans (portion_le s _)
      refine .took (by omega) ?_
      unfold fitting at hfit ⊢
      split at hfit <;> omega

theorem delivers_of_full {s : Sink} {bs : List UInt8} {cause : Cause} (hbs : bs ≠ [])
    (full : s.fitting bs.length = 0) (told : s.refusal.told = cause) (is : List Bool) :
    Delivers s bs (.error cause) { s with interruptions := is } := by
  have hne : (0 : ℕ) ≠ bs.length := (List.length_pos_iff.2 hbs).ne
  exact ⟨by rw [full, if_neg hne, told], s.portions, is, by simp [full]⟩

theorem delivers_take {s : Sink} {bs : List UInt8} {n : ℕ} (hn : n ≤ bs.length)
    (fits : s.fitting n = n) (ps : List ℕ) (is : List Bool) :
    Delivers s (bs.take n) (.ok ())
      { s with taken := s.taken ++ bs.take n, portions := ps, interruptions := is } := by
  have hlen : (bs.take n).length = n := List.length_take_of_le hn
  refine ⟨by rw [hlen, fits, if_pos rfl], ps, is, ?_⟩
  rw [hlen, fits, List.take_take, min_self]

/-- Whether bringing `bs` to `s` comes to an end. -/
def Ends (s : Sink) (bs : List UInt8) : Prop :=
  s.fitting bs.length = bs.length ∨ s.refusal.retried = false

theorem not_ends_of_full {s : Sink} {bs : List UInt8} (hbs : bs ≠ [])
    (full : s.fitting bs.length = 0) (h : s.refusal.retried) : ¬ s.Ends bs := by
  rw [Ends, full, h]
  simp [(List.length_pos_iff.2 hbs).ne]

/-- What one turn comes to: it was the last one, or it changed nothing and neither will those that
follow, or it brought some of the bytes, if any, and left the others. -/
def Turned (s : Sink) (bs : List UInt8) : Turn × Sink → Prop
  | (.over result, s') => Delivers s bs result s' ∧ s.Ends bs
  | (.again rest, s') =>
    if (rest, s') = (bs, s) then Delivers s bs (.error .endless) s ∧ ¬ s.Ends bs
    else ∃ n, rest = bs.drop n ∧ Delivers s (bs.take n) (.ok ()) s'

theorem turned (s : Sink) (bs : List UInt8) : Turned s bs (s.turn bs) := by
  unfold turn
  split
  · next h =>
    subst h
    exact ⟨.nil s s.interruptions, .inl (Nat.le_zero.1 (fitting_le s 0))⟩
  next hbs =>
  have hoffered := offered s hbs
  generalize s.offer bs = o at hoffered
  cases hoffered with
  | @interrupted text is h =>
    have hne : (bs, { s with interruptions := is }) ≠ (bs, s) := by
      intro heq
      have := congrArg (·.2.interruptions.length) heq
      simp [h] at this
    simp only [Cause.retried, if_true, Turned, if_neg hne]
    exact ⟨0, rfl, .nil s is⟩
  | @failed cause full h =>
    by_cases hc : cause.retried
    · have hretried : s.refusal.retried := by rwa [h]
      simp only [hc, if_true, Turned]
      split
      · exact ⟨delivers_of_full hbs full (Refusal.told_of_retried hretried) s.interruptions,
          not_ends_of_full hbs full hretried⟩
      · exact ⟨0, rfl, .nil s _⟩
    · have htold : s.refusal.told = cause := by rw [h, Refusal.told, if_neg hc]
      simp only [hc, Turned]
      exact ⟨delivers_of_full hbs full htold _, .inr (by rw [h]; exact Bool.eq_false_iff.2 hc)⟩
  | refused full h =>
    have htold : s.refusal.told = .nothingTaken := by rw [h, Refusal.told]
    exact ⟨delivers_of_full hbs full htold _, .inr (by rw [h]; rfl)⟩
  | @took n hn fits =>
    have hne : ∀ s', (bs.drop (n + 1), s') ≠ (bs, s) := by
      intro s' heq
      have := congrArg (·.1.length) heq
      simp only [List.length_drop] at this
      omega
    simp only [Turned, if_neg (hne _)]
    exact ⟨n + 1, rfl, delivers_take hn fits _ _⟩

section Turns

variable {s s' : Sink} {bs rest : List UInt8}

theorem delivers_of_over {result : Except Cause Unit} (h : s.turn bs = (.over result, s')) :
    Delivers s bs result s' ∧ s.Ends bs := by
  have hturned := turned s bs
  rw [h] at hturned
  exact hturned

theorem delivers_of_turn_eq_self (h : s.turn bs = (.again bs, s)) :
    Delivers s bs (.error .endless) s ∧ ¬ s.Ends bs := by
  have hturned := turned s bs
  rwa [h, Turned, if_pos rfl] at hturned

theorem exists_delivers_of_again (h : s.turn bs = (.again rest, s')) (hne : (rest, s') ≠ (bs, s)) :
    ∃ n, rest = bs.drop n ∧ Delivers s (bs.take n) (.ok ()) s' := by
  have hturned := turned s bs
  rwa [h, Turned, if_neg hne] at hturned

end Turns

/-- Writing brings the bytes, whatever portions the sink takes them in. -/
theorem delivers_offerAll (s : Sink) (bs : List UInt8) :
    Delivers s bs (s.offerAll bs).1 (s.offerAll bs).2 := by
  fun_induction offerAll s bs with
  | case1 s bs result s' h => exact (delivers_of_over h).1
  | case2 s bs rest s' h heq =>
    cases heq
    exact (delivers_of_turn_eq_self h).1
  | case3 s bs rest s' h hne ih =>
    obtain ⟨n, rfl, hfirst⟩ := exists_delivers_of_again h hne
    have hall := hfirst.append ih
    rwa [List.take_append_drop] at hall

/-- However a text is cut into writes, all of it is brought. -/
theorem run_forM_write : ∀ (cut : List (List UInt8)) (s : Sink),
    Delivers s cut.flatten ((forM cut write).run.run s).1 ((forM cut write).run.run s).2
  | [], s => .nil s s.interruptions
  | bs :: cut, s => by
    rw [List.flatten_cons, List.forM_cons, run_bind]
    have hw := delivers_offerAll s bs
    rw [run_write]
    rcases h : s.offerAll bs with ⟨cause | _, s'⟩ <;> rw [h] at hw
    · exact hw.append_of_error cut.flatten
    · exact hw.append (run_forM_write cut s')

section Endless

/-- What at most `k` turns of writing the pieces come to, if they come to an end. -/
def writeWithin : ℕ → Sink → List (List UInt8) → Option (Except Cause Unit × Sink)
  | 0, _, _ => none
  | _ + 1, s, [] => some (.ok (), s)
  | k + 1, s, bs :: cut =>
    match s.turn bs with
    | (.over (.ok ()), s') => writeWithin k s' cut
    | (.over (.error cause), s') => some (.error cause, s')
    | (.again rest, s') => writeWithin k s' (rest :: cut)

variable {s s' : Sink} {bs rest xs : List UInt8} {cut : List (List UInt8)}

theorem writeWithin_of_over (h : s.turn bs = (.over (.ok ()), s')) (k : ℕ) :
    writeWithin (k + 1) s (bs :: cut) = writeWithin k s' cut := by
  rw [writeWithin, h]

theorem writeWithin_of_error {cause : Cause} (h : s.turn bs = (.over (.error cause), s'))
    (k : ℕ) : writeWithin (k + 1) s (bs :: cut) = some (.error cause, s') := by
  rw [writeWithin, h]

theorem writeWithin_of_again (h : s.turn bs = (.again rest, s')) (k : ℕ) :
    writeWithin (k + 1) s (bs :: cut) = writeWithin k s' (rest :: cut) := by
  rw [writeWithin, h]

theorem writeWithin_of_turn_eq_self (h : s.turn bs = (.again bs, s)) :
    ∀ k, writeWithin k s (bs :: cut) = none
  | 0 => rfl
  | k + 1 => by rw [writeWithin_of_again h, writeWithin_of_turn_eq_self h k]

theorem forall_writeWithin_congr {cut' : List (List UInt8)}
    (h : ∀ k, writeWithin (k + 1) s cut = writeWithin k s' cut') :
    (∀ k, writeWithin k s cut = none) ↔ ∀ k, writeWithin k s' cut' = none := by
  refine ⟨fun hnone k => ?_, fun hnone k => ?_⟩
  · rw [← h, hnone]
  · rcases k with _ | k
    · rfl
    · rw [h, hnone]

/-- Turns that come to an end come to what the writes come to. -/
theorem run_forM_of_writeWithin {x : Except Cause Unit × Sink} :
    ∀ {k : ℕ} {s : Sink} {cut : List (List UInt8)}, writeWithin k s cut = some x →
      (forM cut write : Use Unit).run.run s = x
  | k + 1, s, [], hk => Option.some.inj hk
  | k + 1, s, bs :: cut, hk => by
    rw [List.forM_cons, run_bind, run_write, offerAll]
    rcases h : s.turn bs with ⟨⟨cause | _⟩ | rest, s'⟩
    · rw [writeWithin_of_error h] at hk
      exact Option.some.inj hk
    · rw [writeWithin_of_over h] at hk
      exact run_forM_of_writeWithin hk
    · have hne : (rest, s') ≠ (bs, s) := by
        intro heq
        cases heq
        cases (writeWithin_of_turn_eq_self h _).symm.trans hk
      rw [writeWithin_of_again h] at hk
      have hrest := run_forM_of_writeWithin hk
      rw [List.forM_cons, run_bind, run_write] at hrest
      simp only [if_neg hne]
      exact hrest

theorem Ends.of_append {ys : List UInt8} (h : s.Ends (xs ++ ys)) : s.Ends xs := by
  refine h.imp_left fun hfit => ?_
  by_contra hne
  have hlt := lt_of_le_of_ne (fitting_le s _) hne
  rw [fitting_append_of_lt hlt ys, List.length_append] at hfit
  omega

theorem Delivers.ends_append {ys : List UInt8} (h : Delivers s xs (.ok ()) s') :
    s.Ends (xs ++ ys) ↔ s'.Ends ys := by
  have hfit := h.fitting_eq
  obtain ⟨-, ps, is, rfl⟩ := h
  rw [hfit, List.take_length, Ends, Ends, List.length_append, fitting_add s ps is hfit]
  simp

/-- A piece is written first, and then the others. -/
theorem writeWithin_cons_eq_none_iff
    (hcut : ∀ s, (∀ k, writeWithin k s cut = none) ↔ ¬ s.Ends cut.flatten) (s : Sink)
    (bs : List UInt8) :
    (∀ k, writeWithin k s (bs :: cut) = none) ↔ ¬ s.Ends (bs ++ cut.flatten) := by
  fun_induction offerAll s bs with
  | case1 s bs result s' h =>
    obtain ⟨hd, hends⟩ := delivers_of_over h
    rcases result with cause | _
    · refine ⟨fun hnone => ?_, fun hnot => absurd (.inr ?_) hnot⟩
      · cases (writeWithin_of_error h 0).symm.trans (hnone 1)
      · exact hends.resolve_left hd.fitting_lt.ne
    · rw [hd.ends_append, ← hcut]
      exact forall_writeWithin_congr (writeWithin_of_over h)
  | case2 s bs rest s' h heq =>
    cases heq
    have hnot := (delivers_of_turn_eq_self h).2
    exact ⟨fun _ hends => hnot hends.of_append, fun _ => writeWithin_of_turn_eq_self h⟩
  | case3 s bs rest s' h hne ih =>
    obtain ⟨n, rfl, hfirst⟩ := exists_delivers_of_again h hne
    have happend : bs.take n ++ (bs.drop n ++ cut.flatten) = bs ++ cut.flatten := by
      rw [← List.append_assoc, List.take_append_drop]
    rw [← happend, hfirst.ends_append, ← ih]
    exact forall_writeWithin_congr (writeWithin_of_again h)

/-- Writing comes to an end exactly if all bytes fit or what does not fit is refused for good. -/
theorem writeWithin_eq_none_iff : ∀ (cut : List (List UInt8)) (s : Sink),
    (∀ k, writeWithin k s cut = none) ↔ ¬ s.Ends cut.flatten
  | [], s => by
    refine ⟨fun hnone => ?_, fun hnot => absurd (.inl ?_) hnot⟩
    · cases (hnone 1 : writeWithin 1 s [] = none)
    · exact Nat.le_zero.1 (fitting_le s 0)
  | bs :: cut, s => writeWithin_cons_eq_none_iff (writeWithin_eq_none_iff cut) s bs

end Endless

theorem run_flush (s : Sink) :
    flush.run.run s = (match s.flushFault with | none => .ok () | some cause => .error cause,
      { s with flushedAt := s.flushedAt ++ [s.taken.length] }) := by
  unfold flush
  rw [run_bind]
  show (do set { s with flushedAt := s.flushedAt ++ [s.taken.length] }; _ : Use Unit).run.run s = _
  rw [run_bind]
  rcases hf : s.flushFault with _ | cause <;> rfl

end Sink

namespace Output

theorem writeLines_eq_forM : ∀ ls : List String,
    writeLines ls = forM (ls.map fun l => Text.toBytes (l ++ "\n")) Sink.write
  | [] => rfl
  | l :: ls => by
    rw [writeLines, writeLines_eq_forM ls, List.map_cons, List.forM_cons]

theorem toBytes_ofLines : ∀ ls : List String,
    Text.toBytes (Text.ofLines ls) = (ls.map fun l => Text.toBytes (l ++ "\n")).flatten
  | [] => by simp [Text.ofLines, Text.toBytes]
  | l :: ls => by
    rw [Text.ofLines_cons, Text.toBytes_append, toBytes_ofLines ls, List.map_cons,
      List.flatten_cons]

/-- The whole output: the comment, and one line for each initializer, every line ended by a line
feed. -/
def fullText (comment : String) (r : Registry) : String :=
  comment ++ "\n" ++ String.join (r.initializerList.map fun i =>
    "static inline " ++ i.structName ++ " " ++ i.functionName ++ "(" ++ i.structName
      ++ " value = \x7b\x7d) \x7b value.sType = " ++ i.constant ++ "; return value; \x7d"
      ++ "\n")

theorem source_eq_fullText (comment : String) (r : Registry) :
    source comment r = fullText comment r := by
  unfold source sourceLines Text.ofLines fullText
  rw [List.map_cons, String.join_cons, List.map_map]
  rfl

/-- Writes a text in pieces, and flushes. -/
def writePieces (cut : List (List UInt8)) : Sink.Use Unit := do
  forM cut Sink.write
  Sink.flush

section Pieces

variable {cut : List (List UInt8)} {s : Sink}

theorem run_writePieces (cut : List (List UInt8)) (s : Sink) :
    (writePieces cut).run.run s = match (forM cut Sink.write : Sink.Use Unit).run.run s with
      | (.error cause, s') => (.error cause, s')
      | (.ok (), s') => (match s'.flushFault with | none => .ok () | some cause => .error cause,
          { s' with flushedAt := s'.flushedAt ++ [s'.taken.length] }) := by
  unfold writePieces
  rw [Sink.run_bind]
  rcases h : (forM cut Sink.write : Sink.Use Unit).run.run s with ⟨cause | _, s'⟩
  · rfl
  · simp only [Sink.run_flush]

/-- If all bytes fit, they are taken, and then the sink is flushed once. -/
theorem writePieces_of_fits (h : s.fitting cut.flatten.length = cut.flatten.length) :
    ∃ ps is, (writePieces cut).run.run s
      = (match s.flushFault with | none => .ok () | some cause => .error cause,
        { s with taken := s.taken ++ cut.flatten, portions := ps, interruptions := is,
                 flushedAt := s.flushedAt ++ [(s.taken ++ cut.flatten).length] }) := by
  obtain ⟨hr, ps, is, hs⟩ := Sink.run_forM_write cut s
  rw [if_pos h] at hr
  rw [h, List.take_length] at hs
  refine ⟨ps, is, ?_⟩
  rw [run_writePieces]
  rcases hw : (forM cut Sink.write : Sink.Use Unit).run.run s with ⟨cause | _, s'⟩ <;>
    rw [hw] at hr hs
  · cases hr
  · simp only [] at hs
    rw [hs]

/-- If a byte is left over, what fits was taken, and there is no flush. -/
theorem writePieces_of_not_fits (h : s.fitting cut.flatten.length ≠ cut.flatten.length) :
    ∃ ps is, (writePieces cut).run.run s = (.error s.refusal.told,
      { s with taken := s.taken ++ cut.flatten.take (s.fitting cut.flatten.length),
               portions := ps, interruptions := is }) := by
  obtain ⟨hr, ps, is, hs⟩ := Sink.run_forM_write cut s
  rw [if_neg h] at hr
  refine ⟨ps, is, ?_⟩
  rw [run_writePieces]
  rcases hw : (forM cut Sink.write : Sink.Use Unit).run.run s with ⟨cause | _, s'⟩ <;>
    rw [hw] at hr hs
  · cases hr
    simp only [] at hs
    rw [hs]
  · cases hr

end Pieces

theorem result_finish {ε : Type} (r : Registry) (written : Except ε Unit) :
    (finish r written).result = written := by
  rcases written with failure | _ <;> rfl

/-- The source is written in pieces, a line each. -/
theorem generate_eq_writePieces (comment : String) (r : Registry) (s : Sink) :
    ∃ cut, cut.flatten = Text.toBytes (fullText comment r)
      ∧ generate comment r s
        = (finish r ((writePieces cut).run.run s).1, ((writePieces cut).run.run s).2) := by
  refine ⟨(sourceLines comment r).map fun l => Text.toBytes (l ++ "\n"), ?_, ?_⟩
  · rw [← source_eq_fullText, source, toBytes_ofLines]
  · unfold generate writePieces
    rw [writeLines_eq_forM]
    rfl

theorem generate_of_fits {comment : String} {r : Registry} {s : Sink}
    (h : s.fitting (Text.toBytes (fullText comment r)).length
      = (Text.toBytes (fullText comment r)).length) :
    ∃ ps is, generate comment r s = (finish r (match s.flushFault with
        | none => .ok ()
        | some cause => .error cause),
      { s with taken := s.taken ++ Text.toBytes (fullText comment r), portions := ps,
               interruptions := is,
               flushedAt := s.flushedAt
                 ++ [(s.taken ++ Text.toBytes (fullText comment r)).length] }) := by
  obtain ⟨cut, hcut, hrun⟩ := generate_eq_writePieces comment r s
  rw [← hcut] at h ⊢
  obtain ⟨ps, is, hw⟩ := writePieces_of_fits h
  exact ⟨ps, is, by rw [hrun, hw]⟩

theorem taken_generate (comment : String) (r : Registry) :
    (generate comment r {}).2.taken = Text.toBytes (source comment r) := by
  obtain ⟨ps, is, h⟩ := generate_of_fits (Sink.fitting_of_limit_eq_none (s := {}) rfl _)
  rw [h, source_eq_fullText]
  rfl

theorem generate_of_not_fits {comment : String} {r : Registry} {s : Sink}
    (h : s.fitting (Text.toBytes (fullText comment r)).length
      ≠ (Text.toBytes (fullText comment r)).length) :
    ∃ ps is, generate comment r s = (finish r (.error s.refusal.told),
      { s with taken := s.taken ++ (Text.toBytes (fullText comment r)).take
                 (s.fitting (Text.toBytes (fullText comment r)).length),
               portions := ps, interruptions := is }) := by
  obtain ⟨cut, hcut, hrun⟩ := generate_eq_writePieces comment r s
  rw [← hcut] at h ⊢
  obtain ⟨ps, is, hw⟩ := writePieces_of_not_fits h
  exact ⟨ps, is, by rw [hrun, hw]⟩

theorem fitting_eq_length_iff {s : Sink} (hs : s.taken = []) (bs : List UInt8) :
    s.fitting bs.length = bs.length ↔ ∀ k, s.limit = some k → bs.length ≤ k := by
  unfold Sink.fitting
  rcases s.limit with _ | k <;> simp [hs]

/-- A sink that takes bytes until `limit` of them are in it, in any portions and with any
interruptions, ends with the longest beginning of the text that fits. If something is left over, the
run does not flush, and fails with what the sink told, or for ever tries again where told to; else
it flushes once, after all bytes, and ends as the flush does. Only a run that ends well tells that
it generated. All this does not depend on how the text is cut into writes. -/
theorem generate_into_sink (comment : String) (r : Registry) (limit : Option ℕ)
    (portions : List ℕ) (interruptions : List Bool) (refusal : Refusal)
    (flushFault : Option Cause) :
    let full := Text.toBytes (fullText comment r)
    let sink : Sink := { limit, portions, interruptions, refusal, flushFault }
    let run := generate comment r sink
    let fits := ∀ k, limit = some k → full.length ≤ k
    (∀ k, limit = some k → run.2.taken = full.take (min k full.length))
      ∧ (limit = none → run.2.taken = full)
      ∧ (¬ fits → run.2.flushes = 0 ∧ run.1.events = []
        ∧ (refusal = .takesNothing → run.1.result = .error .nothingTaken)
        ∧ ∀ cause, refusal = .fails cause →
          run.1.result = .error (if cause.retried then .endless else cause))
      ∧ (fits → run.2.flushedAt = [full.length]
        ∧ (flushFault = none → run.1.result = .ok ()
          ∧ run.1.events = [.generated r.initializers.size])
        ∧ ∀ cause, flushFault = some cause → run.1.result = .error cause ∧ run.1.events = [])
      ∧ ∀ cut : List (List UInt8), cut.flatten = full →
        let piecewise := (writePieces cut).run.run sink
        finish r piecewise.1 = run.1 ∧ piecewise.2.taken = run.2.taken
          ∧ piecewise.2.flushedAt = run.2.flushedAt
          ∧ ((∀ k, Sink.writeWithin k sink cut = none)
            ↔ ¬ fits ∧ ∃ cause, refusal = .fails cause ∧ cause.retried) := by
  intro full sink run fits
  have hfits : sink.fitting full.length = full.length ↔ fits := fitting_eq_length_iff rfl full
  have htake : ∀ k, limit = some k → sink.fitting full.length = min k full.length := by
    rintro k rfl
    simp [sink, Sink.fitting, Nat.min_comm]
  have hnone : limit = none → fits := by
    rintro rfl k hk
    cases hk
  have hretried : sink.refusal.retried = true
      ↔ ∃ cause, refusal = .fails cause ∧ cause.retried := by
    rcases refusal with cause | _ <;> simp [sink, Refusal.retried]
  have hendless : ∀ cut : List (List UInt8), cut.flatten = full →
      ((∀ k, Sink.writeWithin k sink cut = none)
        ↔ ¬ fits ∧ ∃ cause, refusal = .fails cause ∧ cause.retried) := by
    rintro cut hcut
    rw [Sink.writeWithin_eq_none_iff, hcut, Sink.Ends, hfits, not_or, Bool.not_eq_false, hretried]
  by_cases h : fits
  · obtain ⟨ps, is, hrun⟩ := generate_of_fits (hfits.2 h)
    rw [show run = _ from hrun]
    refine ⟨fun k hk => ?_, fun _ => rfl, fun hn => absurd h hn, fun _ => ⟨rfl, ?_, ?_⟩, ?_⟩
    · rw [← htake k hk, hfits.2 h, List.take_length]
      rfl
    · rintro rfl
      exact ⟨rfl, rfl⟩
    · rintro cause rfl
      exact ⟨rfl, rfl⟩
    · intro cut hcut
      have hcutFits : sink.fitting cut.flatten.length = cut.flatten.length := hcut ▸ hfits.2 h
      obtain ⟨ps', is', hw⟩ := writePieces_of_fits hcutFits
      rw [hw, hcut]
      exact ⟨rfl, rfl, rfl, hendless cut hcut⟩
  · obtain ⟨ps, is, hrun⟩ := generate_of_not_fits (hfits.not.2 h)
    rw [show run = _ from hrun]
    refine ⟨fun k hk => ?_, fun hl => absurd (hnone hl) h, fun _ => ⟨rfl, rfl, ?_, ?_⟩,
      fun hf => absurd hf h, ?_⟩
    · rw [← htake k hk]
      rfl
    · rintro rfl
      rfl
    · rintro cause rfl
      rfl
    · intro cut hcut
      have hcutFits : sink.fitting cut.flatten.length ≠ cut.flatten.length := hcut ▸ hfits.not.2 h
      obtain ⟨ps', is', hw⟩ := writePieces_of_not_fits hcutFits
      rw [hw, hcut]
      exact ⟨rfl, rfl, rfl, hendless cut hcut⟩

def oneStructHeader : List Line :=
  [⟨0, "typedef struct VkA"⟩, ⟨1, "VkStructureType s;"⟩, ⟨2, "typedef enum VkStructureType"⟩,
    ⟨3, "VK_STRUCTURE_TYPE_A = 0,"⟩, ⟨4, ";"⟩]

theorem exists_ofLines_oneStructHeader :
    ∃ r, (Registry.ofLines oneStructHeader).result = .ok r := by
  have hrun : (Registry.ofLines oneStructHeader).result.toOption.map (·.initializers.entries)
      = some [("vka", ⟨"VkA", "VK_STRUCTURE_TYPE_A", "vk_a"⟩)] := by
    decide +kernel
  obtain ⟨r, hr, -⟩ := Registry.exists_of_entries hrun
  exact ⟨r, hr⟩

/-- The limit is inside the first character, and interruptions come before and after it. -/
theorem generate_into_sink_interruptedWrites :
    ∃ r, (Registry.ofLines oneStructHeader).result = .ok r ∧
      let run := generate "é" r { limit := some 1, interruptions := [true, false, true],
                                  refusal := .fails (.other "closed") }
      run.2.taken = [0xC3] ∧ run.2.flushes = 0 ∧ run.1.result = .error (.other "closed") := by
  obtain ⟨r, hr⟩ := exists_ofLines_oneStructHeader
  have hfull : ∃ bs, Text.toBytes (fullText "é" r) = 0xC3 :: 0xA9 :: bs := by
    rw [fullText, String.append_assoc, Text.toBytes_append]
    exact ⟨_, rfl⟩
  obtain ⟨bs, hbs⟩ := hfull
  obtain ⟨htaken, -, hfails, -, -⟩ := generate_into_sink "é" r (some 1) [] [true, false, true]
    (.fails (.other "closed")) none
  rw [hbs] at htaken hfails
  obtain ⟨hflushes, -, -, herror⟩ := hfails (by simp)
  exact ⟨r, hr, by simpa using htaken 1 rfl, hflushes, herror _ rfl⟩

/-- A full sink that turns down every write as interrupted: the run does not end with that error,
for it does not end at all. -/
theorem generate_into_sink_endless :
    ∃ r, (Registry.ofLines oneStructHeader).result = .ok r ∧
      let full := Text.toBytes (fullText "" r)
      let sink : Sink := { limit := some 0, refusal := .fails (.interrupted "try again") }
      0 < full.length
        ∧ (generate "" r sink).1.result ≠ .error (.interrupted "try again")
        ∧ (generate "" r sink).1.result = .error .endless
        ∧ ∀ cut : List (List UInt8), cut.flatten = full →
          ∀ k, Sink.writeWithin k sink cut = none := by
  obtain ⟨r, hr⟩ := exists_ofLines_oneStructHeader
  refine ⟨r, hr, ?_⟩
  intro full sink
  have hpos : 0 < full.length := by
    have hfull : full = Text.toBytes ("" ++ "\n") ++ _ := Text.toBytes_append _ _
    rw [hfull, List.length_append]
    exact Nat.add_pos_left (by decide) _
  have hfitting : sink.fitting full.length ≠ full.length := by
    simp [sink, Sink.fitting, hpos.ne]
  obtain ⟨ps, is, hrun⟩ := generate_of_not_fits hfitting
  have hresult : (generate "" r sink).1.result = .error .endless := by
    rw [hrun]
    rfl
  refine ⟨hpos, ?_, hresult, fun cut hcut => ?_⟩
  · rw [hresult]
    simp
  · rw [Sink.writeWithin_eq_none_iff, hcut, Sink.Ends]
    simp [hfitting, sink, Refusal.retried, Cause.retried]

end Output

end VulkanPrefill
