import VulkanPrefill.Proofs.AsciiText
import VulkanPrefill.Proofs.LineEndings

/-!
# A text and its lines

A list of lines is well ended if only its last line may end with nothing, no line feed stands inside
a line, and no carriage return at the end of one is taken for its own. The lines of a text are well
ended (`wellEnded_endedLines`), and no other well ended lines make up the text
(`WellEnded.endedLines_eq`). So cutting a text loses nothing, and lines come back from what is
written of them, but for a carriage return that stands before a line feed (`ofText_lines`).
-/

namespace VulkanPrefill

namespace Text

/-- A line whose end can be told. -/
structure EndedLine.Sound (l : EndedLine) : Prop where
  unfed : '\n' ∉ l.text
  bare : l.ending = .feed → l.text.getLast? ≠ some '\r'
  filled : l.ending = .nothing → l.text ≠ []

/-- Lines as they follow each other in a text: only the last one may end with nothing. -/
structure WellEnded (ls : List EndedLine) : Prop where
  sound : ∀ l ∈ ls, l.Sound
  ended : ∀ l ∈ ls.dropLast, l.ending ≠ .nothing

variable {l : EndedLine} {ls : List EndedLine} {c : Char} {x : List Char}

section Cutting

theorem wellEnded_nil : WellEnded [] := ⟨by simp, by simp⟩

theorem wellEnded_cons_iff :
    WellEnded (l :: ls) ↔ l.Sound ∧ (l.ending = .nothing → ls = []) ∧ WellEnded ls := by
  rcases ls with _ | ⟨l', ls⟩
  · refine ⟨fun h => ⟨h.sound l List.mem_cons_self, fun _ => rfl, wellEnded_nil⟩, fun h => ?_⟩
    exact ⟨by simpa using h.1, by simp⟩
  constructor
  · intro h
    obtain ⟨hl, hls⟩ := List.forall_mem_cons.1 h.sound
    obtain ⟨hended, hrest⟩ := List.forall_mem_cons.1 h.ended
    exact ⟨hl, fun hnothing => absurd hnothing hended, hls, hrest⟩
  · rintro ⟨hl, hended, hls⟩
    refine ⟨List.forall_mem_cons.2 ⟨hl, hls.sound⟩, ?_⟩
    exact List.forall_mem_cons.2 ⟨fun hnothing => List.cons_ne_nil _ _ (hended hnothing), hls.ended⟩

theorem EndedLine.Sound.grow (hl : l.Sound) (hc : c ≠ '\n') : (l.grow c).Sound := by
  have hunfed : '\n' ∉ c :: l.text := fun h => (List.mem_cons.1 h).elim hc.symm hl.unfed
  by_cases hend : c = '\r' ∧ l = ⟨[], .feed⟩
  · rw [EndedLine.grow, if_pos hend]
    exact ⟨by simp, by simp, by simp⟩
  · rw [EndedLine.grow, if_neg hend]
    refine ⟨hunfed, fun hbare => ?_, fun _ => List.cons_ne_nil _ _⟩
    obtain ⟨x, e⟩ := l
    obtain rfl : e = .feed := hbare
    rcases x with _ | ⟨d, x⟩
    · simpa using hend
    · exact hl.bare rfl

theorem EndedLine.grow_ending_nothing (h : (l.grow c).ending = .nothing) : l.ending = .nothing := by
  unfold EndedLine.grow at h
  split_ifs at h
  exact h

theorem WellEnded.prependChar (c : Char) (h : WellEnded ls) : WellEnded (prependChar c ls) := by
  by_cases hc : c = '\n'
  · subst hc
    rw [prependChar_feed, wellEnded_cons_iff]
    exact ⟨⟨by simp, by simp, by simp⟩, by simp, h⟩
  rcases ls with _ | ⟨l, ls⟩
  · have hopen : Text.prependChar c [] = [⟨[c], .nothing⟩] := if_neg hc
    rw [hopen, wellEnded_cons_iff]
    exact ⟨⟨by simpa using Ne.symm hc, by simp, by simp⟩, fun _ => rfl, wellEnded_nil⟩
  · obtain ⟨hl, hended, hls⟩ := wellEnded_cons_iff.1 h
    rw [prependChar_cons hc, wellEnded_cons_iff]
    exact ⟨hl.grow hc, fun hnothing => hended (EndedLine.grow_ending_nothing hnothing), hls⟩

theorem wellEnded_endedLines : ∀ cs : List Char, WellEnded (endedLines cs)
  | [] => wellEnded_nil
  | c :: cs => (wellEnded_endedLines cs).prependChar c

end Cutting

section Joining

/-- What stands in front of a line's end, and is no carriage return of that end, is the line. -/
theorem endedLines_append_of_notMem {y cs : List Char} {e : Ending} (he : e ≠ .feed)
    (h : endedLines cs = ⟨y, e⟩ :: ls) : ∀ {x : List Char}, '\n' ∉ x →
      endedLines (x ++ cs) = ⟨x ++ y, e⟩ :: ls
  | [], _ => h
  | c :: x, hx => by
    obtain ⟨hc, hx⟩ := List.ne_and_not_mem_of_not_mem_cons hx
    show prependChar c (endedLines (x ++ cs)) = _
    rw [endedLines_append_of_notMem he h hx, prependChar_cons hc.symm,
      EndedLine.grow_of_ne_feed c he]
    rfl

/-- A sound line is cut off as it is, with its end. -/
theorem EndedLine.Sound.endedLines_append (hl : l.Sound) {cs : List Char}
    (hcs : l.ending = .nothing → cs = []) :
    endedLines (l.text ++ l.ending.chars ++ cs) = l :: endedLines cs := by
  obtain ⟨x, e⟩ := l
  rcases e with _ | _ | _
  case nothing =>
    obtain rfl := hcs rfl
    obtain ⟨x, c, rfl⟩ := (List.eq_nil_or_concat' x).resolve_left (hl.filled rfl)
    have hlast : c ≠ '\n' := fun h => hl.unfed (by simp [h])
    have hopen : endedLines [c] = [⟨[c], .nothing⟩] := if_neg hlast
    have hx : '\n' ∉ x := fun h => hl.unfed (List.mem_append_left _ h)
    have hnil : endedLines [] = [] := rfl
    simpa [Ending.chars, hnil] using endedLines_append_of_notMem (by simp) hopen hx
  case feed =>
    have hline : endedLines (x ++ ['\n']) = [⟨x, .feed⟩] :=
      endedLines_unbroken ⟨hl.unfed, hl.bare rfl⟩
    have hcut := endedLines_append_feed cs x
    rw [hline] at hcut
    simpa [Ending.chars] using hcut
  case returnFeed =>
    have hend : endedLines ('\r' :: '\n' :: cs) = ⟨[], .returnFeed⟩ :: endedLines cs := rfl
    simpa [Ending.chars] using endedLines_append_of_notMem (by simp) hend hl.unfed

theorem WellEnded.endedLines_eq : ∀ {ls : List EndedLine}, WellEnded ls →
    endedLines (joinEnded ls) = ls
  | [], _ => rfl
  | l :: ls, h => by
    obtain ⟨hl, hended, hls⟩ := wellEnded_cons_iff.1 h
    have hcs : l.ending = .nothing → joinEnded ls = [] := fun hnothing => by
      rw [hended hnothing]
      rfl
    rw [joinEnded, List.flatMap_cons, ← joinEnded, hl.endedLines_append hcs, hls.endedLines_eq]

end Joining

section Writing

/-- Lines all of which end in one way. -/
def endedAlike (e : Ending) (ls : List String) : List EndedLine :=
  ls.map fun l => ⟨l.toList, e⟩

theorem joinEnded_endedAlike {e : Ending} {s : String} (hs : s.toList = e.chars)
    (ls : List String) : joinEnded (endedAlike e ls) = (String.join (ls.map (· ++ s))).toList := by
  rw [joinEnded, endedAlike, List.flatMap_map, String.toList_join, List.flatMap_map]
  simp only [String.toList_append, hs]

/-- Lines come back from a text if their ends in it can be told. -/
theorem lines_join {e : Ending} {s : String} (hs : s.toList = e.chars) {ls : List String}
    (h : WellEnded (endedAlike e ls)) : lines (String.join (ls.map (· ++ s))) = ls := by
  rw [lines, ← joinEnded_endedAlike hs, h.endedLines_eq, endedAlike, List.map_map]
  exact List.map_id'' (fun l => String.ofList_toList) ls

theorem wellEnded_endedAlike_returnFeed {ls : List String} (h : ∀ l ∈ ls, '\n' ∉ l.toList) :
    WellEnded (endedAlike .returnFeed ls) := by
  refine ⟨fun l hl => ?_, fun l hl => ?_⟩
  · obtain ⟨s, hs, rfl⟩ := List.mem_map.1 hl
    exact ⟨h s hs, by simp, by simp⟩
  · obtain ⟨s, -, rfl⟩ := List.mem_map.1 (List.mem_of_mem_dropLast hl)
    simp

/-- A carriage return at the end of a line is lost before a line feed. -/
theorem lines_append_feed {s : String} {x : List Char} (hs : s.toList = x ++ ['\r'])
    (hfeed : '\n' ∉ x) : lines (s ++ "\n") = [.ofList x] := by
  have hsound : (⟨x, .returnFeed⟩ : EndedLine).Sound := ⟨hfeed, by simp, by simp⟩
  have hcut : endedLines (x ++ ['\r', '\n'] ++ []) = [⟨x, .returnFeed⟩] :=
    hsound.endedLines_append (by simp)
  have hchars : (s ++ "\n").toList = x ++ ['\r', '\n'] ++ [] := by
    simp [hs]
  rw [lines, hchars, hcut]
  rfl

theorem lines_ofLines_eq_iff : ∀ {ls : List String}, (∀ l ∈ ls, '\n' ∉ l.toList) →
    (lines (ofLines ls) = ls ↔ ∀ l ∈ ls, l.toList.getLast? ≠ some '\r')
  | [], _ => by simp [lines, ofLines, endedLines]
  | l :: ls, h => by
    obtain ⟨hl, hls⟩ := List.forall_mem_cons.1 h
    rw [lines_ofLines_cons, List.forall_mem_cons, ← lines_ofLines_eq_iff hls]
    by_cases hreturn : l.toList.getLast? = some '\r'
    · obtain ⟨x, hx⟩ := List.getLast?_eq_some_iff.1 hreturn
      have hfeed : '\n' ∉ x := fun hmem => hl (by simp [hx, hmem])
      rw [lines_append_feed hx hfeed]
      refine iff_of_false (fun heq => ?_) fun hnot => hnot.1 hreturn
      obtain ⟨rfl, -⟩ := List.cons_eq_cons.1 heq
      simp at hx
    · have hline : lines (l ++ "\n") = [l] := by
        simp [lines, endedLines_unbroken ⟨hl, hreturn⟩]
      rw [hline, List.singleton_append, List.cons_eq_cons]
      exact and_congr_left fun _ => ⟨fun _ => hreturn, fun _ => rfl⟩

end Writing

end Text

/-- The lines of a text are numbered from zero and hold no line feed. With its own end behind each,
of which only the last may be nothing, they make up the text, and no other such lines do. Lines
without line feeds come back if they are written with a carriage return and a line feed behind each,
and with a line feed alone exactly if none of them ends in a carriage return. -/
theorem ofText_lines :
    (∀ t : String, (∀ (i : ℕ) (l : Line), (Line.ofText t)[i]? = some l → l.index = i)
      ∧ (∀ l ∈ Line.ofText t, '\n' ∉ l.text.toList)
      ∧ ∃ ls, (Line.ofText t).map Line.text = ls.map (fun l => String.ofList l.text)
        ∧ Text.WellEnded ls ∧ Text.joinEnded ls = t.toList
        ∧ ∀ ls', Text.WellEnded ls' → Text.joinEnded ls' = t.toList → ls' = ls)
    ∧ ∀ ls : List String, (∀ l ∈ ls, '\n' ∉ l.toList) →
      (Line.ofText (String.join (ls.map (· ++ "\r\n")))).map Line.text = ls
      ∧ ((Line.ofText (String.join (ls.map (· ++ "\n")))).map Line.text = ls
        ↔ ∀ l ∈ ls, l.toList.getLast? ≠ some '\r') := by
  refine ⟨fun t => ?_, fun ls h => ?_⟩
  · have hended := Text.wellEnded_endedLines t.toList
    refine ⟨fun i l => getElem?_ofText, fun l hl => ?_, Text.endedLines t.toList,
      Line.map_text_ofText t, hended, Text.joinEnded_endedLines t.toList, fun ls' h' hjoin => ?_⟩
    · have hmem : l.text ∈ Text.lines t := Line.map_text_ofText t ▸ List.mem_map_of_mem hl
      obtain ⟨m, hm, hlm⟩ := List.mem_map.1 hmem
      rw [← hlm, String.toList_ofList]
      exact (hended.sound m hm).unfed
    · rw [← hjoin, h'.endedLines_eq]
  · rw [Line.map_text_ofText, Line.map_text_ofText]
    exact ⟨Text.lines_join (e := .returnFeed) rfl (Text.wellEnded_endedAlike_returnFeed h),
      Text.lines_ofLines_eq_iff h⟩

/-- Carriage returns where no line ends. -/
def strayReturns : String := "a\r\r\n\n\rb\r"

theorem ofText_lines_strayReturns :
    let cut : List Text.EndedLine :=
      [⟨['a', '\r'], .returnFeed⟩, ⟨[], .feed⟩, ⟨['\r', 'b', '\r'], .nothing⟩]
    Text.WellEnded cut ∧ Text.joinEnded cut = strayReturns.toList
      ∧ (∀ ls, Text.WellEnded ls → Text.joinEnded ls = strayReturns.toList → ls = cut)
      ∧ (Line.ofText strayReturns).map Line.text = ["a\r", "", "\rb\r"]
      ∧ (Line.ofText (String.join (["a\r", "b"].map (· ++ "\r\n")))).map Line.text = ["a\r", "b"]
      ∧ (Line.ofText (String.join (["a\r", "b"].map (· ++ "\n")))).map Line.text
        ≠ ["a\r", "b"] := by
  intro cut
  obtain ⟨hcut, hwritten⟩ := ofText_lines
  have hlines : Text.endedLines strayReturns.toList = cut := by decide +kernel
  have hended : Text.WellEnded cut := hlines ▸ Text.wellEnded_endedLines _
  have hjoin : Text.joinEnded cut = strayReturns.toList := by decide +kernel
  obtain ⟨-, -, ls, htexts, -, -, hunique⟩ := hcut strayReturns
  obtain rfl : cut = ls := hunique cut hended hjoin
  obtain ⟨hreturned, hfed⟩ := hwritten ["a\r", "b"] (by decide +kernel)
  exact ⟨hended, hjoin, hunique, htexts, hreturned, hfed.not.2 (by decide +kernel)⟩

end VulkanPrefill
