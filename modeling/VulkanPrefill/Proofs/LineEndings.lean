import VulkanPrefill.Proofs.Dependence
import VulkanPrefill.Proofs.Occurrences

/-!
# Line endings make no difference

A text whose lines end in another way is cut into as many lines, and each of them is the old one up
to a carriage return at its end (`endedLines_reended`). A carriage return is white space and in none
of the markers, so the scan sees the same words and the same markers on every line, and the registry
that is built, or the fault, is the same (`ofLines_reended`).
-/

namespace VulkanPrefill

namespace Text

/-- The second text is the first with a carriage return put before some of its line feeds, and
perhaps with a line feed put behind its last character if that is none. -/
inductive Reended : List Char → List Char → Prop
  | nil : Reended [] []
  | char (c : Char) {cs ds : List Char} : Reended cs ds → Reended (c :: cs) (c :: ds)
  | returned {cs ds : List Char} : Reended cs ds → Reended ('\n' :: cs) ('\r' :: '\n' :: ds)
  | closed {c : Char} : c ≠ '\n' → Reended [c] [c, '\n']

theorem Reended.append {cs ds : List Char} (h : Reended cs ds) :
    ∀ xs : List Char, Reended (xs ++ cs) (xs ++ ds)
  | [] => h
  | x :: xs => .char x (h.append xs)

namespace EndedLine

/-- The second line is what becomes of the first when a carriage return is put before its line feed,
or a line feed behind it. -/
inductive Reended : EndedLine → EndedLine → Prop
  | same (l : EndedLine) : Reended l l
  | returned (x : List Char) : Reended ⟨x, .feed⟩ ⟨x, .returnFeed⟩
  | doubled (x : List Char) : Reended ⟨x, .returnFeed⟩ ⟨x ++ ['\r'], .returnFeed⟩
  | closed (x : List Char) : Reended ⟨x, .nothing⟩ ⟨x, .feed⟩
  | closedReturn (x : List Char) : Reended ⟨x ++ ['\r'], .nothing⟩ ⟨x, .returnFeed⟩

/-- The line with one more character in front, which is no line feed. -/
def grow (c : Char) (l : EndedLine) : EndedLine :=
  if c = '\r' ∧ l = ⟨[], .feed⟩ then ⟨[], .returnFeed⟩ else ⟨c :: l.text, l.ending⟩

theorem grow_of_ne_feed (c : Char) {x : List Char} {e : Ending} (he : e ≠ .feed) :
    grow c ⟨x, e⟩ = ⟨c :: x, e⟩ := by
  simp [grow, he]

theorem Reended.grow (c : Char) {l m : EndedLine} (h : Reended l m) :
    Reended (l.grow c) (m.grow c) := by
  -- Only a carriage return before a bare line feed is not added to the line's text.
  have hfeed : ∀ x : List Char,
      (c = '\r' ∧ x = [] ∧ EndedLine.grow c ⟨x, .feed⟩ = ⟨[], .returnFeed⟩)
        ∨ EndedLine.grow c ⟨x, .feed⟩ = ⟨c :: x, .feed⟩ := by
    intro x
    by_cases hc : c = '\r' ∧ x = []
    · exact .inl ⟨hc.1, hc.2, by simp [EndedLine.grow, hc]⟩
    · exact .inr (by simp [EndedLine.grow, hc])
  cases h with
  | same => exact .same _
  | returned x =>
    rw [grow_of_ne_feed c (x := x) (e := .returnFeed) (by simp)]
    rcases hfeed x with ⟨rfl, rfl, h⟩ | h <;> rw [h]
    · exact .doubled []
    · exact .returned (c :: x)
  | doubled x =>
    rw [grow_of_ne_feed c (by simp), grow_of_ne_feed c (by simp)]
    exact .doubled (c :: x)
  | closed x =>
    rw [grow_of_ne_feed c (x := x) (e := .nothing) (by simp)]
    rcases hfeed x with ⟨rfl, rfl, h⟩ | h <;> rw [h]
    · exact .closedReturn []
    · exact .closed (c :: x)
  | closedReturn x =>
    rw [grow_of_ne_feed c (by simp), grow_of_ne_feed c (by simp)]
    exact .closedReturn (c :: x)

end EndedLine

section Lines

theorem prependChar_feed (ls : List EndedLine) : prependChar '\n' ls = ⟨[], .feed⟩ :: ls :=
  if_pos rfl

theorem prependChar_cons {c : Char} (hc : c ≠ '\n') (l : EndedLine) (ls : List EndedLine) :
    prependChar c (l :: ls) = l.grow c :: ls := by
  simp only [prependChar, hc, if_false, EndedLine.grow]
  split_ifs <;> rfl

theorem forall₂_prependChar (c : Char) {ls ms : List EndedLine}
    (h : List.Forall₂ EndedLine.Reended ls ms) :
    List.Forall₂ EndedLine.Reended (prependChar c ls) (prependChar c ms) := by
  by_cases hc : c = '\n'
  · subst hc
    exact .cons (.same _) h
  · rcases h with _ | ⟨hlm, h⟩
    · exact List.forall₂_same.2 fun l _ => .same l
    · rw [prependChar_cons hc, prependChar_cons hc]
      exact .cons (hlm.grow c) h

/-- Line by line, a text whose lines end in another way is the old one. -/
theorem endedLines_reended {cs ds : List Char} (h : Reended cs ds) :
    List.Forall₂ EndedLine.Reended (endedLines cs) (endedLines ds) := by
  induction h with
  | nil => exact .nil
  | char c _ ih => exact forall₂_prependChar c ih
  | returned _ ih => exact .cons (.returned []) ih
  | @closed c hc =>
    have hopen : endedLines [c] = [EndedLine.grow c ⟨[], .nothing⟩] := by
      simp [endedLines, prependChar, hc, EndedLine.grow]
    have hclosed : endedLines [c, '\n'] = [EndedLine.grow c ⟨[], .feed⟩] :=
      prependChar_cons hc _ _
    rw [hopen, hclosed]
    exact .cons (.grow c (.closed [])) .nil

end Lines

section Returns

theorem words_concat_blank {c : Char} (hc : isBlank c = true) (cs : List Char) :
    words (cs ++ [c]) = words cs := by
  rw [words_append_blank hc]
  exact List.append_nil _

theorem occursIn_concat {p : List Char} {c : Char} (hc : c ∉ p) (cs : List Char) :
    occursIn p (cs ++ [c]) = occursIn p cs := by
  rw [Bool.eq_iff_iff, occursIn_iff, occursIn_iff, List.infix_concat_iff, List.suffix_concat_iff]
  refine ⟨?_, .inr⟩
  rintro ((rfl | ⟨q, rfl, -⟩) | h)
  · exact List.nil_infix
  · simp at hc
  · exact h

variable {l m : EndedLine}

theorem EndedLine.Reended.words_eq (h : l.Reended m) : words l.text = words m.text := by
  have hreturn : isBlank '\r' = true := by decide
  cases h <;> simp only [words_concat_blank hreturn]

theorem EndedLine.Reended.occursIn_eq (h : l.Reended m) {p : List Char} (hp : '\r' ∉ p) :
    occursIn p l.text = occursIn p m.text := by
  cases h <;> simp only [occursIn_concat hp]

end Returns

end Text

namespace Line

/-- Nothing that the scan looks for tells `l` and `m` apart. -/
structure SameWords (l m : Line) : Prop where
  index : l.index = m.index
  words : l.words = m.words
  contains : ∀ pattern : String, '\r' ∉ pattern.toList → l.contains pattern = m.contains pattern

variable {l m : Line}

theorem SameWords.word?_eq (h : l.SameWords m) (n : ℕ) : l.word? n = m.word? n :=
  congrArg (·[n]?) h.words

theorem SameWords.alike (h : l.SameWords m) : l.Alike m where
  index := h.index
  declaresStruct := h.contains _ (by decide)
  namesStructureType := h.contains _ (by decide)
  declaresEnum := h.contains _ (by decide)
  endsEnum := h.contains _ (by decide)
  structName _ := h.word?_eq 2

theorem getElem_ofText {t : String} {i : ℕ} (hi : i < (ofText t).length)
    (hi' : i < (Text.endedLines t.toList).length) :
    (ofText t)[i] = ⟨i, .ofList (Text.endedLines t.toList)[i].text⟩ := by
  simp [ofText, Text.lines]

theorem forall₂_ofText {t t' : String} (h : Text.Reended t.toList t'.toList) :
    List.Forall₂ SameWords (ofText t) (ofText t') := by
  have hlength : ∀ t : String, (ofText t).length = (Text.endedLines t.toList).length := fun t => by
    simp [ofText, Text.lines]
  have hended := Text.endedLines_reended h
  refine List.forall₂_iff_get.2 ⟨?_, fun i hi hi' => ?_⟩
  · rw [hlength, hlength, hended.length_eq]
  have hlm := hended.get ((hlength t).symm ▸ hi) ((hlength t').symm ▸ hi')
  rw [List.get_eq_getElem, List.get_eq_getElem, getElem_ofText hi (hlength t ▸ hi),
    getElem_ofText hi' (hlength t' ▸ hi')]
  refine ⟨rfl, ?_, fun pattern hpattern => ?_⟩
  · simp only [Line.words, String.toList_ofList]
    exact congrArg _ hlm.words_eq
  · simp only [Line.contains, String.toList_ofList]
    exact hlm.occursIn_eq hpattern

end Line

open Scan

/-- How the lines of a text end makes no difference to what is told, to the tables or the fault, and
so to the generated source. -/
theorem ofLines_reended {t t' : String} (h : Text.Reended t.toList t'.toList) :
    Registry.ofLines (Line.ofText t) = Registry.ofLines (Line.ofText t')
      ∧ ∀ comment : String, Output.bytesOf comment (Line.ofText t)
        = Output.bytesOf comment (Line.ofText t') := by
  have hlines := Line.forall₂_ofText h
  have heq : Registry.ofLines (Line.ofText t) = Registry.ofLines (Line.ofText t') := by
    refine Registry.ofLines_congr (hlines.imp fun _ _ hlm => hlm.alike) fun p q hbefore hblock => ?_
    have hsame := EnumParts.forall₂_block_of_forall₂ hlines p q hbefore hblock
    exact hsame.imp fun _ _ hlm => ⟨hlm.index, hlm.word?_eq 0⟩
  exact ⟨heq, fun comment => by rw [Output.bytesOf, Output.bytesOf, heq]⟩

/-- Lines that end in three ways, the last of them in nothing and behind a carriage return. -/
def mixedEndings : String :=
  "typedef struct Vk\nVkStructureType\r\ntypedef enum VkStructureType\nA\n;\r"

/-- The same with a carriage return before two line feeds, and with a line feed at the end. -/
def mixedEndingsChanged : String :=
  "typedef struct Vk\r\nVkStructureType\r\r\ntypedef enum VkStructureType\nA\n;\r\n"

theorem ofLines_reended_mixedEndings :
    Text.Reended mixedEndings.toList mixedEndingsChanged.toList
      ∧ Line.ofText mixedEndings ≠ Line.ofText mixedEndingsChanged
      ∧ (∃ r, (Registry.ofLines (Line.ofText mixedEndings)).result = .ok r
        ∧ r.initializers.entries = [("vk", ⟨"Vk", "A", "a"⟩)])
      ∧ Registry.ofLines (Line.ofText mixedEndings)
        = Registry.ofLines (Line.ofText mixedEndingsChanged)
      ∧ ∀ comment : String, Output.bytesOf comment (Line.ofText mixedEndings)
        = Output.bytesOf comment (Line.ofText mixedEndingsChanged) := by
  have hreended : Text.Reended mixedEndings.toList mixedEndingsChanged.toList := by
    have htext : mixedEndings.toList = "typedef struct Vk".toList ++ '\n' ::
        ("VkStructureType\r".toList ++ '\n' ::
          ("typedef enum VkStructureType\nA\n;".toList ++ ['\r'])) := by
      decide +kernel
    have hchanged : mixedEndingsChanged.toList = "typedef struct Vk".toList ++ '\r' :: '\n' ::
        ("VkStructureType\r".toList ++ '\r' :: '\n' ::
          ("typedef enum VkStructureType\nA\n;".toList ++ ['\r', '\n'])) := by
      decide +kernel
    rw [htext, hchanged]
    have hend : Text.Reended ['\r'] ['\r', '\n'] := .closed (by decide)
    exact (Text.Reended.returned ((Text.Reended.returned (hend.append _)).append _)).append _
  have hrun : (Registry.ofLines (Line.ofText mixedEndings)).result.toOption.map
      (·.initializers.entries) = some [("vk", ⟨"Vk", "A", "a"⟩)] := by
    decide +kernel
  exact ⟨hreended, by decide +kernel, Registry.exists_of_entries hrun, ofLines_reended hreended⟩

end VulkanPrefill
