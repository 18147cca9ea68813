import VulkanPrefill.Constant
import VulkanPrefill.Proofs.AsciiText
import VulkanPrefill.Proofs.Occurrences

/-!
# Names made of words

A struct and its constant are named after the same words: the struct runs them together, the
constant writes them in capitals with underscores between them. The constant leads back to the
struct (`structKey_constant`) and its function's name is the words in lower case
(`functionName_constant`).
-/

namespace VulkanPrefill

/-- The words of a name. No word `STRUCTURE` has a word that starts with `TYPE` after it, in any
case. -/
structure Entry where
  words : List (List Char)
  words_ne_nil : words ≠ []
  word_ne_nil : ∀ w ∈ words, w ≠ []
  alphanum : ∀ w ∈ words, ∀ c ∈ w, c.isAlphanum = true
  chain : words.IsChain fun v w =>
    ¬ (v.map Char.toUpper = "STRUCTURE".toList ∧ "TYPE".toList <+: w.map Char.toUpper)

namespace Entry

/-- The words in lower case, run together. -/
def folded (e : Entry) : List Char :=
  e.words.flatten.map Char.toLower

def name (e : Entry) : String :=
  "Vk" ++ .ofList e.words.flatten

def constant (e : Entry) : String :=
  "VK_STRUCTURE_TYPE_" ++ .ofList (['_'].intercalate (e.words.map (·.map Char.toUpper)))

/-- `vk` and the words in lower case with underscores between, with a trailing `khr` in capitals. -/
def functionName (e : Entry) : String :=
  let lowered := "vk_".toList ++ ['_'].intercalate (e.words.map (·.map Char.toLower))
  .ofList (if "khr".toList <:+ lowered then
    lowered.take (lowered.length - 3) ++ "KHR".toList
  else
    lowered)

/-- The key that the struct and its constant share. -/
def key (e : Entry) : String :=
  .ofList ("vk".toList ++ e.folded)

theorem folded_eq_of_key_eq {e e' : Entry} (h : e.key = e'.key) : e.folded = e'.folded := by
  have h := congrArg String.toList h
  simpa [key] using h

section Joined

theorem intercalate_eq {s : Char} : ∀ (w : List Char) (ws : List (List Char)),
    [s].intercalate (w :: ws) = w ++ ws.flatMap (s :: ·)
  | w, [] => by simp
  | w, w' :: ws => by
    rw [List.intercalate_cons_cons, intercalate_eq w' ws]
    simp

/-- The words with a separator before each. -/
theorem cons_intercalate {s : Char} {ws : List (List Char)} (h : ws ≠ []) :
    s :: [s].intercalate ws = ws.flatMap (s :: ·) := by
  obtain ⟨w, ws, rfl⟩ := List.exists_cons_of_ne_nil h
  rw [intercalate_eq]
  rfl

theorem map_toLower_flatMap_toUpper : ∀ {ws : List (List Char)},
    (∀ w ∈ ws, ∀ c ∈ w, c.isAlphanum = true) →
    ((ws.map (·.map Char.toUpper)).flatMap ('_' :: ·)).map Char.toLower
      = (ws.map (·.map Char.toLower)).flatMap ('_' :: ·)
  | [], _ => rfl
  | w :: ws, h => by
    obtain ⟨hw, hws⟩ := List.forall_mem_cons.1 h
    have hchar : ∀ c ∈ w, c.toUpper.toLower = c.toLower := fun c hc =>
      Text.alphanum_forall (P := fun c => c.toUpper.toLower = c.toLower) (by decide) (hw c hc)
    have hword : (w.map Char.toUpper).map Char.toLower = w.map Char.toLower := by
      rw [List.map_map]
      exact List.map_congr_left hchar
    simp only [List.map_cons, List.flatMap_cons, List.map_append, hword,
      map_toLower_flatMap_toUpper hws]
    rfl

end Joined

variable (e : Entry)

theorem toList_constant : e.constant.toList
    = "VK".toList ++ ("_STRUCTURE_TYPE".toList
      ++ (e.words.map (·.map Char.toUpper)).flatMap ('_' :: ·)) := by
  have hne : e.words.map (·.map Char.toUpper) ≠ [] := by simpa using e.words_ne_nil
  rw [← cons_intercalate hne]
  unfold constant
  simp only [String.toList_append, String.toList_ofList]
  rfl

theorem toList_name : e.name.toList = "Vk".toList ++ e.words.flatten := by
  simp [name]

/-- What holds of all letters and digits holds in every word. -/
theorem forall_mem_words {f : Char → Char} {P : Char → Prop}
    (h : ∀ n < 128, (Char.ofNat n).isAlphanum = true → P (f (.ofNat n))) :
    ∀ w ∈ e.words.map (·.map f), ∀ c ∈ w, P c := by
  intro w hw c hc
  obtain ⟨v, hv, rfl⟩ := List.mem_map.1 hw
  obtain ⟨a, ha, rfl⟩ := List.mem_map.1 hc
  exact Text.alphanum_forall (P := fun c => P (f c)) h (e.alphanum v hv a ha)

theorem forall_mem_name {P : Char → Prop}
    (h : ∀ n < 128, (Char.ofNat n).isAlphanum = true → P (.ofNat n)) :
    ∀ c ∈ e.name.toList, P c := by
  intro c hc
  rw [toList_name, List.mem_append] at hc
  rcases hc with hc | hc
  · have hstart : "Vk".toList.all Char.isAlphanum = true := by decide
    exact Text.alphanum_forall h (List.all_eq_true.1 hstart c hc)
  · obtain ⟨w, hw, hc⟩ := List.mem_flatten.1 hc
    exact Text.alphanum_forall h (e.alphanum w hw c hc)

/-- What holds of the underscore and of all capitals and digits holds along a constant. -/
theorem forall_mem_constant {P : Char → Prop} (hu : P '_')
    (h : ∀ n < 128, (Char.ofNat n).isAlphanum = true → P (Char.ofNat n).toUpper) :
    ∀ c ∈ e.constant.toList, P c := by
  intro c hc
  rw [toList_constant, ← List.append_assoc, List.mem_append] at hc
  rcases hc with hc | hc
  · have hstart : ("VK".toList ++ "_STRUCTURE_TYPE".toList).all
        (fun c => c == '_' || c.isAlphanum && c.toUpper == c) = true := by decide
    have hc := List.all_eq_true.1 hstart c hc
    rw [Bool.or_eq_true, Bool.and_eq_true, beq_iff_eq, beq_iff_eq] at hc
    rcases hc with rfl | ⟨hc, hup⟩
    · exact hu
    · exact hup ▸ Text.alphanum_forall (P := fun c => P c.toUpper) h hc
  · obtain ⟨w, hw, hc⟩ := List.mem_flatMap.1 hc
    rcases List.mem_cons.1 hc with rfl | hc
    · exact hu
    · exact e.forall_mem_words h w hw c hc

theorem lower_name : Text.lower e.name = e.key := by
  have hascii := e.forall_mem_name (P := fun c => c.toNat < 128) (by decide)
  rw [Text.lower, Text.lowerAfter_of_ascii hascii, toList_name, List.map_append]
  rfl

theorem lowerAfter_constant : Text.lowerAfter [] e.constant.toList
    = ['_'].intercalate ("vk".toList :: "structure".toList :: "type".toList
      :: e.words.map (·.map Char.toLower)) := by
  have hascii := e.forall_mem_constant (P := fun c => c.toNat < 128) (by decide) (by decide)
  rw [Text.lowerAfter_of_ascii hascii, toList_constant, List.map_append, List.map_append,
    map_toLower_flatMap_toUpper e.alphanum, intercalate_eq]
  rfl

/-- The constant leads to the struct. -/
theorem structKey_constant : Constant.structKey e.constant = e.key := by
  have hsplit : (Text.lower e.constant).toList.splitOn '_' = "vk".toList :: "structure".toList
      :: "type".toList :: e.words.map (·.map Char.toLower) := by
    rw [Text.toList_lower, lowerAfter_constant, List.splitOn_intercalate _ ?_ (by simp)]
    simp only [List.forall_mem_cons]
    refine ⟨by decide, by decide, by decide, fun w hw hu => ?_⟩
    exact e.forall_mem_words (P := (· ≠ '_')) (by decide) w hw '_' hu rfl
  rw [Constant.structKey, hsplit, key, folded, List.map_flatten]
  rfl

/-- The infix stands in the constant's start only. -/
theorem without_constant : Text.without Constant.infixText.toList e.constant.toList
    = "VK".toList ++ (e.words.map (·.map Char.toUpper)).flatMap ('_' :: ·) := by
  have htext : Constant.infixText.toList = '_' :: ("STRUCTURE".toList ++ '_' :: "TYPE".toList) := by
    decide
  have hunderscore : ∀ w ∈ e.words.map (·.map Char.toUpper), '_' ∉ w := fun w hw hu =>
    e.forall_mem_words (P := (· ≠ '_')) (by decide) w hw '_' hu rfl
  have hchain : (e.words.map (·.map Char.toUpper)).IsChain fun v w =>
      ¬ (v = "STRUCTURE".toList ∧ "TYPE".toList <+: w) :=
    (List.isChain_map _).2 e.chain
  -- A second infix would take a word `STRUCTURE` and the start of the next one.
  rw [htext, toList_constant]
  exact Text.without_append (by decide)
    (Text.not_infix_flatMap_cons (by decide) (by decide) hunderscore hchain)

theorem functionName_constant : Constant.functionName e.constant = e.functionName := by
  have hascii : ∀ c ∈ "VK".toList ++ (e.words.map (·.map Char.toUpper)).flatMap ('_' :: ·),
      c.toNat < 128 := by
    intro c hc
    refine e.forall_mem_constant (P := fun c => c.toNat < 128) (by decide) (by decide) c ?_
    rw [toList_constant]
    simp only [List.mem_append] at hc ⊢
    exact hc.imp_right .inr
  have hlower : Text.lowerAfter [] (Text.without Constant.infixText.toList e.constant.toList)
      = "vk_".toList ++ ['_'].intercalate (e.words.map (·.map Char.toLower)) := by
    rw [without_constant, Text.lowerAfter_of_ascii hascii, List.map_append,
      map_toLower_flatMap_toUpper e.alphanum, ← cons_intercalate (by simpa using e.words_ne_nil)]
    rfl
  simp only [Constant.functionName, hlower, Constant.capitalizeKhr, List.isSuffixOf_iff_suffix]
  rfl

end Entry

end VulkanPrefill
