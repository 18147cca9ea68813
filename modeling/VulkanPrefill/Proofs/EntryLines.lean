import VulkanPrefill.Proofs.EntryNames
import VulkanPrefill.Scan.Marker
import VulkanPrefill.Initializer

/-!
# Lines of a core header

A core header declares a struct for each entry, and then the enum with a constant for each of them,
in an order of its own. No marker shows up in a line by accident: a name holds no blank, a constant
no small letter.
-/

namespace VulkanPrefill

/-- A constant of the enum: an entry's, with a decimal number. -/
structure Numbered where
  entry : Entry
  number : List Char
  number_ne_nil : number ≠ []
  digits : ∀ c ∈ number, c.isDigit = true

namespace Entry

variable (e : Entry)

def declaration : String :=
  "typedef struct " ++ e.name ++ " \x7b"

def closing : String :=
  "\x7d " ++ e.name ++ ";"

def structLines : List String :=
  [e.declaration, "    VkStructureType sType;", e.closing]

/-- The function that the generated source should hold for the entry. -/
def definition : String :=
  "static inline " ++ e.name ++ " " ++ e.functionName ++ "(" ++ e.name
    ++ " value = \x7b\x7d) \x7b value.sType = " ++ e.constant ++ "; return value; \x7d"

def initializer : Initializer :=
  ⟨e.name, e.constant, e.functionName⟩

end Entry

def Numbered.line (c : Numbered) : String :=
  "    " ++ c.entry.constant ++ " = " ++ .ofList c.number ++ ","

def enumLines (constants : List Numbered) : List String :=
  "typedef enum VkStructureType \x7b" :: (constants.map Numbered.line ++ ["\x7d VkStructureType;"])

def coreLines (structs : List Entry) (constants : List Numbered) : List String :=
  structs.flatMap Entry.structLines ++ enumLines constants

/-- A core header: three lines for each struct, and then the enum. -/
def coreText (structs : List Entry) (constants : List Numbered) : String :=
  Text.ofLines (coreLines structs constants)

section Texts

variable (e : Entry) (c : Numbered)

theorem toList_declaration : e.declaration.toList
    = "typedef struct".toList ++ ' ' :: (e.name.toList ++ ' ' :: ['\x7b']) := by
  unfold Entry.declaration
  simp only [String.toList_append, List.append_assoc]
  rfl

theorem toList_closing : e.closing.toList = '\x7d' :: ' ' :: (e.name.toList ++ [';']) := by
  unfold Entry.closing
  simp only [String.toList_append, List.append_assoc]
  rfl

theorem toList_line : c.line.toList = ' ' :: ' ' :: ' ' :: ' ' :: (c.entry.constant.toList
    ++ ' ' :: '=' :: ' ' :: (c.number ++ [','])) := by
  unfold Numbered.line
  simp only [String.toList_append, String.toList_ofList, List.append_assoc]
  rfl

theorem isBlank_name : ∀ c ∈ e.name.toList, Text.isBlank c = false :=
  e.forall_mem_name (P := fun c => Text.isBlank c = false) (by decide)

theorem notMem_name {b : Char} (hb : Text.isBlank b = true) : b ∉ e.name.toList := by
  intro hm
  rw [isBlank_name e b hm] at hb
  cases hb

theorem words_declaration : Text.words e.declaration.toList
    = ["typedef".toList, "struct".toList, e.name.toList, ['\x7b']] := by
  have hname : e.name.toList ≠ [] := by simp [Entry.toList_name]
  have hstart : Text.words "typedef struct".toList = ["typedef".toList, "struct".toList] := by
    decide
  rw [toList_declaration, Text.words_append_blank (by decide),
    Text.words_append_blank_of_not_blank hname (isBlank_name e) (by decide), hstart]
  rfl

/-- A constant is the first word of its line. -/
theorem head?_words_line : (Text.words c.line.toList).head? = some c.entry.constant.toList := by
  have hconstant : c.entry.constant.toList ≠ [] := by simp [Entry.toList_constant]
  have hblank := c.entry.forall_mem_constant (P := fun c => Text.isBlank c = false)
    (by decide) (by decide)
  have hspace : Text.isBlank ' ' = true := by decide
  rw [toList_line]
  simp only [Text.words_blank_cons hspace]
  rw [Text.words_append_blank_of_not_blank hconstant hblank hspace, List.head?_cons]

/-- What markers and line ends are known by is not in the line of a constant. -/
theorem notMem_line : ∀ a ∈ c.line.toList, a ∉ ['t', ';', '\n', '\r'] := by
  have hconstant := c.entry.forall_mem_constant (P := (· ∉ ['t', ';', '\n', '\r']))
    (by decide) (by decide)
  have hdigit : ∀ a ∈ c.number, a ∉ ['t', ';', '\n', '\r'] := by
    intro a ha
    have hd := c.digits a ha
    have hal : a.isAlphanum = true := by simp [Char.isAlphanum, hd]
    exact Text.alphanum_forall (P := fun a => a.isDigit = true → a ∉ ['t', ';', '\n', '\r'])
      (by decide) hal hd
  rw [toList_line]
  simp only [List.forall_mem_cons, List.forall_mem_append]
  exact ⟨by decide, by decide, by decide, by decide, hconstant, by decide, by decide, by decide,
    hdigit, by decide, by simp⟩

theorem unbroken_structLines : ∀ t ∈ e.structLines, Text.Unbroken t.toList := by
  have hfeed : '\n' ∉ e.name.toList := notMem_name e (by decide)
  have hreturn : '\r' ∉ e.name.toList := notMem_name e (by decide)
  have hdeclaration : Text.Unbroken e.declaration.toList := by
    rw [toList_declaration]
    exact Text.unbroken_of_notMem (by simp [hfeed]) (by simp [hreturn])
  have hclosing : Text.Unbroken e.closing.toList := by
    rw [toList_closing]
    exact Text.unbroken_of_notMem (by simp [hfeed]) (by simp [hreturn])
  simp only [Entry.structLines, List.forall_mem_cons]
  exact ⟨hdeclaration, by decide, hclosing, by simp⟩

/-- No line of a core header breaks. -/
theorem unbroken_coreLines {structs : List Entry} {constants : List Numbered} :
    ∀ t ∈ coreLines structs constants, Text.Unbroken t.toList := by
  intro t ht
  simp only [coreLines, enumLines, List.mem_append, List.mem_flatMap, List.mem_cons, List.mem_map,
    List.not_mem_nil, or_false] at ht
  rcases ht with ⟨e, -, he⟩ | rfl | ⟨c, -, rfl⟩ | rfl
  · exact unbroken_structLines e t he
  · decide
  · exact Text.unbroken_of_notMem (fun hm => notMem_line c _ hm (by simp))
      fun hm => notMem_line c _ hm (by simp)
  · decide

end Texts

section Lines

variable {e : Entry} {c : Numbered} {l : Line}

theorem contains_eq {t : String} (h : l.text = t) (pattern : String) :
    l.contains pattern = Text.occursIn pattern.toList t.toList := by
  rw [Line.contains, h]

theorem declaresStruct_declaration (h : l.text = e.declaration) : l.declaresStruct = true := by
  have hstart := Text.occursIn_append Marker.structDeclaration.toList
    (' ' :: (e.name.toList ++ ' ' :: ['\x7b']))
  rw [Line.declaresStruct, contains_eq h, toList_declaration]
  exact hstart

theorem word?_declaration (h : l.text = e.declaration) : l.word? 2 = some e.name := by
  unfold Line.word? Line.words
  rw [h, words_declaration]
  simp

/-- The only blank of a closing line comes before its name. -/
theorem declaresStruct_closing (h : l.text = e.closing) : l.declaresStruct = false := by
  have hname : ' ' ∉ e.name.toList := notMem_name e (by decide)
  have hblank : ' ' ∉ e.name.toList ++ [';'] := by simp [hname]
  rw [Line.declaresStruct, contains_eq h, toList_closing]
  show Text.occursIn Marker.structDeclaration.toList (e.name.toList ++ [';']) = false
  exact Text.occursIn_eq_false (by decide) hblank

theorem word?_line (h : l.text = c.line) : l.word? 0 = some c.entry.constant := by
  unfold Line.word? Line.words
  rw [h, ← List.head?_eq_getElem?, List.head?_map, head?_words_line]
  simp

/-- A pattern with a small `t` or a semicolon is not in the line of a constant. -/
theorem contains_line (h : l.text = c.line) {pattern : String}
    (hp : 't' ∈ pattern.toList ∨ ';' ∈ pattern.toList) : l.contains pattern = false := by
  rw [contains_eq h]
  rcases hp with hp | hp
  · exact Text.occursIn_eq_false hp fun hm => notMem_line c 't' hm (by simp)
  · exact Text.occursIn_eq_false hp fun hm => notMem_line c ';' hm (by simp)

end Lines

end VulkanPrefill
