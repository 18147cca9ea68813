/-!
# Control sequences

A text written for a terminal holds control sequences between the characters it shows. A sequence
starts at an escape character, takes the characters its form asks for, and shows none of them but
white space. What a terminal shows of a text is a part of it (`visibleFrom_sublist`) without
controls (`isShown_of_mem_visibleFrom`), and all of it if it holds none (`visibleFrom_text`).
-/

namespace VulkanPrefill.Text

/-- The controls that move on to the next place for a character. -/
def isSpacing (c : Char) : Bool :=
  c == '\t' || c == '\n' || c == '\x0c' || c == '\r'

/-- A terminal shows every character beyond ASCII, those from U+0080 to U+009F among them. -/
def isShown (c : Char) : Bool :=
  isSpacing c || (' ' ≤ c && c != '\x7f')

/-- How far a terminal is in a control sequence. -/
inductive Stage
  | text
  | escape
  | escapeIntermediate
  | parameters
  | systemCommand
  | device
  | deviceParameters
  | deviceIntermediate
  | string
  deriving DecidableEq, Repr

namespace Stage

/-- The stage after a character that is no cancellation and no new escape. A control string ends at
the byte `9C`, wherever in the UTF-8 form of a character it stands. -/
def advance (s : Stage) (c : Char) : Stage :=
  match s with
  | text => text
  | escape =>
    if c = '[' then parameters
    else if c = ']' then systemCommand
    else if c = 'P' then device
    else if c = 'X' ∨ c = '^' ∨ c = '_' then string
    else if ' ' ≤ c ∧ c ≤ '/' then escapeIntermediate
    else if '0' ≤ c ∧ c ≤ '~' then text
    else escape
  | escapeIntermediate => if '0' ≤ c ∧ c ≤ '~' then text else escapeIntermediate
  | parameters => if '@' ≤ c ∧ c ≤ '~' then text else parameters
  | systemCommand => if c = '\x07' then text else systemCommand
  | device =>
    if ' ' ≤ c ∧ c ≤ '/' then deviceIntermediate
    else if '0' ≤ c ∧ c ≤ '?' then deviceParameters
    else if '@' ≤ c ∧ c ≤ '~' then string
    else device
  | deviceParameters =>
    if ' ' ≤ c ∧ c ≤ '/' then deviceIntermediate
    else if '<' ≤ c ∧ c ≤ '~' then string
    else deviceParameters
  | deviceIntermediate => if '0' ≤ c ∧ c ≤ '~' then string else deviceIntermediate
  | string => if (String.utf8EncodeChar c).contains 0x9C then text else string

def next (s : Stage) (c : Char) : Stage :=
  if c = '\x1b' then escape
  else if c = '\x18' ∨ c = '\x1a' then text
  else s.advance c

/-- White space is shown inside a sequence too, but not inside a control string. -/
def shows (s : Stage) (c : Char) : Bool :=
  match s with
  | text => isShown c
  | escape | escapeIntermediate | parameters => isSpacing c
  | systemCommand | device | deviceParameters | deviceIntermediate | string => false

end Stage

/-- What is shown of the rest of a text. While `showing`, every character up to the next control is
shown. Showing starts outside of sequences, and at white space inside one. That sequence goes on at
the next control, unless a character beyond ASCII was shown before it. -/
def visibleFrom (s : Stage) (showing : Bool) : List Char → List Char
  | [] => []
  | c :: cs =>
    if showing && isShown c then
      c :: visibleFrom (if c.toNat < 0x80 then s else .text) true cs
    else if s.shows c then
      c :: visibleFrom (s.next c) true cs
    else
      visibleFrom (s.next c) false cs

def visible (s : String) : String :=
  .ofList (visibleFrom .text true s.toList)

theorem isShown_of_shows {s : Stage} {c : Char} (h : s.shows c = true) : isShown c = true := by
  cases s <;> simp_all [Stage.shows, isShown]

theorem visibleFrom_sublist : ∀ (cs : List Char) (s : Stage) (showing : Bool),
    (visibleFrom s showing cs).Sublist cs
  | [], _, _ => by simp [visibleFrom]
  | c :: cs, s, showing => by
    rw [visibleFrom]
    split
    · exact (visibleFrom_sublist cs _ _).cons_cons c
    · split
      · exact (visibleFrom_sublist cs _ _).cons_cons c
      · exact (visibleFrom_sublist cs _ _).cons c

theorem isShown_of_mem_visibleFrom {x : Char} : ∀ (cs : List Char) {s : Stage} {showing : Bool},
    x ∈ visibleFrom s showing cs → isShown x = true
  | [], _, _, h => by simp [visibleFrom] at h
  | c :: cs, s, showing, h => by
    rw [visibleFrom] at h
    split at h
    · rename_i hc
      rcases List.mem_cons.1 h with rfl | h
      · simp_all
      · exact isShown_of_mem_visibleFrom cs h
    · split at h
      · rename_i hc
        rcases List.mem_cons.1 h with rfl | h
        · exact isShown_of_shows hc
        · exact isShown_of_mem_visibleFrom cs h
      · exact isShown_of_mem_visibleFrom cs h

theorem visibleFrom_text : ∀ cs : List Char, (∀ c ∈ cs, isShown c = true) →
    visibleFrom .text true cs = cs
  | [], _ => rfl
  | c :: cs, h => by
    rw [visibleFrom, if_pos (by simp [h c]), ite_self,
      visibleFrom_text cs fun x hx => h x (List.mem_cons_of_mem c hx)]

end VulkanPrefill.Text
