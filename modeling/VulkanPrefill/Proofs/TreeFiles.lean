import VulkanPrefill.Files.Tree
import Mathlib.Logic.Function.Basic
import Mathlib.Tactic

/-!
# A file put into a tree

A path that names a file names it by its last name, in a directory that the other names lead to.
Where the file goes there was no directory, so every way through the tree is still there once it
is (`Extends.walk`), and the path then reads what was put (`HasPut.read`).
-/

namespace VulkanPrefill.Tree

variable {t t' : Tree} {path : String} {place target : Place} {content : List UInt8}

theorem node?_setNode (h : place ≠ []) (node : Node) :
    (t.setNode place node).node? = Function.update t.node? place (some node) := by
  funext other
  by_cases ho : other = place
  · subst ho
    simp [node?, setNode, h, Table.get?_insert]
  · simp [node?, setNode, ho, Table.get?_insert, Ne.symm ho]

/-! ## Ways through a tree -/

/-- A name leads to where one is, to the directory above, or to something in the directory. -/
theorem step_eq_ok_iff {name : String} :
    t.step place name = .ok target ↔ t.node? place = some .directory
      ∧ (name = "." ∧ target = place
        ∨ name = ".." ∧ target = place.tail
        ∨ name ≠ "." ∧ name ≠ ".." ∧ name.utf8ByteSize ≤ Path.nameByteLimit
          ∧ t.node? (name :: place) ≠ none ∧ target = name :: place) := by
  unfold step
  constructor
  · intro h
    split_ifs at h with hdir hdot hup hlong hnone
    all_goals cases h
    · exact ⟨not_not.1 hdir, .inl ⟨hdot, rfl⟩⟩
    · exact ⟨not_not.1 hdir, .inr (.inl ⟨hup, rfl⟩)⟩
    · exact ⟨not_not.1 hdir, .inr (.inr ⟨hdot, hup, not_lt.1 hlong, by simpa using hnone, rfl⟩)⟩
  · rintro ⟨hdir, ⟨rfl, rfl⟩ | ⟨rfl, rfl⟩ | ⟨hdot, hup, hshort, hthere, rfl⟩⟩
    · simp [hdir]
    · simp [hdir]
    · simp [hdir, hdot, hup, not_lt.2 hshort, hthere]

theorem walk_append (names names' : List String) :
    t.walk place (names ++ names') = t.walk place names >>= (t.walk · names') :=
  List.foldlM_append

theorem walk_singleton (name : String) : t.walk place [name] = t.step place name := by
  unfold walk
  rw [List.foldlM_cons]
  exact bind_pure _

/-- Every directory of `t` is one of `t'`, and where `t` has something `t'` has something too. -/
structure Extends (t' t : Tree) : Prop where
  directory : ∀ p, t.node? p = some .directory → t'.node? p = some .directory
  there : ∀ p, t.node? p ≠ none → t'.node? p ≠ none

theorem Extends.step (h : t'.Extends t) {name : String} (hs : t.step place name = .ok target) :
    t'.step place name = .ok target := by
  rw [step_eq_ok_iff] at hs ⊢
  obtain ⟨hdir, hdot | hup | ⟨hdot, hup, hshort, hthere, rfl⟩⟩ := hs
  · exact ⟨h.directory _ hdir, .inl hdot⟩
  · exact ⟨h.directory _ hdir, .inr (.inl hup)⟩
  · exact ⟨h.directory _ hdir, .inr (.inr ⟨hdot, hup, hshort, h.there _ hthere, rfl⟩)⟩

theorem Extends.walk (h : t'.Extends t) : ∀ {names : List String} {place : Place},
    t.walk place names = .ok target → t'.walk place names = .ok target
  | [], _, hw => hw
  | name :: names, place, hw => by
    unfold Tree.walk at hw ⊢
    rw [List.foldlM_cons] at hw ⊢
    rcases hs : t.step place name with cause | next
    · rw [hs] at hw
      cases hw
    · rw [hs] at hw
      rw [h.step hs]
      exact h.walk hw

/-! ## Paths to files -/

/-- A path to a file has a last name, which is the file's, in a directory the others lead to. -/
theorem filePlace_eq_ok (h : t.filePlace path = .ok place) :
    ∃ p name parent, Path.parse path = .ok p ∧ p.names.getLast? = some name ∧ p.slashed = false
      ∧ t.walk (t.start p) p.names.dropLast = .ok parent ∧ t.node? parent = some .directory
      ∧ place = name :: parent ∧ name ≠ "." ∧ name ≠ ".."
      ∧ name.utf8ByteSize ≤ Path.nameByteLimit ∧ t.node? place ≠ some .directory := by
  unfold filePlace at h
  rcases hp : Path.parse path with cause | p
  · simp only [hp, bind, Except.bind, reduceCtorEq] at h
  rcases hn : p.names.getLast? with _ | name
  · simp only [hp, bind, Except.bind, hn, reduceCtorEq] at h
  rcases hw : t.walk (t.start p) p.names.dropLast with cause | parent
  · simp only [hp, bind, Except.bind, hn, hw, reduceCtorEq] at h
  simp only [hp, bind, Except.bind, hn, hw] at h
  split_ifs at h with hdir hname hlong hfile hnew hdevice
  all_goals cases h
  simp only [not_or, Bool.not_eq_true] at hname
  exact ⟨p, name, parent, rfl, hn, hname.1, hw, not_not.1 hdir, rfl, hname.2.1, hname.2.2,
    not_lt.1 hlong, hfile⟩

theorem filePlace_ne_nil (h : t.filePlace path = .ok place) : place ≠ [] := by
  obtain ⟨p, name, parent, -, -, -, -, -, rfl, -⟩ := filePlace_eq_ok h
  exact List.cons_ne_nil name parent

theorem read_of_walk {p : Path} (hp : Path.parse path = .ok p) (hslash : p.slashed = false)
    (hwalk : t.walk (t.start p) p.names = .ok place)
    (hnode : t.node? place = some (.file content)) : t.read path = .ok content := by
  simp only [read, hp, bind, Except.bind, hwalk, hnode, hslash]
  rfl

/-- `t'` is `t` but for the file at `place`, which has this content. -/
structure HasPut (t' t : Tree) (place : Place) (content : List UInt8) : Prop where
  here : t'.here = t.here
  node? : t'.node? = Function.update t.node? place (some (.file content))

theorem setNode_hasPut (h : place ≠ []) (content : List UInt8) :
    (t.setNode place (.file content)).HasPut t place content :=
  ⟨rfl, node?_setNode h _⟩

/-- Of two contents put at one place the later one stays. -/
theorem HasPut.setNode (h : t'.HasPut t place content) (hplace : place ≠ [])
    (content' : List UInt8) : (t'.setNode place (.file content')).HasPut t place content' :=
  ⟨h.here, by rw [node?_setNode hplace, h.node?, Function.update_idem]⟩

theorem HasPut.extends (h : t'.HasPut t place content)
    (hplace : t.node? place ≠ some .directory) : t'.Extends t where
  directory p hp := by
    have hne : p ≠ place := fun he => hplace (he ▸ hp)
    rw [h.node?, Function.update_of_ne hne, hp]
  there p hp := by
    rw [h.node?, Function.update_apply]
    split
    · exact Option.some_ne_none _
    · exact hp

/-- What is put where a path says is read by that path. -/
theorem HasPut.read (h : t'.HasPut t place content) (hpath : t.filePlace path = .ok place) :
    t'.read path = .ok content := by
  obtain ⟨p, name, parent, hp, hname, hslash, hwalk, hdir, rfl, hdot, hup, hshort, hfile⟩ :=
    filePlace_eq_ok hpath
  have hext : t'.Extends t := h.extends hfile
  have hput : t'.node? (name :: parent) = some (.file content) := by
    rw [h.node?, Function.update_self]
  have hstep : t'.step parent name = .ok (name :: parent) := step_eq_ok_iff.2
    ⟨hext.directory _ hdir, .inr (.inr ⟨hdot, hup, hshort, by simp [hput], rfl⟩)⟩
  have hstart : t'.start p = t.start p := by
    unfold start
    rw [h.here]
  refine read_of_walk hp hslash ?_ hput
  rw [← List.dropLast_append_getLast? name hname, walk_append, hstart, hext.walk hwalk]
  exact (walk_singleton name).trans hstep

end VulkanPrefill.Tree
