import VulkanPrefill.Command.Options
import Mathlib.Algebra.BigOperators.Group.List.Basic
import Mathlib.Tactic

/-!
# Verbosity marks

Every argument gives its verbosity marks by itself, wherever it stands: it either is a flag, or has
them in front of the letter whose value takes the rest of it. Reading the arguments counts them, up
to the limit (`verbosity_of_read`).
-/

namespace VulkanPrefill.Command

/-- The verbosity marks in an argument: one for the flag by its name, and in a cluster one for every
letter of the flag before another letter. -/
def Argument.marks : Argument → ℕ
  | long name _ => if name = "verbose" then 1 else 0
  | cluster letters => (letters.takeWhile (· = 'v')).length
  | separator | plain _ => 0

def marks (arguments : List String) : ℕ :=
  (arguments.map fun a => (Argument.ofString a).marks).sum

theorem Role.ofName?_eq_louder_iff {name : String} :
    ofName? name = some .louder ↔ name = "verbose" := by
  unfold ofName?
  split <;> simp_all

theorem Role.ofLetter?_eq_louder_iff {c : Char} : ofLetter? c = some .louder ↔ c = 'v' := by
  unfold ofLetter?
  split <;> simp_all

theorem Options.verbosity_give {o o' : Options} {s : Setting} {value : String}
    (h : o.give s value = .ok o') : o'.verbosity = o.verbosity := by
  unfold give reject at h
  split_ifs at h
  cases h
  cases s <;> rfl

namespace Reading

variable {r r' : Reading} {n : ℕ}

/-- The verbosity of `r'` is that of `r` and `n` marks more, up to the limit. -/
def Counted (r r' : Reading) (n : ℕ) : Prop :=
  r.options.verbosity ≤ Options.verbosityLimit →
    r'.options.verbosity = min Options.verbosityLimit (r.options.verbosity + n)

theorem counted_zero (h : r'.options.verbosity = r.options.verbosity) : Counted r r' 0 :=
  fun hle => by rw [h, Nat.add_zero, Nat.min_eq_right hle]

theorem counted_louder (r : Reading) : Counted r r.louder 1 := fun _ => rfl

theorem Counted.trans {r'' : Reading} {m : ℕ} (h : Counted r r' n) (h' : Counted r' r'' m) :
    Counted r r'' (n + m) := by
  intro hle
  have hr' := h hle
  rw [h' (hr' ▸ Nat.min_le_left _ _), hr']
  omega

theorem counted_setting {s : Setting} {value : Option String}
    (h : r.setting s value = .ok r') : Counted r r' 0 := by
  refine counted_zero ?_
  rcases value with _ | value
  · cases h
    rfl
  · simp only [setting] at h
    rcases ho : r.options.give s value with stop | o <;> rw [ho] at h <;> cases h
    exact Options.verbosity_give ho

theorem counted_value {s : Setting} {argument : String} (h : r.value s argument = .ok r') :
    Counted r r' (Argument.ofString argument).marks := by
  unfold value at h
  rcases hform : Argument.ofString argument with _ | _ | _ | text <;> rw [hform] at h
  case plain =>
    simp only [] at h
    rcases ho : r.options.give s text with stop | o <;> rw [ho] at h <;> cases h
    exact counted_zero (Options.verbosity_give ho)
  all_goals cases h

theorem counted_long {name : String} {value : Option String} (h : r.long name value = .ok r') :
    Counted r r' (Argument.long name value).marks := by
  have hname : Role.ofName? name = some .louder ↔ _ := Role.ofName?_eq_louder_iff
  unfold long at h
  rw [Argument.marks]
  rcases hrole : Role.ofName? name with _ | s | _ | _ <;> simp only [hrole] at h hname
  · cases h
  · rw [if_neg (hname.not.1 (by simp))]
    exact counted_setting h
  · rw [if_pos (hname.1 trivial)]
    rcases value with _ | value <;> cases h
    exact counted_louder r
  · rcases value with _ | value <;> cases h

theorem counted_cluster : ∀ {letters : List Char} {r : Reading}, r.cluster letters = .ok r' →
    Counted r r' (Argument.cluster letters).marks
  | [], r, h => by
    cases h
    exact counted_zero rfl
  | c :: cs, r, h => by
    have hletter : Role.ofLetter? c = some .louder ↔ _ := Role.ofLetter?_eq_louder_iff
    rw [cluster] at h
    rw [Argument.marks, List.takeWhile_cons]
    rcases hrole : Role.ofLetter? c with _ | s | _ | _ <;> simp only [hrole] at h hletter
    · cases h
    · have hc : ¬ c = 'v' := hletter.not.1 (by simp)
      simp only [hc, decide_false, Bool.false_eq_true, if_false]
      exact counted_setting h
    · have hc : c = 'v' := hletter.1 trivial
      simp only [hc, decide_true, if_true, List.length_cons, Nat.add_comm _ 1]
      exact (counted_louder r).trans (counted_cluster h)
    · cases h

theorem counted_next {argument : String} (h : r.next argument = .ok r') :
    Counted r r' (Argument.ofString argument).marks := by
  unfold next at h
  split_ifs at h
  · cases h
  rcases hs : r.awaiting with _ | s <;> simp only [hs] at h
  · rcases hform : Argument.ofString argument with ⟨name, value⟩ | letters | _ | text <;>
      rw [hform] at h
    · exact counted_long h
    · exact counted_cluster h
    · cases h
      exact counted_zero rfl
    · cases h
  · exact counted_value h

theorem counted_foldlM : ∀ {arguments : List String} {r : Reading},
    arguments.foldlM next r = .ok r' → Counted r r' (marks arguments)
  | [], r, h => by
    cases h
    exact counted_zero rfl
  | a :: arguments, r, h => by
    rw [List.foldlM_cons] at h
    rcases hnext : r.next a with stop | r₁ <;> rw [hnext] at h
    · cases h
    · exact (counted_next hnext).trans (counted_foldlM h)

theorem verbosity_finish {envSdk : Option String} {o : Options} (h : r.finish envSdk = .ok o) :
    o.verbosity = r.options.verbosity := by
  unfold finish at h
  split at h
  · cases h
  · exact Options.verbosity_give h
  · cases h
    rfl

end Reading

/-- The marks of all arguments count, up to the limit. -/
theorem verbosity_of_read {envSdk : Option String} {arguments : List String} {o : Options}
    (h : Options.read envSdk arguments = .ok o) :
    o.verbosity = min Options.verbosityLimit (marks arguments) := by
  unfold Options.read at h
  rcases hr : arguments.foldlM Reading.next {} with stop | r <;> rw [hr] at h
  · cases h
  · have hcount := Reading.counted_foldlM hr (Nat.zero_le _)
    rwa [Nat.zero_add, ← Reading.verbosity_finish h] at hcount

end VulkanPrefill.Command
