import VulkanPrefill.Proofs.Verbosity

/-!
# Spellings of options

A value can be given to its setting in several ways, in one argument or in two, and verbosity can be
asked for by name or in clusters. Each such group of arguments does to the options what it asks for,
whatever the reading found before (`SpelledBy.foldlM_next`), so the order of the groups plays no
part and neither does how they are spelled (`read_of_spelled`). A run then depends on the path of
the header, the output and how much of its log is shown, and on nothing else (`runOn_spelled`).
-/

namespace VulkanPrefill.Command

variable {o o' : Options} {envSdk envSdk' : Option String} {arguments arguments' : List String}

/-- What a group of arguments asks for. -/
inductive Request
  | value (s : Setting) (v : String)
  | marks (n : ℕ)

namespace Request

def value? (s : Setting) : Request → Option String
  | value t v => if t = s then some v else none
  | marks _ => none

def count : Request → ℕ
  | value _ _ => 0
  | marks n => n

/-- A value that can be an argument of its own. -/
def Separate (v : String) : Prop :=
  v = "-" ∨ v.toList.head? ≠ some '-'

/-- The spellings of a request. -/
inductive SpelledBy : Request → List String → Prop
  | assigned (s : Setting) (v : String) : SpelledBy (value s v) ["--" ++ s.name ++ "=" ++ v]
  | separate (s : Setting) {v : String} : Separate v → SpelledBy (value s v) ["--" ++ s.name, v]
  | shortAssigned (v : String) : SpelledBy (value .output v) ["-o=" ++ v]
  | shortSeparate {v : String} : Separate v → SpelledBy (value .output v) ["-o", v]
  | attached {v : String} : v.toList.head? ≠ some '=' → v.toList.head? ≠ some '-' →
    SpelledBy (value .output v) ["-o" ++ v]
  | flag : SpelledBy (marks 1) ["--verbose"]
  | cluster (n : ℕ) : SpelledBy (marks (n + 1)) ["-" ++ .ofList (List.replicate (n + 1) 'v')]

end Request

/-- The arguments spell the values that `o` gives to the settings, each once, and its verbosity, in
any order. Another argument may say that no options follow. -/
def Spelled (o : Options) (arguments : List String) : Prop :=
  ∃ (requests : List Request) (groups : List (List String)) (closing : List String),
    List.Forall₂ Request.SpelledBy requests groups
      ∧ (∀ s, requests.filterMap (·.value? s) = (o.get? s).toList ∧ o.get? s ≠ some "")
      ∧ (requests.map (·.count)).sum = o.verbosity
      ∧ (closing = [] ∨ closing = ["--"])
      ∧ arguments = groups.flatten ++ closing

section Forms

theorem Setting.ofName?_name (s : Setting) : Role.ofName? s.name = some (.setting s) := by
  cases s <;> rfl

namespace Argument

variable {s : Setting} {a v : String} {c : Char} {cs : List Char}

theorem ofString_long (h : a.toList = '-' :: '-' :: c :: cs) :
    ofString a = long (.ofList ((c :: cs).takeWhile (· ≠ '='))) (assigned? (c :: cs)) := by
  simp only [ofString, h]

theorem ofString_cluster (hc : c ≠ '-') (h : a.toList = '-' :: c :: cs) :
    ofString a = cluster (c :: cs) := by
  unfold ofString
  rw [h]
  split <;> simp_all

theorem ofString_separate (h : Request.Separate v) : ofString v = plain v := by
  obtain rfl | h := h
  · decide +kernel
  · unfold ofString
    split <;> simp_all

/-- The name of a setting ends where the argument does or at the first equals sign. -/
theorem ofString_name (h : a.toList = '-' :: '-' :: (s.name.toList ++ cs))
    (hcs : ∀ c ∈ cs.head?, c = '=') : ofString a = long s.name (assigned? cs) := by
  have hname : ∀ c ∈ s.name.toList, decide (c ≠ '=') = true := by
    cases s <;> simp [Setting.name]
  have hrest : cs.takeWhile (· ≠ '=') = [] := by
    rcases cs with _ | ⟨c, cs⟩
    · rfl
    · obtain rfl := hcs c rfl
      rfl
  obtain ⟨c, ds, hds⟩ : ∃ c ds, s.name.toList = c :: ds := by cases s <;> exact ⟨_, _, rfl⟩
  rw [hds, List.cons_append] at h
  rw [ofString_long h, ← List.cons_append, ← hds, List.takeWhile_append_of_pos hname, hrest,
    List.append_nil, String.ofList_toList, assigned?, List.dropWhile_append_of_pos hname]
  rfl

theorem assigned?_equals (v : String) : assigned? ('=' :: v.toList) = some v :=
  congrArg some String.ofList_toList

theorem attached?_equals (v : String) : attached? ('=' :: v.toList) = some v :=
  congrArg some String.ofList_toList

/-- A letter and a value that does not begin with an equals sign can be written as one. -/
theorem attached?_value (hempty : v ≠ "") (h : v.toList.head? ≠ some '=') :
    attached? v.toList = some v := by
  unfold attached?
  split
  · next hnil => exact absurd (String.toList_eq_nil_iff.1 hnil) hempty
  · next hcons => simp [hcons] at h
  · rw [String.ofList_toList]

end Argument

namespace Reading

variable {s : Setting} {v a : String} {cs : List Char}

theorem next_name (o : Options) (h : a.toList = '-' :: '-' :: (s.name.toList ++ cs))
    (hcs : ∀ c ∈ cs.head?, c = '=') : ({ options := o } : Reading).next a
      = ({ options := o } : Reading).setting s (Argument.assigned? cs) := by
  simp only [next, Argument.ofString_name h hcs, long, s.ofName?_name]
  rfl

theorem next_cluster (o : Options) {c : Char} (hc : c ≠ '-') (h : a.toList = '-' :: c :: cs) :
    ({ options := o } : Reading).next a = ({ options := o } : Reading).cluster (c :: cs) := by
  simp only [next, Argument.ofString_cluster hc h]
  rfl

theorem next_letter (o : Options) (h : a.toList = '-' :: 'o' :: cs) :
    ({ options := o } : Reading).next a
      = ({ options := o } : Reading).setting .output (Argument.attached? cs) := by
  rw [next_cluster o (by decide) h]
  rfl

/-- The setting and its value are one argument. -/
theorem foldlM_given (hgive : o.give s v = .ok o')
    (h : ({ options := o } : Reading).next a = ({ options := o } : Reading).setting s (some v)) :
    [a].foldlM next { options := o } = .ok { options := o' } := by
  simp only [List.foldlM_cons, List.foldlM_nil, h, setting, hgive]
  rfl

/-- The value is the argument after that of its setting. -/
theorem foldlM_awaited (hgive : o.give s v = .ok o') (hv : Request.Separate v)
    (h : ({ options := o } : Reading).next a = ({ options := o } : Reading).setting s none) :
    [a, v].foldlM next { options := o } = .ok { options := o' } := by
  simp only [List.foldlM_cons, List.foldlM_nil, h]
  change value _ s v >>= pure = _
  simp only [value, Argument.ofString_separate hv, hgive]
  rfl

theorem cluster_replicate (n : ℕ) (o : Options) :
    ({ options := o } : Reading).cluster (List.replicate (n + 1) 'v')
      = .ok { options :=
        { o with verbosity := min Options.verbosityLimit (o.verbosity + (n + 1)) } } := by
  induction n generalizing o with
  | zero => rfl
  | succ n ih =>
    rw [List.replicate_succ]
    change ({ options := o.louder } : Reading).cluster _ = _
    rw [ih]
    simp only [Options.louder]
    congr 3
    omega

end Reading

end Forms

section Requests

theorem Options.get?_inj (h : ∀ s, o'.get? s = o.get? s) (hn : o'.verbosity = o.verbosity) :
    o' = o := by
  obtain ⟨sdk, header, output, n⟩ := o
  obtain ⟨sdk', header', output', n'⟩ := o'
  obtain rfl : sdk' = sdk := h .sdk
  obtain rfl : header' = header := h .header
  obtain rfl : output' = output := h .output
  obtain rfl : n' = n := hn
  rfl

theorem Options.give_eq_assign {s : Setting} {v : String} (hs : o.get? s = none) (hv : v ≠ "") :
    o.give s v = .ok (o.assign v s) := by
  rw [give, if_neg (by simpa using hv), hs]
  rfl

namespace Request

variable {q : Request} {group : List String}

/-- The options once they are given what is asked for. -/
def apply (o : Options) : Request → Options
  | value s v => o.assign v s
  | marks n => { o with verbosity := min Options.verbosityLimit (o.verbosity + n) }

theorem get?_apply (q : Request) (o : Options) (s : Setting) :
    (q.apply o).get? s = (q.value? s).or (o.get? s) := by
  rcases q with ⟨t, v⟩ | n
  · cases t <;> cases s <;> rfl
  · cases s <;> rfl

theorem verbosity_apply (q : Request) (hle : o.verbosity ≤ Options.verbosityLimit) :
    (q.apply o).verbosity = min Options.verbosityLimit (o.verbosity + q.count) := by
  rcases q with ⟨t, v⟩ | n
  · rw [count, Nat.add_zero, Nat.min_eq_right hle]
    cases t <;> rfl
  · rfl

/-- The values that are asked for are not empty, and `o` gives their settings none. -/
def Fits (o : Options) (q : Request) : Prop :=
  ∀ s, ∀ v ∈ q.value? s, o.get? s = none ∧ v ≠ ""

/-- What a group of arguments asks for is done, whatever was read before. -/
theorem SpelledBy.foldlM_next (h : q.SpelledBy group) (hfits : q.Fits o) :
    group.foldlM Reading.next { options := o } = .ok { options := q.apply o } := by
  have hgive : ∀ {s v}, q = value s v → o.give s v = .ok (o.assign v s) := by
    rintro s v rfl
    obtain ⟨hs, hv⟩ := hfits s v (by simp [value?])
    exact Options.give_eq_assign hs hv
  cases h with
  | assigned s v =>
    have hlist : ("--" ++ s.name ++ "=" ++ v).toList
        = '-' :: '-' :: (s.name.toList ++ '=' :: v.toList) := by simp
    refine Reading.foldlM_given (hgive rfl) ?_
    rw [Reading.next_name o hlist (by simp), Argument.assigned?_equals]
  | separate s hv =>
    have hlist : ("--" ++ s.name).toList = '-' :: '-' :: (s.name.toList ++ []) := by simp
    exact Reading.foldlM_awaited (hgive rfl) hv (Reading.next_name o hlist nofun)
  | shortAssigned v =>
    have hlist : ("-o=" ++ v).toList = '-' :: 'o' :: '=' :: v.toList := by simp
    refine Reading.foldlM_given (hgive rfl) ?_
    rw [Reading.next_letter o hlist, Argument.attached?_equals]
  | shortSeparate hv =>
    have hlist : "-o".toList = ['-', 'o'] := by decide
    exact Reading.foldlM_awaited (hgive rfl) hv (Reading.next_letter o hlist)
  | @attached v heq =>
    have hlist : ("-o" ++ v).toList = '-' :: 'o' :: v.toList := by simp
    obtain ⟨-, hempty⟩ := hfits .output v (by simp [value?])
    refine Reading.foldlM_given (hgive rfl) ?_
    rw [Reading.next_letter o hlist, Argument.attached?_value hempty heq]
  | flag => rfl
  | cluster n =>
    have hlist : ("-" ++ String.ofList (List.replicate (n + 1) 'v')).toList
        = '-' :: 'v' :: List.replicate n 'v' := by simp [List.replicate_succ]
    rw [List.foldlM_cons, Reading.next_cluster o (by decide) hlist, ← List.replicate_succ,
      Reading.cluster_replicate]
    rfl

/-- The options `o` have what `o'` have and what is asked for, and no setting is to have two values
or an empty one. -/
structure Completes (o o' : Options) (requests : List Request) : Prop where
  values : ∀ s, (o'.get? s).toList ++ requests.filterMap (·.value? s) = (o.get? s).toList
  ne_empty : ∀ s, o.get? s ≠ some ""
  verbosity : o.verbosity
    = min Options.verbosityLimit (o'.verbosity + (requests.map (·.count)).sum)

namespace Completes

variable {requests : List Request}

theorem eq_of_nil (h : Completes o o' []) (hle : o'.verbosity ≤ Options.verbosityLimit) :
    o' = o := by
  refine Options.get?_inj (fun s => ?_) ?_
  · simpa using congrArg List.head? (h.values s)
  · rw [h.verbosity, List.map_nil, List.sum_nil, Nat.add_zero, Nat.min_eq_right hle]

theorem fits (h : Completes o o' (q :: requests)) : q.Fits o' := by
  intro s v hv
  have hvalues := h.values s
  have hempty := h.ne_empty s
  rw [List.filterMap_cons_some hv] at hvalues
  rcases ho : o.get? s with _ | u <;> rcases ho' : o'.get? s with _ | w <;>
    rw [ho, ho'] at hvalues
  case some.none =>
    obtain rfl : v = u := by simpa using congrArg List.head? hvalues
    exact ⟨rfl, fun hv => hempty (by rw [ho, hv])⟩
  -- There is no room for the value, or not for two.
  all_goals simp at hvalues

theorem next (h : Completes o o' (q :: requests)) (hle : o'.verbosity ≤ Options.verbosityLimit) :
    Completes o (q.apply o') requests where
  values s := by
    rw [← h.values s, get?_apply]
    rcases hv : q.value? s with _ | v
    · rw [List.filterMap_cons_none hv, Option.none_or]
    · rw [List.filterMap_cons_some hv, (h.fits s v hv).1]
      rfl
  ne_empty := h.ne_empty
  verbosity := by
    rw [verbosity_apply q hle, h.verbosity, List.map_cons, List.sum_cons]
    omega

end Completes

/-- The run over all groups: a setting has its value from the groups before, or has it yet to get
from those that follow. -/
theorem foldlM_flatten {requests : List Request} {groups : List (List String)}
    (h : List.Forall₂ SpelledBy requests groups) : ∀ {o' : Options},
    Completes o o' requests → o'.verbosity ≤ Options.verbosityLimit →
    groups.flatten.foldlM Reading.next { options := o' } = .ok { options := o } := by
  induction h with
  | nil =>
    intro o' hall hle
    rw [hall.eq_of_nil hle]
    rfl
  | @cons q group requests groups hspelled _ ih =>
    intro o' hall hle
    rw [List.flatten_cons, List.foldlM_append, hspelled.foldlM_next hall.fits]
    exact ih (hall.next hle) (by rw [verbosity_apply q hle]; exact Nat.min_le_left _ _)

end Request

/-- The options of a run whose arguments give `o`. -/
def Options.settled (o : Options) (envSdk : Option String) : Options :=
  { o with sdk := o.sdk.or envSdk, verbosity := min Options.verbosityLimit o.verbosity }

theorem finish_settled (henv : o.sdk.isSome ∨ envSdk ≠ some "") (separated : Bool) :
    ({ options := o.settled none, separated } : Reading).finish envSdk
      = .ok (o.settled envSdk) := by
  rcases hsdk : o.sdk with _ | sdk
  · rcases envSdk with _ | root
    · simp [Reading.finish, Options.settled, hsdk]
    · have hroot : root ≠ "" := by simpa [hsdk] using henv
      have hgive := Options.give_eq_assign (o := o.settled none) (s := .sdk)
        (by simp [Options.get?, Options.settled, hsdk]) hroot
      simpa [Reading.finish, Options.settled, Options.assign, hsdk] using hgive
  · simp [Reading.finish, Options.settled, hsdk]

/-- The order and the spelling of options have no part in what is read. -/
theorem read_of_spelled (h : Spelled o arguments) (henv : o.sdk.isSome ∨ envSdk ≠ some "") :
    Options.read envSdk arguments = .ok (o.settled envSdk) := by
  obtain ⟨requests, groups, closing, hspelled, hvalues, hmarks, hclosing, rfl⟩ := h
  have hget : ∀ s, (o.settled none).get? s = o.get? s := by
    rintro (_ | _ | _) <;> simp [Options.settled, Options.get?]
  have hcompletes : Request.Completes (o.settled none) {} requests := by
    refine ⟨fun s => ?_, fun s => hget s ▸ (hvalues s).2, ?_⟩
    · rw [hget, ← (hvalues s).1]
      cases s <;> rfl
    · rw [hmarks, Nat.zero_add]
      rfl
  have hread := Request.foldlM_flatten hspelled hcompletes (Nat.zero_le _)
  rw [Options.read, List.foldlM_append, hread]
  obtain rfl | rfl := hclosing
  · exact finish_settled henv false
  · exact finish_settled henv true

end Requests

section Runs

/-- A run depends on where the header is and not on what says so. -/
theorem run_perform_congr {w : World}
    (hpath : Header.locate o'.header o'.sdk = Header.locate o.header o.sdk)
    (houtput : o'.output = o.output)
    (hshown : ∀ es, logLines o'.verbosity es = logLines o.verbosity es) :
    (perform World.host o').run w = (perform World.host o).run w := by
  have hsurvey : survey w.tree o' = survey w.tree o := by rw [survey, survey, hpath]
  have hlog : ∀ (w : World) es, w.log o'.verbosity es = w.log o.verbosity es := fun w es => by
    rw [World.log, World.log, hshown]
  rw [run_perform, run_perform, hsurvey, houtput]
  simp only [hlog]

theorem logLines_congr {n m : ℕ} (h : min n 3 = min m 3) (es : List Event) :
    logLines n es = logLines m es := by
  rcases Nat.lt_or_ge n 3 with hn | hn
  · obtain rfl : n = m := by omega
    rfl
  · rw [logLines_of_three_le hn, logLines_of_three_le (by omega)]

end Runs

/-- Arguments that spell `o` are accepted if they give an SDK root or the environment does not give
an empty one, and what they do, on any tree, depends on the header and the output, on how many of
up to three verbosity marks there are, and on the SDK root, which plays no part but in the path of
the header and none if a header is given. -/
theorem runOn_spelled (h : Spelled o arguments) (henv : o.sdk.isSome ∨ envSdk ≠ some "") :
    Options.read envSdk arguments = .ok (o.settled envSdk)
      ∧ ∀ {o' : Options} {envSdk' : Option String} {arguments' : List String},
        Spelled o' arguments' → (o'.sdk.isSome ∨ envSdk' ≠ some "") →
        o'.output = o.output → min o'.verbosity 3 = min o.verbosity 3 →
        (Header.locate o'.header (o'.sdk.or envSdk') = Header.locate o.header (o.sdk.or envSdk) →
          ∀ tree, runOn tree envSdk' arguments' = runOn tree envSdk arguments)
        ∧ (o'.header = o.header → (o.header = none → o'.sdk.or envSdk' = o.sdk.or envSdk) →
          ∀ tree, runOn tree envSdk' arguments' = runOn tree envSdk arguments) := by
  have hread := read_of_spelled h henv
  refine ⟨hread, fun {o' envSdk' arguments'} h' henv' houtput hmarks => ?_⟩
  have hread' := read_of_spelled h' henv'
  have hshown : ∀ es, logLines (o'.settled envSdk').verbosity es
      = logLines (o.settled envSdk).verbosity es := fun es =>
    (logLines_min _ es).trans ((logLines_congr hmarks es).trans (logLines_min _ es).symm)
  have hruns : Header.locate o'.header (o'.sdk.or envSdk')
        = Header.locate o.header (o.sdk.or envSdk) →
      ∀ tree, runOn tree envSdk' arguments' = runOn tree envSdk arguments := by
    intro hpath tree
    rw [runOn_eq hread', runOn_eq hread,
      @run_perform_congr (o.settled envSdk) (o'.settled envSdk') _ hpath houtput hshown]
  refine ⟨hruns, fun hheader hroot => hruns ?_⟩
  rcases hnone : o.header with _ | header
  · rw [hheader, hnone, hroot hnone]
  · rw [hheader, hnone]
    rfl

/-- The value of the header looks like an assignment and like a flag, some marks are clustered and
others not, and only one list names an SDK root and says that no options follow. -/
theorem runOn_spelled_assignedHeader :
    let arguments := ["-vv", "--header", "a=-v", "-oout", "--verbose"]
    let arguments' := ["--output=out", "--header=a=-v", "-vvvvv", "--sdk=x", "--"]
    let o : Options := { header := some "a=-v", output := some "out", verbosity := 3 }
    Spelled o arguments
      ∧ Options.read none arguments = .ok o
      ∧ Spelled { o with sdk := some "x", verbosity := 5 } arguments'
      ∧ ∀ tree, runOn tree (some "") arguments' = runOn tree none arguments := by
  intro arguments arguments' o
  have hspelled : Spelled o arguments := by
    refine ⟨[.marks 2, .value .header "a=-v", .value .output "out", .marks 1],
      [["-vv"], ["--header", "a=-v"], ["-oout"], ["--verbose"]], [], ?_, ?_, rfl, .inl rfl, rfl⟩
    · exact .cons (.cluster 1) (.cons (.separate .header (.inr (by decide)))
        (.cons (.attached (by decide) (by decide)) (.cons .flag .nil)))
    · rintro (_ | _ | _) <;> decide
  have hspelled' : Spelled { o with sdk := some "x", verbosity := 5 } arguments' := by
    refine ⟨[.value .output "out", .value .header "a=-v", .marks 5, .value .sdk "x"],
      [["--output=out"], ["--header=a=-v"], ["-vvvvv"], ["--sdk=x"]], ["--"], ?_, ?_, rfl, .inr rfl,
      rfl⟩
    · exact .cons (.assigned .output _) (.cons (.assigned .header _)
        (.cons (.cluster 4) (.cons (.assigned .sdk _) .nil)))
    · rintro (_ | _ | _) <;> decide
  obtain ⟨hread, hruns⟩ := @runOn_spelled _ none _ hspelled (.inr nofun)
  exact ⟨hspelled, hread, hspelled',
    (hruns hspelled' (.inl rfl) rfl rfl).2 rfl (by rintro ⟨⟩)⟩

end VulkanPrefill.Command
