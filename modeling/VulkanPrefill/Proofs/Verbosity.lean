import VulkanPrefill.Proofs.CommandRun
import VulkanPrefill.Proofs.VerbosityMarks

/-!
# What verbosity changes

A run never looks at what it has printed or said, so how much of the log is to be shown has no part
in what it does. All runs on a tree that ask for the same header and output have one course
(`exists_course`), of which each shows as many log lines as it was asked for, and more verbosity
marks only add lines to the standard error (`runOn_verbosity`).
-/

namespace VulkanPrefill

namespace Text

/-- Leaving lines out of a text leaves out lines of it, however they are broken. -/
theorem lines_sublist {ls ms : List String} (h : ls.Sublist ms) :
    (lines (ofLines ls)).Sublist (lines (ofLines ms)) := by
  induction h with
  | slnil => exact .refl _
  | cons l _ ih =>
    rw [lines_ofLines_cons]
    exact List.sublist_append_of_sublist_right ih
  | cons_cons l _ ih =>
    rw [lines_ofLines_cons, lines_ofLines_cons]
    exact (List.Sublist.refl _).append ih

end Text

namespace Command

section LogLines

variable {n m : ℕ}

theorem one_le_depth (l : Level) : 1 ≤ l.depth := by
  cases l <;> decide

theorem depth_le_three (l : Level) : l.depth ≤ 3 := by
  cases l <;> decide

theorem logLines_nil (n : ℕ) : logLines n [] = [] := rfl

theorem logLines_zero (es : List Event) : logLines 0 es = [] := by
  have hnone : es.filter (·.shownAt 0) = [] := by
    refine List.filter_eq_nil_iff.2 fun e _ => ?_
    have := one_le_depth e.level
    simp only [Event.shownAt, decide_eq_true_eq]
    omega
  rw [logLines, hnone, List.map_nil]

theorem logLines_of_three_le (hn : 3 ≤ n) (es : List Event) :
    logLines n es = es.map (·.render) := by
  have hall : es.filter (·.shownAt n) = es :=
    List.filter_eq_self.2 fun e _ => decide_eq_true ((depth_le_three e.level).trans hn)
  rw [logLines, hall]

theorem logLines_sublist (h : n ≤ m) (es : List Event) :
    (logLines n es).Sublist (logLines m es) := by
  refine (List.monotone_filter_right es fun e he => ?_).map _
  simp only [Event.shownAt, decide_eq_true_eq] at he ⊢
  omega

/-- Above the limit there is nothing more to show. -/
theorem logLines_min (n : ℕ) (es : List Event) :
    logLines (min Options.verbosityLimit n) es = logLines n es := by
  rcases Nat.le_total n Options.verbosityLimit with h | h
  · rw [Nat.min_eq_right h]
  · have hthree : 3 ≤ Options.verbosityLimit := by decide
    rw [Nat.min_eq_left h, logLines_of_three_le hthree, logLines_of_three_le (hthree.trans h)]

end LogLines

section Delivery

/-- The output that is asked for is the standard error. -/
def OnErrors (tree : Tree) (output : Option String) : Prop :=
  ∃ path place, output = some path ∧ tree.filePlace path = .ok place
    ∧ tree.node? place = some (.device .errors)

section

variable {tree : Tree} {path : String} {place : Place}

theorem exists_created (h : tree.filePlace path = .ok place) : ∃ after : Tree,
    (∀ w : World, w.tree = tree → w.create path = (.ok (.place place), { w with tree := after }))
      ∧ (after.node? place = some (.device .errors) → tree.node? place = some (.device .errors)) := by
  by_cases hfile : ∀ device, tree.node? place ≠ some (.device device)
  · refine ⟨tree.setNode place (.file []), ?_, fun herrors => ?_⟩
    · rintro w rfl
      simp only [World.create, h]
    · rw [Tree.node?_setNode (Tree.filePlace_ne_nil h), Function.update_self] at herrors
      cases herrors
  · obtain ⟨device, hdevice⟩ := not_forall_not.1 hfile
    refine ⟨tree, ?_, id⟩
    rintro w rfl
    simp only [World.create, h, hdevice]

/-- What is printed or said where something is written comes behind what there is. -/
theorem exists_written (tree : Tree) (place : Place) (ls : List String) :
    ∃ written after printed shown,
      (∀ w : World, w.tree = tree → w.write (.place place) (Text.ofLines ls)
        = (written, ⟨after, w.printed ++ printed, w.said ++ Text.ofLines shown⟩))
      ∧ (shown = [] ∨ written = .ok () ∧ tree.node? place = some (.device .errors)
        ∧ shown = ls) := by
  have hnothing : ∀ s : String, s ++ Text.ofLines [] = s := fun s => String.append_empty
  rcases hnode : tree.node? place with _ | _ | content | (_ | _ | _ | _ | _)
  case some.device.null =>
    refine ⟨.ok (), tree, "", [], ?_, .inl rfl⟩
    rintro w rfl
    simp only [World.write, hnode, hnothing, String.append_empty]
  case some.device.full =>
    refine ⟨if (Text.ofLines ls).isEmpty then .ok () else .error .noSpace, tree, "", [], ?_,
      .inl rfl⟩
    rintro w rfl
    simp only [World.write, hnode, hnothing, String.append_empty]
  case some.device.output =>
    refine ⟨.ok (), tree, Text.ofLines ls, [], ?_, .inl rfl⟩
    rintro w rfl
    simp only [World.write, hnode, hnothing, World.print]
  case some.device.errors =>
    refine ⟨.ok (), tree, "", ls, ?_, .inr ⟨rfl, rfl, rfl⟩⟩
    rintro w rfl
    simp only [World.write, hnode, String.append_empty, World.say]
  all_goals
    refine ⟨.ok (), tree.setNode place (.file (Text.toBytes (Text.ofLines ls))), "", [], ?_,
      .inl rfl⟩
    rintro w rfl
    simp only [World.write, hnode, hnothing, String.append_empty]

end

/-- How lines are brought to the output depends on the tree alone. What that prints or says comes
behind what there is, and if it says anything it says the lines. -/
theorem exists_delivery (tree : Tree) (output : Option String) (ls : List String) :
    ∃ delivered after printed shown,
      (∀ w : World, w.tree = tree → (deliver World.host output (Text.ofLines ls)).run w
        = (delivered, ⟨after, w.printed ++ printed, w.said ++ Text.ofLines shown⟩))
      ∧ (shown = [] ∨ delivered = .ok () ∧ OnErrors tree output ∧ shown = ls) := by
  have hnothing : ∀ s : String, s ++ Text.ofLines [] = s := fun s => String.append_empty
  rcases output with _ | path
  · refine ⟨.ok (), tree, Text.ofLines ls, [], ?_, .inl rfl⟩
    rintro w rfl
    rw [run_deliver_none, hnothing]
    rfl
  rcases hp : tree.filePlace path with cause | place
  · refine ⟨.error (.create path cause), tree, "", [], ?_, .inl rfl⟩
    rintro w rfl
    rw [run_deliver_of_error hp, hnothing, String.append_empty]
  obtain ⟨opened, hcreate, herrors⟩ := exists_created hp
  obtain ⟨written, after, printed, shown, hwrite, hshown⟩ := exists_written opened place ls
  refine ⟨written.mapError .write, after, printed, shown, fun w hw => ?_, hshown.imp_right ?_⟩
  · rw [run_deliver_some, hcreate w hw]
    simp only [hwrite { w with tree := opened } rfl]
  · rintro ⟨rfl, hdevice, rfl⟩
    exact ⟨rfl, ⟨path, place, rfl, hp, herrors hdevice⟩, rfl⟩

end Delivery

/-- What a run does however much of its log is shown: its exit code, what it leaves and prints, and
what it has to say. That is the log up to the output, what the output itself says, the log after
that, and the report of a failure. -/
structure Course where
  code : ℕ
  tree : Tree
  printed : String
  scanned : List Event
  shown : List String
  finished : List Event
  report : List String

namespace Course

/-- What is said where `n` verbosity marks are given. -/
def lines (c : Course) (n : ℕ) : List String :=
  logLines n c.scanned ++ c.shown ++ logLines n c.finished ++ c.report

def world (c : Course) (n : ℕ) : World where
  tree := c.tree
  printed := c.printed
  said := Text.ofLines (c.lines n)

variable {c : Course} {n m : ℕ}

theorem lines_zero : c.lines 0 = c.shown ++ c.report := by
  rw [lines, logLines_zero, logLines_zero, List.nil_append, List.append_nil]

theorem lines_of_three_le (hn : 3 ≤ n) (hm : 3 ≤ m) : c.lines m = c.lines n := by
  simp only [lines, logLines_of_three_le hn, logLines_of_three_le hm]

theorem lines_sublist (h : n ≤ m) : (c.lines n).Sublist (c.lines m) :=
  (((logLines_sublist h _).append (.refl _)).append (logLines_sublist h _)).append (.refl _)

end Course

/-- The options ask for the same header and output. -/
structure Options.SameRequest (o o' : Options) : Prop where
  sdk : o'.sdk = o.sdk
  header : o'.header = o.header
  output : o'.output = o.output

/-- How a course on `tree` ends for the request of `o`: with the source, which only an output on the
standard error says, or with the report of a failure behind the log. -/
inductive Course.Ends (tree : Tree) (o : Options) : Course → Prop
  | well {after : Tree} {printed : String} {scanned finished : List Event} {shown : List String}
    (r : Registry) : HeaderGives tree o r →
    shown = [] ∨ OnErrors tree o.output ∧ shown = Output.sourceLines Output.defaultComment r →
    Ends tree o ⟨0, after, printed, scanned, shown, finished, []⟩
  | badly {after : Tree} {printed : String} {scanned : List Event} (failure : Failure) :
    Ends tree o ⟨1, after, printed, scanned, [], [], failure.report⟩

theorem Options.SameRequest.survey_eq {o o' : Options} (h : o.SameRequest o') (tree : Tree) :
    survey tree o' = survey tree o := by
  rw [survey, survey, h.sdk, h.header]

section Runs

variable {tree : Tree} {envSdk : Option String} {arguments : List String} {o : Options}

theorem log_of_read (hread : Options.read envSdk arguments = .ok o) (w : World) (es : List Event) :
    w.log o.verbosity es = w.say (Text.ofLines (logLines (marks arguments) es)) := by
  rw [World.log, verbosity_of_read hread, logLines_min]

theorem run_perform_of_survey_error (hread : Options.read envSdk arguments = .ok o)
    {scanned : List Event} {failure : Failure} (hs : survey tree o = ⟨scanned, .error failure⟩) :
    (perform World.host o).run { tree } = (.error failure,
      { tree, said := Text.ofLines (logLines (marks arguments) scanned) }) := by
  rw [run_perform, hs]
  simp only [log_of_read hread, World.say, String.empty_append]

theorem run_perform_of_survey_ok (hread : Options.read envSdk arguments = .ok o)
    {scanned : List Event} {r : Registry} (hs : survey tree o = ⟨scanned, .ok r⟩)
    {delivered : Except Failure Unit} {after : Tree} {printed said : String}
    (hdeliver : ∀ w : World, w.tree = tree →
      (deliver World.host o.output (Output.source Output.defaultComment r)).run w
        = (delivered, ⟨after, w.printed ++ printed, w.said ++ said⟩)) :
    (perform World.host o).run { tree } = (delivered,
      ⟨after, printed, Text.ofLines (logLines (marks arguments) scanned) ++ said
        ++ Text.ofLines (logLines (marks arguments) (Output.finish r delivered).events)⟩) := by
  rw [run_perform, hs]
  simp only [log_of_read hread, World.say]
  rw [hdeliver _ rfl]
  simp only [String.empty_append]

end Runs

/-- All runs on one tree with one request have one course. -/
theorem exists_course (tree : Tree) (o : Options) : ∃ c : Course, c.Ends tree o
    ∧ ∀ {envSdk : Option String} {arguments : List String} {o' : Options},
      Options.read envSdk arguments = .ok o' → o.SameRequest o' →
      runOn tree envSdk arguments = (c.code, c.world (marks arguments)) := by
  rcases hs : survey tree o with ⟨scanned, failure | r⟩
  · refine ⟨⟨1, tree, "", scanned, [], [], failure.report⟩, .badly failure, ?_⟩
    intro envSdk arguments o' hread hsame
    rw [runOn_eq hread, run_perform_of_survey_error hread ((hsame.survey_eq tree).trans hs)]
    refine Prod.ext rfl (World.ext rfl rfl ?_)
    simp only [Course.world, Course.lines, logLines_nil, Text.ofLines_append, List.append_nil]
    rfl
  obtain ⟨delivered, after, printed, shown, hdeliver, hshown⟩ :=
    exists_delivery tree o.output (Output.sourceLines Output.defaultComment r)
  rcases delivered with failure | _
  · obtain rfl : shown = [] := hshown.resolve_right fun h => by cases h.1
    refine ⟨⟨1, after, printed, scanned, [], [], failure.report⟩, .badly failure, ?_⟩
    intro envSdk arguments o' hread hsame
    rw [runOn_eq hread, run_perform_of_survey_ok hread ((hsame.survey_eq tree).trans hs)
      (hsame.output ▸ hdeliver)]
    refine Prod.ext rfl (World.ext rfl rfl ?_)
    simp only [Course.world, Course.lines, Text.ofLines_append]
    rfl
  · refine ⟨⟨0, after, printed, scanned, shown, [.generated r.initializers.size], []⟩,
      .well r (survey_eq_ok_iff.1 (by rw [hs])) (hshown.imp_right And.right), ?_⟩
    intro envSdk arguments o' hread hsame
    rw [runOn_eq hread, run_perform_of_survey_ok hread ((hsame.survey_eq tree).trans hs)
      (hsame.output ▸ hdeliver)]
    refine Prod.ext rfl (World.ext rfl rfl ?_)
    simp only [Course.world, Course.lines, Text.ofLines_append, List.append_nil]
    rfl

/-- Two runs on one tree with one request end with the same exit code, output and files, however
often their verbosity flags are given. The lines on the standard error of the one with fewer marks
are among those of the other, in order, and from three marks on they are the same. Without a mark no
log is there, only the source, if the output is the standard error itself, or the report of a
failure; and that report stands behind the log at any verbosity. -/
theorem runOn_verbosity {tree : Tree} {envSdk envSdk' : Option String}
    {arguments arguments' : List String} {o o' : Options}
    (hread : Options.read envSdk arguments = .ok o)
    (hread' : Options.read envSdk' arguments' = .ok o') (hsame : o.SameRequest o')
    (hle : marks arguments ≤ marks arguments') :
    let run := runOn tree envSdk arguments
    let run' := runOn tree envSdk' arguments'
    run'.1 = run.1 ∧ run'.2.printed = run.2.printed ∧ run'.2.tree = run.2.tree
      ∧ run.2.errorLines.Sublist run'.2.errorLines
      ∧ (3 ≤ marks arguments → run'.2.errorLines = run.2.errorLines)
      ∧ (run.1 = 0 → marks arguments = 0 → run.2.said = "" ∨ OnErrors tree o.output
        ∧ ∃ r, HeaderGives tree o r ∧ run.2.said = Output.source Output.defaultComment r)
      ∧ (run.1 ≠ 0 → ∃ (failure : Failure) (told : List Event),
        run.2.said = Text.ofLines (logLines (marks arguments) told ++ failure.report)
        ∧ run'.2.said = Text.ofLines (logLines (marks arguments') told ++ failure.report)
        ∧ (marks arguments = 0 → run.2.said = Text.ofLines failure.report)) := by
  intro run run'
  obtain ⟨c, hends, hcourse⟩ := exists_course tree o
  rw [show run = _ from hcourse hread ⟨rfl, rfl, rfl⟩, show run' = _ from hcourse hread' hsame]
  refine ⟨rfl, rfl, rfl, Text.lines_sublist (c.lines_sublist hle), fun hthree => ?_,
    fun hzero hquiet => ?_, fun hfailed => ?_⟩
  · exact congrArg (Text.lines <| Text.ofLines ·)
      (Course.lines_of_three_le hthree (hthree.trans hle))
  · rw [hquiet, Course.world, Course.lines_zero]
    rcases hends with ⟨r, hgives, rfl | ⟨herrors, rfl⟩⟩ | failure
    · exact .inl rfl
    · exact .inr ⟨herrors, r, hgives, by rw [List.append_nil]; rfl⟩
    · cases hzero
  · rcases hends with ⟨r, -, -⟩ | @⟨_, _, scanned, failure⟩
    · exact absurd rfl hfailed
    · have hlines : ∀ n, Text.ofLines (logLines n scanned ++ [] ++ logLines n [] ++ failure.report)
          = Text.ofLines (logLines n scanned ++ failure.report) := fun n => by
        rw [logLines_nil, List.append_nil, List.append_nil]
      refine ⟨failure, scanned, hlines _, hlines _, fun hquiet => ?_⟩
      rw [hquiet, Course.world, Course.lines_zero]
      rfl

/-- The header is found, which only the run that is asked for more tells, but it is empty. -/
theorem runOn_verbosity_emptyHeader :
    let tree := Tree.bare.withFile "vk.h" []
    let run := runOn tree none ["--header", "vk.h"]
    let run' := runOn tree none ["-vv", "--header=vk.h", "--verbose", "-v"]
    let report := ["Error: 'vk.h' does not look like vulkan_core.h", "", "Caused by:",
      "    `typedef enum VkStructureType` not found in header"]
    marks ["--header", "vk.h"] = 0 ∧ marks ["-vv", "--header=vk.h", "--verbose", "-v"] = 4
      ∧ run.2.said = Text.ofLines report
      ∧ run'.2.said = Text.ofLines (" INFO vk_initgen::header: loaded header path=vk.h lines=0"
        :: report)
      ∧ run'.1 = run.1 ∧ run'.2.printed = run.2.printed ∧ run'.2.tree = run.2.tree
      ∧ run.2.errorLines.Sublist run'.2.errorLines := by
  intro tree run run' report
  subst run run'
  have hread : Options.read none ["--header", "vk.h"] = .ok { header := some "vk.h" } := by
    decide +kernel
  have hread' : Options.read none ["-vv", "--header=vk.h", "--verbose", "-v"]
      = .ok { header := some "vk.h", verbosity := 4 } := by
    decide +kernel
  have hmarks : marks ["--header", "vk.h"] = 0 := by decide +kernel
  have hmarks' : marks ["-vv", "--header=vk.h", "--verbose", "-v"] = 4 := by decide +kernel
  obtain ⟨hcode, hprinted, htree, hlines, -⟩ :=
    @runOn_verbosity tree _ _ _ _ _ _ hread hread' ⟨rfl, rfl, rfl⟩ (by omega)
  refine ⟨hmarks, hmarks', ?_, ?_, hcode, hprinted, htree, hlines⟩
  · rw [runOn_eq hread]
    decide +kernel
  · rw [runOn_eq hread']
    decide +kernel

end Command

end VulkanPrefill
