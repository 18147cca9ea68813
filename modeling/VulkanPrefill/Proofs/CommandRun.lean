import VulkanPrefill.Command.World
import VulkanPrefill.Proofs.Delivery
import VulkanPrefill.Proofs.Stages
import VulkanPrefill.Proofs.TracedResult
import VulkanPrefill.Proofs.TreeFiles

/-!
# What a run leaves behind

A run reads the header and builds the registry before it opens its output, so a run that fails has
changed no file and printed nothing. One that ends well has put the generated source, and nothing
else, on the standard output or into one file (`runOn_agrees`).
-/

namespace VulkanPrefill.Command

variable {tree : Tree} {envSdk : Option String} {arguments : List String} {o : Options}
  {r : Registry} {w : World} {failure : Failure} {path : String} {place : Place}

/-! ## Before the output is opened -/

/-- The header that the options name, outright or by an SDK root, can be read, and what it says is
a text whose lines have the registry `r`. -/
def HeaderGives (tree : Tree) (o : Options) (r : Registry) : Prop :=
  ∃ path bytes text,
    (o.header = some path
      ∨ o.header = none ∧ ∃ root, o.sdk = some root ∧ path = Header.below root Header.sdkPath)
    ∧ tree.read path = .ok bytes ∧ Text.ofBytes? bytes = some text
    ∧ (Registry.ofLines (Line.ofText text)).result = .ok r

/-- The scan of the header that the options name. -/
def survey (tree : Tree) (o : Options) : Traced Failure Registry :=
  match Header.locate o.header o.sdk with
  | .error fault => Traced.fail (.header fault)
  | .ok path => scan path (tree.read path)

theorem locate_eq_ok_iff {header sdk : Option String} :
    Header.locate header sdk = .ok path ↔ header = some path
      ∨ header = none ∧ ∃ root, sdk = some root ∧ path = Header.below root Header.sdkPath := by
  rcases header with _ | header
  · rcases sdk with _ | root
    · simp [Header.locate]
    · simp [Header.locate, eq_comm]
  · simp [Header.locate]

theorem lines_eq_ok_iff {content : Except Cause (List UInt8)} {ls : List Line} :
    (Header.lines path content).result = .ok ls ↔ ∃ bytes text, content = .ok bytes
      ∧ Text.ofBytes? bytes = some text ∧ Line.ofText text = ls := by
  unfold Header.lines
  rcases content with cause | bytes
  · simp
  · rcases ht : Text.ofBytes? bytes with _ | text <;> simp [ht, Except.map]

theorem scan_eq_ok_iff {content : Except Cause (List UInt8)} :
    (scan path content).result = .ok r ↔ ∃ bytes text, content = .ok bytes
      ∧ Text.ofBytes? bytes = some text ∧ (Registry.ofLines (Line.ofText text)).result = .ok r := by
  unfold scan
  simp only [Traced.result_bind_eq_ok_iff, Traced.result_mapFault_eq_ok_iff, lines_eq_ok_iff]
  constructor
  · rintro ⟨ls, ⟨bytes, text, hbytes, htext, rfl⟩, hr⟩
    exact ⟨bytes, text, hbytes, htext, hr⟩
  · rintro ⟨bytes, text, hbytes, htext, hr⟩
    exact ⟨_, ⟨bytes, text, hbytes, htext, rfl⟩, hr⟩

theorem survey_eq_ok_iff : (survey tree o).result = .ok r ↔ HeaderGives tree o r := by
  unfold survey HeaderGives
  simp only [← locate_eq_ok_iff]
  rcases Header.locate o.header o.sdk with fault | path
  · simp
  · simp [scan_eq_ok_iff]

/-! ## Runs -/

theorem run_read (path : String) (w : World) :
    (World.host.read path).run w = pure (w.tree.read path, w) := rfl

theorem run_create (path : String) (w : World) :
    (World.host.create path).run w = pure (w.create path) := rfl

theorem run_say (ls : List String) (w : World) :
    (say World.host ls).run w = pure ((), w.say (Text.ofLines ls)) := rfl

theorem run_deliver_none (text : String) (w : World) :
    (deliver World.host none text).run w = (.ok (), w.print text) := rfl

theorem run_deliver_some (path text : String) (w : World) :
    (deliver World.host (some path) text).run w = match w.create path with
      | (.error cause, w) => (.error (.create path cause), w)
      | (.ok target, w) =>
        let (written, w) := w.write target text
        (written.mapError .write, w) := by
  simp only [deliver, openOutput, StateT.run_bind, run_create, pure_bind]
  rcases w.create path with ⟨cause | target, w⟩ <;> rfl

theorem run_deliver_of_error {cause : Cause} (h : w.tree.filePlace path = .error cause)
    (text : String) :
    (deliver World.host (some path) text).run w = (.error (.create path cause), w) := by
  rw [run_deliver_some, World.create, h]

/-- The file is emptied first, and the text is all that it then gets. -/
theorem run_deliver_of_ok (h : w.tree.filePlace path = .ok place)
    (hfile : ∀ device, w.tree.node? place ≠ some (.device device)) (text : String) :
    ∃ tree, (deliver World.host (some path) text).run w = (.ok (), { w with tree })
      ∧ tree.HasPut w.tree place (Text.toBytes text) := by
  have hplace : place ≠ [] := Tree.filePlace_ne_nil h
  have hempty := Tree.setNode_hasPut (t := w.tree) hplace []
  have hcreate : w.create path
      = (.ok (.place place), { w with tree := w.tree.setNode place (.file []) }) := by
    -- `hfile` leaves out the one case in which nothing is put.
    simp only [World.create, h]
  have hnode : (w.tree.setNode place (.file [])).node? place = some (.file []) := by
    rw [hempty.node?, Function.update_self]
  refine ⟨_, ?_, hempty.setNode hplace (Text.toBytes text)⟩
  rw [run_deliver_some, hcreate]
  simp only [World.write, hnode]
  rfl

/-- The world in which the log lines of these events have been said. -/
def World.log (w : World) (verbosity : Nat) (events : List Event) : World :=
  w.say (Text.ofLines (logLines verbosity events))

theorem run_perform (o : Options) (w : World) :
    (perform World.host o).run w = match survey w.tree o with
      | ⟨events, .error failure⟩ => (.error failure, w.log o.verbosity events)
      | ⟨events, .ok r⟩ =>
        let (delivered, w) := (deliver World.host o.output
          (Output.source Output.defaultComment r)).run (w.log o.verbosity events)
        (delivered, w.log o.verbosity (Output.finish r delivered).events) := by
  unfold perform survey
  rcases Header.locate o.header o.sdk with fault | path
  · refine Prod.ext rfl (World.ext rfl rfl ?_)
    exact String.append_empty.symm
  · simp only [StateT.run_bind, run_read, run_say, pure_bind, Output.result_finish]
    rcases scan path (w.tree.read path) with ⟨events, failure | r⟩ <;> rfl

theorem runOn_eq (h : Options.read envSdk arguments = .ok o) :
    runOn tree envSdk arguments = match (perform World.host o).run { tree } with
      | (.error failure, w) => (1, w.say (Text.ofLines failure.report))
      | (.ok (), w) => (0, w) := by
  simp only [runOn, execute, h, StateT.run_bind]
  rcases (perform World.host o).run { tree } with ⟨failure | _, w⟩ <;> rfl

section

variable (hread : Options.read envSdk arguments = .ok o)
include hread

theorem runOn_of_survey_error (h : (survey tree o).result = .error failure) :
    ∃ said, runOn tree envSdk arguments = (1, { tree, said }) := by
  rw [runOn_eq hread, run_perform]
  rcases hs : survey tree o with ⟨events, result⟩
  obtain rfl : result = .error failure := by rw [← h, hs]
  exact ⟨_, rfl⟩

/-- A run that has a registry ends as bringing the source to the output does. -/
theorem runOn_of_survey_ok (h : (survey tree o).result = .ok r) :
    ∃ said, ∀ delivered w,
      (deliver World.host o.output (Output.source Output.defaultComment r)).run { tree, said }
        = (delivered, w) →
      ∃ said', runOn tree envSdk arguments
        = (match delivered with | .ok () => 0 | .error _ => 1, { w with said := said' }) := by
  rcases hs : survey tree o with ⟨events, result⟩
  obtain rfl : result = .ok r := by rw [← h, hs]
  refine ⟨(World.log { tree } o.verbosity events).said, fun delivered w hd => ?_⟩
  change (deliver World.host _ _).run (World.log { tree } o.verbosity events) = _ at hd
  rw [runOn_eq hread, run_perform]
  simp only [hs, hd]
  rcases delivered with failure | _ <;> exact ⟨_, rfl⟩

end

/-- The output is not a device: it is a file, or there is nothing there yet. -/
def PlainOutput (tree : Tree) (o : Options) : Prop :=
  ∀ path place device, o.output = some path → tree.filePlace path = .ok place →
    tree.node? place ≠ some (.device device)

/-- With a registry a run fails only if the file it is to write cannot be made, and otherwise
leaves the source on the standard output or in that file. -/
theorem runOn_cases (hread : Options.read envSdk arguments = .ok o)
    (hplain : PlainOutput tree o) (h : (survey tree o).result = .ok r) :
    (o.output = none ∧ ∃ said, runOn tree envSdk arguments
        = (0, { tree, said, printed := Output.source Output.defaultComment r }))
    ∨ (∃ path cause, o.output = some path ∧ tree.filePlace path = .error cause
        ∧ ∃ said, runOn tree envSdk arguments = (1, { tree, said }))
    ∨ ∃ path place after, o.output = some path ∧ tree.filePlace path = .ok place
        ∧ after.HasPut tree place (Text.toBytes (Output.source Output.defaultComment r))
        ∧ ∃ said, runOn tree envSdk arguments = (0, { tree := after, said }) := by
  obtain ⟨said, hrun⟩ := runOn_of_survey_ok hread h
  rcases ho : o.output with _ | path <;> rw [ho] at hrun
  · obtain ⟨said', hrun⟩ := hrun _ _ (run_deliver_none _ _)
    exact .inl ⟨rfl, said', by rw [hrun, World.print, String.empty_append]⟩
  · rcases hp : tree.filePlace path with cause | place
    · have hd := run_deliver_of_error (w := { tree, said }) hp
        (Output.source Output.defaultComment r)
      exact .inr (.inl ⟨path, cause, rfl, hp, hrun _ _ hd⟩)
    · obtain ⟨after, hd, hput⟩ := run_deliver_of_ok (w := { tree, said }) hp
        (hplain path place · ho hp) (Output.source Output.defaultComment r)
      exact .inr (.inr ⟨path, place, after, rfl, hp, hput, hrun _ _ hd⟩)

/-- A run ends well exactly if the header gives a registry and the file to write, if there is to be
one, can be made. Its output is what the registry generates without a limit, which goes to the
standard output or becomes all that is in the file, whatever was there before, and no other file
changes. A run that fails prints nothing and leaves the tree as it was. -/
theorem runOn_agrees (hread : Options.read envSdk arguments = .ok o)
    (hplain : PlainOutput tree o) :
    let run := runOn tree envSdk arguments
    (run.1 = 0 ↔ (∃ r, HeaderGives tree o r)
        ∧ ∀ path, o.output = some path → ∃ place, tree.filePlace path = .ok place)
      ∧ (run.1 = 0 → ∀ r, HeaderGives tree o r →
        let bytes := (Output.generate Output.defaultComment r {}).2.taken
        (o.output = none → Text.toBytes run.2.printed = bytes ∧ run.2.tree = tree)
          ∧ ∀ path, o.output = some path → ∃ place, tree.filePlace path = .ok place
            ∧ run.2.tree.HasPut tree place bytes ∧ run.2.tree.read path = .ok bytes
            ∧ run.2.printed = "")
      ∧ (run.1 ≠ 0 → run.1 = 1 ∧ run.2.printed = "" ∧ run.2.tree = tree) := by
  intro run
  rcases hs : (survey tree o).result with failure | r
  · -- There is no registry.
    obtain ⟨said, hrun⟩ := runOn_of_survey_error hread hs
    have hnone : ¬ ∃ r, HeaderGives tree o r := by
      rintro ⟨r, hr⟩
      rw [survey_eq_ok_iff.2 hr] at hs
      cases hs
    rw [show run = _ from hrun]
    exact ⟨⟨nofun, fun h => absurd h.1 hnone⟩, nofun, fun _ => ⟨rfl, rfl, rfl⟩⟩
  have hgives : HeaderGives tree o r := survey_eq_ok_iff.1 hs
  have hunique : ∀ {r'}, HeaderGives tree o r' → r' = r := fun hr' =>
    Except.ok.inj ((survey_eq_ok_iff.2 hr').symm.trans hs)
  obtain ⟨ho, said, hrun⟩ | ⟨path, cause, ho, hp, said, hrun⟩
      | ⟨path, place, after, ho, hp, hput, said, hrun⟩ := runOn_cases hread hplain hs
    <;> rw [show run = _ from hrun, ho]
  · -- The source is printed.
    refine ⟨⟨fun _ => ⟨⟨r, hgives⟩, nofun⟩, fun _ => rfl⟩, fun _ r' hr' => ?_, nofun⟩
    obtain rfl := hunique hr'
    exact ⟨fun _ => ⟨(Output.taken_generate _ _).symm, rfl⟩, nofun⟩
  · -- The file cannot be made.
    refine ⟨⟨nofun, fun ⟨_, h⟩ => ?_⟩, nofun, fun _ => ⟨rfl, rfl, rfl⟩⟩
    obtain ⟨place, hplace⟩ := h path rfl
    cases hp.symm.trans hplace
  · -- The source is in the file.
    refine ⟨⟨fun _ => ⟨⟨r, hgives⟩, ?_⟩, fun _ => rfl⟩, fun _ r' hr' => ?_, nofun⟩
    · rintro _ ⟨⟩
      exact ⟨place, hp⟩
    · obtain rfl := hunique hr'
      refine ⟨nofun, ?_⟩
      rintro _ ⟨⟩
      rw [Output.taken_generate]
      exact ⟨place, hp, hput, hput.read hp, rfl⟩

/-- A header with one struct. -/
def oneStruct : String :=
  Text.ofLines ["typedef struct VkA", "VkStructureType s;", "typedef enum VkStructureType",
    "VK_STRUCTURE_TYPE_A", ";"]

/-- The header is where a run starts. -/
def overwritten : Tree :=
  Tree.bare.withFile "vk.h" (Text.toBytes oneStruct)

/-- Options whose output is the header. -/
def overwriting : Options where
  header := some "vk.h"
  output := some "./vk.h"

/-- The header is read to its end before its file is emptied, whatever path the output has. -/
theorem runOn_agrees_overwritten :
    (runOn overwritten none ["--header=vk.h", "-o", "./vk.h"]).1 = 0
      ∧ (runOn overwritten none ["--header=vk.h", "-o", "./vk.h"]).2.printed = ""
      ∧ ∃ r, HeaderGives overwritten overwriting r
        ∧ (runOn overwritten none ["--header=vk.h", "-o", "./vk.h"]).2.tree.read "vk.h"
          = .ok (Output.generate Output.defaultComment r {}).2.taken := by
  have hread : Options.read none ["--header=vk.h", "-o", "./vk.h"] = .ok overwriting := by
    decide +kernel
  have hplace : overwritten.filePlace "./vk.h" = .ok ["vk.h", "work", "tmp"] := by decide +kernel
  have hnode : overwritten.node? ["vk.h", "work", "tmp"]
      = some (.file (Text.toBytes oneStruct)) := by decide +kernel
  have hplain : PlainOutput overwritten overwriting := by
    rintro _ place device ⟨⟩ hp
    obtain rfl := Except.ok.inj (hplace.symm.trans hp)
    rw [hnode]
    nofun
  have hlines : (Registry.ofLines (Line.ofText oneStruct)).result.toOption.map
      (·.initializers.entries) = some [("vka", ⟨"VkA", "VK_STRUCTURE_TYPE_A", "vk_a"⟩)] := by
    decide +kernel
  obtain ⟨r, hr⟩ : ∃ r, HeaderGives overwritten overwriting r := by
    obtain ⟨r, hr, -⟩ := Registry.exists_of_entries hlines
    exact ⟨r, "vk.h", _, _, .inl rfl, by decide +kernel, Text.ofBytes?_eq_some_iff.2 rfl, hr⟩
  obtain ⟨hzero, hdone, -⟩ := runOn_agrees hread hplain
  have hexit := hzero.2 ⟨⟨r, hr⟩, by rintro _ ⟨⟩; exact ⟨_, hplace⟩⟩
  obtain ⟨place, hp, hput, -, hprinted⟩ := (hdone hexit r hr).2 "./vk.h" rfl
  obtain rfl := Except.ok.inj (hplace.symm.trans hp)
  exact ⟨hexit, hprinted, r, hr, hput.read (by decide +kernel)⟩

end VulkanPrefill.Command
