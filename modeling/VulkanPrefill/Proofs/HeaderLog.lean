import VulkanPrefill.Proofs.ConstantWalk
import VulkanPrefill.Proofs.Stages
import VulkanPrefill.Proofs.StructWalk
import VulkanPrefill.Proofs.WalkLog

/-!
# The log of a header

Both walks tell which values they replace, and the walk over the constants also tells which of them
have no struct. So the log of an accepted header accounts for every announced struct and for every
constant (`ofLines_log`). A run that fails has told what it had to tell about the lines before the
fault, and nothing else (`Scan.Log`).
-/

namespace VulkanPrefill

namespace Event

/-- The name of the struct that was replaced and the name that replaced it. -/
def structStep? : Event → Option (String × String)
  | structReplaced old new _ => some (old, new)
  | _ => none

/-- The constant that was replaced and the constant that replaced it. -/
def constantStep? : Event → Option (String × String)
  | constantReplaced _ old new => some (old, new)
  | _ => none

def unmatched? : Event → Option String
  | unmatched constant => some constant
  | _ => none

end Event

namespace Scan

section Structs

/-- Whether a line announces a struct, given the line after it. -/
def announces (p : Line × Option Line) : Bool :=
  p.1.declaresStruct && p.2.any (·.namesStructureType)

def announcedName? (p : Line × Option Line) : Option String :=
  if announces p then p.1.word? 2 else none

/-- What is told at a line behind others: that its name replaces the last one with the same key. -/
def structNote (before : List (Line × Option Line)) (p : Line × Option Line) : Option Event :=
  (Table.replaced announcedName? Text.lower before p).map fun s =>
    .structReplaced s.1 s.2 p.1.number

theorem announced?_eq_map (p : Line × Option Line) :
    announced? p = (announcedName? p).map fun name => (Text.lower name, name) := by
  refine Option.ext fun ⟨k, name⟩ => ?_
  simp only [announced?_eq_some_iff, announcedName?, announces, Option.map_eq_some_iff,
    Option.ite_none_right_eq_some, Bool.and_eq_true, Option.any_eq_true, Prod.mk.injEq]
  refine ⟨?_, ?_⟩
  · rintro ⟨hd, ⟨next, hnext, hn⟩, hword, hkey⟩
    exact ⟨name, ⟨⟨hd, next, hnext, hn⟩, hword⟩, hkey, rfl⟩
  · rintro ⟨name', ⟨⟨hd, next, hnext, hn⟩, hword⟩, hkey, rfl⟩
    exact ⟨hd, ⟨next, hnext, hn⟩, hword, hkey⟩

theorem enters_structs : Table.Enters announced? announcedName? Text.lower id := by
  intro p
  rw [announced?_eq_map]
  rcases announcedName? p with _ | name
  · exact .inl ⟨rfl, rfl⟩
  · exact .inr ⟨name, rfl, rfl⟩

theorem enterStruct_eq (before : List (Line × Option Line)) (p : Line × Option Line) :
    enterStruct (before.foldl (Table.enter announced?) .empty) p.1 p.2
      = (structFault? p).elim ⟨(structNote before p).toList,
        .ok ((before ++ [p]).foldl (Table.enter announced?) .empty)⟩ Traced.fail := by
  have hname := announced?_eq_map p
  unfold announced? at hname
  unfold enterStruct structFault? structNote Table.replaced
  rw [List.foldl_concat, Table.enter, announced?]
  rcases h : announcedStruct p.1 p.2 with fault | _ | name <;> rw [h] at hname
  · rfl
  · rw [Option.map_eq_none_iff.1 hname.symm]
    rfl
  · -- The table has the last name with the key, so it is the one that the note speaks of.
    obtain ⟨name', hname', heq⟩ := Option.map_eq_some_iff.1 hname.symm
    obtain ⟨-, rfl⟩ := Prod.mk.inj heq
    have hget := enters_structs.map_get?_foldl (Text.lower name') before
    rw [Option.map_id, id] at hget
    rw [hname', Option.bind_some, ← hget, Option.map_map]
    exact Traced.ext (List.append_nil _) rfl

theorem events_structTable (ls : List Line) : (structTable ls).events
    = told structNote [] ((withNext ls).takeWhile fun p => (structFault? p).isNone) :=
  Traced.events_foldlM (fun before => before.foldl (Table.enter announced?) .empty)
    enterStruct_eq (withNext ls) []

theorem events_structTable_of_sound {ls : List Line} (h : SoundStructs ls) :
    (structTable ls).events = told structNote [] (withNext ls) := by
  rw [soundStructs_iff] at h
  rw [events_structTable, List.takeWhile_eq_self_iff.2 fun p hp => by rw [h p hp]; rfl]

theorem events_structTable_of_fault {ls : List Line} {i : ℕ} {f : ScanFault}
    (h : StructFaultAt ls i f) (hlt : ∀ j < i, ∀ g, ¬ StructFaultAt ls j g) :
    (structTable ls).events = told structNote [] ((withNext ls).take i) := by
  obtain ⟨p, hp, hf⟩ := structFaultAt_iff.1 h
  obtain ⟨hi, rfl⟩ := List.getElem?_eq_some_iff.1 hp
  have hfirst : (withNext ls).findIdx (fun p => !(structFault? p).isNone) = i := by
    refine (List.findIdx_eq hi).2 ⟨by rw [hf]; rfl, fun j hj => ?_⟩
    rcases hg : structFault? (withNext ls)[j] with _ | g
    · rfl
    · exact absurd (structFaultAt_iff.2 ⟨_, List.getElem?_eq_getElem _, hg⟩) (hlt j hj g)
  rw [events_structTable, List.takeWhile_eq_take_findIdx_not, hfirst]

end Structs

section Constants

variable (structs : Table String String)

def matchedConstant? (l : Line) : Option String :=
  (l.word? 0).filter fun c => (structs.get? (Constant.structKey c)).isSome

def unmatchedConstant? (l : Line) : Option String :=
  (l.word? 0).filter fun c => (structs.get? (Constant.structKey c)).isNone

/-- What is told at a line of the block behind others: that its constant has no struct, or that it
replaces the last one with the same key. -/
def constantNote (before : List Line) (l : Line) : Option Event :=
  (l.word? 0).bind fun new =>
    match structs.get? (Constant.structKey new) with
    | none => some (.unmatched new)
    | some name =>
      (Table.recorded (·.word? 0) Constant.structKey (Constant.structKey new) before).getLast?.map
        fun old => .constantReplaced name old new

theorem enters_constants : Table.Enters (matched? structs) (matchedConstant? structs)
    Constant.structKey Initializer.constant := by
  intro l
  unfold matched? matchedConstant?
  rcases l.word? 0 with _ | c
  · exact .inl ⟨rfl, rfl⟩
  · rcases h : structs.get? (Constant.structKey c) with _ | name
    · exact .inl ⟨by simp [h], by simp [h]⟩
    · exact .inr ⟨⟨name, c, Constant.functionName c⟩, by simp [h], by simp [h]⟩

variable {structs}

/-- If a struct has the key, all constants with the key are matched. -/
theorem recorded_matchedConstant? {k name : String} (h : structs.get? k = some name) :
    ∀ block : List Line, Table.recorded (matchedConstant? structs) Constant.structKey k block
      = Table.recorded (·.word? 0) Constant.structKey k block
  | [] => rfl
  | l :: block => by
    rw [Table.recorded_cons, Table.recorded_cons, recorded_matchedConstant? h block]
    congr 2
    unfold matchedConstant?
    rcases l.word? 0 with _ | c
    · rfl
    · by_cases hk : Constant.structKey c = k
      · simp [hk, h, Option.filter]
      · by_cases hm : (structs.get? (Constant.structKey c)).isSome <;> simp [hk, hm, Option.filter]

theorem enterConstant_eq (before : List Line) (l : Line) :
    enterConstant structs (before.foldl (Table.enter (matched? structs)) .empty) l
      = (constantFault? l).elim ⟨(constantNote structs before l).toList,
        .ok ((before ++ [l]).foldl (Table.enter (matched? structs)) .empty)⟩ Traced.fail := by
  unfold enterConstant constantFault? constantNote
  rw [List.foldl_concat, Table.enter, matched?]
  rcases l.word? 0 with _ | c
  · rfl
  · rcases h : structs.get? (Constant.structKey c) with _ | name
    · simp only [h, Option.bind_some]
      rfl
    · have hget := (enters_constants structs).map_get?_foldl (Constant.structKey c) before
      rw [recorded_matchedConstant? h] at hget
      simp only [h, Option.bind_some, ← hget, Option.map_map]
      exact Traced.ext (List.append_nil _) rfl

theorem events_initializerTable (block : List Line) : (initializerTable structs block).events
    = told (constantNote structs) [] (block.takeWhile fun l => (constantFault? l).isNone) :=
  Traced.events_foldlM (fun before => before.foldl (Table.enter (matched? structs)) .empty)
    enterConstant_eq block []

theorem takeWhile_constantFault?_append {xs : List Line} (hxs : ∀ m ∈ xs, m.words ≠ [])
    (ys : List Line) : (xs ++ ys).takeWhile (fun l => (constantFault? l).isNone)
      = xs ++ ys.takeWhile fun l => (constantFault? l).isNone :=
  List.takeWhile_append_of_pos fun m hm => by rw [constantFault?_eq_none_iff.2 (hxs m hm)]; rfl

theorem events_initializerTable_of_words {block : List Line} (h : ∀ l ∈ block, l.words ≠ []) :
    (initializerTable structs block).events = told (constantNote structs) [] block := by
  have hall := takeWhile_constantFault?_append h []
  rw [List.append_nil] at hall
  rw [events_initializerTable, hall, List.takeWhile_nil, List.append_nil]

theorem events_initializerTable_of_fault {xs ys : List Line} {l : Line} (hl : l.words = [])
    (hxs : ∀ m ∈ xs, m.words ≠ []) :
    (initializerTable structs (xs ++ l :: ys)).events = told (constantNote structs) [] xs := by
  have hf : constantFault? l = some (.missingConstantName (l.index + 1)) :=
    constantFault?_eq_some_iff.2 ⟨hl, rfl⟩
  rw [events_initializerTable, takeWhile_constantFault?_append hxs, List.takeWhile_cons, hf]
  exact congrArg _ (List.append_nil xs)

end Constants

section Events

/-- What the walk over the lines `ps` and then the walk over `block` tell. -/
def walksLog (structs : Table String String) (ps : List (Line × Option Line))
    (block : List Line) : List Event :=
  told structNote [] ps ++ told (constantNote structs) [] block

theorem structReplaced_of_mem_told {e : Event} {before ps : List (Line × Option Line)}
    (h : e ∈ told structNote before ps) : ∃ old new n, e = .structReplaced old new n := by
  obtain ⟨xs, p, hp⟩ := exists_of_mem_told h
  obtain ⟨s, -, rfl⟩ := Option.map_eq_some_iff.1 hp
  exact ⟨_, _, _, rfl⟩

theorem eq_of_mem_told_constantNote {structs : Table String String} {e : Event}
    {before block : List Line} (h : e ∈ told (constantNote structs) before block) :
    (∃ c, e = .unmatched c) ∨ ∃ name old new, e = .constantReplaced name old new := by
  obtain ⟨xs, l, hl⟩ := exists_of_mem_told h
  obtain ⟨c, -, hc⟩ := Option.bind_eq_some_iff.1 hl
  rcases hs : structs.get? (Constant.structKey c) with _ | name <;> simp only [hs] at hc
  · exact .inl ⟨c, (Option.some.inj hc).symm⟩
  · obtain ⟨old, -, rfl⟩ := Option.map_eq_some_iff.1 hc
    exact .inr ⟨_, _, _, rfl⟩

theorem crawled_notMem_walksLog (structs : Table String String) (ps : List (Line × Option Line))
    (block : List Line) (a b c : ℕ) : .crawled a b c ∉ walksLog structs ps block := by
  intro h
  rcases List.mem_append.1 h with h | h
  · obtain ⟨_, _, _, h⟩ := structReplaced_of_mem_told h
    cases h
  · rcases eq_of_mem_told_constantNote h with ⟨_, h⟩ | ⟨_, _, _, h⟩ <;> cases h

theorem structSteps_walksLog (structs : Table String String) (ps : List (Line × Option Line))
    (block : List Line) : (walksLog structs ps block).filterMap Event.structStep?
      = told (Table.replaced announcedName? Text.lower) [] ps := by
  have hconstants : (told (constantNote structs) [] block).filterMap Event.structStep? = [] := by
    refine List.filterMap_eq_nil_iff.2 fun e he => ?_
    rcases eq_of_mem_told_constantNote he with ⟨_, rfl⟩ | ⟨_, _, _, rfl⟩ <;> rfl
  rw [walksLog, List.filterMap_append, hconstants, List.append_nil, filterMap_told]
  congr 1
  funext before p
  unfold structNote
  rcases Table.replaced announcedName? Text.lower before p with _ | s <;> rfl

theorem constantSteps_walksLog (structs : Table String String) (ps : List (Line × Option Line))
    (block : List Line) : (walksLog structs ps block).filterMap Event.constantStep?
      = told (Table.replaced (matchedConstant? structs) Constant.structKey) [] block := by
  have hstructs : (told structNote [] ps).filterMap Event.constantStep? = [] := by
    refine List.filterMap_eq_nil_iff.2 fun e he => ?_
    obtain ⟨_, _, _, rfl⟩ := structReplaced_of_mem_told he
    rfl
  rw [walksLog, List.filterMap_append, hstructs, List.nil_append, filterMap_told]
  congr 1
  funext before l
  unfold constantNote Table.replaced
  rcases hw : l.word? 0 with _ | c
  · have hm : matchedConstant? structs l = none := by simp [matchedConstant?, hw]
    rw [hm]
    rfl
  rcases h : structs.get? (Constant.structKey c) with _ | name
  · have hm : matchedConstant? structs l = none := by simp [matchedConstant?, hw, h]
    simp only [hm, h, Option.bind_some]
    rfl
  · have hm : matchedConstant? structs l = some c := by simp [matchedConstant?, hw, h]
    have hstep : ∀ old? : Option String,
        (old?.map fun old => Event.constantReplaced name old c).bind Event.constantStep?
          = old?.map fun old => (old, c) := by
      rintro (_ | old) <;> rfl
    simp only [hm, h, Option.bind_some, recorded_matchedConstant? h]
    exact hstep _

theorem unmatched_walksLog (structs : Table String String) (ps : List (Line × Option Line))
    (block : List Line) : (walksLog structs ps block).filterMap Event.unmatched?
      = block.filterMap (unmatchedConstant? structs) := by
  have hstructs : (told structNote [] ps).filterMap Event.unmatched? = [] := by
    refine List.filterMap_eq_nil_iff.2 fun e he => ?_
    obtain ⟨_, _, _, rfl⟩ := structReplaced_of_mem_told he
    rfl
  rw [walksLog, List.filterMap_append, hstructs, List.nil_append, filterMap_told,
    ← told_const (unmatchedConstant? structs) []]
  congr 1
  funext before l
  unfold constantNote unmatchedConstant?
  rcases l.word? 0 with _ | c
  · rfl
  rcases h : structs.get? (Constant.structKey c) with _ | name
  · simp only [h, Option.bind_some, Option.filter_some]
    rfl
  · have hnone : ∀ old? : Option String,
        (old?.map fun old => Event.constantReplaced name old c).bind Event.unmatched? = none := by
      rintro (_ | old) <;> rfl
    simp only [h, Option.bind_some, Option.filter_some]
    exact hnone _

/-- Without a fault every announced struct has a name. -/
theorem countP_announces {ls : List Line} (h : SoundStructs ls) :
    (withNext ls).countP announces = ((withNext ls).filterMap announcedName?).length := by
  rw [soundStructs_iff] at h
  rw [List.length_filterMap_eq_countP]
  refine List.countP_congr fun p hp => ?_
  have hfault := h p hp
  unfold structFault? announcedStruct at hfault
  unfold announcedName? announces
  rcases p with ⟨l, _ | next⟩
  · simp
  · by_cases hd : l.declaresStruct = true <;> by_cases hn : next.namesStructureType = true
    · rcases hw : l.word? 2 with _ | name
      · simp [hd, hn, hw] at hfault
      · simp [hd, hn]
    all_goals simp [hd, hn]

theorem length_block (structs : Table String String) : ∀ {block : List Line},
    (∀ l ∈ block, l.words ≠ []) → block.length
      = (block.filterMap (matchedConstant? structs)).length
        + (block.filterMap (unmatchedConstant? structs)).length
  | [], _ => rfl
  | l :: block, h => by
    obtain ⟨hl, h⟩ := List.forall_mem_cons.1 h
    have ih := length_block structs h
    obtain ⟨c, hc⟩ : ∃ c, l.word? 0 = some c := by
      refine Option.ne_none_iff_exists'.1 fun hnone => hl ?_
      exact List.length_eq_zero_iff.1 (Nat.le_zero.1 (List.getElem?_eq_none_iff.1 hnone))
    rw [List.filterMap_cons, List.filterMap_cons, List.length_cons, ih]
    unfold matchedConstant? unmatchedConstant?
    rw [hc, Option.filter_some, Option.filter_some]
    rcases structs.get? (Constant.structKey c) with _ | name
    · exact Nat.add_assoc _ _ _
    · exact Nat.add_right_comm _ _ _

end Events

/-- What has been told about `ls`, for each way in which building the registry can end. -/
inductive Log (ls : List Line) : Except ScanFault Registry → List Event → Prop
  | badStruct {i : ℕ} {f : ScanFault} : StructFaultAt ls i f →
    (∀ j < i, ∀ g, ¬ StructFaultAt ls j g) →
    Log ls (.error f) (told structNote [] ((withNext ls).take i))
  | noEnum : SoundStructs ls → (∀ l ∈ ls, l.declaresEnum = false) →
    Log ls (.error .enumNotFound) (told structNote [] (withNext ls))
  | openEnum (e : DeclaredEnum ls) : SoundStructs ls → (∀ l ∈ e.rest, l.endsEnum = false) →
    Log ls (.error (.unterminatedEnum (e.before.length + 1))) (told structNote [] (withNext ls))
  | noConstant (p : EnumParts ls) {structs : Table String String} {xs : List Line} {l : Line}
    {ys : List Line} : (structTable ls).result = .ok structs → p.block = xs ++ l :: ys →
    l.words = [] → (∀ m ∈ xs, m.words ≠ []) →
    Log ls (.error (.missingConstantName (l.index + 1))) (walksLog structs (withNext ls) xs)
  | accepted (p : EnumParts ls) {r : Registry} : (structTable ls).result = .ok r.structs →
    (initializerTable r.structs p.block).result = .ok r.initializers →
    Log ls (.ok r) (walksLog r.structs (withNext ls) p.block
      ++ [.crawled r.structs.size p.block.length r.initializers.size])

end Scan

open Scan

theorem Scan.Log.crawled_notMem {ls : List Line} {f : ScanFault} {es : List Event}
    (h : Log ls (.error f) es) (a b c : ℕ) : .crawled a b c ∉ es := by
  have hstructs : ∀ ps, .crawled a b c ∉ told structNote [] ps := fun ps hmem =>
    crawled_notMem_walksLog .empty ps [] a b c (List.mem_append_left _ hmem)
  cases h with
  | badStruct => exact hstructs _
  | noEnum => exact hstructs _
  | openEnum => exact hstructs _
  | noConstant => exact crawled_notMem_walksLog _ _ _ a b c

theorem Registry.log_ofLines (ls : List Line) : Log ls (ofLines ls).result (ofLines ls).events := by
  unfold ofLines
  rcases hs : (structTable ls).result with f | structs
  · obtain ⟨i, hi, hlt⟩ := structTable_error_iff.1 hs
    rw [Traced.bind_of_error hs, events_structTable_of_fault hi hlt]
    exact .badStruct hi hlt
  have hsound := (structTable_ok_iff.1 hs).1
  rw [Traced.bind_of_ok hs, events_structTable_of_sound hsound]
  rcases hd : enumDeclaration ls with f | d
  · obtain ⟨rfl, hno⟩ := enumDeclaration_error_iff.1 hd
    rw [Traced.bind_of_error rfl, Traced.ofExcept, List.append_nil]
    exact .noEnum hsound hno
  obtain ⟨e, rfl⟩ := enumDeclaration_ok_iff.1 hd
  rw [Traced.bind_of_ok rfl]
  rcases hb : enumBlock ls e.before.length with f | block
  · obtain ⟨rfl, hno⟩ := (enumBlock_error_iff e).1 hb
    rw [Traced.bind_of_error rfl]
    simp only [Traced.ofExcept, List.append_nil]
    exact .openEnum e hsound hno
  obtain ⟨p, hp, rfl⟩ := enumBlock_ok_iff.1 ⟨hd, hb⟩
  rw [Traced.bind_of_ok rfl]
  rcases hi : (initializerTable structs p.block).result with f | initializers
  · obtain ⟨xs, l, ys, hblock, hl, rfl, hxs⟩ := initializerTable_error_iff.1 hi
    rw [Traced.bind_of_error hi, hblock, events_initializerTable_of_fault hl hxs]
    simp only [Traced.ofExcept, List.nil_append]
    exact .noConstant p hs hblock hl hxs
  · rw [Traced.bind_of_ok hi, events_initializerTable_of_words (initializerTable_ok_iff.1 hi).1]
    simp only [Traced.ofExcept, List.nil_append]
    have hr := Log.accepted p (r := ⟨structs, initializers⟩) hs hi
    rwa [walksLog, List.append_assoc] at hr

/-- The events `es` account for all structs that `ls` announces and all constants of its block: each
is in its table of `r`, was replaced, or had no struct. For each key the replacements lead from what
was recorded first to what is in the table. -/
structure Accounts (ls : List Line) (p : EnumParts ls) (r : Registry) (es : List Event) : Prop where
  announcing : (withNext ls).countP announces
    = r.structs.size + (es.filterMap Event.structStep?).length
  constants : p.block.length = r.initializers.size + (es.filterMap Event.constantStep?).length
    + (es.filterMap Event.unmatched?).length
  last : ∃ xs, es = xs ++ [.crawled r.structs.size p.block.length r.initializers.size]
    ∧ ∀ a b c, .crawled a b c ∉ xs
  structChain : ∀ k name, r.structs.get? k = some name →
    Chain (Table.recorded announcedName? Text.lower k (withNext ls)) name
      ((es.filterMap Event.structStep?).filter (Text.lower ·.2 = k))
  constantChain : ∀ k i, r.initializers.get? k = some i →
    Chain (Table.recorded (·.word? 0) Constant.structKey k p.block) i.constant
      ((es.filterMap Event.constantStep?).filter (Constant.structKey ·.2 = k))

theorem filterMap_concat_crawled {γ : Type} (g : Event → Option γ) {a b c : ℕ}
    (hg : g (.crawled a b c) = none) (es : List Event) :
    (es ++ [Event.crawled a b c]).filterMap g = es.filterMap g := by
  rw [List.filterMap_append, List.filterMap_cons_none hg]
  exact List.append_nil _

theorem accounts_of_accepted {ls : List Line} {p : EnumParts ls} {r : Registry}
    (hs : (structTable ls).result = .ok r.structs)
    (hi : (initializerTable r.structs p.block).result = .ok r.initializers) :
    Accounts ls p r (walksLog r.structs (withNext ls) p.block
      ++ [.crawled r.structs.size p.block.length r.initializers.size]) := by
  obtain ⟨hsound, hstructs⟩ := structTable_ok_iff.1 hs
  obtain ⟨hwords, hinitializers⟩ := initializerTable_ok_iff.1 hi
  refine ⟨?_, ?_, ⟨_, rfl, crawled_notMem_walksLog r.structs _ _⟩, fun k name hk => ?_,
    fun k i hk => ?_⟩
  · rw [filterMap_concat_crawled Event.structStep? rfl, structSteps_walksLog,
      countP_announces hsound, hstructs]
    exact enters_structs.length_filterMap _
  · rw [filterMap_concat_crawled Event.constantStep? rfl, constantSteps_walksLog,
      filterMap_concat_crawled Event.unmatched? rfl, unmatched_walksLog, hinitializers,
      length_block r.structs hwords, (enters_constants r.structs).length_filterMap]
  · rw [filterMap_concat_crawled Event.structStep? rfl, structSteps_walksLog]
    rw [hstructs] at hk
    exact enters_structs.chain_replaced hk
  · obtain ⟨l, -, hl⟩ := (initializerTable_collects hi).exists_pair hk
    obtain ⟨-, -, hget, -⟩ := matched?_eq_some_iff.1 hl
    rw [filterMap_concat_crawled Event.constantStep? rfl, constantSteps_walksLog,
      ← recorded_matchedConstant? hget]
    rw [hinitializers] at hk
    exact (enters_constants r.structs).chain_replaced hk

/-- The log of an accepted header accounts for its structs and constants. A failed run does not say
that the header was crawled, and has told just what the lines before the fault gave it to tell. -/
theorem ofLines_log :
    (∀ (ls : List Line) (r : Registry), (Registry.ofLines ls).result = .ok r →
      ∃ p : EnumParts ls, Accounts ls p r (Registry.ofLines ls).events)
    ∧ ∀ (ls : List Line) (f : ScanFault), (Registry.ofLines ls).result = .error f →
      (∀ a b c, .crawled a b c ∉ (Registry.ofLines ls).events)
        ∧ Log ls (.error f) (Registry.ofLines ls).events := by
  refine ⟨fun ls r h => ?_, fun ls f h => ?_⟩
  · have hlog := Registry.log_ofLines ls
    rw [h] at hlog
    generalize (Registry.ofLines ls).events = es at hlog ⊢
    cases hlog with
    | accepted p hs hi => exact ⟨p, accounts_of_accepted hs hi⟩
  · have hlog := Registry.log_ofLines ls
    rw [h] at hlog
    exact ⟨hlog.crawled_notMem, hlog⟩

/-- One struct under three names and with three constants, and a constant without a struct. -/
def repeatedNames : List Line := [
  ⟨0, "typedef struct VkA"⟩, ⟨1, "VkStructureType"⟩, ⟨2, "typedef struct VKA"⟩,
  ⟨3, "VkStructureType"⟩, ⟨4, "typedef struct Vka"⟩, ⟨5, "VkStructureType"⟩,
  ⟨6, "typedef enum VkStructureType"⟩, ⟨7, "___A"⟩, ⟨8, "___B"⟩, ⟨9, "___a"⟩, ⟨10, "____a"⟩,
  ⟨11, ";"⟩]

/-- The same with a line of the block left empty. -/
def repeatedNamesBroken : List Line :=
  repeatedNames.set 10 ⟨10, ""⟩

theorem ofLines_log_repeatedNames :
    ((Registry.ofLines repeatedNames).events
        = [.structReplaced "VkA" "VKA" 3, .structReplaced "VKA" "Vka" 5, .unmatched "___B",
          .constantReplaced "Vka" "___A" "___a", .constantReplaced "Vka" "___a" "____a",
          .crawled 1 4 1]
      ∧ ∃ r, (Registry.ofLines repeatedNames).result = .ok r
        ∧ ∃ p, Accounts repeatedNames p r (Registry.ofLines repeatedNames).events)
    ∧ (Registry.ofLines repeatedNamesBroken).events
        = [.structReplaced "VkA" "VKA" 3, .structReplaced "VKA" "Vka" 5, .unmatched "___B",
          .constantReplaced "Vka" "___A" "___a"]
      ∧ (Registry.ofLines repeatedNamesBroken).result = .error (.missingConstantName 11)
      ∧ Log repeatedNamesBroken (.error (.missingConstantName 11))
        (Registry.ofLines repeatedNamesBroken).events := by
  have hrun : (Registry.ofLines repeatedNames).result.toOption.map (·.initializers.entries)
      = some [("vka", ⟨"Vka", "____a", "____a"⟩)] := by
    decide +kernel
  obtain ⟨r, hr, -⟩ := Registry.exists_of_entries hrun
  have hbroken : (Registry.ofLines repeatedNamesBroken).result.map (fun _ => ())
      = .error (.missingConstantName 11) := by
    decide +kernel
  have hf : (Registry.ofLines repeatedNamesBroken).result = .error (.missingConstantName 11) := by
    rcases hres : (Registry.ofLines repeatedNamesBroken).result with f | r <;> rw [hres] at hbroken
    · rw [Except.error.inj hbroken]
    · cases hbroken
  exact ⟨⟨by decide +kernel, r, hr, ofLines_log.1 _ r hr⟩, by decide +kernel, hf,
    (ofLines_log.2 _ _ hf).2⟩

end VulkanPrefill
