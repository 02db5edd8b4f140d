/-
# LeakRecorder.Proofs.Tagging — what a resolution tells the runtime

Between entering the VM state and leaving it, a resolution only tags and asks: the
world, the unloaded classes and the count of transitions stay as they are
(`Runtime.Undisturbed`). What the journal tells of methods or of classes is read off
it through one filter each (`Runtime.told`), and entering and leaving tell nothing
(`Runtime.Quiet.told_within`).

Methods are tagged frame by frame, but a method that has been met is passed over.
So over any frames, however often a method occurs in them, a method's count of tags
grows by one if the method has been met for the first time and its holder is not
unloaded, and not at all otherwise (`Resolution.Tags`, `Resolution.tags_tagFrames`).
-/
import LeakRecorder.Proofs.Resolving

set_option autoImplicit false

namespace LeakRecorder

namespace Runtime

/-- Nothing but tags and questions has been logged in between. -/
structure Undisturbed (before after : Runtime) : Prop where
  scopes : after.scopes = before.scopes
  atSafepoint : after.atSafepoint = before.atSafepoint
  locked : after.locked = before.locked
  unloaded : after.unloaded = before.unloaded
  entries : after.entries = before.entries
  exits : after.exits = before.exits

theorem Undisturbed.refl (runtime : Runtime) : runtime.Undisturbed runtime :=
  ⟨rfl, rfl, rfl, rfl, rfl, rfl⟩

theorem Undisturbed.trans {before mid after : Runtime} (first : before.Undisturbed mid)
    (second : mid.Undisturbed after) : before.Undisturbed after where
  scopes := second.scopes.trans first.scopes
  atSafepoint := second.atSafepoint.trans first.atSafepoint
  locked := second.locked.trans first.locked
  unloaded := second.unloaded.trans first.unloaded
  entries := second.entries.trans first.entries
  exits := second.exits.trans first.exits

section Log

variable (runtime : Runtime)

theorem toList_journal_log (call : RuntimeCall) :
    (runtime.log call).journal.toList = runtime.journal.toList ++ [call] :=
  Array.toList_push

theorem undisturbed_tagClass (classId : ClassId) :
    runtime.Undisturbed (runtime.tagClass classId) := by
  refine ⟨rfl, rfl, rfl, rfl, ?_, ?_⟩ <;>
    simp [tagClass, entries, exits, toList_journal_log]

theorem undisturbed_checkUnloaded (classId : ClassId) :
    runtime.Undisturbed (runtime.checkUnloaded classId).2 := by
  refine ⟨rfl, rfl, rfl, rfl, ?_, ?_⟩ <;>
    simp [checkUnloaded, entries, exits, toList_journal_log]

theorem undisturbed_tagMethod (method : MethodId) :
    runtime.Undisturbed (runtime.tagMethod method) := by
  refine ⟨rfl, rfl, rfl, rfl, ?_, ?_⟩ <;>
    simp [tagMethod, entries, exits, toList_journal_log]

end Log

/-! ## Reading the journal -/

/-- The class that a call tags by itself. -/
def RuntimeCall.taggedClass? : RuntimeCall → Option ClassId
  | .tagClass classId => some classId
  | _ => none

/-- What the calls of the journal tell, in order. -/
def told {α : Type} (tells : RuntimeCall → Option α) (runtime : Runtime) : List α :=
  runtime.journal.toList.filterMap tells

/-- Entering the VM state and leaving it tell nothing. -/
structure Quiet {α : Type} (tells : RuntimeCall → Option α) : Prop where
  enterVm : ∀ locked, tells (.enterVm locked) = none
  leaveVm : ∀ locked, tells (.leaveVm locked) = none

theorem quiet_tagged : Quiet RuntimeCall.tagged? := ⟨fun _ => rfl, fun _ => rfl⟩

theorem quiet_taggedClass : Quiet RuntimeCall.taggedClass? := ⟨fun _ => rfl, fun _ => rfl⟩

section Told

variable {α : Type} {tells : RuntimeCall → Option α}

theorem told_log (runtime : Runtime) (tells : RuntimeCall → Option α) (call : RuntimeCall) :
    (runtime.log call).told tells = runtime.told tells ++ (tells call).toList := by
  rw [told, toList_journal_log, List.filterMap_append, told]
  cases telling : tells call <;> simp [telling]

/-- A pass that enters the VM state and leaves it again tells what it has told in between. -/
theorem Quiet.told_within (quiet : Quiet tells) {before during : Runtime} {more : List α}
    (between : during.told tells = before.enterVm.lock.told tells ++ more) :
    during.unlock.leaveVm.told tells = before.told tells ++ more := by
  have entered : before.enterVm.lock.told tells = before.told tells := by
    refine (before.told_log tells _).trans ?_
    rw [quiet.enterVm, Option.toList_none, List.append_nil]
  have left : during.unlock.leaveVm.told tells = during.told tells := by
    refine (during.unlock.told_log tells _).trans ?_
    rw [quiet.leaveVm, Option.toList_none, List.append_nil]
    rfl
  rw [left, between, entered]

end Told

theorem methodTags_eq_count (runtime : Runtime) (method : MethodId) :
    runtime.methodTags method = (runtime.told RuntimeCall.tagged?).count method := by
  rw [methodTags, told]
  induction runtime.journal.toList with
  | nil => rfl
  | cons call calls ih =>
      rw [List.countP_cons, ih, List.filterMap_cons]
      cases call with
      | tagMethod tagged =>
          simp only [RuntimeCall.tagged?, List.count_cons, beq_iff_eq, RuntimeCall.tagMethod.injEq]
      | _ => simp [RuntimeCall.tagged?]

/-- Only a call that tags the method adds to its tags. -/
theorem methodTags_log (runtime : Runtime) (call : RuntimeCall) (method : MethodId) :
    (runtime.log call).methodTags method =
      runtime.methodTags method + (RuntimeCall.tagged? call).toList.count method := by
  rw [methodTags_eq_count, told_log, List.count_append, ← methodTags_eq_count]

/-- The tagged methods are those that have been tagged once at least. -/
theorem contains_taggedMethods (runtime : Runtime) (method : MethodId) :
    runtime.taggedMethods.contains method = true ↔ 0 < runtime.methodTags method := by
  have added (methods : List MethodId) (set : IdSet .method) :
      (methods.foldl (fun set m => (set.add m).2) set).contains method = true ↔
        method ∈ methods ∨ set.contains method = true := by
    induction methods generalizing set with
    | nil => simp
    | cons first rest ih =>
        rw [List.foldl_cons, ih, IdSet.contains_add, Bool.or_eq_true, decide_eq_true_iff,
          List.mem_cons, eq_comm (a := first)]
        tauto
  rw [taggedMethods, added, IdSet.contains_empty, methodTags, List.countP_pos_iff]
  simp only [Bool.false_eq_true, or_false, List.mem_filterMap, beq_iff_eq]
  constructor
  · rintro ⟨call, member, tagged⟩
    refine ⟨call, member, ?_⟩
    cases call with
    | tagMethod other =>
        cases tagged
        rfl
    | _ => cases tagged
  · rintro ⟨call, member, rfl⟩
    exact ⟨_, member, rfl⟩

/-- A pass that enters the VM state, tags and leaves it again is out of it if the thread was. -/
theorem inVm_leaveVm {before during : Runtime} (tagged : before.enterVm.lock.Undisturbed during) :
    during.unlock.leaveVm.inVm = before.inVm := by
  have entries : during.unlock.leaveVm.entries = before.entries + 1 := by
    have same : during.unlock.leaveVm.entries = during.entries := by
      simp [leaveVm, unlock, Runtime.entries, toList_journal_log]
    rw [same, tagged.entries]
    simp [enterVm, lock, Runtime.entries, toList_journal_log]
  have exits : during.unlock.leaveVm.exits = before.exits + 1 := by
    have one : during.unlock.leaveVm.exits = during.exits + 1 := by
      simp [leaveVm, unlock, Runtime.exits, toList_journal_log]
    rw [one, tagged.exits]
    simp [enterVm, lock, Runtime.exits, toList_journal_log]
  rw [inVm, inVm, entries, exits]
  simp

end Runtime

namespace Resolution

/-- What tagging has done: a method that has been met for the first time is tagged once unless its
holder is unloaded, and nothing else is tagged. -/
structure Tags (before after : Resolution) : Prop where
  runtime : before.runtime.Undisturbed after.runtime
  met : ∀ method, before.methods.contains method = true → after.methods.contains method = true
  tags : ∀ method, after.runtime.methodTags method =
    before.runtime.methodTags method +
      if after.methods.contains method = true ∧ before.methods.contains method = false ∧
          before.runtime.isUnloaded method.holder = false then 1 else 0

theorem Tags.refl (state : Resolution) : state.Tags state where
  runtime := .refl _
  met _ met := met
  tags method := by cases state.methods.contains method <;> simp

theorem Tags.trans {before mid after : Resolution} (first : before.Tags mid)
    (second : mid.Tags after) : before.Tags after where
  runtime := first.runtime.trans second.runtime
  met method met := second.met method (first.met method met)
  tags method := by
    have unloaded : mid.runtime.isUnloaded method.holder =
        before.runtime.isUnloaded method.holder := by
      rw [Runtime.isUnloaded, first.runtime.unloaded]
      rfl
    have met := second.met method
    rw [second.tags, first.tags, unloaded]
    cases early : mid.methods.contains method with
    | true => simp [met early]
    | false =>
        have new : before.methods.contains method = false := by
          cases known : before.methods.contains method with
          | false => rfl
          | true => rw [first.met method known] at early; cases early
        simp [new]

/-- Tags of a class are no tags of a method. -/
theorem tags_countEligible (state : Resolution) (object : ObjectRef) :
    state.Tags (state.countEligible object) where
  runtime := state.runtime.undisturbed_tagClass object.classId
  met _ met := met
  tags method := by
    have same := state.runtime.methodTags_log (.tagClass object.classId) method
    exact same.trans ((Tags.refl state).tags method)

/-- What tagging a frame leaves: its method is met. -/
theorem contains_tagFrame (state : Resolution) (frame : Frame) (method : MethodId) :
    (state.tagFrame frame).methods.contains method =
      (decide (frame.method = method) || state.methods.contains method) := by
  have methods : (state.tagFrame frame).methods = (state.methods.add frame.method).2 := by
    rw [tagFrame]
    generalize state.methods.add frame.method = added
    obtain ⟨isNew, methods⟩ := added
    cases isNew with
    | false => rfl
    | true =>
        generalize state.runtime.checkUnloaded frame.method.holder = asked
        obtain ⟨unloaded, runtime⟩ := asked
        cases unloaded <;> rfl
  rw [methods, IdSet.contains_add]

theorem tags_tagFrame (state : Resolution) (frame : Frame) : state.Tags (state.tagFrame frame) := by
  have met (method : MethodId) (before : state.methods.contains method = true) :
      (state.tagFrame frame).methods.contains method = true := by
    rw [contains_tagFrame, before, Bool.or_true]
  have runtime : (state.tagFrame frame).runtime =
      if state.methods.contains frame.method then state.runtime
      else if state.runtime.isUnloaded frame.method.holder then
        (state.runtime.checkUnloaded frame.method.holder).2
      else (state.runtime.checkUnloaded frame.method.holder).2.tagMethod frame.method := by
    rw [tagFrame]
    dsimp only [IdSet.add, Runtime.checkUnloaded]
    cases state.methods.contains frame.method with
    | true => rfl
    | false => cases state.runtime.isUnloaded frame.method.holder <;> rfl
  have asked := state.runtime.undisturbed_checkUnloaded frame.method.holder
  refine ⟨?_, met, fun method => ?_⟩
  · rw [runtime]
    split
    · exact .refl _
    split
    · exact asked
    · exact asked.trans (Runtime.undisturbed_tagMethod _ _)
  · rw [runtime, contains_tagFrame]
    by_cases same : frame.method = method
    · subst same
      cases known : state.methods.contains frame.method <;>
        cases unloaded : state.runtime.isUnloaded frame.method.holder <;>
        simp [Runtime.checkUnloaded, Runtime.tagMethod, Runtime.methodTags_log,
          Runtime.RuntimeCall.tagged?]
    · -- Whatever is logged for the frame, it is no tag of this method.
      have kept : (if state.methods.contains frame.method then state.runtime
          else if state.runtime.isUnloaded frame.method.holder then
            (state.runtime.checkUnloaded frame.method.holder).2
          else (state.runtime.checkUnloaded frame.method.holder).2.tagMethod
            frame.method).methodTags method = state.runtime.methodTags method := by
        split
        · rfl
        split
        · exact Runtime.methodTags_log _ _ _
        · simp [Runtime.checkUnloaded, Runtime.tagMethod, Runtime.methodTags_log,
            Runtime.RuntimeCall.tagged?, same]
      rw [kept, decide_eq_false same, Bool.false_or]
      exact (Tags.refl state).tags method

theorem tags_tagFrames (state : Resolution) (frames : List Frame) :
    state.Tags (frames.foldl tagFrame state) := by
  induction frames generalizing state with
  | nil => exact .refl state
  | cons frame rest ih => exact (tags_tagFrame state frame).trans (ih _)

theorem contains_tagFrames (state : Resolution) (frames : List Frame) (method : MethodId) :
    (frames.foldl tagFrame state).methods.contains method = true ↔
      (∃ frame ∈ frames, frame.method = method) ∨ state.methods.contains method = true := by
  induction frames generalizing state with
  | nil => simp
  | cons frame rest ih =>
      rw [List.foldl_cons, ih, contains_tagFrame, Bool.or_eq_true, decide_eq_true_iff,
        List.exists_mem_cons_iff, or_left_comm, or_assoc]

theorem undisturbed_serialize (keepsCopy : Retention) (state : Resolution) (trace : Trace) :
    state.runtime.Undisturbed (state.serialize keepsCopy trace).1.runtime := by
  rw [serialize_eq]
  split
  · have tags := (tags_tagFrames state trace.frames).runtime
    dsimp only
    split
    · exact tags
    · exact tags
  · exact .refl _

/-- Whatever comes of it, a resolution only tags and asks. -/
theorem covers_undisturbed :
    Covers fun before after => before.runtime.Undisturbed after.runtime where
  trans := Runtime.Undisturbed.trans
  counted state _ := .refl state.runtime
  eligible state object := (tags_countEligible state object).runtime
  serialize := undisturbed_serialize

/-- Of the counts, tagging reaches that of the tagged methods alone. -/
theorem stats_tagFrames (state : Resolution) (frames : List Frame) :
    ∃ methodsTagged, (frames.foldl tagFrame state).stats = { state.stats with methodsTagged } := by
  induction frames generalizing state with
  | nil => exact ⟨_, rfl⟩
  | cons frame rest ih =>
      have one : ∃ methodsTagged,
          (state.tagFrame frame).stats = { state.stats with methodsTagged } := by
        rw [tagFrame]
        generalize state.methods.add frame.method = added
        obtain ⟨isNew, methods⟩ := added
        cases isNew with
        | false => exact ⟨_, rfl⟩
        | true =>
            generalize state.runtime.checkUnloaded frame.method.holder = asked
            obtain ⟨unloaded, runtime⟩ := asked
            cases unloaded <;> exact ⟨_, rfl⟩
      obtain ⟨first, same⟩ := one
      obtain ⟨methodsTagged, all⟩ := ih (state.tagFrame frame)
      refine ⟨methodsTagged, ?_⟩
      rw [List.foldl_cons, all, same]

end Resolution

end LeakRecorder
