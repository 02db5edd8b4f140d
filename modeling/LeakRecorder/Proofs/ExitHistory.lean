/-
# LeakRecorder.Proofs.ExitHistory — which exits a profiler knows of

What the exited threads are is said here from the operations alone, without a state:
a thread is `Recorded` if an operation reported its exit while the profiler ran and
none has cleared the exits since then at a safepoint. Whether the profiler runs and
whether the world is stopped are a matter of the last operation that says so
(`isRunning`, `worldStopped`). An exit may be reported to the profiler or to a handle
on it; a handle has no state of its own, so either is one `Operation.threadExit`.

The flag and the set behind it change together with every operation, and no other
operation reaches them (`Aside`), so `Tracks` is kept whatever fails in between.
-/
import LeakRecorder.Proofs.Commits
import LeakRecorder.Proofs.Settling

set_option autoImplicit false

namespace LeakRecorder

variable {σ ρ : Type}

/-! ## The history -/

/-- What the last operation that says anything has said. -/
def lastSaid (tells : Operation ρ → Option Bool) (history : List (Operation ρ)) : Bool :=
  (history.filterMap tells).getLast?.getD false

namespace Operation

/-- Whether the profiler runs from here on. -/
def running? : Operation ρ → Option Bool
  | .start => some true
  | .stop => some false
  | _ => none

/-- Whether the world is stopped from here on. -/
def worldStopped? : Operation ρ → Option Bool
  | .beginSafepoint => some true
  | .endSafepoint => some false
  | _ => none

end Operation

/-- The profiler runs after these operations. -/
def isRunning (history : List (Operation ρ)) : Bool := lastSaid Operation.running? history

/-- The world is stopped after these operations. -/
def worldStopped (history : List (Operation ρ)) : Bool := lastSaid Operation.worldStopped? history

/-- The thread has exited while the profiler ran, and since then no operation has cleared the exits
while the world was stopped. -/
def Recorded (history : List (Operation ρ)) (tid : TraceId) : Prop :=
  ∃ earlier later, history = earlier ++ .threadExit tid :: later ∧ tid.isNone = false ∧
    isRunning earlier = true ∧
    ∀ front back, later = front ++ .clearExits :: back →
      worldStopped (earlier ++ .threadExit tid :: front) = false

section History

variable {history : List (Operation ρ)} {operation : Operation ρ} {tid : TraceId}

theorem lastSaid_concat (tells : Operation ρ → Option Bool) (history : List (Operation ρ))
    (operation : Operation ρ) :
    lastSaid tells (history ++ [operation]) = (tells operation).getD (lastSaid tells history) := by
  rw [lastSaid, List.filterMap_append]
  cases said : tells operation with
  | none =>
      rw [List.filterMap_cons_none said, List.filterMap_nil, List.append_nil]
      rfl
  | some now =>
      rw [List.filterMap_cons_some said, List.filterMap_nil, List.getLast?_concat]
      rfl

theorem not_recorded_nil : ¬ Recorded ([] : List (Operation ρ)) tid := by
  rintro ⟨earlier, later, impossible, -⟩
  exact List.append_ne_nil_of_right_ne_nil earlier (List.cons_ne_nil _ later) impossible.symm

/-- The operation reports an exit of the thread that is recorded. -/
def Operation.Records (history : List (Operation ρ)) (tid : TraceId) : Operation ρ → Prop
  | .threadExit exiting => exiting = tid ∧ tid.isNone = false ∧ isRunning history = true
  | _ => False

/-- The operation clears the exits. -/
def Operation.Forgets (history : List (Operation ρ)) : Operation ρ → Prop
  | .clearExits => worldStopped history = true
  | _ => False

theorem recorded_of_records (records : operation.Records history tid) :
    Recorded (history ++ [operation]) tid := by
  cases operation with
  | threadExit exiting =>
      obtain ⟨rfl, named, running⟩ := records
      refine ⟨history, [], rfl, named, running, fun front back impossible => ?_⟩
      exact absurd impossible.symm (List.append_ne_nil_of_right_ne_nil front (List.cons_ne_nil _ _))
  | _ => exact records.elim

theorem Recorded.concat (recorded : Recorded history tid) (stays : ¬ operation.Forgets history) :
    Recorded (history ++ [operation]) tid := by
  obtain ⟨earlier, later, rfl, named, running, kept⟩ := recorded
  refine ⟨earlier, later ++ [operation], by simp, named, running, fun front back split => ?_⟩
  rcases List.eq_nil_or_concat' back with rfl | ⟨back, last, rfl⟩
  · -- The operation itself clears the exits.
    obtain ⟨rfl, same⟩ := List.append_inj' split rfl
    cases same
    exact eq_false_of_ne_true stays
  · rw [← List.cons_append, ← List.append_assoc] at split
    obtain ⟨rfl, -⟩ := List.append_inj' split rfl
    exact kept front back rfl

theorem recorded_concat :
    Recorded (history ++ [operation]) tid ↔
      operation.Records history tid ∨ Recorded history tid ∧ ¬ operation.Forgets history := by
  constructor
  · rintro ⟨earlier, later, whole, named, running, kept⟩
    rcases List.eq_nil_or_concat' later with rfl | ⟨later, last, rfl⟩
    · obtain ⟨rfl, same⟩ := List.append_inj' whole rfl
      cases same
      exact .inl ⟨rfl, named, running⟩
    · rw [← List.cons_append, ← List.append_assoc] at whole
      obtain ⟨rfl, same⟩ := List.append_inj' whole rfl
      cases same
      refine .inr ⟨⟨earlier, later, rfl, named, running, fun front back split => ?_⟩, ?_⟩
      · exact kept front (back ++ [operation]) (by rw [split]; simp)
      · intro forgets
        cases operation with
        | clearExits =>
            have running := kept later [] rfl
            rw [forgets] at running
            cases running
        | _ => exact forgets
  · rintro (records | ⟨recorded, stays⟩)
    · exact recorded_of_records records
    · exact recorded.concat stays

end History

/-! ## What an operation does to the exits -/

/-- Neither the exits nor what decides about them has changed. -/
structure Aside (before after : Profiler σ ρ) : Prop where
  running : after.running = before.running
  exited : after.exited = before.exited
  scopes : after.runtime.scopes = before.runtime.scopes
  atSafepoint : after.runtime.atSafepoint = before.runtime.atSafepoint

theorem Aside.refl (profiler : Profiler σ ρ) : Aside profiler profiler := ⟨rfl, rfl, rfl, rfl⟩

theorem Aside.trans {before mid after : Profiler σ ρ} (first : Aside before mid)
    (second : Aside mid after) : Aside before after where
  running := second.running.trans first.running
  exited := second.exited.trans first.exited
  scopes := second.scopes.trans first.scopes
  atSafepoint := second.atSafepoint.trans first.atSafepoint

section Aside

variable (host : Host σ ρ) (profiler : Profiler σ ρ)

theorem aside_resolveFresh : Aside profiler (profiler.resolveFresh host).1 := by
  rw [Profiler.resolveFresh]
  dsimp only
  cases made : Resolution.ofOptions profiler.options profiler.blobs
      profiler.runtime.enterVm.lock with
  | error cause => exact ⟨rfl, rfl, rfl, rfl⟩
  | ok state =>
      have calm := Resolution.covers_undisturbed.resolveAll host profiler.traces []
        profiler.sampler.unresolved state
      rw [(Resolution.ofOptions_ok made).2.2] at calm
      exact ⟨rfl, rfl, calm.scopes, calm.atSafepoint⟩

theorem aside_rotate : Aside profiler (profiler.rotate host).1 := by
  by_cases admits : profiler.Admits
  · rw [Profiler.rotate_of_admits host admits]
    split
    · have aside := aside_resolveFresh host profiler.renewed
      generalize Profiler.resolveFresh host profiler.renewed = outcome at aside
      obtain ⟨next, result⟩ := outcome
      cases result with
      | error cause => exact ⟨aside.running, aside.exited, aside.scopes, aside.atSafepoint⟩
      | ok stats => exact ⟨aside.running, aside.exited, aside.scopes, aside.atSafepoint⟩
    · exact ⟨rfl, rfl, rfl, rfl⟩
  · rw [Profiler.rotate_of_refused host admits]
    exact .refl profiler

theorem aside_rotateChunk : Aside profiler (profiler.rotateChunk host).1 := by
  rw [Profiler.rotateChunk_eq]
  have opened : Aside profiler { profiler with sink := (host.sink.rotate profiler.sink).1 } :=
    ⟨rfl, rfl, rfl, rfl⟩
  split
  · exact opened
  · exact opened.trans (aside_rotate host _)

theorem aside_write (chains : ReferenceChains) (emitAll : Bool) :
    Aside profiler (profiler.write host chains emitAll).1 := by
  rw [Profiler.write_eq]
  split
  · exact .refl profiler
  · split
    · exact ⟨rfl, rfl, rfl, rfl⟩
    · exact ⟨rfl, rfl, rfl, rfl⟩

/-- The operation may change the exits or what decides about them. -/
def Operation.reachesExits : Operation ρ → Bool
  | .start | .stop | .threadExit _ | .clearExits | .beginSafepoint | .endSafepoint => true
  | _ => false

/-- No other operation does. -/
theorem Operation.aside_step {operation : Operation ρ} (other : operation.reachesExits = false) :
    Aside profiler (operation.step host profiler).1 := by
  cases operation with
  | start | stop | threadExit _ | clearExits | beginSafepoint | endSafepoint => cases other
  | rotate => exact aside_rotate host profiler
  | rotateChunk => exact aside_rotateChunk host profiler
  | rotateIfNeeded =>
      dsimp only [step]
      rw [Profiler.rotateIfNeeded]
      split
      · exact aside_rotateChunk host profiler
      · exact .refl profiler
  | write chains emitAll => exact aside_write host profiler chains emitAll
  | installTypeSet typeSet =>
      obtain ⟨sampler, same⟩ := profiler.installTypeSet_eq typeSet
      show Aside profiler (profiler.installTypeSet typeSet).1
      rw [same]
      exact ⟨rfl, rfl, rfl, rfl⟩
  | _ => exact ⟨rfl, rfl, rfl, rfl⟩

end Aside

/-! The operations that reach the exits, each with what it answers. -/

namespace ExitedThreads

variable {exited : ExitedThreads}

/-- The set behind the flag. -/
def knows (exited : ExitedThreads) (tid : TraceId) : Bool := exited.members.any (·.contains tid)

theorem hasExited_eq_knows (flag : exited.allocated = exited.members.isSome) (tid : TraceId) :
    exited.hasExited tid = exited.knows tid := by
  rw [hasExited, knows, flag]
  cases exited.members <;> rfl

/-- A thread that is recorded is known from then on, and so are those that were known. -/
theorem record_ok (roomy : exited.initialSize < allocationLimit) {tid : TraceId}
    (named : tid.isNone = false) :
    ∃ set, exited.record tid =
        ({ exited with members := some set, allocated := true }, .ok ()) ∧
      ∀ other, set.contains other = (decide (tid = other) || exited.knows other) := by
  rw [record, named, memberSet]
  cases members : exited.members with
  | some set =>
      refine ⟨(set.add tid).2, rfl, fun other => ?_⟩
      rw [IdSet.contains_add, knows, members]
      rfl
  | none =>
      refine ⟨(IdSet.empty.add tid).2, ?_, fun other => ?_⟩
      · rw [IdSet.withCapacity, reserve_of_lt roomy]
        rfl
      · rw [IdSet.contains_add, IdSet.contains_empty, knows, members]
        rfl

end ExitedThreads

namespace Profiler

variable {profiler : Profiler σ ρ} {tid : TraceId}

theorem threadExit_of_stopped (stopped : profiler.running = false) (tid : TraceId) :
    profiler.threadExit tid = (profiler, .ok ()) := by
  rw [threadExit, stopped]
  rfl

theorem threadExit_of_none (running : profiler.running = true) (none : tid.isNone = true) :
    profiler.threadExit tid = (profiler, .error (.violation .exitOfNoThread)) := by
  rw [threadExit, if_pos running, ExitedThreads.record, if_pos none]

theorem threadExit_of_named (running : profiler.running = true)
    (roomy : profiler.exited.initialSize < allocationLimit) (named : tid.isNone = false) :
    ∃ set,
      profiler.threadExit tid =
        ({ profiler with
            exited := { profiler.exited with members := some set, allocated := true } },
          .ok ()) ∧
      ∀ other, set.contains other = (decide (tid = other) || profiler.exited.knows other) := by
  obtain ⟨set, recorded, contains⟩ := ExitedThreads.record_ok roomy named
  refine ⟨set, ?_, contains⟩
  rw [threadExit, if_pos running, recorded]

theorem clearExits_of_moving (moving : profiler.runtime.atSafepoint = false) :
    profiler.clearExits = (profiler, .error (.violation .clearOutsideSafepoint)) := by
  rw [clearExits, ExitedThreads.clear, moving]
  rfl

theorem clearExits_of_stopped (stopped : profiler.runtime.atSafepoint = true) :
    profiler.clearExits =
      ({ profiler with exited := { profiler.exited with members := none, allocated := false } },
        .ok ()) := by
  rw [clearExits, ExitedThreads.clear, stopped]
  rfl

end Profiler

/-! ## The state against the history -/

/-- The state says what the history says. -/
structure Tracks (history : List (Operation ρ)) (now : Profiler σ ρ) : Prop where
  running : now.running = isRunning history
  atSafepoint : now.runtime.atSafepoint = worldStopped history
  /-- Without a scope to end the world is not stopped. -/
  scopes : now.runtime.scopes = 0 → now.runtime.atSafepoint = false
  roomy : now.exited.initialSize < allocationLimit
  flag : now.exited.allocated = now.exited.members.isSome
  knows : ∀ tid, now.exited.knows tid = true ↔ Recorded history tid

theorem tracks_create {options : Options} (roomy : options.idSetSize < allocationLimit) (sink : σ)
    (traces : ρ) : Tracks [] (.create options sink traces) where
  running := rfl
  atSafepoint := rfl
  scopes _ := rfl
  roomy := roomy
  flag := rfl
  knows _ := iff_of_false Bool.false_ne_true not_recorded_nil

section Tracks

variable {history : List (Operation ρ)} {now after : Profiler σ ρ} {operation : Operation ρ}

/-- An operation that leaves the exits as they are, and is neither an exit that is recorded nor a
clear that succeeds. -/
theorem Tracks.of_exited (tracks : Tracks history now) (exited : after.exited = now.exited)
    (running : after.running = operation.running?.getD now.running)
    (atSafepoint : after.runtime.atSafepoint =
      operation.worldStopped?.getD now.runtime.atSafepoint)
    (scopes : after.runtime.scopes = 0 → after.runtime.atSafepoint = false)
    (records : ∀ tid, ¬ operation.Records history tid) (forgets : ¬ operation.Forgets history) :
    Tracks (history ++ [operation]) after where
  running := by rw [running, tracks.running, isRunning, isRunning, lastSaid_concat]
  atSafepoint := by
    rw [atSafepoint, tracks.atSafepoint, worldStopped, worldStopped, lastSaid_concat]
  scopes := scopes
  roomy := by rw [exited]; exact tracks.roomy
  flag := by rw [exited]; exact tracks.flag
  knows := by
    intro tid
    rw [exited, tracks.knows, recorded_concat, or_iff_right (records tid), and_iff_left forgets]

theorem Tracks.of_aside (tracks : Tracks history now) (other : operation.reachesExits = false)
    (aside : Aside now after) : Tracks (history ++ [operation]) after := by
  have scopes : after.runtime.scopes = 0 → after.runtime.atSafepoint = false := by
    rw [aside.scopes, aside.atSafepoint]
    exact tracks.scopes
  cases operation with
  | start | stop | threadExit _ | clearExits | beginSafepoint | endSafepoint => cases other
  | _ =>
      exact tracks.of_exited aside.exited aside.running aside.atSafepoint scopes
        (fun _ records => records) (fun forgets => forgets)

theorem Tracks.threadExit (tracks : Tracks history now) (tid : TraceId) :
    Tracks (history ++ [.threadExit tid]) (now.threadExit tid).1 := by
  have same (unrecorded : ∀ other, ¬ (Operation.threadExit tid).Records history other) :
      Tracks (history ++ [.threadExit tid]) now :=
    tracks.of_exited rfl rfl rfl tracks.scopes unrecorded fun forgets => forgets
  cases running : now.running with
  | false =>
      rw [Profiler.threadExit_of_stopped running]
      refine same ?_
      rintro other ⟨-, -, started⟩
      rw [← tracks.running, running] at started
      cases started
  | true =>
      cases named : tid.isNone with
      | true =>
          rw [Profiler.threadExit_of_none running named]
          refine same ?_
          rintro other ⟨rfl, some, -⟩
          rw [named] at some
          cases some
      | false =>
          obtain ⟨set, exits, contains⟩ :=
            Profiler.threadExit_of_named running tracks.roomy named
          rw [exits]
          refine ⟨?_, ?_, tracks.scopes, tracks.roomy, rfl, fun other => ?_⟩
          · rw [isRunning, lastSaid_concat]
            exact tracks.running
          · rw [worldStopped, lastSaid_concat]
            exact tracks.atSafepoint
          · show set.contains other = true ↔ _
            have records : (Operation.threadExit tid).Records history other ↔ tid = other := by
              refine ⟨fun records => records.1, ?_⟩
              rintro rfl
              exact ⟨rfl, named, tracks.running.symm.trans running⟩
            rw [contains, Bool.or_eq_true, decide_eq_true_iff, tracks.knows, recorded_concat,
              records]
            exact or_congr_right (and_iff_left fun forgets => forgets).symm

theorem Tracks.clearExits (tracks : Tracks history now) :
    Tracks (history ++ [.clearExits]) now.clearExits.1 := by
  cases stopped : now.runtime.atSafepoint with
  | false =>
      rw [Profiler.clearExits_of_moving stopped]
      refine tracks.of_exited rfl rfl rfl tracks.scopes (fun _ records => records) fun forgets => ?_
      have moving : worldStopped history = false := tracks.atSafepoint.symm.trans stopped
      rw [Operation.Forgets, moving] at forgets
      cases forgets
  | true =>
      have forgets : (Operation.clearExits : Operation ρ).Forgets history :=
        tracks.atSafepoint.symm.trans stopped
      rw [Profiler.clearExits_of_stopped stopped]
      refine ⟨?_, ?_, tracks.scopes, tracks.roomy, rfl, fun tid => ?_⟩
      · rw [isRunning, lastSaid_concat]
        exact tracks.running
      · rw [worldStopped, lastSaid_concat]
        exact tracks.atSafepoint
      · rw [recorded_concat]
        refine iff_of_false Bool.false_ne_true ?_
        rintro (records | ⟨-, stays⟩)
        · exact records
        · exact stays forgets

theorem Tracks.endSafepoint (tracks : Tracks history now) :
    Tracks (history ++ [.endSafepoint])
      { now with runtime := now.runtime.endSafepoint?.getD now.runtime } := by
  have free : (now.runtime.endSafepoint?.getD now.runtime).atSafepoint = false := by
    rw [Runtime.endSafepoint?]
    split
    next none => exact tracks.scopes none
    next => rfl
  exact tracks.of_exited rfl rfl free (fun _ => free) (fun _ records => records)
    fun forgets => forgets

/-- Whatever comes of an operation, the state says what the history says. -/
theorem Tracks.step (tracks : Tracks history now) (host : Host σ ρ) (operation : Operation ρ) :
    Tracks (history ++ [operation]) (operation.step host now).1 := by
  cases operation with
  | start | stop =>
      exact tracks.of_exited rfl rfl rfl tracks.scopes (fun _ records => records)
        fun forgets => forgets
  | threadExit tid => exact tracks.threadExit tid
  | clearExits => exact tracks.clearExits
  | beginSafepoint =>
      exact tracks.of_exited rfl rfl rfl (fun none => absurd none (Nat.succ_ne_zero _))
        (fun _ records => records) fun forgets => forgets
  | endSafepoint => exact tracks.endSafepoint
  | _ => exact tracks.of_aside rfl (Operation.aside_step host now rfl)

theorem Tracks.drive (tracks : Tracks history now) (host : Host σ ρ)
    (operations : List (Operation ρ)) :
    Tracks (history ++ operations) (LeakRecorder.drive host operations now) := by
  induction operations generalizing history now with
  | nil =>
      rw [List.append_nil]
      exact tracks
  | cons operation rest ih =>
      have later := ih (tracks.step host operation)
      rw [List.append_assoc] at later
      exact later

end Tracks

/-! ## What the profiler answers -/

/-- What a profiler answers about exits after a history, and what it does at one more exit or
clear. -/
structure AnswersExits (history : List (Operation ρ)) (now : Profiler σ ρ) : Prop where
  hasExited : ∀ tid, now.hasExited tid = true ↔ Recorded history tid
  /-- The flag is up exactly while there is a set. -/
  flag : now.exited.allocated = now.exited.members.isSome
  /-- Asking the flag first gives what asking the set would. -/
  behindFlag : ∀ tid, now.hasExited tid = now.exited.knows tid
  size : ∃ ids : List TraceId, ids.Nodup ∧ (∀ tid, tid ∈ ids ↔ Recorded history tid) ∧
    now.exited.size = ids.length
  exitWhileStopped : isRunning history = false → ∀ tid, now.threadExit tid = (now, .ok ())
  exitOfNone : isRunning history = true → ∀ tid, tid.isNone = true →
    now.threadExit tid = (now, .error (.violation .exitOfNoThread))
  exitOfThread : isRunning history = true → ∀ tid, tid.isNone = false →
    (now.threadExit tid).2 = .ok ()
  clearWhileMoving : worldStopped history = false →
    now.clearExits = (now, .error (.violation .clearOutsideSafepoint))
  clearAtSafepoint : worldStopped history = true → now.clearExits.2 = .ok ()

theorem Tracks.size {history : List (Operation ρ)} {now : Profiler σ ρ}
    (tracks : Tracks history now) :
    ∃ ids : List TraceId, ids.Nodup ∧ (∀ tid, tid ∈ ids ↔ Recorded history tid) ∧
      now.exited.size = ids.length := by
  have knows := tracks.knows
  simp only [ExitedThreads.knows] at knows
  rw [ExitedThreads.size]
  cases members : now.exited.members with
  | none =>
      rw [members] at knows
      refine ⟨[], List.nodup_nil, fun tid => ?_, rfl⟩
      rw [← knows]
      exact iff_of_false List.not_mem_nil Bool.false_ne_true
  | some set =>
      rw [members] at knows
      refine ⟨set.toList, set.nodup_toList, fun tid => ?_, set.length_toList.symm⟩
      rw [IdSet.mem_toList]
      exact knows tid

/-- **Exits follow from the history.** Whatever is done with a profiler, in any order and whatever
fails, a thread has exited for it exactly if the history records that: its exit was reported while
the profiler ran, and the exits have not been cleared at a safepoint since. The flag is up exactly
while there is a set, and the size counts the recorded threads once each. While the profiler is
stopped an exit succeeds and changes nothing; while it runs only an exit of no thread fails, and a
clear fails exactly while the world runs; neither then changes anything. -/
theorem exits_by_history (host : Host σ ρ) {options : Options}
    (roomy : options.idSetSize < allocationLimit) (sink : σ) (traces : ρ)
    (operations : List (Operation ρ)) :
    AnswersExits operations (drive host operations (.create options sink traces)) := by
  have tracks := (tracks_create roomy sink traces).drive host operations
  rw [List.nil_append] at tracks
  generalize drive host operations (.create options sink traces) = now at tracks
  have behindFlag := ExitedThreads.hasExited_eq_knows tracks.flag
  constructor
  · intro tid
    rw [Profiler.hasExited, behindFlag]
    exact tracks.knows tid
  · exact tracks.flag
  · exact behindFlag
  · exact tracks.size
  · intro stopped
    exact Profiler.threadExit_of_stopped (tracks.running.trans stopped)
  · intro running tid none
    exact Profiler.threadExit_of_none (tracks.running.trans running) none
  · intro running tid named
    obtain ⟨set, exits, -⟩ :=
      Profiler.threadExit_of_named (tracks.running.trans running) tracks.roomy named
    rw [exits]
  · intro moving
    exact Profiler.clearExits_of_moving (tracks.atSafepoint.trans moving)
  · intro stopped
    rw [Profiler.clearExits_of_stopped (tracks.atSafepoint.trans stopped)]

/-- An exit before the start, a clear while the world runs, an exit of no thread, an exit that is
cleared, one that is reported twice, and one after the stop. -/
def exitingRun : List (Operation TraceLog) :=
  [.threadExit ⟨4⟩, .start, .clearExits, .threadExit ⟨0⟩, .threadExit ⟨5⟩, .beginSafepoint,
    .clearExits, .endSafepoint, .threadExit ⟨6⟩, .threadExit ⟨6⟩, .stop, .threadExit ⟨7⟩]

theorem exits_by_history_exitingRun :
    let now := drive ⟨.memory, .log, Retention.unwritten⟩ exitingRun
      (.create Options.standard (.ofLimit none) .empty)
    now.hasExited ⟨6⟩ = true ∧ now.hasExited ⟨5⟩ = false ∧ now.hasExited ⟨7⟩ = false ∧
      now.exited.size = 1 ∧ now.threadExit ⟨8⟩ = (now, .ok ()) ∧
      now.clearExits = (now, .error (.violation .clearOutsideSafepoint)) := by
  have answers := exits_by_history ⟨.memory, .log, Retention.unwritten⟩
    (show Options.standard.idSetSize < allocationLimit by decide) (.ofLimit none) .empty exitingRun
  refine ⟨?_, by rfl, by rfl, by rfl, answers.exitWhileStopped rfl _, answers.clearWhileMoving rfl⟩
  rw [answers.hasExited]
  refine ⟨exitingRun.take 8, [.threadExit ⟨6⟩, .stop, .threadExit ⟨7⟩], rfl, rfl, rfl, ?_⟩
  intro front back split
  have clears : Operation.clearExits ∈
      ([.threadExit ⟨6⟩, .stop, .threadExit ⟨7⟩] : List (Operation TraceLog)) := by
    rw [split]
    exact List.mem_append_right front List.mem_cons_self
  simp at clears

end LeakRecorder
