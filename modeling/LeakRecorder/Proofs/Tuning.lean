/-
# LeakRecorder.Proofs.Tuning — what the tuning of a profiler cannot change

Two options only size collections: the buckets of the blob cache and the sets that
a pass makes. The retention only decides whether the bytes of a new blob are copied
or moved. Whatever they are, and whenever they change, a profiler does the same
things: it answers the same, but for the number of copies, its sink receives the
same payloads, and its samples carry the same blobs (`tuning_unseen`).

The statement compares two runs step by step. Two profilers are `Alike` if one is
the other under another tuning. Two resolutions are `Alike` if their caches answer
alike, however the entries are spread over buckets, and a resolution of one sample
keeps them so (`Resolution.Alike.resolve`); then so does a rotation
(`rotate_retuned`), and every other pass does not look at the tuning at all but to
make its sets.
-/
import LeakRecorder.Proofs.Commits
import LeakRecorder.Proofs.Settling
import LeakRecorder.Proofs.StackTraces

set_option autoImplicit false

namespace LeakRecorder

variable {σ ρ : Type}

/-! ## Answers, but for what has been copied -/

def ResolveStats.uncopied (stats : ResolveStats) : ResolveStats := { stats with copied := 0 }

def RotationStats.uncopied (stats : RotationStats) : RotationStats :=
  { stats with resolved := stats.resolved.map ResolveStats.uncopied }

/-- What an operation answers when it succeeds. -/
inductive Answer where
  | done
  | installed (samples : Nat)
  | rotated (stats : RotationStats)
  | rotatedIfFull (stats : Option RotationStats)
  | wrote (stats : WriteStats)
  | marked (objects : List ObjectRef)

/-- The answer without the number of copies. -/
def Answer.uncopied : Answer → Answer
  | .rotated stats => .rotated stats.uncopied
  | .rotatedIfFull stats => .rotatedIfFull (stats.map RotationStats.uncopied)
  | answer => answer

/-- What an operation leaves and what it answers. -/
def Operation.outcome (host : Host σ ρ) (operation : Operation ρ) (profiler : Profiler σ ρ) :
    Profiler σ ρ × Except Failure Answer :=
  let answering {α : Type} (answer : α → Answer) (outcome : Profiler σ ρ × Except Failure α) :
      Profiler σ ρ × Except Failure Answer := (outcome.1, outcome.2.map answer)
  match operation with
  | .installTypeSet typeSet => answering .installed (profiler.installTypeSet typeSet)
  | .rotate => answering .rotated (profiler.rotate host)
  | .rotateChunk => answering .rotated (profiler.rotateChunk host)
  | .rotateIfNeeded => answering .rotatedIfFull (profiler.rotateIfNeeded host)
  | .write chains emitAll => answering .wrote (profiler.write host chains emitAll)
  | .mark emitAll => (profiler, .ok (.marked (profiler.mark emitAll)))
  | operation => answering (fun _ => .done) (operation.step host profiler)

/-- The outcome is that of the operation as a step, with its answer. -/
theorem Operation.step_eq_outcome (host : Host σ ρ) (operation : Operation ρ)
    (profiler : Profiler σ ρ) :
    operation.step host profiler =
      ((operation.outcome host profiler).1,
        (operation.outcome host profiler).2.map fun _ => ()) := by
  have forget {α : Type} (answer : α → Answer) (result : Except Failure α) :
      (result.map answer).map (fun _ => ()) = result.map fun _ => () := by
    cases result <;> rfl
  have whole (outcome : Profiler σ ρ × Except Failure Unit) :
      outcome = (outcome.1, (outcome.2.map fun _ => Answer.done).map fun _ => ()) := by
    obtain ⟨after, result⟩ := outcome
    cases result <;> rfl
  cases operation with
  | installTypeSet | rotate | rotateChunk | rotateIfNeeded | write =>
      dsimp only [step, outcome]
      rw [forget]
  | mark emitAll => rfl
  | _ => exact whole _

/-! ## Tunings -/

theorem Options.Roomy.passSet {options : Options} (roomy : options.Roomy) :
    reserve options.passSetSize = .ok () := by
  refine reserve_of_lt ?_
  have queue := UInt64.lt_iff_toNat_lt.mp roomy.queue
  rw [passSetSize, UInt64.lt_iff_toNat_lt]
  show (if options.queueSize ≤ minSetSize then minSetSize else options.queueSize).toNat < _
  split
  · decide
  · exact queue

namespace Profiler

/-- The profiler under another tuning. -/
def retuned (profiler : Profiler σ ρ) (options : Options) (exitSetSize : UInt64) :
    Profiler σ ρ :=
  { profiler with options, exited := { profiler.exited with initialSize := exitSetSize } }

/-- Every collection that the profiler makes can be made. -/
structure Roomy (profiler : Profiler σ ρ) : Prop where
  options : profiler.options.Roomy
  exits : profiler.exited.initialSize < allocationLimit

/-- The second profiler is the first one under another tuning: their samples carry the same blobs,
with the same bytes and flags, and their sinks, traces and runtimes are the same. -/
structure Alike (first second : Profiler σ ρ) : Prop where
  roomy : first.Roomy
  roomySecond : second.Roomy
  same : second = first.retuned second.options second.exited.initialSize

theorem Alike.of_retuned {first second : Profiler σ ρ} {options : Options}
    {exitSetSize : UInt64} (same : second = first.retuned options exitSetSize)
    (roomy : first.Roomy) (other : options.Roomy) (exits : exitSetSize < allocationLimit) :
    first.Alike second := by
  subst same
  exact ⟨roomy, ⟨other, exits⟩, rfl⟩

end Profiler

/-! ## Resolutions whose caches answer alike -/

/-- Two hosts that differ in their retention at most. -/
def Host.retaining (host : Host σ ρ) (keepsCopy : Retention) : Host σ ρ :=
  { host with keepsCopy }

theorem BlobCache.get_congr {first second : BlobCache} {key : TraceKey}
    (same : first.table.lookup key = second.table.lookup key) :
    first.get key = second.get key := by
  rw [get, get]
  cases known : named key with
  | error cause => rfl
  | ok named =>
      rw [named_ok known]
      show Except.ok (first.table.lookup key) = Except.ok (second.table.lookup key)
      rw [same]

/-- Whether a blob can be put under a key is a matter of the answers. -/
theorem BlobCache.put_congr {first second : BlobCache} {key : TraceKey} (blob : BlobId)
    (same : first.table.lookup key = second.table.lookup key) :
    (∃ cause, first.put key blob = (first, .error cause) ∧
        second.put key blob = (second, .error cause)) ∨
      ∃ next other, first.put key blob = (next, .ok ()) ∧
        second.put key blob = (other, .ok ()) := by
  rw [put, put]
  cases known : named key with
  | error cause => exact .inl ⟨cause, rfl, rfl⟩
  | ok found =>
      rw [named_ok known]
      dsimp only
      rw [same]
      split
      · exact .inl ⟨_, rfl, rfl⟩
      · exact .inr ⟨_, _, rfl, rfl⟩

namespace Resolution

/-- Everything is the same, but that the caches may be built otherwise and the number of copies may
differ. -/
structure Alike (first second : Resolution) : Prop where
  blobs : second.blobs = first.blobs
  keying : first.cache.table.keying = TraceKey.keying
  keyingSecond : second.cache.table.keying = TraceKey.keying
  answers : ∀ key, second.cache.table.lookup key = first.cache.table.lookup key
  methods : second.methods = first.methods
  runtime : second.runtime = first.runtime
  stats : second.stats.uncopied = first.stats.uncopied

/-- Two outcomes of a step of two resolutions. -/
def AlikeOutcome {α : Type} (first second : Resolution × α) : Prop :=
  first.1.Alike second.1 ∧ second.2 = first.2

variable {first second : Resolution}

/-- A count other than that of the copies stays alike. -/
theorem Alike.count (alike : first.Alike second) (change : ResolveStats → ResolveStats)
    (blind : ∀ stats copied, (change { stats with copied }).uncopied = (change stats).uncopied) :
    Alike { first with stats := change first.stats }
      { second with stats := change second.stats } := by
  refine { alike with stats := ?_ }
  have same := alike.stats
  calc (change second.stats).uncopied
      = (change second.stats.uncopied).uncopied := (blind second.stats 0).symm
    _ = (change first.stats.uncopied).uncopied := by rw [same]
    _ = (change first.stats).uncopied := blind first.stats 0

theorem Alike.tagFrame (alike : first.Alike second) (frame : Frame) :
    (first.tagFrame frame).Alike (second.tagFrame frame) := by
  rw [Resolution.tagFrame, Resolution.tagFrame, alike.methods, alike.runtime]
  generalize first.methods.add frame.method = added
  obtain ⟨isNew, methods⟩ := added
  cases isNew with
  | false => exact { alike with methods := rfl, runtime := rfl }
  | true =>
      generalize first.runtime.checkUnloaded frame.method.holder = asked
      obtain ⟨unloaded, runtime⟩ := asked
      cases unloaded with
      | true => exact { alike with methods := rfl, runtime := rfl }
      | false =>
          have counted := alike.count
            (fun stats => { stats with methodsTagged := stats.methodsTagged + 1 })
            fun _ _ => rfl
          exact { alike with methods := rfl, runtime := rfl, stats := counted.stats }

theorem Alike.tagFrames (alike : first.Alike second) (frames : List Frame) :
    (frames.foldl Resolution.tagFrame first).Alike
      (frames.foldl Resolution.tagFrame second) := by
  induction frames generalizing first second with
  | nil => exact alike
  | cons frame rest ih => exact ih (alike.tagFrame frame)

theorem Alike.serialize (alike : first.Alike second) (keepsCopy keepsOther : Retention)
    (trace : Trace) :
    AlikeOutcome (first.serialize keepsCopy trace) (second.serialize keepsOther trace) := by
  rw [serialize_eq, serialize_eq]
  by_cases few : trace.frames.length < countLimit
  · rw [if_pos few, if_pos few, alike.blobs]
    dsimp only
    have tagged := alike.tagFrames trace.frames
    generalize first.blobs.add .stackTrace (traceBlock [trace]).encode = added
    rcases BlobCache.put_congr added.1 (alike.answers trace.key).symm with
      ⟨cause, refused, refusedSecond⟩ | ⟨cache, other, put, putSecond⟩
    · rw [refused, refusedSecond]
      exact ⟨⟨rfl, alike.keying, alike.keyingSecond, alike.answers, tagged.methods,
        tagged.runtime, tagged.stats⟩, rfl⟩
    · rw [put, putSecond]
      obtain ⟨keying, answers⟩ := BlobCache.put_ok alike.keying put
      obtain ⟨keyingSecond, answersSecond⟩ := BlobCache.put_ok alike.keyingSecond putSecond
      have counted := tagged.count
        (fun stats => { stats with serialized := stats.serialized + 1 }) fun _ _ => rfl
      refine ⟨⟨rfl, keying, keyingSecond, ?_, tagged.methods, tagged.runtime, counted.stats⟩, rfl⟩
      intro key
      rw [answers, answersSecond, alike.answers]
  · rw [if_neg few, if_neg few]
    exact ⟨alike, rfl⟩

theorem Alike.blobFor (alike : first.Alike second) (host : Host σ ρ) (keepsCopy : Retention)
    (traces : ρ) (key : TraceKey) :
    AlikeOutcome (first.blobFor host traces key)
      (second.blobFor (host.retaining keepsCopy) traces key) := by
  rw [Resolution.blobFor, Resolution.blobFor, BlobCache.get_congr (alike.answers key)]
  cases first.cache.get key with
  | error cause => exact ⟨alike, rfl⟩
  | ok found =>
      cases found with
      | some blob =>
          have counted := alike.count
            (fun stats => { stats with cacheHits := stats.cacheHits + 1 }) fun _ _ => rfl
          exact ⟨counted, rfl⟩
      | none =>
          dsimp only [Host.retaining]
          cases host.source.lookup traces key with
          | none => exact ⟨alike, rfl⟩
          | some trace =>
              dsimp only
              split
              · exact alike.serialize host.keepsCopy keepsCopy trace
              · exact ⟨alike, rfl⟩

theorem Alike.resolve (alike : first.Alike second) (host : Host σ ρ) (keepsCopy : Retention)
    (traces : ρ) (sample : Sample) :
    AlikeOutcome (first.resolve host traces sample)
      (second.resolve (host.retaining keepsCopy) traces sample) := by
  rw [Resolution.resolve, Resolution.resolve]
  cases sample.object with
  | none => exact ⟨alike, rfl⟩
  | some object =>
      dsimp only
      have eligible : (first.countEligible object).Alike (second.countEligible object) := by
        have counted := alike.count
          (fun stats => { stats with eligible := stats.eligible + 1 }) fun _ _ => rfl
        refine { counted with runtime := ?_ }
        show second.runtime.tagClass _ = first.runtime.tagClass _
        rw [alike.runtime]
      by_cases traced : sample.hasTrace = true
      · rw [if_pos traced, if_pos traced]
        by_cases carries : sample.stackTrace.isSome = true
        · rw [if_pos carries, if_pos carries]
          have counted := eligible.count
            (fun stats => { stats with alreadyResolved := stats.alreadyResolved + 1 })
            fun _ _ => rfl
          exact ⟨counted, rfl⟩
        · rw [if_neg carries, if_neg carries]
          obtain ⟨after, result⟩ := eligible.blobFor host keepsCopy traces sample.key
          generalize (first.countEligible object).blobFor host traces sample.key = one
            at after result
          generalize (second.countEligible object).blobFor (host.retaining keepsCopy) traces
            sample.key = other at after result
          obtain ⟨state, answer⟩ := one
          obtain ⟨stateSecond, answerSecond⟩ := other
          dsimp only at result
          subst result
          cases answerSecond <;> exact ⟨after, rfl⟩
      · rw [if_neg traced, if_neg traced]
        exact ⟨alike, rfl⟩

theorem Alike.resolveAll (alike : first.Alike second) (host : Host σ ρ) (keepsCopy : Retention)
    (traces : ρ) (done samples : List Sample) :
    AlikeOutcome (Resolution.resolveAll host traces done samples first)
      (Resolution.resolveAll (host.retaining keepsCopy) traces done samples second) := by
  induction samples generalizing done first second with
  | nil => exact ⟨alike, rfl⟩
  | cons sample rest ih =>
      rw [Resolution.resolveAll, Resolution.resolveAll]
      obtain ⟨after, result⟩ := alike.resolve host keepsCopy traces sample
      generalize first.resolve host traces sample = one at after result
      generalize second.resolve (host.retaining keepsCopy) traces sample = other at after result
      obtain ⟨state, answer⟩ := one
      obtain ⟨stateSecond, answerSecond⟩ := other
      dsimp only at result
      subst result
      cases answerSecond with
      | error cause => exact ⟨after, rfl⟩
      | ok resolved => exact ih after (resolved :: done)

end Resolution

/-! ## The passes of a profiler under another tuning -/

namespace Profiler

section Passes

variable (host : Host σ ρ) (keepsCopy : Retention) {profiler : Profiler σ ρ} {options : Options}
  (exitSetSize : UInt64)

/-- Two outcomes of a pass, of which the second is the first under another tuning, but for what the
answers say about copies. -/
def RetunedOutcome {α : Type} (forget : α → α) (options : Options) (exitSetSize : UInt64)
    (first second : Profiler σ ρ × Except Failure α) : Prop :=
  second.1 = first.1.retuned options exitSetSize ∧ second.2.map forget = first.2.map forget

variable (roomy : profiler.Roomy) (other : options.Roomy)

section
include roomy other

theorem resolveFresh_retuned :
    RetunedOutcome ResolveStats.uncopied options exitSetSize (resolveFresh host profiler)
      (resolveFresh (host.retaining keepsCopy) (profiler.retuned options exitSetSize)) := by
  obtain ⟨cache, made, start⟩ := Resolution.ofOptions_of_roomy roomy.options profiler.blobs
    profiler.runtime.enterVm.lock
  obtain ⟨cacheSecond, madeSecond, startSecond⟩ := Resolution.ofOptions_of_roomy other
    profiler.blobs profiler.runtime.enterVm.lock
  obtain ⟨keying, empty⟩ := BlobCache.of_withBuckets made
  obtain ⟨keyingSecond, emptySecond⟩ := BlobCache.of_withBuckets madeSecond
  have alike : Resolution.Alike
      { blobs := profiler.blobs, cache, methods := .empty
        runtime := profiler.runtime.enterVm.lock, stats := .zero }
      { blobs := profiler.blobs, cache := cacheSecond, methods := .empty
        runtime := profiler.runtime.enterVm.lock, stats := .zero } :=
    { blobs := rfl, keying, keyingSecond, methods := rfl, runtime := rfl, stats := rfl
      answers := fun key => by rw [empty, emptySecond] }
  rw [resolveFresh, resolveFresh]
  dsimp only [retuned]
  rw [start, startSecond]
  dsimp only
  obtain ⟨after, result⟩ :=
    alike.resolveAll host keepsCopy profiler.traces [] profiler.sampler.unresolved
  generalize Resolution.resolveAll host _ _ _ _ = one at after result
  generalize Resolution.resolveAll (host.retaining keepsCopy) _ _ _ _ = second at after result
  obtain ⟨state, front, answer⟩ := one
  obtain ⟨stateSecond, frontSecond, answerSecond⟩ := second
  cases result
  dsimp only at after ⊢
  constructor
  · rw [after.blobs, after.runtime]
    rfl
  · cases answer with
    | error cause => rfl
    | ok _ => exact congrArg Except.ok after.stats

theorem rotate_retuned :
    RetunedOutcome RotationStats.uncopied options exitSetSize (rotate host profiler)
      (rotate (host.retaining keepsCopy) (profiler.retuned options exitSetSize)) := by
  by_cases admits : profiler.Admits
  · have admitsSecond : (profiler.retuned options exitSetSize).Admits := admits
    rw [rotate_of_admits host admits, rotate_of_admits _ admitsSecond]
    by_cases fresh : profiler.sampler.hasUnresolved = true
    · have freshSecond : (profiler.retuned options exitSetSize).sampler.hasUnresolved = true :=
        fresh
      rw [if_pos fresh, if_pos freshSecond]
      have due : profiler.renewed.Roomy := ⟨roomy.options, roomy.exits⟩
      obtain ⟨after, result⟩ := resolveFresh_retuned host keepsCopy exitSetSize due other
      have renewedSecond : (profiler.retuned options exitSetSize).renewed =
          profiler.renewed.retuned options exitSetSize := rfl
      rw [renewedSecond]
      generalize resolveFresh host _ = one at after result
      generalize resolveFresh (host.retaining keepsCopy) _ = second at after result
      obtain ⟨next, answer⟩ := one
      obtain ⟨nextSecond, answerSecond⟩ := second
      dsimp only at after result
      subst after
      cases answer with
      | error cause =>
          cases answerSecond with
          | error causeSecond =>
              cases result
              exact ⟨rfl, rfl⟩
          | ok stats => cases result
      | ok stats =>
          cases answerSecond with
          | error causeSecond => cases result
          | ok statsSecond =>
              have same : statsSecond.uncopied = stats.uncopied := Except.ok.inj result
              refine ⟨rfl, ?_⟩
              show Except.ok (RotationStats.uncopied _) = Except.ok (RotationStats.uncopied _)
              simp only [RotationStats.uncopied, Option.map_some, same]
              rfl
    · have settled : ¬ (profiler.retuned options exitSetSize).sampler.hasUnresolved = true :=
        fresh
      rw [if_neg fresh, if_neg settled]
      exact ⟨rfl, rfl⟩
  · have refused : ¬ (profiler.retuned options exitSetSize).Admits := admits
    rw [rotate_of_refused host admits, rotate_of_refused _ refused]
    exact ⟨rfl, rfl⟩

theorem rotateChunk_retuned :
    RetunedOutcome RotationStats.uncopied options exitSetSize (rotateChunk host profiler)
      (rotateChunk (host.retaining keepsCopy) (profiler.retuned options exitSetSize)) := by
  rw [rotateChunk, rotateChunk]
  dsimp only [retuned, Host.retaining]
  cases host.sink.rotate profiler.sink with
  | mk sink result =>
      cases result with
      | error cause => exact ⟨rfl, rfl⟩
      | ok _ =>
          have moved : ({ profiler with sink } : Profiler σ ρ).Roomy := ⟨roomy.options, roomy.exits⟩
          exact rotate_retuned host keepsCopy exitSetSize moved other

theorem rotateIfNeeded_retuned :
    RetunedOutcome (Option.map RotationStats.uncopied) options exitSetSize
      (rotateIfNeeded host profiler)
      (rotateIfNeeded (host.retaining keepsCopy) (profiler.retuned options exitSetSize)) := by
  rw [rotateIfNeeded, rotateIfNeeded]
  by_cases full : host.sink.needsRotation profiler.sink = true
  · have fullSecond : (host.retaining keepsCopy).sink.needsRotation
        (profiler.retuned options exitSetSize).sink = true := full
    rw [if_pos full, if_pos fullSecond]
    obtain ⟨after, result⟩ := rotateChunk_retuned host keepsCopy exitSetSize roomy other
    have through (answer : Except Failure RotationStats) :
        (answer.map some).map (Option.map RotationStats.uncopied) =
          (answer.map RotationStats.uncopied).map some := by
      cases answer <;> rfl
    refine ⟨after, ?_⟩
    dsimp only
    rw [through, through, result]
  · have roomSecond : ¬ (host.retaining keepsCopy).sink.needsRotation
        (profiler.retuned options exitSetSize).sink = true := full
    rw [if_neg full, if_neg roomSecond]
    exact ⟨rfl, rfl⟩

end

include roomy other

theorem write_retuned (chains : ReferenceChains) (emitAll : Bool) :
    write (host.retaining keepsCopy) chains emitAll (profiler.retuned options exitSetSize) =
      ((write host chains emitAll profiler).1.retuned options exitSetSize,
        (write host chains emitAll profiler).2) := by
  rw [write_eq, write_eq, roomy.options.passSet]
  dsimp only [retuned]
  rw [other.passSet]
  have composed : compose (host.retaining keepsCopy) chains emitAll
      (profiler.retuned options exitSetSize) = compose host chains emitAll profiler := rfl
  dsimp only [retuned] at composed
  rw [composed]
  cases compose host chains emitAll profiler <;> rfl

theorem accepted_retuned (chains : ReferenceChains) (emitAll : Bool) :
    accepted (host.retaining keepsCopy) chains emitAll (profiler.retuned options exitSetSize) =
      accepted host chains emitAll profiler := by
  have noting : profiler.noting.Roomy := ⟨roomy.options, roomy.exits⟩
  have same := write_retuned { host with sink := host.sink.noting } keepsCopy exitSetSize noting
    other chains emitAll
  exact congrArg (·.1.sink.2) same

omit roomy other in
theorem installTypeSet_retuned (typeSet : Option BlobId) :
    (profiler.retuned options exitSetSize).installTypeSet typeSet =
      ((profiler.installTypeSet typeSet).1.retuned options exitSetSize,
        (profiler.installTypeSet typeSet).2) := by
  cases running : profiler.running with
  | false => simp [installTypeSet, retuned, running]
  | true =>
      cases fresh : profiler.sampler.hasUnresolved with
      | false => simp [installTypeSet, retuned, running, fresh]
      | true => cases typeSet <;> simp [installTypeSet, retuned, running, fresh]

omit other in
theorem threadExit_retuned (exits : exitSetSize < allocationLimit) (tid : TraceId) :
    (profiler.retuned options exitSetSize).threadExit tid =
      ((profiler.threadExit tid).1.retuned options exitSetSize,
        (profiler.threadExit tid).2) := by
  have exitsFirst := roomy.exits
  obtain ⟨running, _, ⟨initialSize, allocated, members⟩, sink, sampler, blobs, traces, runtime,
    edges⟩ := profiler
  cases running with
  | false => rfl
  | true =>
      rw [threadExit, threadExit]
      dsimp only [retuned, ExitedThreads.record, ExitedThreads.memberSet]
      cases tid.isNone with
      | true => rfl
      | false =>
          cases members with
          | some set => rfl
          | none =>
              rw [IdSet.withCapacity, IdSet.withCapacity, reserve_of_lt exits,
                reserve_of_lt exitsFirst]
              rfl

omit roomy other in
theorem clearExits_retuned :
    (profiler.retuned options exitSetSize).clearExits =
      (profiler.clearExits.1.retuned options exitSetSize, profiler.clearExits.2) := by
  cases stopped : profiler.runtime.atSafepoint <;>
    simp [clearExits, ExitedThreads.clear, retuned, stopped]

end Passes

end Profiler

/-! ## Runs under two tunings -/

/-- The operation sets options. -/
def Operation.Retunes : Operation ρ → Prop
  | .setOptions _ => True
  | _ => False

namespace Profiler

variable {options : Options} {exitSetSize : UInt64} {α : Type}
  {first second : Profiler σ ρ × Except Failure α}

/-- What is forgotten of a result may as well be forgotten of the answer. -/
theorem RetunedOutcome.answering {forget : α → α}
    (same : RetunedOutcome forget options exitSetSize first second) (answer : α → Answer)
    (commutes : ∀ value, (answer value).uncopied = answer (forget value)) :
    RetunedOutcome Answer.uncopied options exitSetSize (first.1, first.2.map answer)
      (second.1, second.2.map answer) := by
  have forgotten (result : Except Failure α) :
      (result.map answer).map Answer.uncopied = (result.map forget).map answer := by
    cases result with
    | error cause => rfl
    | ok value => exact congrArg Except.ok (commutes value)
  refine ⟨same.1, ?_⟩
  dsimp only
  rw [forgotten, forgotten, same.2]

/-- A result that tells of no copies is answered the same. -/
theorem RetunedOutcome.of_eq (same : second = (first.1.retuned options exitSetSize, first.2))
    (answer : α → Answer) (plain : ∀ value, (answer value).uncopied = answer value) :
    RetunedOutcome Answer.uncopied options exitSetSize (first.1, first.2.map answer)
      (second.1, second.2.map answer) := by
  subst same
  have exact : RetunedOutcome id options exitSetSize first
      (first.1.retuned options exitSetSize, first.2) := ⟨rfl, rfl⟩
  exact exact.answering answer plain

end Profiler

/-- Every operation but the one that sets options is the same under another tuning. -/
theorem Operation.outcome_retuned (host : Host σ ρ) (keepsCopy : Retention)
    {profiler : Profiler σ ρ} {options : Options} {exitSetSize : UInt64} (roomy : profiler.Roomy)
    (other : options.Roomy) (exits : exitSetSize < allocationLimit) (operation : Operation ρ)
    (keeps : ¬ operation.Retunes) :
    Profiler.RetunedOutcome Answer.uncopied options exitSetSize (operation.outcome host profiler)
      (operation.outcome (host.retaining keepsCopy) (profiler.retuned options exitSetSize)) := by
  cases operation with
  | setOptions chosen => exact absurd trivial keeps
  | rotate =>
      exact (Profiler.rotate_retuned host keepsCopy exitSetSize roomy other).answering .rotated
        fun _ => rfl
  | rotateChunk =>
      exact (Profiler.rotateChunk_retuned host keepsCopy exitSetSize roomy other).answering
        .rotated fun _ => rfl
  | rotateIfNeeded =>
      exact (Profiler.rotateIfNeeded_retuned host keepsCopy exitSetSize roomy other).answering
        .rotatedIfFull fun _ => rfl
  | write chains emitAll =>
      exact .of_eq (Profiler.write_retuned host keepsCopy exitSetSize roomy other chains emitAll)
        .wrote fun _ => rfl
  | installTypeSet typeSet =>
      exact .of_eq (Profiler.installTypeSet_retuned exitSetSize typeSet) .installed fun _ => rfl
  | threadExit tid =>
      exact .of_eq (Profiler.threadExit_retuned exitSetSize roomy exits tid) (fun _ => .done)
        fun _ => rfl
  | clearExits =>
      exact .of_eq (Profiler.clearExits_retuned exitSetSize) (fun _ => .done) fun _ => rfl
  | _ => exact ⟨rfl, rfl⟩

/-- Only the operation that sets options changes the tuning. -/
theorem Operation.tuning_outcome (host : Host σ ρ) {profiler : Profiler σ ρ}
    (roomy : profiler.Roomy) (operation : Operation ρ) (keeps : ¬ operation.Retunes) :
    (operation.outcome host profiler).1.options = profiler.options ∧
      (operation.outcome host profiler).1.exited.initialSize = profiler.exited.initialSize := by
  -- Under the tuning that it has, the profiler is itself.
  have same := (operation.outcome_retuned host host.keepsCopy roomy roomy.options roomy.exits
    keeps).1
  have itself : (operation.outcome host profiler).1 =
      (operation.outcome host profiler).1.retuned profiler.options
        profiler.exited.initialSize := same
  rw [itself]
  exact ⟨rfl, rfl⟩

/-- What a profiler works on but does not own. -/
structure Surroundings (ρ : Type) where
  sampler : Sampler
  blobs : BlobStore
  traces : ρ
  runtime : Runtime
  edges : EdgeStore

/-- A step of a run: an operation, or any change of what the profiler works on. -/
inductive Step (ρ : Type) where
  | perform (operation : Operation ρ)
  | outside (change : Surroundings ρ → Surroundings ρ)

/-- The same step in two runs; where it sets options, these may differ. -/
inductive Step.Alike : Step ρ → Step ρ → Prop where
  | perform {operation : Operation ρ} (keeps : ¬ operation.Retunes) :
      Alike (.perform operation) (.perform operation)
  | setOptions {first second : Options} (roomy : first.Roomy) (roomySecond : second.Roomy) :
      Alike (.perform (.setOptions first)) (.perform (.setOptions second))
  | outside (change : Surroundings ρ → Surroundings ρ) : Alike (.outside change) (.outside change)

/-- What can be seen of a step: what it leaves, what it answers and which payloads the sink has
accepted from it. -/
structure Moment (σ ρ : Type) where
  after : Profiler σ ρ
  answer : Except Failure Answer
  accepted : List Bytes

def Profiler.surroundings (profiler : Profiler σ ρ) : Surroundings ρ :=
  { sampler := profiler.sampler, blobs := profiler.blobs, traces := profiler.traces
    runtime := profiler.runtime, edges := profiler.edges }

def Profiler.moved (profiler : Profiler σ ρ) (surroundings : Surroundings ρ) : Profiler σ ρ :=
  { profiler with
    sampler := surroundings.sampler
    blobs := surroundings.blobs
    traces := surroundings.traces
    runtime := surroundings.runtime
    edges := surroundings.edges }

def Step.moment (host : Host σ ρ) (profiler : Profiler σ ρ) : Step ρ → Moment σ ρ
  | .perform operation =>
      { after := (operation.outcome host profiler).1
        answer := (operation.outcome host profiler).2
        accepted := (operation.commits host profiler).map (·.payload) }
  | .outside change =>
      { after := profiler.moved (change profiler.surroundings), answer := .ok .done
        accepted := [] }

/-- What can be seen of a run, step by step. -/
def trail (host : Host σ ρ) : List (Step ρ) → Profiler σ ρ → List (Moment σ ρ)
  | [], _ => []
  | step :: rest, profiler =>
      step.moment host profiler :: trail host rest (step.moment host profiler).after

/-- Nothing but the tuning and the number of copies tells the moments apart. -/
structure Moment.Alike (first second : Moment σ ρ) : Prop where
  after : first.after.Alike second.after
  answer : second.answer.map Answer.uncopied = first.answer.map Answer.uncopied
  accepted : second.accepted = first.accepted

section Runs

variable (host : Host σ ρ) (keepsCopy : Retention) {first second : Profiler σ ρ}

theorem Operation.commits_retuned (alike : first.Alike second) (operation : Operation ρ) :
    (operation.commits (host.retaining keepsCopy) second).map (·.payload) =
      (operation.commits host first).map (·.payload) := by
  cases operation with
  | write chains emitAll =>
      have same := Profiler.accepted_retuned host keepsCopy second.exited.initialSize alike.roomy
        alike.roomySecond.options chains emitAll
      rw [← alike.same] at same
      dsimp only [commits]
      rw [List.map_map, List.map_map, same]
      rfl
  | _ => rfl

/-- One step of two runs. -/
theorem Step.Alike.moment {step other : Step ρ} (same : step.Alike other)
    (alike : first.Alike second) :
    (step.moment host first).Alike (other.moment (host.retaining keepsCopy) second) := by
  cases same with
  | @perform operation keeps =>
      obtain ⟨after, answer⟩ := operation.outcome_retuned host keepsCopy alike.roomy
        alike.roomySecond.options alike.roomySecond.exits keeps
      rw [← alike.same] at after answer
      obtain ⟨options, exits⟩ := operation.tuning_outcome host alike.roomy keeps
      have roomy : (operation.outcome host first).1.Roomy :=
        ⟨options ▸ alike.roomy.options, exits ▸ alike.roomy.exits⟩
      exact
        { after := .of_retuned after roomy alike.roomySecond.options alike.roomySecond.exits
          answer
          accepted := operation.commits_retuned host keepsCopy alike }
  | @setOptions chosen chosenSecond roomy roomySecond =>
      have same := alike.same
      refine ⟨⟨⟨roomy, alike.roomy.exits⟩, ⟨roomySecond, alike.roomySecond.exits⟩, ?_⟩, rfl, rfl⟩
      show second.setOptions chosenSecond =
        (first.setOptions chosen).retuned chosenSecond second.exited.initialSize
      rw [same]
      rfl
  | outside change =>
      have same := alike.same
      refine ⟨⟨⟨alike.roomy.options, alike.roomy.exits⟩,
        ⟨alike.roomySecond.options, alike.roomySecond.exits⟩, ?_⟩, rfl, rfl⟩
      show second.moved (change second.surroundings) =
        (first.moved (change first.surroundings)).retuned second.options
          second.exited.initialSize
      rw [same]
      rfl

end Runs

/-- Profilers that are made with different options are alike. -/
theorem Profiler.alike_create {options other : Options} (roomy : options.Roomy)
    (roomySecond : other.Roomy) (sink : σ) (traces : ρ) :
    (create options sink traces).Alike (create other sink traces) :=
  ⟨⟨roomy, roomy.set⟩, ⟨roomySecond, roomySecond.set⟩, rfl⟩

/-- **Tuning is not seen.** Two profilers that differ in their retention and in their options, at
the start and whenever options are set, go through the same steps side by side: after each they
have the same samples with the same blobs, answer the same but for the number of copies, and their
sinks have accepted the same payloads. -/
theorem tuning_unseen (host : Host σ ρ) (keepsCopy : Retention) {steps others : List (Step ρ)}
    (same : List.Forall₂ Step.Alike steps others) {first second : Profiler σ ρ}
    (alike : first.Alike second) :
    List.Forall₂ Moment.Alike (trail host steps first)
      (trail (host.retaining keepsCopy) others second) := by
  induction same generalizing first second with
  | nil => exact .nil
  | cons step _ ih =>
      have moment := step.moment host keepsCopy alike
      exact .cons moment (ih moment.after)

/-- A run in which a rotation builds one blob for two samples and a write emits it. -/
def retunedRun (options : Options) : List (Step TraceLog) :=
  [.perform .start, .perform (.capture (·.record rootTrace)),
    .perform (.push (tracedDraft rootTrace.key)), .perform (.push (tracedDraft rootTrace.key)),
    .perform (.setOptions options), .perform .rotate,
    .perform (.write (.ofEdges .empty) true)]

/-- The rotation copies the trace's bytes in one run only, and the runs are alike. -/
theorem tuning_unseen_retunedRun :
    let host : Host MemorySink TraceLog := ⟨.memory, .log, Retention.always⟩
    let least := { Options.standard with queueSize := 0, idSetSize := 0 }
    let larger := { Options.standard with queueSize := 2, idSetSize := 9 }
    let moments := trail host (retunedRun least) (.create least (.ofLimit none) .empty)
    let others := trail (host.retaining Retention.never) (retunedRun larger)
      (.create larger (.ofLimit none) .empty)
    let answer (copied : Nat) : Answer :=
      .rotated { samplesReset := 0, resolved := some { eligible := 2, alreadyResolved := 0
                                                       cacheHits := 1, serialized := 1, copied
                                                       methodsTagged := 0 } }
    List.Forall₂ Moment.Alike moments others ∧
      moments[5]?.map (·.answer) = some (.ok (answer 1)) ∧
      others[5]?.map (·.answer) = some (.ok (answer 0)) := by
  have least : Options.Roomy { Options.standard with queueSize := 0, idSetSize := 0 } :=
    ⟨by decide, by decide⟩
  have larger : Options.Roomy { Options.standard with queueSize := 2, idSetSize := 9 } :=
    ⟨by decide, by decide⟩
  have same : List.Forall₂ Step.Alike
      (retunedRun { Options.standard with queueSize := 0, idSetSize := 0 })
      (retunedRun { Options.standard with queueSize := 2, idSetSize := 9 }) :=
    .cons (.perform id) <| .cons (.perform id) <| .cons (.perform id) <| .cons (.perform id) <|
      .cons (.setOptions least larger) <| .cons (.perform id) <| .cons (.perform id) .nil
  exact ⟨tuning_unseen ⟨.memory, .log, Retention.always⟩ Retention.never same
    (Profiler.alike_create least larger _ _), rfl, rfl⟩

end LeakRecorder
