/-
# LeakRecorder.Proofs.TagCounts — what a rotation adds to the counts of tags

A resolution tags in two places. It tags the class of every eligible sample's object
when it comes to the sample. And it tags methods while it serializes a trace, frame by
frame; the set of methods met so far is shared by all traces of the rotation, and a
method whose holder is unloaded is met but not tagged. Tagging a method counts for its
holder too.

The journal is read as two lists, the methods tagged and the classes tagged, in order.
`Resolution.Tallies` says by which lists a resolution has extended them, and that it has
counted the methods; every part of a resolution extends them, also one that fails.
`Resolution.Stored` says which traces have been serialized: those of the keys wanted so
far, each once, in the order in which they were first wanted. The blobs that the store
has gained are the blocks of these traces and nothing else.

Together they give the counts (`Profiler.rotate_tags_exactly`): a rotation that succeeds
tags every method of the serialized traces once unless its holder is unloaded, however
often it occurs in their frames and whatever class the frames name.
-/
import LeakRecorder.Proofs.RotationOutcome

set_option autoImplicit false

namespace LeakRecorder

/-! ## Reading the journal -/

namespace Runtime

/-- A class is tagged by itself or with one of its methods. -/
theorem classTags_eq_add (runtime : Runtime) (classId : ClassId) :
    runtime.classTags classId =
      (runtime.told RuntimeCall.taggedClass?).count classId +
        (runtime.told RuntimeCall.tagged?).countP
          fun method => decide (method.holder = classId) := by
  rw [classTags, told, told]
  induction runtime.journal.toList with
  | nil => rfl
  | cons call calls ih =>
      rw [List.countP_cons, ih, List.filterMap_cons, List.filterMap_cons]
      cases call with
      | tagClass tagged =>
          simp only [RuntimeCall.tagged?, RuntimeCall.taggedClass?, RuntimeCall.tagsClass,
            List.count_cons, beq_iff_eq]
          omega
      | tagMethod tagged =>
          simp only [RuntimeCall.tagged?, RuntimeCall.taggedClass?, RuntimeCall.tagsClass,
            List.countP_cons, beq_iff_eq, decide_eq_true_eq]
          omega
      | _ => simp [RuntimeCall.tagged?, RuntimeCall.taggedClass?, RuntimeCall.tagsClass]

end Runtime

/-- The class that resolving a sample tags: that of an eligible sample's object. -/
def Sample.taggedClass (sample : Sample) : List ClassId :=
  if sample.isEligible then (sample.object.map (·.classId)).toList else []

/-- How often resolving samples tags a class: once for each eligible sample of it. -/
theorem Sample.count_taggedClass (samples : List Sample) (classId : ClassId) :
    (samples.flatMap taggedClass).count classId =
      samples.countP fun sample =>
        sample.isEligible && decide (sample.object.map (·.classId) = some classId) := by
  induction samples with
  | nil => rfl
  | cons sample rest ih =>
      have one : sample.taggedClass.count classId =
          if sample.isEligible && decide (sample.object.map (·.classId) = some classId) then 1
          else 0 := by
        rw [taggedClass]
        cases sample.isEligible with
        | false => rfl
        | true => cases sample.object <;> simp [List.count_singleton]
      rw [List.flatMap_cons, List.count_append, ih, one, List.countP_cons, Nat.add_comm]

namespace Resolution

variable {σ ρ : Type}

/-! ## What a resolution tags -/

/-- What has been tagged from one state of a resolution to another: these classes, and some methods,
which have been counted. -/
structure Tallies (before after : Resolution) (classes : List ClassId) : Prop where
  classes : after.runtime.told Runtime.RuntimeCall.taggedClass? =
    before.runtime.told Runtime.RuntimeCall.taggedClass? ++ classes
  methods : ∃ tagged,
    after.runtime.told Runtime.RuntimeCall.tagged? =
        before.runtime.told Runtime.RuntimeCall.tagged? ++ tagged ∧
    after.stats.methodsTagged = before.stats.methodsTagged + tagged.length

theorem Tallies.refl (state : Resolution) : state.Tallies state [] where
  classes := (List.append_nil _).symm
  methods := ⟨[], (List.append_nil _).symm, rfl⟩

theorem Tallies.trans {before mid after : Resolution} {classes more : List ClassId}
    (first : before.Tallies mid classes) (second : mid.Tallies after more) :
    before.Tallies after (classes ++ more) := by
  obtain ⟨tagged, methods, count⟩ := first.methods
  obtain ⟨others, later, countLater⟩ := second.methods
  constructor
  · rw [second.classes, first.classes, List.append_assoc]
  · refine ⟨tagged ++ others, ?_, ?_⟩
    · rw [later, methods, List.append_assoc]
    · rw [countLater, count, List.length_append, Nat.add_assoc]

/-- Runtime and count decide. -/
theorem Tallies.of_same {before mid after : Resolution} {classes : List ClassId}
    (tallies : before.Tallies mid classes) (runtime : after.runtime = mid.runtime)
    (count : after.stats.methodsTagged = mid.stats.methodsTagged) :
    before.Tallies after classes := by
  constructor
  · rw [runtime]
    exact tallies.classes
  · rw [runtime, count]
    exact tallies.methods

section Tallies

variable (state : Resolution)

theorem tallies_countEligible (object : ObjectRef) :
    state.Tallies (state.countEligible object) [object.classId] where
  classes := state.runtime.told_log _ (.tagClass object.classId)
  methods := by
    refine ⟨[], ?_, rfl⟩
    exact state.runtime.told_log _ (.tagClass object.classId)

/-- Asking whether a class is unloaded tags nothing. -/
theorem tallies_asked (methods : IdSet .method) (classId : ClassId) (answer : Bool) :
    state.Tallies
      { state with methods, runtime := state.runtime.log (.checkUnloaded classId answer) } [] where
  classes := state.runtime.told_log _ (.checkUnloaded classId answer)
  methods := by
    refine ⟨[], ?_, rfl⟩
    exact state.runtime.told_log _ (.checkUnloaded classId answer)

theorem tallies_tagMethod (method : MethodId) :
    state.Tallies
      { state with
        runtime := state.runtime.tagMethod method
        stats := { state.stats with methodsTagged := state.stats.methodsTagged + 1 } } [] where
  classes := state.runtime.told_log _ (.tagMethod method)
  methods := by
    refine ⟨[method], ?_, rfl⟩
    exact state.runtime.told_log _ (.tagMethod method)

theorem tallies_tagFrame (frame : Frame) : state.Tallies (state.tagFrame frame) [] := by
  have asked := tallies_asked state (state.methods.add frame.method).2 frame.method.holder
  unfold tagFrame
  dsimp only [IdSet.add, Runtime.checkUnloaded]
  cases state.methods.contains frame.method with
  | true => exact (Tallies.refl state).of_same rfl rfl
  | false =>
      rw [Bool.not_false, if_pos rfl]
      cases state.runtime.isUnloaded frame.method.holder with
      | true => exact asked true
      | false => exact (asked false).trans (tallies_tagMethod _ frame.method)

theorem tallies_tagFrames (frames : List Frame) :
    state.Tallies (frames.foldl tagFrame state) [] := by
  induction frames generalizing state with
  | nil => exact .refl state
  | cons frame rest ih => exact (tallies_tagFrame state frame).trans (ih _)

theorem tallies_serialize (keepsCopy : Retention) (trace : Trace) :
    state.Tallies (state.serialize keepsCopy trace).1 [] := by
  rw [serialize_eq]
  split
  · have tallies := tallies_tagFrames state trace.frames
    dsimp only
    split
    · exact tallies.of_same rfl rfl
    · exact tallies.of_same rfl rfl
  · exact .refl state

theorem tallies_blobFor (host : Host σ ρ) (traces : ρ) (key : TraceKey) :
    state.Tallies (state.blobFor host traces key).1 [] := by
  rw [blobFor]
  split
  · exact .refl state
  · exact (Tallies.refl state).of_same rfl rfl
  · split
    · exact .refl state
    · split
      · exact tallies_serialize state host.keepsCopy _
      · exact .refl state

/-- Resolving a sample tags its object's class if it is eligible, whatever comes of it. -/
theorem tallies_resolve (host : Host σ ρ) (traces : ρ) (sample : Sample) :
    state.Tallies (state.resolve host traces sample).1 sample.taggedClass := by
  rw [resolve, Sample.taggedClass, Sample.isEligible, Sample.isDead]
  cases sample.object with
  | none => exact .refl state
  | some object =>
      have eligible := tallies_countEligible state object
      cases sample.hasTrace with
      | false => exact .refl state
      | true =>
          dsimp only
          rw [if_pos rfl]
          split
          · exact eligible.of_same rfl rfl
          · have found := tallies_blobFor (state.countEligible object) host traces sample.key
            have tallies := eligible.trans found
            generalize blobFor host traces (state.countEligible object) sample.key = outcome
              at tallies
            obtain ⟨after, result⟩ := outcome
            cases result <;> exact tallies

end Tallies

theorem tallies_resolveAll {host : Host σ ρ} {traces : ρ} {settled samples front : List Sample}
    {state after : Resolution}
    (done : resolveAll host traces settled samples state = (after, front, .ok ())) :
    state.Tallies after (samples.flatMap Sample.taggedClass) := by
  induction samples generalizing settled state with
  | nil =>
      cases done
      exact .refl after
  | cons sample rest ih =>
      have first := tallies_resolve state host traces sample
      rw [resolveAll] at done
      cases one : state.resolve host traces sample with
      | mk next answer =>
          rw [one] at done first
          cases answer with
          | error cause => cases done
          | ok left => exact first.trans (ih done)

/-! ## What a resolution serializes -/

/-- The traces that the source has for the keys that the samples need blobs for, each key once, in
the order in which the samples come to them. -/
def servedFor (host : Host σ ρ) (traces : ρ) (samples : List Sample) : List Trace :=
  (Sample.wanted samples).eraseDups.filterMap (host.source.lookup traces)

/-- The blob that a trace is serialized into. -/
def blobOf (trace : Trace) : Blob :=
  { kind := .stackTrace, bytes := (traceBlock [trace]).encode, written := false }

section Stored

variable {host : Host σ ρ} {traces : ρ} {start state after : Resolution} {seen : List Sample}

theorem servedFor_append_idle {sample : Sample} (needless : sample.needsTrace = false) :
    servedFor host traces (seen ++ [sample]) = servedFor host traces seen := by
  rw [servedFor, Sample.wanted_append_idle seen needless, servedFor]

theorem servedFor_append_known {sample : Sample} (needs : sample.needsTrace = true)
    (known : sample.key ∈ Sample.wanted seen) :
    servedFor host traces (seen ++ [sample]) = servedFor host traces seen := by
  have nothing : [sample.key].removeAll (Sample.wanted seen) = [] := by
    simp [List.removeAll, known]
  rw [servedFor, Sample.wanted_append_needs seen needs, List.eraseDups_append, nothing,
    List.eraseDups_nil, List.append_nil, servedFor]

theorem servedFor_append_new {sample : Sample} {trace : Trace} (needs : sample.needsTrace = true)
    (new : sample.key ∉ Sample.wanted seen) (serves : Serves host traces sample.key trace) :
    servedFor host traces (seen ++ [sample]) = servedFor host traces seen ++ [trace] := by
  have itself : [sample.key].removeAll (Sample.wanted seen) = [sample.key] := by
    simp [List.removeAll, new]
  have once : [sample.key].eraseDups = [sample.key] := by
    rw [List.eraseDups_cons, List.filter_nil, List.eraseDups_nil]
  rw [servedFor, Sample.wanted_append_needs seen needs, List.eraseDups_append, itself, once,
    List.filterMap_append, servedFor, List.filterMap_cons_some serves.found, List.filterMap_nil]

/-- What a resolution that has gone through some samples has stored: a blob for each trace that it
has serialized. -/
structure Stored (host : Host σ ρ) (traces : ρ) (start : Resolution) (seen : List Sample)
    (state : Resolution) : Prop where
  blobs : state.blobs.blobs.toList =
    start.blobs.blobs.toList ++ (servedFor host traces seen).map blobOf
  serialized : state.stats.serialized = (servedFor host traces seen).length

theorem Stored.of_same {more : List Sample} (stored : Stored host traces start seen state)
    (same : servedFor host traces more = servedFor host traces seen)
    (blobs : after.blobs = state.blobs)
    (serialized : after.stats.serialized = state.stats.serialized) :
    Stored host traces start more after := by
  constructor
  · rw [blobs, same]
    exact stored.blobs
  · rw [serialized, same]
    exact stored.serialized

/-- One sample that is not refused. -/
theorem Stored.step {sample left : Sample} (stored : Stored host traces start seen state)
    (met : Met host traces start seen state)
    (done : state.resolve host traces sample = (after, .ok left)) :
    Stored host traces start (seen ++ [sample]) after := by
  have resolves := resolves_of_resolve done
  generalize answer : (Except.ok left : Except Failure Sample) = result at resolves
  cases resolves with
  | passed idle =>
      exact stored.of_same (servedFor_append_idle (Sample.needsTrace_of_idle idle)) rfl rfl
  | carried eligible carries =>
      exact stored.of_same (servedFor_append_idle (Sample.needsTrace_of_carries carries)) rfl rfl
  | hit needs cached =>
      have known : sample.key ∈ Sample.wanted seen := by
        rw [← met.cached, cached]
        rfl
      exact stored.of_same (servedFor_append_known needs known) rfl rfl
  | @built object trace _ needs free serves made =>
      have new : sample.key ∉ Sample.wanted seen := by
        rw [← met.cached, free]
        simp
      subst made
      constructor
      · rw [servedFor_append_new needs new serves, List.map_append, ← List.append_assoc,
          ← stored.blobs]
        exact Array.toList_push
      · obtain ⟨methodsTagged, tagged⟩ := stats_tagFrames (state.countEligible object) trace.frames
        rw [servedFor_append_new needs new serves, List.length_append, ← stored.serialized]
        show (trace.frames.foldl tagFrame (state.countEligible object)).stats.serialized + 1 = _
        rw [tagged]
        rfl
  | refused needs unserved => cases answer

/-- A walk that comes to its end has met all the samples, and stored what they needed. -/
theorem Stored.walk {settled samples front : List Sample}
    (stored : Stored host traces start seen state) (met : Met host traces start seen state)
    (done : resolveAll host traces settled samples state = (after, front, .ok ())) :
    Stored host traces start (seen ++ samples) after ∧
      Met host traces start (seen ++ samples) after := by
  induction samples generalizing seen settled state with
  | nil =>
      cases done
      rw [List.append_nil]
      exact ⟨stored, met⟩
  | cons sample rest ih =>
      rw [resolveAll] at done
      cases one : state.resolve host traces sample with
      | mk next answer =>
          rw [one] at done
          cases answer with
          | error cause => cases done
          | ok left =>
              have all := ih (stored.step met one) (met.step one).1 done
              rw [List.append_assoc] at all
              exact all

/-- Among the serialized traces are those of every key that was wanted. -/
theorem Met.reaches_iff (met : Met host traces start seen state) (method : MethodId) :
    Reaches host traces (Sample.wanted seen) method ↔
      ∃ trace ∈ servedFor host traces seen, ∃ frame ∈ trace.frames, frame.method = method := by
  constructor
  · rintro ⟨key, wanted, trace, serves, through⟩
    refine ⟨trace, ?_, through⟩
    exact List.mem_filterMap.mpr ⟨key, List.mem_eraseDups.mpr wanted, serves.found⟩
  · rintro ⟨trace, served, through⟩
    obtain ⟨key, wanted, found⟩ := List.mem_filterMap.mp served
    rw [List.mem_eraseDups] at wanted
    obtain ⟨blob, hit⟩ := Option.isSome_iff_exists.mp ((met.cached key).mpr wanted)
    obtain ⟨same, built⟩ := met.sound.cached key blob hit
    obtain rfl : same = trace := Option.some.inj (built.found.symm.trans found)
    exact ⟨key, wanted, same, ⟨found, built.key, built.few⟩, through⟩

/-- Of the methods that have been tagged since the start, each one stands for a method that was
reached and whose holder is not unloaded; none is there twice. -/
theorem Met.tagged (met : Met host traces start seen state) (nothing : start.methods = .empty)
    {tagged : List MethodId}
    (journal : state.runtime.told Runtime.RuntimeCall.tagged? =
      start.runtime.told Runtime.RuntimeCall.tagged? ++ tagged) :
    tagged.Nodup ∧ ∀ method, method ∈ tagged ↔
      (∃ trace ∈ servedFor host traces seen, ∃ frame ∈ trace.frames, frame.method = method) ∧
        start.runtime.isUnloaded method.holder = false := by
  classical
  have counted (method : MethodId) : tagged.count method =
      if (∃ trace ∈ servedFor host traces seen, ∃ frame ∈ trace.frames, frame.method = method) ∧
        start.runtime.isUnloaded method.holder = false then 1 else 0 := by
    have tags := met.tags.tags method
    rw [Runtime.methodTags_eq_count, Runtime.methodTags_eq_count, journal,
      List.count_append] at tags
    refine (Nat.add_left_cancel tags).trans (if_congr ?_ rfl rfl)
    rw [met.methods, met.reaches_iff, nothing, and_iff_right (IdSet.contains_empty method)]
  constructor
  · apply List.nodup_iff_count_le_one.mpr
    intro method
    rw [counted]
    split
    · exact Nat.le_refl 1
    · exact Nat.zero_le 1
  · intro method
    rw [← List.count_pos_iff, counted]
    split
    next met => exact iff_of_true Nat.one_pos met
    next unmet => exact iff_of_false (Nat.lt_irrefl 0) unmet

end Stored

end Resolution

/-! ## A rotation -/

namespace Profiler

variable {σ ρ : Type} {host : Host σ ρ} {before after : Profiler σ ρ}

/-- The traces that a rotation serializes, if it succeeds. -/
def serializes (host : Host σ ρ) (profiler : Profiler σ ρ) : List Trace :=
  Resolution.servedFor host profiler.traces profiler.sampler.unresolved

/-- A method that a rotation tags: it occurs in a frame of a trace that is serialized, and its own
holder is not unloaded. -/
def Meets (host : Host σ ρ) (profiler : Profiler σ ρ) (method : MethodId) : Prop :=
  (∃ trace ∈ profiler.serializes host, ∃ frame ∈ trace.frames, frame.method = method) ∧
    profiler.runtime.isUnloaded method.holder = false

/-- A resolution that has come to its end: where it began, and what it has left. -/
theorem resolveFresh_ok {counts : ResolveStats}
    (done : resolveFresh host before = (after, .ok counts)) :
    ∃ cache front state,
      BlobCache.withBuckets before.options.queueSize = .ok cache ∧
      Resolution.resolveAll host before.traces [] before.sampler.unresolved
          { blobs := before.blobs, cache, methods := .empty
            runtime := before.runtime.enterVm.lock, stats := .zero } = (state, front, .ok ()) ∧
      after.blobs = state.blobs ∧ after.runtime = state.runtime.unlock.leaveVm ∧
      counts = state.stats := by
  rw [resolveFresh] at done
  dsimp only at done
  by_cases roomy : before.options.Roomy
  · obtain ⟨cache, made, begun⟩ :=
      Resolution.ofOptions_of_roomy roomy before.blobs before.runtime.enterVm.lock
    rw [begun] at done
    dsimp only at done
    cases all : Resolution.resolveAll host before.traces [] before.sampler.unresolved
        { blobs := before.blobs, cache, methods := .empty
          runtime := before.runtime.enterVm.lock, stats := .zero } with
    | mk state others =>
        obtain ⟨front, outcome⟩ := others
        rw [all] at done
        cases outcome with
        | error cause => cases done
        | ok _ =>
            cases done
            exact ⟨cache, front, state, made, all, rfl, rfl, rfl⟩
  · rw [Resolution.ofOptions_of_not_roomy roomy] at done
    cases done

/-- What a rotation has added to the blobs and to the counts of tags. -/
structure TagsExactly (host : Host σ ρ) (before after : Profiler σ ρ) (counts : ResolveStats) :
    Prop where
  /-- The new blobs are the blocks of the traces that it serializes. -/
  blobs : after.blobs.blobs.toList =
    before.renewed.blobs.blobs.toList ++ (before.serializes host).map Resolution.blobOf
  serialized : counts.serialized = (before.serializes host).length
  tagged : ∀ method, before.Meets host method →
    after.runtime.methodTags method = before.runtime.methodTags method + 1
  untagged : ∀ method, ¬ before.Meets host method →
    after.runtime.methodTags method = before.runtime.methodTags method
  /-- The tagged methods in a list: how many they are, and what they and the eligible samples add
  to the classes. -/
  methods : ∃ methods : List MethodId, methods.Nodup ∧
    (∀ method, method ∈ methods ↔ before.Meets host method) ∧
    counts.methodsTagged = methods.length ∧
    ∀ classId, after.runtime.classTags classId =
      before.runtime.classTags classId +
        (before.sampler.unresolved.countP fun sample =>
          sample.isEligible && decide (sample.object.map (·.classId) = some classId)) +
        methods.countP fun method => decide (method.holder = classId)

theorem resolveFresh_tagsExactly {counts : ResolveStats}
    (done : resolveFresh host before.renewed = (after, .ok counts)) :
    TagsExactly host before after counts := by
  obtain ⟨cache, front, state, made, walked, blobs, runtime, rfl⟩ := resolveFresh_ok done
  have start := Resolution.met_start made host before.traces before.renewed.blobs
    before.runtime.enterVm.lock
  have nothing : Resolution.Stored host before.traces
      { blobs := before.renewed.blobs, cache, methods := .empty
        runtime := before.runtime.enterVm.lock, stats := .zero } []
      { blobs := before.renewed.blobs, cache, methods := .empty
        runtime := before.runtime.enterVm.lock, stats := .zero } :=
    ⟨(List.append_nil _).symm, rfl⟩
  obtain ⟨stored, met⟩ := nothing.walk start walked
  rw [List.nil_append] at stored met
  have tallies := Resolution.tallies_resolveAll walked
  obtain ⟨methods, journal, count⟩ := tallies.methods
  obtain ⟨nodup, members⟩ := met.tagged rfl journal
  have left : after.runtime.told Runtime.RuntimeCall.tagged? =
      before.runtime.told Runtime.RuntimeCall.tagged? ++ methods := by
    rw [runtime]
    exact Runtime.quiet_tagged.told_within journal
  have leftClasses : after.runtime.told Runtime.RuntimeCall.taggedClass? =
      before.runtime.told Runtime.RuntimeCall.taggedClass? ++
        before.sampler.unresolved.flatMap Sample.taggedClass := by
    rw [runtime]
    exact Runtime.quiet_taggedClass.told_within tallies.classes
  have tags (method : MethodId) : after.runtime.methodTags method =
      before.runtime.methodTags method + methods.count method := by
    rw [Runtime.methodTags_eq_count, left, List.count_append, Runtime.methodTags_eq_count]
  refine ⟨?_, stored.serialized, ?_, ?_, methods, nodup, members, ?_, ?_⟩
  · rw [blobs]
    exact stored.blobs
  · intro method met
    rw [tags, List.count_eq_one_of_mem nodup ((members method).mpr met)]
  · intro method unmet
    rw [tags, List.count_eq_zero_of_not_mem fun member => unmet ((members method).mp member),
      Nat.add_zero]
  · rw [count]
    exact Nat.zero_add _
  · intro classId
    rw [Runtime.classTags_eq_add, Runtime.classTags_eq_add, left, leftClasses, List.count_append,
      List.countP_append, Sample.count_taggedClass]
    omega

/-- **Tagging is exact.** A rotation that succeeds over unresolved samples tags every method that
occurs in a frame of a trace that it serializes once, unless the method's own holder is unloaded,
and no other method; it counts these methods, and a class is tagged for every eligible sample whose
object has it and for every tagged method that it holds. -/
theorem rotate_tags_exactly {stats : RotationStats} (fresh : before.sampler.hasUnresolved = true)
    (done : rotate host before = (after, .ok stats)) :
    ∃ counts, stats.resolved = some counts ∧ TagsExactly host before after counts := by
  by_cases admits : before.Admits
  · rw [rotate_of_admits host admits, if_pos fresh] at done
    cases resolved : resolveFresh host before.renewed with
    | mk next answer =>
        rw [resolved] at done
        cases answer with
        | error cause => cases done
        | ok counts =>
            obtain ⟨blobs, serialized, tagged, untagged, methods⟩ :=
              resolveFresh_tagsExactly resolved
            cases done
            exact ⟨counts, rfl, blobs, serialized, tagged, untagged, methods⟩
  · rw [rotate_of_refused host admits] at done
    cases done

/-- A frame of a method that names some class as the holder. -/
def calling (method : UInt64) (classId : ClassId) : Frame :=
  { classId, method := ⟨method⟩, line := 1, bci := 0, kind := .jit }

/-- Two traces that share a method and repeat another, three samples of them, and an unloaded class
that holds a method of theirs. The frames of that method name a class that is loaded. -/
def overlapping : Profiler MemorySink TraceLog :=
  let first : Trace := { rootTrace with
    frames := [calling 0x10001 ⟨1⟩, calling 0x20001 ⟨2⟩, calling 0x10001 ⟨1⟩] }
  let second : Trace := { collidingTrace with
    frames := [calling 0x20001 ⟨7⟩, calling 0x30001 ⟨1⟩, calling 0x10002 ⟨7⟩] }
  drive ⟨.memory, .log, Retention.unwritten⟩
    [.start, .unloadClass ⟨3⟩, .capture (·.record first), .capture (·.record second),
      .push (tracedDraft first.key), .push (tracedDraft second.key), .push (tracedDraft first.key)]
    (.create { Options.standard with queueSize := 1 } (.ofLimit none) .empty)

/-- Three methods are tagged, and their holders with them; the samples are of objects of class 1. -/
theorem rotate_tags_exactly_overlapping :
    ∃ after counts, rotate ⟨.memory, .log, Retention.unwritten⟩ overlapping =
        (after, .ok { samplesReset := 0, resolved := some counts }) ∧
      counts.methodsTagged = 3 ∧
      after.runtime.methodTags ⟨0x20001⟩ = overlapping.runtime.methodTags ⟨0x20001⟩ + 1 ∧
      after.runtime.methodTags ⟨0x30001⟩ = overlapping.runtime.methodTags ⟨0x30001⟩ ∧
      TagsExactly ⟨.memory, .log, Retention.unwritten⟩ overlapping after counts := by
  have answer : ((rotate ⟨.memory, .log, Retention.unwritten⟩ overlapping).2.map fun stats =>
      (stats.samplesReset, stats.resolved.map (·.methodsTagged))) = .ok (0, some 3) := by decide
  generalize done : rotate ⟨.memory, .log, Retention.unwritten⟩ overlapping = outcome at answer
  obtain ⟨after, result⟩ := outcome
  cases result with
  | error cause => cases answer
  | ok stats =>
      obtain ⟨counts, resolved, exactly⟩ := rotate_tags_exactly (by decide) done
      obtain ⟨samplesReset, held⟩ := stats
      cases resolved
      have reset : samplesReset = 0 ∧ some counts.methodsTagged = some 3 := by
        simpa [Except.map] using answer
      obtain ⟨rfl, three⟩ := reset
      have shared : overlapping.Meets ⟨.memory, .log, Retention.unwritten⟩ ⟨0x20001⟩ :=
        ⟨by decide, by decide⟩
      have unloaded : ¬ overlapping.Meets ⟨.memory, .log, Retention.unwritten⟩ ⟨0x30001⟩ :=
        fun meets => absurd meets.2 (by decide)
      exact ⟨after, counts, rfl, Option.some.inj three, exactly.tagged _ shared,
        exactly.untagged _ unloaded, exactly⟩

end Profiler

end LeakRecorder
