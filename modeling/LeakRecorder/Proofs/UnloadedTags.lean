/-
# LeakRecorder.Proofs.UnloadedTags — what a rotation tags of unloaded classes

A method is tagged behind the question whether its holder is unloaded. So no rotation,
whatever comes of it, tags a method of an unloaded class (`Resolution.covers_tags`).

The class of a sample's object is tagged without the question. A rotation comes to the
unresolved samples from the newest one on, and it stops behind the first one whose trace
cannot be had (`Profiler.visits`); each eligible sample on the way tags its class, be it
unloaded or not. An unloaded class therefore gains as many tags as eligible samples of it
are visited, and the law that an unloaded class is never tagged holds of exactly those
rotations that visit none (`Profiler.rotate_tags_unloaded_iff`).
-/
import LeakRecorder.Proofs.TagCounts

set_option autoImplicit false

namespace LeakRecorder

/-- There is nothing to walk through where nothing is newer than the boundary. -/
theorem Sampler.unresolved_of_settled {sampler : Sampler}
    (settled : sampler.hasUnresolved = false) : sampler.unresolved = [] := by
  rw [hasUnresolved] at settled
  rw [unresolved]
  cases newest : sampler.newest? with
  | none => rfl
  | some last =>
      cases boundary : sampler.boundary with
      | none => simp [newest, boundary] at settled
      | some resolved =>
          obtain rfl : last = resolved := by simpa [newest, boundary] using settled
          simp only [walk, olderFrom]
          cases stray : sampler.strays.find? (·.id == last) with
          | some found =>
              have same := List.find?_some stray
              simp_all
          | none =>
              -- What is left of the chain is empty or begins at the boundary.
              have first := List.head?_dropWhile_not (·.id != last) sampler.samples
              cases left : sampler.samples.dropWhile (·.id != last) with
              | nil => rfl
              | cons sample rest =>
                  have atBoundary : sample.id = last := by simpa [left] using first
                  simp [atBoundary]

/-- The sample has its object's class tagged when a resolution comes to it. -/
def Sample.tags (sample : Sample) (classId : ClassId) : Bool :=
  sample.isEligible && decide (sample.object.map (·.classId) = some classId)

namespace Resolution

variable {σ ρ : Type} {host : Host σ ρ} {traces : ρ} {start state after : Resolution}
  {seen : List Sample}

/-! ## Methods -/

/-- Whatever comes of it, a resolution tags what it meets for the first time and nothing else. -/
theorem covers_tags : Covers Tags where
  trans := Tags.trans
  counted state _ := ⟨(Tags.refl state).runtime, (Tags.refl state).met, (Tags.refl state).tags⟩
  eligible := tags_countEligible
  serialize keepsCopy state trace := by
    rw [serialize_eq]
    split
    · obtain ⟨runtime, met, tags⟩ := tags_tagFrames state trace.frames
      dsimp only
      split <;> exact ⟨runtime, met, tags⟩
    · exact .refl state

/-- The methods of an unloaded class are not tagged. -/
theorem Tags.methodTags_of_unloaded (tags : start.Tags state) {method : MethodId}
    (unloaded : start.runtime.isUnloaded method.holder = true) :
    state.runtime.methodTags method = start.runtime.methodTags method := by
  simp [tags.tags method, unloaded]

/-! ## Samples on the way -/

/-- The source serves the key. -/
def isServed (host : Host σ ρ) (traces : ρ) (key : TraceKey) : Bool :=
  (host.source.lookup traces key).any fun trace =>
    decide (trace.key = key ∧ trace.frames.length < countLimit)

theorem isServed_iff {key : TraceKey} :
    isServed host traces key = true ↔ ∃ trace, Serves host traces key trace := by
  simp only [isServed, Option.any_eq_true, decide_eq_true_eq]
  constructor
  · rintro ⟨trace, found, same, few⟩
    exact ⟨trace, found, same, few⟩
  · rintro ⟨trace, found, same, few⟩
    exact ⟨trace, found, same, few⟩

/-- The samples that a resolution comes to: it stops behind the first one that needs a blob and
whose key is not served. -/
def visited (host : Host σ ρ) (traces : ρ) : List Sample → List Sample
  | [] => []
  | sample :: rest =>
      if sample.needsTrace && !isServed host traces sample.key then [sample]
      else sample :: visited host traces rest

/-- A sample that gets past a resolution is served if it needs a blob. -/
theorem Met.isServed_of_ok {sample left : Sample} (met : Met host traces start seen state)
    (done : state.resolve host traces sample = (after, .ok left))
    (needs : sample.needsTrace = true) : isServed host traces sample.key = true := by
  rw [isServed_iff]
  have resolves := resolves_of_resolve done
  generalize answer : (Except.ok left : Except Failure Sample) = result at resolves
  cases resolves with
  | passed idle => simp [Sample.needsTrace_of_idle idle] at needs
  | carried eligible carries => simp [Sample.needsTrace_of_carries carries] at needs
  | hit _ cached =>
      obtain ⟨trace, built⟩ := met.sound.cached _ _ cached
      exact ⟨trace, built.found, built.key, built.few⟩
  | built _ free serves made => exact ⟨_, serves⟩
  | refused _ unserved => cases answer

/-- A sample at which a resolution stops needs a blob and is not served. -/
theorem not_isServed_of_error {sample : Sample} {cause : Failure}
    (done : state.resolve host traces sample = (after, .error cause)) :
    sample.needsTrace = true ∧ isServed host traces sample.key = false := by
  have resolves := resolves_of_resolve done
  generalize answer : (Except.error cause : Except Failure Sample) = result at resolves
  cases resolves with
  | refused needs unserved =>
      refine ⟨needs, ?_⟩
      rw [Bool.eq_false_iff, Ne, isServed_iff]
      rintro ⟨trace, serves⟩
      exact unserved trace serves
  | _ => cases answer

/-- Whatever comes of it, a resolution tags the classes of the samples that it comes to. -/
theorem Met.tallies {settled samples front : List Sample} {result : Except Failure Unit}
    (met : Met host traces start seen state)
    (done : resolveAll host traces settled samples state = (after, front, result)) :
    state.Tallies after ((visited host traces samples).flatMap Sample.taggedClass) := by
  induction samples generalizing seen settled state with
  | nil =>
      cases done
      exact .refl after
  | cons sample rest ih =>
      have first := tallies_resolve state host traces sample
      rw [resolveAll] at done
      cases one : state.resolve host traces sample with
      | mk next answer =>
          rw [one] at done first
          cases answer with
          | error cause =>
              obtain ⟨needs, unserved⟩ := not_isServed_of_error one
              cases done
              simpa [visited, needs, unserved] using first
          | ok left =>
              have goesOn : (sample.needsTrace && !isServed host traces sample.key) = false := by
                cases needs : sample.needsTrace with
                | false => rfl
                | true => simp [met.isServed_of_ok one needs]
              rw [visited, goesOn, if_neg Bool.false_ne_true]
              exact first.trans (ih (met.step one).1 done)

end Resolution

/-! ## A rotation -/

namespace Profiler

variable {σ ρ : Type} {host : Host σ ρ} {before : Profiler σ ρ}

instance (profiler : Profiler σ ρ) : Decidable profiler.Admits :=
  inferInstanceAs (Decidable (_ ∧ _))

instance (options : Options) : Decidable options.Roomy :=
  decidable_of_iff (options.queueSize < allocationLimit ∧ options.idSetSize < allocationLimit)
    ⟨fun ⟨queue, set⟩ => ⟨queue, set⟩, fun ⟨queue, set⟩ => ⟨queue, set⟩⟩

/-- The samples that a rotation comes to. One that is refused comes to none, and neither does one
whose collections cannot be made. -/
def visits (host : Host σ ρ) (profiler : Profiler σ ρ) : List Sample :=
  if profiler.Admits ∧ profiler.options.Roomy then
    Resolution.visited host profiler.traces profiler.sampler.unresolved
  else []

/-- What has been tagged from one state to another: the classes of these samples, and methods whose
holders were not unloaded. -/
structure Tagged (before after : Profiler σ ρ) (samples : List Sample) : Prop where
  classes : after.runtime.told Runtime.RuntimeCall.taggedClass? =
    before.runtime.told Runtime.RuntimeCall.taggedClass? ++ samples.flatMap Sample.taggedClass
  methods : ∃ methods,
    after.runtime.told Runtime.RuntimeCall.tagged? =
        before.runtime.told Runtime.RuntimeCall.tagged? ++ methods ∧
    ∀ method ∈ methods, before.runtime.isUnloaded method.holder = false

theorem tagged_nothing {after : Profiler σ ρ}
    (classes : after.runtime.told Runtime.RuntimeCall.taggedClass? =
      before.runtime.told Runtime.RuntimeCall.taggedClass? ++ [])
    (methods : after.runtime.told Runtime.RuntimeCall.tagged? =
      before.runtime.told Runtime.RuntimeCall.tagged? ++ []) :
    Tagged before after [] where
  classes := classes
  methods := ⟨[], methods, by simp⟩

theorem tagged_resolveFresh (host : Host σ ρ) (before : Profiler σ ρ) :
    Tagged before (resolveFresh host before).1
      (if before.options.Roomy then
        Resolution.visited host before.traces before.sampler.unresolved else []) := by
  by_cases roomy : before.options.Roomy
  · rw [if_pos roomy]
    obtain ⟨cache, made, begun⟩ :=
      Resolution.ofOptions_of_roomy roomy before.blobs before.runtime.enterVm.lock
    have met := Resolution.met_start made host before.traces before.blobs
      before.runtime.enterVm.lock
    rw [resolveFresh]
    dsimp only
    rw [begun]
    dsimp only
    cases walked : Resolution.resolveAll host before.traces [] before.sampler.unresolved
        { blobs := before.blobs, cache, methods := .empty
          runtime := before.runtime.enterVm.lock, stats := .zero } with
    | mk state others =>
        obtain ⟨front, result⟩ := others
        have tags := Resolution.covers_tags.resolveAll host before.traces []
          before.sampler.unresolved
          { blobs := before.blobs, cache, methods := .empty
            runtime := before.runtime.enterVm.lock, stats := .zero }
        rw [walked] at tags
        have tallies := met.tallies walked
        obtain ⟨methods, journal, -⟩ := tallies.methods
        constructor
        · exact Runtime.quiet_taggedClass.told_within tallies.classes
        · refine ⟨methods, Runtime.quiet_tagged.told_within journal, fun method member => ?_⟩
          by_contra unloaded
          rw [Bool.not_eq_false] at unloaded
          -- A method in the list has one tag more, but one of an unloaded class has not.
          have same : state.runtime.methodTags method = _ := tags.methodTags_of_unloaded unloaded
          have more := List.count_pos_iff.mpr member
          rw [Runtime.methodTags_eq_count, journal, List.count_append,
            Runtime.methodTags_eq_count] at same
          omega
  · rw [if_neg roomy, resolveFresh]
    dsimp only
    rw [Resolution.ofOptions_of_not_roomy roomy]
    exact tagged_nothing (Runtime.quiet_taggedClass.told_within (List.append_nil _).symm)
      (Runtime.quiet_tagged.told_within (List.append_nil _).symm)

/-- A rotation tags the classes of the samples that it comes to, and no method whose holder is
unloaded. -/
theorem tagged_rotate (host : Host σ ρ) (before : Profiler σ ρ) :
    Tagged before (rotate host before).1 (before.visits host) := by
  by_cases admits : before.Admits
  · rw [rotate_of_admits host admits, visits]
    cases fresh : before.sampler.hasUnresolved with
    | false =>
        rw [if_neg Bool.false_ne_true, Sampler.unresolved_of_settled fresh, Resolution.visited,
          ite_self]
        exact tagged_nothing (List.append_nil _).symm (List.append_nil _).symm
    | true =>
        have resolved := tagged_resolveFresh host before.renewed
        rw [if_pos rfl]
        simp only [admits, true_and]
        generalize resolveFresh host before.renewed = outcome at resolved ⊢
        obtain ⟨next, result⟩ := outcome
        cases result <;> exact ⟨resolved.classes, resolved.methods⟩
  · rw [rotate_of_refused host admits, visits, if_neg fun both => admits both.1]
    exact tagged_nothing (List.append_nil _).symm (List.append_nil _).symm

/-- What tagging adds to the counts of an unloaded class and of its methods. -/
theorem Tagged.counts {after : Profiler σ ρ} {samples : List Sample}
    (tagged : Tagged before after samples) {classId : ClassId}
    (unloaded : before.runtime.isUnloaded classId = true) :
    after.runtime.classTags classId =
        before.runtime.classTags classId + samples.countP (·.tags classId) ∧
      ∀ method : MethodId, method.holder = classId →
        after.runtime.methodTags method = before.runtime.methodTags method := by
  obtain ⟨classes, methods, journal, loaded⟩ := tagged
  have others : ∀ method ∈ methods, method.holder ≠ classId := by
    rintro method member rfl
    simp [loaded method member] at unloaded
  constructor
  · have none : methods.countP (fun method => decide (method.holder = classId)) = 0 := by
      simpa using others
    have counted : (samples.flatMap Sample.taggedClass).count classId =
        samples.countP (·.tags classId) := Sample.count_taggedClass samples classId
    rw [Runtime.classTags_eq_add, Runtime.classTags_eq_add, classes, journal, List.count_append,
      List.countP_append, none, counted]
    omega
  · intro method holder
    have absent : methods.count method = 0 :=
      List.count_eq_zero.mpr fun member => others method member holder
    rw [Runtime.methodTags_eq_count, Runtime.methodTags_eq_count, journal, List.count_append,
      absent, Nat.add_zero]

/-- **When an unloaded class is left alone.** Whatever comes of a rotation, the methods of an
unloaded class keep their counts of tags. The class itself gains a tag for each eligible sample of
it that the rotation comes to; so its count stays exactly if there is no such sample. -/
theorem rotate_tags_unloaded_iff (host : Host σ ρ) (before : Profiler σ ρ) (classId : ClassId)
    (unloaded : before.runtime.isUnloaded classId = true) :
    let after := (rotate host before).1
    (∀ method : MethodId, method.holder = classId →
      after.runtime.methodTags method = before.runtime.methodTags method) ∧
    after.runtime.classTags classId =
      before.runtime.classTags classId + (before.visits host).countP (·.tags classId) ∧
    (after.runtime.classTags classId = before.runtime.classTags classId ↔
      ∀ sample ∈ before.visits host, sample.tags classId = false) := by
  obtain ⟨classTags, methodTags⟩ := (tagged_rotate host before).counts unloaded
  refine ⟨methodTags, classTags, ?_⟩
  rw [classTags, Nat.add_eq_left, List.countP_eq_zero]
  simp only [Bool.not_eq_true]

/-- Four samples of a class that is unloaded. The trace of the second one was never recorded, and
the other trace goes through a method of that class and one of another class. -/
def haunted : Profiler MemorySink TraceLog :=
  let trace : Trace := { rootTrace with frames := [calling 0x10001 ⟨2⟩, calling 0x20001 ⟨1⟩] }
  drive ⟨.memory, .log, Retention.unwritten⟩
    [.start, .capture (·.record trace), .push (tracedDraft trace.key),
      .push (tracedDraft collidingTrace.key), .push (tracedDraft trace.key),
      .push (tracedDraft trace.key), .unloadClass ⟨1⟩]
    (.create { Options.standard with queueSize := 1 } (.ofLimit none) .empty)

/-- The rotation fails at the third sample from the newest. The unloaded class has three tags more,
and its method has none. -/
theorem rotate_tags_unloaded_iff_haunted :
    let host : Host MemorySink TraceLog := ⟨.memory, .log, Retention.unwritten⟩
    let after := (rotate host haunted).1
    haunted.runtime.isUnloaded ⟨1⟩ = true ∧
      (rotate host haunted).2 = .error (.violation (.traceMissing collidingTrace.key)) ∧
      after.runtime.classTags ⟨1⟩ = haunted.runtime.classTags ⟨1⟩ + 3 ∧
      after.runtime.methodTags ⟨0x10001⟩ = haunted.runtime.methodTags ⟨0x10001⟩ ∧
      after.runtime.methodTags ⟨0x20001⟩ = haunted.runtime.methodTags ⟨0x20001⟩ + 1 := by
  intro host after
  have unloaded : haunted.runtime.isUnloaded ⟨1⟩ = true := by decide
  obtain ⟨methods, tags, -⟩ := rotate_tags_unloaded_iff host haunted ⟨1⟩ unloaded
  have visits : (haunted.visits host).countP (·.tags ⟨1⟩) = 3 := by decide
  rw [visits] at tags
  exact ⟨unloaded, by decide, tags, methods ⟨0x10001⟩ (by decide), by decide⟩

/-- A class is unloaded, and the rotation that resolves a sample of it tags it. -/
theorem rotate_revives_unloaded :
    let host : Host MemorySink TraceLog := ⟨.memory, .log, Retention.unwritten⟩
    let before := drive host
      [.start, .unloadClass ⟨1⟩, .capture (·.record rootTrace), .push (tracedDraft rootTrace.key)]
      (.create { Options.standard with queueSize := 1 } (.ofLimit none) .empty)
    before.runtime.isUnloaded ⟨1⟩ = true ∧ (rotate host before).2.isOk = true ∧
      before.runtime.classTags ⟨1⟩ = 0 ∧ (rotate host before).1.runtime.classTags ⟨1⟩ = 1 := by
  decide

end Profiler

end LeakRecorder
