/-
# LeakRecorder.Proofs.MarkedWindow — marking and writing go through the same samples

The mark pass keeps objects through a collection so that the write pass still finds
them: the two have to mean the same samples. A write counts the samples that it goes
through. `Emission.offerNoting` replays it and notes each sample at which the count
moves; `Profiler.counted` is what has been noted in the end. The objects that are
handed to the marker are those of the counted samples, in order.

The window ends before a horizon. Without `emitAll` the horizon is the last sweep.
With it the horizon is the last time that can be represented, and it is still a
horizon: a live sample that was allocated at this very time is left out of the window
of everything (`mark_omits_latest`). `mark_counts` says that no other live sample is.
-/
import LeakRecorder.Proofs.Operations

set_option autoImplicit false

namespace LeakRecorder

/-! ## Replaying the walk of a write -/

namespace Emission

/-- Offers a sample, and notes it if this has moved the number of samples. -/
def offerNoting (exited : ExitedThreads) (noted : Emission × List Sample) (sample : Sample) :
    Emission × List Sample :=
  let state := noted.1.offer exited sample
  if state.stats.samples = noted.1.stats.samples then (state, noted.2)
  else (state, noted.2 ++ [sample])

theorem offerNoting_eq (exited : ExitedThreads) (noted : Emission × List Sample)
    (sample : Sample) :
    offerNoting exited noted sample = (noted.1.offer exited sample, noted.2 ++ [sample]) := by
  unfold offerNoting
  apply if_neg
  rw [samples_offer]
  omega

/-- The replay offers what the write offers, and notes every sample. -/
theorem foldl_offerNoting (exited : ExitedThreads) (samples : List Sample)
    (noted : Emission × List Sample) :
    samples.foldl (offerNoting exited) noted =
      (samples.foldl (offer exited) noted.1, noted.2 ++ samples) := by
  induction samples generalizing noted with
  | nil => simp
  | cons sample rest ih =>
      rw [List.foldl_cons, offerNoting_eq, ih]
      simp

end Emission

/-- Every time but the last representable one comes before it. -/
theorem lt_maxValue_iff {time : Int64} : time < Int64.maxValue ↔ time ≠ Int64.maxValue := by
  constructor
  · rintro before rfl
    exact Int64.lt_irrefl before
  · exact Int64.lt_of_le_of_ne (Int64.le_maxValue time)

namespace Profiler

variable {σ ρ : Type}

/-- The replay of the walk of a write: where it ends, and the samples it has counted. -/
def replay (profiler : Profiler σ ρ) (emitAll : Bool) : Emission × List Sample :=
  (profiler.sampler.window emitAll).foldl (Emission.offerNoting profiler.exited)
    ({ blobs := profiler.blobs, payload := .empty, pending := .empty, stats := .zero }, [])

/-- The samples that a write counts, in the order in which it comes to them. -/
def counted (profiler : Profiler σ ρ) (emitAll : Bool) : List Sample := (profiler.replay emitAll).2

theorem replay_eq (profiler : Profiler σ ρ) (emitAll : Bool) :
    profiler.replay emitAll =
      (profiler.emitWindow .empty emitAll, profiler.sampler.window emitAll) :=
  Emission.foldl_offerNoting profiler.exited _ _

theorem counted_eq (profiler : Profiler σ ρ) (emitAll : Bool) :
    profiler.counted emitAll = profiler.sampler.window emitAll := by
  rw [counted, replay_eq]

section Counted

variable {profiler : Profiler σ ρ}

theorem map_some_mark (emitAll : Bool) :
    (profiler.mark emitAll).map some = (profiler.counted emitAll).map (·.object) := by
  have live : ∀ object ∈ (profiler.sampler.window emitAll).map (·.object),
      object.isSome = true := by
    intro object member
    obtain ⟨sample, inside, rfl⟩ := List.mem_map.mp member
    have counts := (List.mem_filter.mp inside).2
    rw [Sample.isAliveAndOlderThan, Bool.and_eq_true] at counts
    simpa [Sample.isDead] using counts.1
  rw [mark, List.map_filterMap_some_eq_filter_map_isSome, counted_eq]
  exact List.filter_eq_self.mpr live

variable (linked : profiler.sampler.Linked)
include linked

theorem samples_write {host : Host σ ρ} {chains : ReferenceChains} {emitAll : Bool}
    {after : Profiler σ ρ} {stats : WriteStats}
    (done : write host chains emitAll profiler = (after, .ok stats)) :
    stats.samples = (profiler.counted emitAll).length := by
  obtain ⟨-, -, -, -, -, -, -, -, rfl⟩ := write_ok done
  rw [counted_eq, linked.window_eq]
  exact samples_emitWindow emitAll linked

theorem counted_swept :
    profiler.counted false = profiler.sampler.samples.filter fun sample =>
      sample.object.isSome && decide (sample.allocatedAt < profiler.sampler.lastSweep) := by
  rw [counted_eq, linked.window_eq]
  rfl

theorem counted_all :
    profiler.counted true = profiler.sampler.samples.filter fun sample =>
      sample.object.isSome && decide (sample.allocatedAt ≠ Int64.maxValue) := by
  rw [counted_eq, linked.window_eq]
  apply List.filter_congr
  intro sample _
  rw [if_pos rfl, decide_eq_decide.mpr lt_maxValue_iff]

/-- Nothing alive is left out exactly when nothing alive was allocated at the last representable
time. -/
theorem counted_all_iff :
    profiler.counted true = profiler.sampler.samples.filter (·.object.isSome) ↔
      ∀ sample ∈ profiler.sampler.samples, sample.object.isSome = true →
        sample.allocatedAt ≠ Int64.maxValue := by
  rw [counted_all linked]
  constructor
  · intro all sample member live
    have inside : sample ∈ profiler.sampler.samples.filter (·.object.isSome) :=
      List.mem_filter.mpr ⟨member, live⟩
    rw [← all, List.mem_filter, Bool.and_eq_true, decide_eq_true_eq] at inside
    exact inside.2.2
  · intro earlier
    apply List.filter_congr
    intro sample member
    cases live : sample.object.isSome with
    | false => rfl
    | true => simpa using earlier sample member live

/-- **Marking keeps what a write describes.** For every chain, the objects handed to the marker are
in order those of the samples that a write over the same state counts. These are the live samples
allocated before the last sweep; and with `emitAll` the live samples of the chain that were not
allocated at the last representable time, so that all the live ones are among them exactly when none
was. -/
theorem mark_counts (host : Host σ ρ) (chains : ReferenceChains) :
    (∀ emitAll,
      (profiler.mark emitAll).map some = (profiler.counted emitAll).map (·.object) ∧
      ∀ after stats, write host chains emitAll profiler = (after, .ok stats) →
        stats.samples = (profiler.counted emitAll).length) ∧
    (profiler.counted false = profiler.sampler.samples.filter fun sample =>
      sample.object.isSome && decide (sample.allocatedAt < profiler.sampler.lastSweep)) ∧
    (profiler.counted true = profiler.sampler.samples.filter fun sample =>
      sample.object.isSome && decide (sample.allocatedAt ≠ Int64.maxValue)) ∧
    (profiler.counted true = profiler.sampler.samples.filter (·.object.isSome) ↔
      ∀ sample ∈ profiler.sampler.samples, sample.object.isSome = true →
        sample.allocatedAt ≠ Int64.maxValue) := by
  refine ⟨fun emitAll => ⟨map_some_mark emitAll, ?_⟩, counted_swept linked, counted_all linked,
    counted_all_iff linked⟩
  intro after stats done
  exact samples_write linked done

end Counted

/-- A sample of an object that is allocated at the time. -/
def timedDraft (time : Int64) : Sample.Draft :=
  { key := ⟨0, ⟨0⟩⟩, thread := ⟨0⟩, isVirtual := false, allocatedAt := time
    object := some { address := 16, classId := ⟨1⟩ }, threadBlob := none }

/-- Objects from both ends of the range of times and from around a sweep; one has died. -/
def sweptRun : List (Operation TraceLog) :=
  [.push (timedDraft Int64.minValue), .push (timedDraft 9), .push (timedDraft 10),
    .push (timedDraft 8), .push (timedDraft (Int64.maxValue - 1)), .clearObject ⟨3⟩, .sweep 10]

theorem mark_counts_swept :
    ∃ now : Profiler MemorySink TraceLog,
      drive ⟨.memory, .log, Retention.unwritten⟩ sweptRun
        (.create .standard (.ofLimit none) .empty) = now ∧
      now.sampler.Linked ∧
      (now.mark false).map some = (now.counted false).map (·.object) ∧
      (now.counted false).map (·.id) = [⟨1⟩, ⟨0⟩] ∧
      (now.counted true).map (·.id) = [⟨4⟩, ⟨2⟩, ⟨1⟩, ⟨0⟩] ∧
      now.counted true = now.sampler.samples.filter (·.object.isSome) := by
  have linked := @drive_linked MemorySink TraceLog ⟨.memory, .log, Retention.unwritten⟩ sweptRun
    (.create .standard (.ofLimit none) .empty) Sampler.linked_empty
  obtain ⟨same, -, -, all⟩ := @mark_counts MemorySink TraceLog _ linked
    ⟨.memory, .log, Retention.unwritten⟩ (.ofEdges .empty)
  exact ⟨_, rfl, linked, (same false).1, by decide, by decide, all.mpr (by decide)⟩

/-- A live sample that was allocated at the last representable time: asked for everything, the
marker gets nothing and a write counts nothing. -/
theorem mark_omits_latest :
    ∃ now : Profiler MemorySink TraceLog,
      drive ⟨.memory, .log, Retention.unwritten⟩ [.push (timedDraft Int64.maxValue)]
        (.create .standard (.ofLimit none) .empty) = now ∧
      (now.sampler.samples.filter (·.object.isSome)).length = 1 ∧
      now.mark true = [] ∧ now.counted true = [] ∧
      (now.write ⟨.memory, .log, Retention.unwritten⟩ (.ofEdges .empty) true).2 =
        .ok .zero :=
  ⟨_, rfl, rfl, by decide, by decide, rfl⟩

end Profiler

end LeakRecorder
