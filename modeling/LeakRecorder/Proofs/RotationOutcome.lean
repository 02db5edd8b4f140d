/-
# LeakRecorder.Proofs.RotationOutcome — what a rotation guarantees

A rotation over a log of traces succeeds exactly if it is admitted and the trace of
every sample that needs one is recorded (`Profiler.rotation_outcome`). Then every
live unresolved sample that knows its trace has a blob of it; samples of one trace
share the blob and samples of two do not, however the traces' hashes collide; and
the blob cache has never been asked to take a second blob for one trace.

Nothing is then left to do: whatever the log holds, a rotation right after it finds
every sample settled.
-/
import LeakRecorder.Proofs.EpochStart
import LeakRecorder.Proofs.Settling
import LeakRecorder.Proofs.StackTraces

set_option autoImplicit false

namespace LeakRecorder

/-- An eligible sample has a blob or needs one. -/
theorem Sample.countP_isEligible (samples : List Sample) :
    samples.countP Sample.isEligible =
      (samples.countP fun sample => sample.isEligible && sample.stackTrace.isSome) +
        (Sample.wanted samples).length := by
  rw [wanted, List.length_map, ← List.countP_eq_length_filter]
  induction samples with
  | nil => rfl
  | cons sample rest ih =>
      cases eligible : sample.isEligible <;> cases held : sample.stackTrace <;>
        simp [needsTrace, eligible, held] <;> omega

/-- Every eligible sample has had its blob before, or has found it in the cache, or its trace has
been serialized. -/
theorem Resolution.Counted.eligible_eq {samples : List Sample} {stats : ResolveStats}
    (counted : Counted samples stats) :
    stats.eligible = stats.alreadyResolved + stats.cacheHits + stats.serialized := by
  rw [counted.eligible, Sample.countP_isEligible, counted.alreadyResolved, ← counted.shared,
    Nat.add_assoc]

namespace TraceLog

/-- A lookup finds a trace of exactly the key. -/
theorem key_of_lookup {log : TraceLog} (keyed : log.Keyed) {key : TraceKey} {trace : Trace}
    (found : log.lookup key = some trace) : trace.key = key := by
  rw [lookup, Option.filter_eq_some_iff] at found
  have hash : trace.hash = key.hash := by simpa using found.2
  rw [Trace.key, hash, keyed key.id trace found.1]

/-- A log serves a key if it holds the trace and the frames of the trace can be counted. -/
theorem serves_iff {σ : Type} {sink : Sink σ} {keepsCopy : Retention} {log : TraceLog}
    (keyed : log.Keyed) {key : TraceKey} {trace : Trace} :
    Resolution.Serves ⟨sink, .log, keepsCopy⟩ log key trace ↔
      log.lookup key = some trace ∧ trace.frames.length < countLimit :=
  ⟨fun serves => ⟨serves.found, serves.few⟩,
    fun ⟨found, few⟩ => ⟨found, key_of_lookup keyed found, few⟩⟩

end TraceLog

namespace Profiler

variable {σ ρ : Type} {host : Host σ ρ} {before after : Profiler σ ρ}

/-! ## A rotation over unresolved samples -/

theorem Walked.ids {served rest : List Sample} {cache : BlobCache}
    (walked : Walked host before after served rest cache) :
    (served.map (Resolution.settle cache) ++ rest).map (·.id) =
      before.sampler.unresolved.map (·.id) := by
  have kept (sample : Sample) : (Resolution.settle cache sample).id = sample.id := by
    rw [Resolution.settle]
    split <;> rfl
  rw [walked.split, List.map_append, List.map_append, List.map_map]
  congr 1
  exact List.map_congr_left fun sample _ => kept sample

/-- The key of every sample that has been settled is served. -/
theorem Walked.serves {served rest : List Sample} {cache : BlobCache}
    (walked : Walked host before after served rest cache) {key : TraceKey}
    (wanted : key ∈ Sample.wanted served) :
    ∃ trace, Resolution.Serves host before.traces key trace := by
  obtain ⟨blob, trace, -, built⟩ := walked.lookup wanted
  exact ⟨trace, built.found, built.key, built.few⟩

/-- An admitted rotation over unresolved samples settles them and releases the traces, or it fails
at the first one whose key is not served. -/
theorem rotate_outcome {result : Except Failure RotationStats} (admits : before.Admits)
    (roomy : before.options.Roomy) (fresh : before.sampler.hasUnresolved = true)
    (done : rotate host before = (after, result)) :
    ∃ next served rest cache, Walked host before.renewed next served rest cache ∧
      ((∃ counts, result = .ok { samplesReset := before.sampler.resolved.length
                                 resolved := some counts } ∧
          after = { next with traces := host.source.clear next.traces } ∧ rest = [] ∧
          Resolution.Counted served counts) ∨
        ∃ sample more, rest = sample :: more ∧ sample.needsTrace = true ∧
          (∀ trace, ¬ Resolution.Serves host before.traces sample.key trace) ∧
          result = .error (Resolution.refusal host before.traces sample.key) ∧ after = next) := by
  rw [rotate_of_admits host admits, if_pos fresh] at done
  cases resolved : resolveFresh host before.renewed with
  | mk next answer =>
      have due : before.renewed.options.Roomy := roomy
      obtain ⟨served, rest, cache, walked, ends⟩ := resolveFresh_outcome due resolved
      rw [resolved] at done
      refine ⟨next, served, rest, cache, walked, ?_⟩
      rcases ends with ⟨counts, rfl, none, counted⟩ | ⟨sample, more, first, needs, unserved, rfl⟩
      · cases done
        exact .inl ⟨counts, rfl, rfl, none, counted⟩
      · cases done
        exact .inr ⟨sample, more, first, needs, unserved, rfl, rfl⟩

/-- An admitted rotation succeeds exactly if the key of every sample that needs a trace is
served. -/
theorem rotate_ok_iff (linked : before.sampler.Linked) (admits : before.Admits)
    (roomy : before.options.Roomy) :
    (∃ stats, (rotate host before).2 = .ok stats) ↔
      ∀ key ∈ Sample.wanted before.sampler.unresolved,
        ∃ trace, Resolution.Serves host before.traces key trace := by
  cases fresh : before.sampler.hasUnresolved with
  | false =>
      rw [rotate_of_admits host admits, fresh, if_neg Bool.false_ne_true,
        linked.unresolved_eq_nil fresh]
      simp [Sample.wanted]
  | true =>
      cases done : rotate host before with
      | mk after result =>
          obtain ⟨next, served, rest, cache, walked, ends⟩ :=
            rotate_outcome admits roomy fresh done
          have split : before.sampler.unresolved = served ++ rest := walked.split
          rcases ends with ⟨counts, rfl, -, rfl, -⟩ | ⟨sample, more, rfl, needs, unserved, rfl, -⟩
          · refine iff_of_true ⟨_, rfl⟩ fun key wanted => ?_
            rw [split, List.append_nil] at wanted
            exact walked.serves wanted
          · refine iff_of_false (by simp) fun all => ?_
            have wanted : sample.key ∈ Sample.wanted before.sampler.unresolved := by
              rw [split, Sample.mem_wanted]
              exact ⟨sample, by simp, needs, rfl⟩
            obtain ⟨trace, serves⟩ := all sample.key wanted
            exact unserved trace serves

/-- A rotation fails because it is refused, or because the key of some sample is not served. -/
theorem rotate_error {cause : Failure} (roomy : before.options.Roomy)
    (failed : (rotate host before).2 = .error cause) :
    cause = before.refusal ∨ ∃ key, cause = Resolution.refusal host before.traces key := by
  by_cases admits : before.Admits
  · cases fresh : before.sampler.hasUnresolved with
    | false =>
        rw [rotate_of_admits host admits, fresh, if_neg Bool.false_ne_true] at failed
        cases failed
    | true =>
        cases done : rotate host before with
        | mk after result =>
            rw [done] at failed
            obtain ⟨_, _, _, _, -, ends⟩ := rotate_outcome admits roomy fresh done
            rcases ends with ⟨counts, answer, -⟩ | ⟨sample, _, -, -, -, answer, -⟩
            · rw [answer] at failed
              cases failed
            · rw [answer] at failed
              cases failed
              exact .inr ⟨sample.key, rfl⟩
  · rw [rotate_of_refused host admits] at failed
    cases failed
    exact .inl rfl

/-! ## A rotation over a log -/

/-- The sample with the blob of its key, if it needs one. -/
def receive (blobOf : TraceKey → BlobId) (sample : Sample) : Sample :=
  if sample.needsTrace then { sample with stackTrace := some (blobOf sample.key) } else sample

/-- What a successful rotation over unresolved samples has done. -/
structure Settles (before after : Profiler σ TraceLog) (counts : ResolveStats) : Prop where
  /-- The samples that need a blob get the one of their key, which is that of no other key; no
  other sample is changed. -/
  samples : ∃ blobOf : TraceKey → BlobId,
    after.sampler =
        before.sampler.replaceFront (before.sampler.unresolved.map (receive blobOf)) ∧
      after.sampler.unresolved = before.sampler.unresolved.map (receive blobOf) ∧
      ∀ key ∈ Sample.wanted before.sampler.unresolved,
        ∀ other ∈ Sample.wanted before.sampler.unresolved, blobOf key = blobOf other → key = other
  complete : ∀ sample ∈ after.sampler.unresolved,
    sample.isEligible = true → sample.stackTrace.isSome = true
  serialized : counts.serialized = (Sample.wanted before.sampler.unresolved).dedup.length
  eligible : counts.eligible = counts.alreadyResolved + counts.cacheHits + counts.serialized
  traces : after.traces = .empty
  sink : after.sink = before.sink

theorem settle_eq_receive {samples : List Sample} {cache : BlobCache}
    (cached : ∀ key, (cache.table.lookup key).isSome = true ↔ key ∈ Sample.wanted samples)
    {blobOf : TraceKey → BlobId}
    (answers : ∀ key blob, cache.table.lookup key = some blob → blobOf key = blob) :
    samples.map (Resolution.settle cache) = samples.map (receive blobOf) := by
  refine List.map_congr_left fun sample member => ?_
  rw [Resolution.settle, receive]
  split
  next needs =>
    have wanted := Sample.mem_wanted.mpr ⟨sample, member, needs, rfl⟩
    obtain ⟨blob, hit⟩ := Option.isSome_iff_exists.mp ((cached sample.key).mpr wanted)
    rw [hit, answers _ _ hit]
  next => rfl

/-- Where no sample needs a trace, an admitted rotation has nothing to serialize or to look up. -/
theorem rotate_of_complete (admits : before.Admits) (roomy : before.options.Roomy)
    (fresh : before.sampler.hasUnresolved = true)
    (complete : Sample.wanted before.sampler.unresolved = []) :
    ∃ stats counts, (rotate host before).2 = .ok stats ∧ stats.resolved = some counts ∧
      counts.serialized = 0 ∧ counts.cacheHits = 0 := by
  cases done : rotate host before with
  | mk after result =>
      obtain ⟨next, served, rest, cache, walked, ends⟩ := rotate_outcome admits roomy fresh done
      have split : before.sampler.unresolved = served ++ rest := walked.split
      rw [split, Sample.wanted_append, List.append_eq_nil_iff] at complete
      rcases ends with ⟨counts, rfl, -, -, counted⟩ | ⟨sample, more, rfl, needs, -, -, -⟩
      · have serialized := counted.serialized
        have shared := counted.shared
        rw [complete.1] at serialized shared
        rw [serialized] at shared
        exact ⟨_, counts, rfl, rfl, serialized, shared⟩
      · rw [Sample.wanted_eq_nil_iff.mp complete.2 sample List.mem_cons_self] at needs
        cases needs

section Log

variable {sink : Sink σ} {keepsCopy : Retention} {before after : Profiler σ TraceLog}

/-- What a rotation that has succeeded over unresolved samples has done. -/
theorem settles_rotate (linked : before.sampler.Linked) (roomy : before.options.Roomy)
    (admits : before.Admits) (fresh : before.sampler.hasUnresolved = true) {stats : RotationStats}
    (done : rotate ⟨sink, .log, keepsCopy⟩ before = (after, .ok stats)) :
    ∃ counts, stats.resolved = some counts ∧ Settles before after counts ∧
      after.Admits ∧ after.options = before.options ∧ after.sampler.hasUnresolved = true := by
  obtain ⟨next, served, rest, cache, walked, ends⟩ := rotate_outcome admits roomy fresh done
  rcases ends with ⟨counts, answer, rfl, rfl, counted⟩ | ⟨_, _, _, _, _, failed, _⟩
  · cases answer
    have frame := walked.frame
    have ids := walked.ids
    have split : before.sampler.unresolved = served := by
      rw [← List.append_nil served]
      exact walked.split
    obtain ⟨blobOf, answers⟩ : ∃ blobOf : TraceKey → BlobId,
        ∀ key blob, cache.table.lookup key = some blob → blobOf key = blob :=
      ⟨fun key => (cache.table.lookup key).getD ⟨0⟩, fun key blob hit => by simp [hit]⟩
    have front : served.map (Resolution.settle cache) ++ [] =
        before.sampler.unresolved.map (receive blobOf) := by
      rw [List.append_nil, settle_eq_receive walked.cached answers, split]
    have sampler : next.sampler =
        before.sampler.replaceFront (before.sampler.unresolved.map (receive blobOf)) := by
      rw [← front]
      exact walked.sampler
    rw [front] at ids
    have unresolved : next.sampler.unresolved =
        before.sampler.unresolved.map (receive blobOf) := by
      rw [sampler]
      exact linked.unresolved_replaceFront ids
    refine ⟨counts, rfl, ⟨⟨blobOf, sampler, unresolved, ?_⟩, ?_, ?_, counted.eligible_eq, rfl, ?_⟩,
      ⟨?_, ?_⟩, ?_, ?_⟩
    · intro key wanted other wantedOther same
      rw [split] at wanted wantedOther
      obtain ⟨blob, -, hit, -⟩ := walked.lookup wanted
      obtain ⟨blobOther, -, hitOther, -⟩ := walked.lookup wantedOther
      rw [answers key blob hit, answers other blobOther hitOther] at same
      subst same
      exact walked.apart key other blob hit hitOther
    · intro sample member eligible
      have inside : sample ∈ before.sampler.unresolved.map (receive blobOf) := unresolved ▸ member
      obtain ⟨old, -, rfl⟩ := List.mem_map.mp inside
      rw [receive] at eligible ⊢
      split
      next => rfl
      next idle =>
        rw [if_neg idle] at eligible
        rw [Sample.needsTrace, eligible] at idle
        cases held : old.stackTrace with
        | some blob => rfl
        | none => simp [held] at idle
    · rw [split]
      exact counted.serialized
    · rw [frame]
      rfl
    · rw [frame]
      exact admits.1
    · exact walked.atSafepoint.trans admits.2
    · rw [frame]
      rfl
    · show next.sampler.hasUnresolved = true
      rw [sampler, linked.hasUnresolved_replaceFront ids]
      exact fresh
  · cases failed

end Log

/-- **What a rotation guarantees.** It succeeds exactly if it is admitted and the trace of every
sample that needs one is recorded, with no more frames than a record can count. A blob is never
cached twice. If there was anything to resolve, all of it is settled then, and another rotation
finds nothing to do, whatever the log holds by then. -/
theorem rotation_outcome (sink : Sink σ) (keepsCopy : Retention) {before : Profiler σ TraceLog}
    (linked : before.sampler.Linked) (keyed : before.traces.Keyed)
    (roomy : before.options.Roomy) :
    let host : Host σ TraceLog := ⟨sink, .log, keepsCopy⟩
    ((∃ stats, (rotate host before).2 = .ok stats) ↔
      before.Admits ∧ ∀ sample ∈ before.sampler.unresolved, sample.needsTrace = true →
        ∃ trace, before.traces.lookup sample.key = some trace ∧
          trace.frames.length < countLimit) ∧
    (∀ key, (rotate host before).2 ≠ .error (.violation (.alreadyCached key))) ∧
    ∀ after stats, rotate host before = (after, .ok stats) →
      before.sampler.hasUnresolved = true →
      ∃ counts, stats.resolved = some counts ∧ Settles before after counts ∧
        ∀ traces, ∃ later next, (rotate host { after with traces }).2 = .ok later ∧
          later.resolved = some next ∧ next.serialized = 0 ∧ next.cacheHits = 0 := by
  intro host
  refine ⟨?_, ?_, ?_⟩
  · by_cases admits : before.Admits
    · rw [rotate_ok_iff linked admits roomy, and_iff_right admits]
      constructor
      · intro all sample member needs
        obtain ⟨trace, serves⟩ :=
          all sample.key (Sample.mem_wanted.mpr ⟨sample, member, needs, rfl⟩)
        exact ⟨trace, (TraceLog.serves_iff keyed).mp serves⟩
      · intro all key wanted
        obtain ⟨sample, member, needs, rfl⟩ := Sample.mem_wanted.mp wanted
        obtain ⟨trace, recorded⟩ := all sample member needs
        exact ⟨trace, (TraceLog.serves_iff keyed).mpr recorded⟩
    · rw [rotate_of_refused host admits]
      exact iff_of_false (by simp) fun both => admits both.1
  · intro key twice
    rcases rotate_error roomy twice with refused | ⟨unserved, failed⟩
    · rw [Profiler.refusal] at refused
      split at refused <;> cases refused
    · rw [Resolution.refusal] at failed
      split at failed
      · cases failed
      · split at failed <;> cases failed
  · intro after stats done fresh
    have admits : before.Admits := by
      by_contra refused
      rw [rotate_of_refused host refused] at done
      cases done
    obtain ⟨counts, resolved, settles, admitted, options, left⟩ :=
      settles_rotate linked roomy admits fresh done
    refine ⟨counts, resolved, settles, fun traces => ?_⟩
    have complete : Sample.wanted after.sampler.unresolved = [] := by
      refine Sample.wanted_eq_nil_iff.mpr fun sample member => ?_
      cases eligible : sample.isEligible with
      | false => exact Sample.needsTrace_of_idle eligible
      | true => exact Sample.needsTrace_of_carries (settles.complete sample member eligible)
    have again : ({ after with traces } : Profiler σ TraceLog).Admits := admitted
    have room : ({ after with traces } : Profiler σ TraceLog).options.Roomy := by
      show after.options.Roomy
      rw [options]
      exact roomy
    exact rotate_of_complete again room left complete

/-- A trace with the hash of another one. -/
def collidingTrace : Trace := { rootTrace with id := ⟨6⟩ }

/-- Three samples of two traces whose hashes collide, and a third trace that nothing needs. -/
def collided : Profiler MemorySink TraceLog :=
  drive ⟨.memory, .log, Retention.unwritten⟩
    [.start, .capture (·.record rootTrace), .capture (·.record collidingTrace),
      .capture (·.record { rootTrace with id := ⟨7⟩ }), .push (tracedDraft rootTrace.key),
      .push (tracedDraft collidingTrace.key), .push (tracedDraft rootTrace.key)]
    (.create { Options.standard with queueSize := 1 } (.ofLimit none) .empty)

/-- The rotation settles the three samples with two blobs. -/
theorem rotation_outcome_collided :
    let host : Host MemorySink TraceLog := ⟨.memory, .log, Retention.unwritten⟩
    let counts : ResolveStats :=
      { eligible := 3, alreadyResolved := 0, cacheHits := 1, serialized := 2, copied := 2
        methodsTagged := 0 }
    ∃ after, rotate host collided = (after, .ok { samplesReset := 0, resolved := some counts }) ∧
      Settles collided after counts ∧
      ∃ later next, (rotate host { after with traces := .empty }).2 = .ok later ∧
        later.resolved = some next ∧ next.serialized = 0 ∧ next.cacheHits = 0 := by
  intro host counts
  have linked : collided.sampler.Linked := drive_linked _ _ (linked_create _ _ _)
  have keyed : collided.traces.Keyed :=
    ((TraceLog.keyed_empty.record rootTrace).record collidingTrace).record _
  have roomy : collided.options.Roomy := ⟨by decide, by decide⟩
  obtain ⟨-, -, settled⟩ := rotation_outcome .memory Retention.unwritten linked keyed roomy
  have answer : (rotate host collided).2 =
      .ok { samplesReset := 0, resolved := some counts } := by decide
  generalize done : rotate host collided = outcome at answer
  obtain ⟨after, result⟩ := outcome
  subst answer
  obtain ⟨found, resolved, settles, again⟩ := settled after _ done (by decide)
  cases resolved
  exact ⟨after, rfl, settles, again .empty⟩

end Profiler

end LeakRecorder
