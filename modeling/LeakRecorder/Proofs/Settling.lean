/-
# LeakRecorder.Proofs.Settling — what a resolution has done when it ends

A live sample that knows its trace and has no blob of it needs one. Along the walk
the cache answers exactly the keys that some sample so far has needed, each with a
blob of its own (`Resolution.Met`), however the keys share their buckets. So a
sample that needs a blob takes the one of its key if there is one; if there is none,
its trace is serialized, and caching the new blob cannot be refused.

The walk therefore stops only at a sample whose key the source does not serve. It
leaves the samples in front of this one settled, the others as they were, and the
counts and tags that the needed keys account for (`Resolution.resolveAll_outcome`,
`Profiler.resolveFresh_outcome`).
-/
import LeakRecorder.Proofs.Attaching
import LeakRecorder.Proofs.Tagging
import Mathlib.Data.List.Dedup

set_option autoImplicit false

namespace LeakRecorder

/-! ## Options -/

/-- Collections of these sizes can be made. -/
structure Options.Roomy (options : Options) : Prop where
  queue : options.queueSize < allocationLimit
  set : options.idSetSize < allocationLimit

theorem reserve_of_lt {size : UInt64} (small : size < allocationLimit) : reserve size = .ok () :=
  if_pos small

/-! ## Which samples need a blob -/

namespace Sample

/-- The sample is live and knows its trace. -/
def isEligible (sample : Sample) : Bool := !sample.isDead && sample.hasTrace

/-- A resolution has to find a blob for the sample. -/
def needsTrace (sample : Sample) : Bool := sample.isEligible && sample.stackTrace.isNone

/-- The keys that the samples need blobs for, one for each sample that needs one. -/
def wanted (samples : List Sample) : List TraceKey := (samples.filter needsTrace).map (·.key)

theorem wanted_append (samples more : List Sample) :
    wanted (samples ++ more) = wanted samples ++ wanted more := by
  rw [wanted, List.filter_append, List.map_append, wanted, wanted]

theorem wanted_singleton (sample : Sample) :
    wanted [sample] = if sample.needsTrace then [sample.key] else [] := by
  rw [wanted, List.filter_singleton]
  cases sample.needsTrace <;> rfl

theorem mem_wanted {samples : List Sample} {key : TraceKey} :
    key ∈ wanted samples ↔ ∃ sample ∈ samples, sample.needsTrace = true ∧ sample.key = key := by
  simp only [wanted, List.mem_map, List.mem_filter, and_assoc]

theorem wanted_eq_nil_iff {samples : List Sample} :
    wanted samples = [] ↔ ∀ sample ∈ samples, sample.needsTrace = false := by
  simp only [wanted, List.map_eq_nil_iff, List.filter_eq_nil_iff, Bool.not_eq_true]

section Needs

variable {sample : Sample}

theorem needsTrace_iff :
    sample.needsTrace = true ↔ sample.isEligible = true ∧ sample.stackTrace = none := by
  rw [needsTrace, Bool.and_eq_true, Option.isNone_iff_eq_none]

theorem named_of_needsTrace (needs : sample.needsTrace = true) : sample.key.id.isNone = false := by
  have eligible := (needsTrace_iff.mp needs).1
  simp only [isEligible, hasTrace, Bool.and_eq_true, Bool.not_eq_true'] at eligible
  exact eligible.2

theorem needsTrace_of_idle (idle : sample.isEligible = false) : sample.needsTrace = false := by
  rw [needsTrace, idle, Bool.false_and]

theorem needsTrace_of_carries (carries : sample.stackTrace.isSome = true) :
    sample.needsTrace = false := by
  rw [needsTrace, Option.isNone_eq_false_iff.mpr carries, Bool.and_false]

/-- A sample that needs nothing adds nothing to what is wanted. -/
theorem wanted_append_idle (samples : List Sample) (needless : sample.needsTrace = false) :
    wanted (samples ++ [sample]) = wanted samples := by
  rw [wanted_append, wanted_singleton, needless, if_neg Bool.false_ne_true, List.append_nil]

theorem wanted_append_needs (samples : List Sample) (needs : sample.needsTrace = true) :
    wanted (samples ++ [sample]) = wanted samples ++ [sample.key] := by
  rw [wanted_append, wanted_singleton, if_pos needs]

end Needs

end Sample

/-! ## The cache, asked for keys that name a trace -/

namespace BlobCache

variable {cache : BlobCache} {key : TraceKey}

theorem get_eq (named : key.id.isNone = false) : cache.get key = .ok (cache.table.lookup key) := by
  rw [get, BlobCache.named, named]
  rfl

/-- Only a key that is cached already is refused. -/
theorem put_eq (named : key.id.isNone = false) (free : cache.table.lookup key = none)
    (blob : BlobId) : cache.put key blob = (⟨cache.table.insert key blob⟩, .ok ()) := by
  rw [put, BlobCache.named, named]
  rw [if_neg Bool.false_ne_true]
  dsimp only
  rw [free]
  rfl

end BlobCache

namespace Resolution

variable {σ ρ : Type}

/-! ## One sample -/

/-- The source answers a key with a trace of this key, and of fewer frames than a record can
count. -/
structure Serves (host : Host σ ρ) (traces : ρ) (key : TraceKey) (trace : Trace) : Prop where
  found : host.source.lookup traces key = some trace
  key : trace.key = key
  few : trace.frames.length < countLimit

theorem Serves.unique {host : Host σ ρ} {traces : ρ} {key : TraceKey} {trace other : Trace}
    (serves : Serves host traces key trace) (again : Serves host traces key other) :
    trace = other :=
  Option.some.inj (serves.found.symm.trans again.found)

/-- Why no blob can be built for a key that the source does not serve. -/
def refusal (host : Host σ ρ) (traces : ρ) (key : TraceKey) : Failure :=
  match host.source.lookup traces key with
  | none => .violation (.traceMissing key)
  | some trace =>
      if trace.key = key then .format (.tooManyFrames trace.id)
      else .violation (.traceMismatch trace.key key)

/-- The state after a trace has been serialized for a sample. -/
def serialized (keepsCopy : Retention) (state : Resolution) (trace : Trace) (cache : BlobCache) :
    Resolution :=
  let tagged := trace.frames.foldl tagFrame state
  let copies := if keepsCopy trace then 1 else 0
  { tagged with
    blobs := (state.blobs.add .stackTrace (traceBlock [trace]).encode).2
    cache
    stats := { tagged.stats with
      copied := tagged.stats.copied + copies
      serialized := tagged.stats.serialized + 1 } }

/-- What can come of one sample. -/
inductive Resolves (host : Host σ ρ) (traces : ρ) (state : Resolution) (sample : Sample) :
    Resolution → Except Failure Sample → Prop
  | passed (idle : sample.isEligible = false) :
      Resolves host traces state sample state (.ok sample)
  | carried {object : ObjectRef} (eligible : sample.isEligible = true)
      (carries : sample.stackTrace.isSome = true) :
      Resolves host traces state sample
        { state.countEligible object with
          stats := { (state.countEligible object).stats with
            alreadyResolved := state.stats.alreadyResolved + 1 } } (.ok sample)
  | hit {object : ObjectRef} {blob : BlobId} (needs : sample.needsTrace = true)
      (cached : state.cache.table.lookup sample.key = some blob) :
      Resolves host traces state sample
        { state.countEligible object with
          stats := { (state.countEligible object).stats with
            cacheHits := state.stats.cacheHits + 1 } } (.ok { sample with stackTrace := some blob })
  | built {object : ObjectRef} {trace : Trace} {after : Resolution}
      (needs : sample.needsTrace = true) (free : state.cache.table.lookup sample.key = none)
      (serves : Serves host traces sample.key trace)
      (made : after = serialized host.keepsCopy (state.countEligible object) trace
        ⟨state.cache.table.insert sample.key
          (state.blobs.add .stackTrace (traceBlock [trace]).encode).1⟩) :
      Resolves host traces state sample after
        (.ok { sample with
          stackTrace := some (state.blobs.add .stackTrace (traceBlock [trace]).encode).1 })
  | refused {object : ObjectRef} (needs : sample.needsTrace = true)
      (unserved : ∀ trace, ¬ Serves host traces sample.key trace) :
      Resolves host traces state sample (state.countEligible object)
        (.error (refusal host traces sample.key))

section OneSample

variable {host : Host σ ρ} {traces : ρ}

/-- A key that the cache does not have gets a new blob if the source serves it, and is refused
otherwise. -/
theorem blobFor_of_free (host : Host σ ρ) (traces : ρ) {state : Resolution} {key : TraceKey}
    (named : key.id.isNone = false) (free : state.cache.table.lookup key = none) :
    (∃ trace, Serves host traces key trace ∧
      blobFor host traces state key =
        (serialized host.keepsCopy state trace
          ⟨state.cache.table.insert key
            (state.blobs.add .stackTrace (traceBlock [trace]).encode).1⟩,
          .ok (state.blobs.add .stackTrace (traceBlock [trace]).encode).1)) ∨
      (∀ trace, ¬ Serves host traces key trace) ∧
        blobFor host traces state key = (state, .error (refusal host traces key)) := by
  rw [blobFor, BlobCache.get_eq named, free, refusal]
  dsimp only
  cases found : host.source.lookup traces key with
  | none =>
      refine .inr ⟨fun trace serves => ?_, rfl⟩
      rw [serves.found] at found
      cases found
  | some trace =>
      have only {other : Trace} (serves : Serves host traces key other) : other = trace :=
        Option.some.inj (serves.found.symm.trans found)
      dsimp only
      by_cases same : trace.key = key
      · rw [if_pos same, if_pos same, serialize_eq]
        by_cases few : trace.frames.length < countLimit
        · refine .inl ⟨trace, ⟨found, same, few⟩, ?_⟩
          rw [if_pos few, same]
          dsimp only
          rw [BlobCache.put_eq named free]
          rfl
        · refine .inr ⟨fun other serves => few ?_, if_neg few⟩
          rw [← only serves]
          exact serves.few
      · rw [if_neg same, if_neg same]
        refine .inr ⟨fun other serves => same ?_, rfl⟩
        rw [← only serves]
        exact serves.key

theorem resolves_resolve (host : Host σ ρ) (traces : ρ) (state : Resolution) (sample : Sample) :
    Resolves host traces state sample (state.resolve host traces sample).1
      (state.resolve host traces sample).2 := by
  rw [resolve]
  cases live : sample.object with
  | none => exact .passed (by simp [Sample.isEligible, Sample.isDead, live])
  | some object =>
      dsimp only
      cases traced : sample.hasTrace with
      | false => exact .passed (by simp [Sample.isEligible, traced])
      | true =>
          have eligible : sample.isEligible = true := by
            simp [Sample.isEligible, Sample.isDead, live, traced]
          rw [if_pos rfl]
          cases carried : sample.stackTrace with
          | some held => exact .carried eligible (by rw [carried]; rfl)
          | none =>
              have needs : sample.needsTrace = true := by
                simp [Sample.needsTrace, eligible, carried]
              have named := Sample.named_of_needsTrace needs
              rw [if_neg (by simp)]
              cases cached : (state.countEligible object).cache.table.lookup sample.key with
              | some blob =>
                  rw [blobFor, BlobCache.get_eq named, cached]
                  dsimp only
                  rw [Sample.attach_stackTrace carried]
                  exact .hit needs cached
              | none =>
                  rcases blobFor_of_free host traces named cached with
                    ⟨trace, serves, built⟩ | ⟨unserved, refused⟩
                  · rw [built]
                    dsimp only
                    rw [Sample.attach_stackTrace carried]
                    exact .built needs cached serves rfl
                  · rw [refused]
                    exact .refused needs unserved

theorem resolves_of_resolve {state after : Resolution} {sample : Sample}
    {result : Except Failure Sample}
    (done : state.resolve host traces sample = (after, result)) :
    Resolves host traces state sample after result := by
  have resolves := resolves_resolve host traces state sample
  rw [done] at resolves
  exact resolves

/-- The sample with the blob that the cache has for its key, if it needs one. -/
def settle (cache : BlobCache) (sample : Sample) : Sample :=
  if sample.needsTrace then { sample with stackTrace := cache.table.lookup sample.key }
  else sample

/-- A trace that is served for one of the keys goes through the method. -/
def Reaches (host : Host σ ρ) (traces : ρ) (keys : List TraceKey) (method : MethodId) : Prop :=
  ∃ key ∈ keys, ∃ trace, Serves host traces key trace ∧
    ∃ frame ∈ trace.frames, frame.method = method

/-- What a resolution that began in one state has met when it has gone through some samples. -/
structure Met (host : Host σ ρ) (traces : ρ) (start : Resolution) (seen : List Sample)
    (state : Resolution) : Prop where
  sound : Sound host traces start.blobs state
  cached : ∀ key, (state.cache.table.lookup key).isSome = true ↔ key ∈ Sample.wanted seen
  apart : ∀ key other blob, state.cache.table.lookup key = some blob →
    state.cache.table.lookup other = some blob → key = other
  tags : start.Tags state
  methods : ∀ method, state.methods.contains method = true ↔
    Reaches host traces (Sample.wanted seen) method

/-- What a resolution has counted when it has gone through some samples. -/
structure Counted (seen : List Sample) (stats : ResolveStats) : Prop where
  eligible : stats.eligible = seen.countP Sample.isEligible
  alreadyResolved : stats.alreadyResolved =
    seen.countP fun sample => sample.isEligible && sample.stackTrace.isSome
  serialized : stats.serialized = (Sample.wanted seen).dedup.length
  shared : stats.cacheHits + stats.serialized = (Sample.wanted seen).length

variable {start state after : Resolution} {seen : List Sample}

/-- Nothing but tags and counts has changed, and nothing new is wanted. -/
theorem Met.of_same {more : List Sample} (met : Met host traces start seen state)
    (same : ∀ key, key ∈ Sample.wanted more ↔ key ∈ Sample.wanted seen)
    (blobs : after.blobs = state.blobs) (cache : after.cache = state.cache)
    (methods : after.methods = state.methods) (tags : state.Tags after) :
    Met host traces start more after := by
  refine ⟨⟨?_, ?_, ?_⟩, ?_, ?_, met.tags.trans tags, ?_⟩
  · rw [cache]
    exact met.sound.keying
  · rw [blobs]
    exact met.sound.grown
  · rw [cache, blobs]
    exact met.sound.cached
  · intro key
    rw [cache, same]
    exact met.cached key
  · rw [cache]
    exact met.apart
  · intro method
    rw [methods, met.methods, Reaches, Reaches]
    simp only [same]

/-- A trace that is serialized for a key that no sample so far has needed gets a blob of its own. -/
theorem Met.built {sample : Sample} {object : ObjectRef} {trace : Trace}
    (met : Met host traces start seen state) (needs : sample.needsTrace = true)
    (free : state.cache.table.lookup sample.key = none)
    (serves : Serves host traces sample.key trace)
    (made : after = serialized host.keepsCopy (state.countEligible object) trace
      ⟨state.cache.table.insert sample.key
        (state.blobs.add .stackTrace (traceBlock [trace]).encode).1⟩)
    (sound : Sound host traces start.blobs after) :
    Met host traces start (seen ++ [sample]) after ∧
      ∀ key, after.cache.table.lookup key =
        if key = sample.key then some (state.blobs.add .stackTrace (traceBlock [trace]).encode).1
        else state.cache.table.lookup key := by
  have put := BlobCache.put_eq (Sample.named_of_needsTrace needs) free
    (state.blobs.add .stackTrace (traceBlock [trace]).encode).1
  have lookups : ∀ key, after.cache.table.lookup key =
      if key = sample.key then some (state.blobs.add .stackTrace (traceBlock [trace]).encode).1
      else state.cache.table.lookup key := by
    rw [made]
    exact (BlobCache.put_ok met.sound.keying put).2
  have wanted (key : TraceKey) : key ∈ Sample.wanted (seen ++ [sample]) ↔
      key ∈ Sample.wanted seen ∨ key = sample.key := by
    rw [Sample.wanted_append_needs seen needs, List.mem_append, List.mem_singleton]
  -- Every cached blob is in the store, and the new one was not.
  have own (key : TraceKey) :
      state.cache.table.lookup key ≠
        some (state.blobs.add .stackTrace (traceBlock [trace]).encode).1 := by
    intro hit
    obtain ⟨older, built⟩ := met.sound.cached key _ hit
    have present := built.present
    rw [BlobStore.get?_next] at present
    cases present
  refine ⟨⟨sound, ?_, ?_, ?_, ?_⟩, lookups⟩
  · intro key
    rw [lookups, wanted]
    split
    next same => simp [same]
    next other => rw [met.cached, or_iff_left other]
  · intro key other blob hit hitOther
    rw [lookups] at hit hitOther
    split at hit <;> split at hitOther
    next same sameOther => rw [same, sameOther]
    next same _ =>
      cases hit
      exact absurd hitOther (own other)
    next _ same =>
      cases hitOther
      exact absurd hit (own key)
    next => exact met.apart key other blob hit hitOther
  · have tagged := tags_tagFrames (state.countEligible object) trace.frames
    have all := met.tags.trans ((tags_countEligible state object).trans tagged)
    rw [made]
    exact ⟨all.runtime, all.met, all.tags⟩
  · intro method
    have frames := contains_tagFrames (state.countEligible object) trace.frames method
    rw [made]
    show (trace.frames.foldl tagFrame (state.countEligible object)).methods.contains method =
      true ↔ _
    rw [frames]
    show _ ∨ state.methods.contains method = true ↔ _
    rw [met.methods]
    constructor
    · rintro (reached | ⟨key, member, reached⟩)
      · exact ⟨sample.key, (wanted _).mpr (.inr rfl), trace, serves, reached⟩
      · exact ⟨key, (wanted _).mpr (.inl member), reached⟩
    · rintro ⟨key, member, other, served, reached⟩
      rcases (wanted key).mp member with before | rfl
      · exact .inr ⟨key, before, other, served, reached⟩
      · have unique := served.unique serves
        subst unique
        exact .inl reached

/-- One sample that is not refused. -/
theorem Met.step {sample left : Sample} (met : Met host traces start seen state)
    (done : state.resolve host traces sample = (after, .ok left)) :
    Met host traces start (seen ++ [sample]) after ∧ left = settle after.cache sample ∧
      ∀ key blob, state.cache.table.lookup key = some blob →
        after.cache.table.lookup key = some blob := by
  have sound := (sound_resolve met.sound done).1
  have resolves := resolves_of_resolve done
  generalize answer : (Except.ok left : Except Failure Sample) = result at resolves
  cases resolves with
  | passed idle =>
      cases answer
      have needless := Sample.needsTrace_of_idle idle
      refine ⟨met.of_same (fun key => ?_) rfl rfl rfl (.refl _), ?_, fun _ _ hit => hit⟩
      · rw [Sample.wanted_append_idle seen needless]
      · rw [settle, needless, if_neg Bool.false_ne_true]
  | @carried object eligible carries =>
      cases answer
      have needless := Sample.needsTrace_of_carries carries
      have tags := tags_countEligible state object
      refine ⟨met.of_same (fun key => ?_) rfl rfl rfl ⟨tags.runtime, tags.met, tags.tags⟩, ?_,
        fun _ _ hit => hit⟩
      · rw [Sample.wanted_append_idle seen needless]
      · rw [settle, needless, if_neg Bool.false_ne_true]
  | @hit object blob needs cached =>
      cases answer
      have tags := tags_countEligible state object
      have known : sample.key ∈ Sample.wanted seen := by
        rw [← met.cached, cached]
        rfl
      refine ⟨met.of_same (fun key => ?_) rfl rfl rfl ⟨tags.runtime, tags.met, tags.tags⟩, ?_,
        fun _ _ hit => hit⟩
      · rw [Sample.wanted_append_needs seen needs, List.mem_append, List.mem_singleton]
        exact ⟨fun either => either.elim id (· ▸ known), .inl⟩
      · rw [settle, if_pos needs]
        exact congrArg (fun held => { sample with stackTrace := held }) cached.symm
  | @built object trace _ needs free serves made =>
      cases answer
      obtain ⟨next, lookups⟩ := met.built needs free serves made sound
      refine ⟨next, ?_, ?_⟩
      · rw [settle, if_pos needs, lookups, if_pos rfl]
      · intro key blob hit
        rw [lookups, if_neg, hit]
        rintro rfl
        rw [free] at hit
        cases hit
  | refused needs unserved => cases answer

/-- The keys needed so far, each once, grow by a key that no sample so far has needed. -/
theorem length_dedup_wanted (seen : List Sample) {sample : Sample}
    (needs : sample.needsTrace = true) :
    (Sample.wanted (seen ++ [sample])).dedup.length =
      (Sample.wanted seen).dedup.length +
        if sample.key ∈ Sample.wanted seen then 0 else 1 := by
  rw [Sample.wanted_append_needs seen needs,
    (List.perm_append_singleton sample.key (Sample.wanted seen)).dedup.length_eq]
  split
  next known => rw [List.dedup_cons_of_mem known, Nat.add_zero]
  next new => rw [List.dedup_cons_of_notMem new, List.length_cons]

/-- One sample that is not refused is counted. -/
theorem Counted.step {sample left : Sample} (counted : Counted seen state.stats)
    (met : Met host traces start seen state)
    (done : state.resolve host traces sample = (after, .ok left)) :
    Counted (seen ++ [sample]) after.stats := by
  have resolves := resolves_of_resolve done
  generalize answer : (Except.ok left : Except Failure Sample) = result at resolves
  obtain ⟨eligible, alreadyResolved, serialized, shared⟩ := counted
  cases resolves with
  | passed idle =>
      have none := Sample.wanted_append_idle seen (Sample.needsTrace_of_idle idle)
      refine ⟨?_, ?_, none ▸ serialized, none ▸ shared⟩
      · simp [eligible, idle]
      · simp [alreadyResolved, idle]
  | @carried object live carries =>
      have none := Sample.wanted_append_idle seen (Sample.needsTrace_of_carries carries)
      refine ⟨?_, ?_, none ▸ serialized, none ▸ shared⟩
      · simp [countEligible, eligible, live]
      · simp [alreadyResolved, live, carries]
  | @hit object blob needs cached =>
      obtain ⟨live, bare⟩ := Sample.needsTrace_iff.mp needs
      have known : sample.key ∈ Sample.wanted seen := by
        rw [← met.cached, cached]
        rfl
      refine ⟨?_, ?_, ?_, ?_⟩
      · simp [countEligible, live, eligible]
      · simp [countEligible, bare, alreadyResolved]
      · rw [length_dedup_wanted seen needs, if_pos known]
        exact serialized
      · rw [Sample.wanted_append_needs seen needs, List.length_append, ← shared]
        show state.stats.cacheHits + 1 + state.stats.serialized = _
        rw [List.length_singleton]
        omega
  | @built object trace _ needs free serves made =>
      subst made
      obtain ⟨live, bare⟩ := Sample.needsTrace_iff.mp needs
      have new : sample.key ∉ Sample.wanted seen := by
        rw [← met.cached, free]
        simp
      obtain ⟨methodsTagged, tagged⟩ :=
        stats_tagFrames (state.countEligible object) trace.frames
      refine ⟨?_, ?_, ?_, ?_⟩
      · show (trace.frames.foldl tagFrame (state.countEligible object)).stats.eligible = _
        rw [tagged]
        simp [countEligible, live, eligible]
      · show (trace.frames.foldl tagFrame (state.countEligible object)).stats.alreadyResolved = _
        rw [tagged]
        simp [countEligible, bare, alreadyResolved]
      · rw [length_dedup_wanted seen needs, if_neg new, ← serialized]
        show (trace.frames.foldl tagFrame (state.countEligible object)).stats.serialized + 1 = _
        rw [tagged]
        rfl
      · rw [Sample.wanted_append_needs seen needs, List.length_append, ← shared,
          List.length_singleton]
        show (trace.frames.foldl tagFrame (state.countEligible object)).stats.cacheHits +
          ((trace.frames.foldl tagFrame (state.countEligible object)).stats.serialized + 1) = _
        rw [tagged]
        rfl
  | refused needs unserved => cases answer

/-! ## All samples -/

/-- What the cache answers later settles the samples so far as before. -/
theorem Met.map_settle (met : Met host traces start seen state)
    (kept : ∀ key blob, state.cache.table.lookup key = some blob →
      after.cache.table.lookup key = some blob) :
    seen.map (settle after.cache) = seen.map (settle state.cache) := by
  refine List.map_congr_left fun sample member => ?_
  rw [settle, settle]
  split
  next needs =>
    have known := (met.cached sample.key).mpr (Sample.mem_wanted.mpr ⟨sample, member, needs, rfl⟩)
    obtain ⟨blob, hit⟩ := Option.isSome_iff_exists.mp known
    rw [hit, kept _ _ hit]
  next => rfl

/-- A walk through samples settles those in front of the first one whose key is not served, and
fails there; it comes to its end if there is none. -/
theorem resolveAll_outcome {samples front : List Sample} {result : Except Failure Unit}
    (met : Met host traces start seen state) (counted : Counted seen state.stats)
    (done : resolveAll host traces (seen.map (settle state.cache)).reverse samples state =
      (after, front, result)) :
    ∃ served rest, samples = served ++ rest ∧ Met host traces start (seen ++ served) after ∧
      front = (seen ++ served).map (settle after.cache) ++ rest ∧
      (result = .ok () ∧ rest = [] ∧ Counted (seen ++ served) after.stats ∨
        ∃ sample more, rest = sample :: more ∧ sample.needsTrace = true ∧
          (∀ trace, ¬ Serves host traces sample.key trace) ∧
          result = .error (refusal host traces sample.key)) := by
  induction samples generalizing seen state with
  | nil =>
      rw [resolveAll, List.reverse_reverse] at done
      cases done
      refine ⟨[], [], rfl, ?_, ?_, .inl ⟨rfl, rfl, ?_⟩⟩
      · rwa [List.append_nil]
      · rw [List.append_nil, List.append_nil]
      · rwa [List.append_nil]
  | cons sample rest ih =>
      rw [resolveAll] at done
      cases one : state.resolve host traces sample with
      | mk next answer =>
          rw [one] at done
          cases answer with
          | error cause =>
              have resolves := resolves_of_resolve one
              generalize answer : (Except.error cause : Except Failure Sample) = failed
                at resolves
              cases resolves with
              | @refused object needs unserved =>
                  cases answer
                  cases done
                  rw [List.reverseAux_eq, List.reverse_reverse]
                  refine ⟨[], sample :: rest, rfl, ?_, ?_,
                    .inr ⟨sample, rest, rfl, needs, unserved, rfl⟩⟩
                  · rw [List.append_nil]
                    exact met.of_same (fun _ => .rfl) rfl rfl rfl
                      (tags_countEligible state object)
                  · rw [List.append_nil]
                    rfl
              | _ => cases answer
          | ok left =>
              obtain ⟨later, same, kept⟩ := met.step one
              have counts := counted.step met one
              have left_reverse : left :: (seen.map (settle state.cache)).reverse =
                  ((seen ++ [sample]).map (settle next.cache)).reverse := by
                rw [List.map_append, List.reverse_append, met.map_settle kept, same]
                rfl
              dsimp only at done
              rw [left_reverse] at done
              obtain ⟨served, others, split, all, placed, ends⟩ := ih later counts done
              rw [List.append_assoc] at all placed ends
              exact ⟨sample :: served, others, by rw [split]; rfl, all, placed, ends⟩

end OneSample

/-! ## The start -/

/-- A resolution can begin whenever its collections can be made. -/
theorem ofOptions_of_roomy {options : Options} (roomy : options.Roomy) (blobs : BlobStore)
    (runtime : Runtime) :
    ∃ cache, BlobCache.withBuckets options.queueSize = .ok cache ∧
      ofOptions options blobs runtime =
        .ok { blobs, cache, methods := .empty, runtime, stats := .zero } := by
  rw [ofOptions, BlobCache.withBuckets, Table.withBuckets, IdSet.withCapacity,
    reserve_of_lt roomy.queue, reserve_of_lt roomy.set]
  exact ⟨_, rfl, rfl⟩

/-- Otherwise it cannot. -/
theorem ofOptions_of_not_roomy {options : Options} (cramped : ¬ options.Roomy) (blobs : BlobStore)
    (runtime : Runtime) : ofOptions options blobs runtime = .error .allocation := by
  rw [ofOptions, BlobCache.withBuckets, Table.withBuckets, IdSet.withCapacity]
  by_cases queue : options.queueSize < allocationLimit
  · have set : ¬ options.idSetSize < allocationLimit := fun set => cramped ⟨queue, set⟩
    rw [reserve, if_pos queue, reserve, if_neg set]
    rfl
  · rw [reserve, if_neg queue]
    rfl

/-- A resolution that begins has met nothing. -/
theorem met_start {count : UInt64} {cache : BlobCache}
    (made : BlobCache.withBuckets count = .ok cache) (host : Host σ ρ) (traces : ρ)
    (blobs : BlobStore) (runtime : Runtime) :
    Met host traces { blobs, cache, methods := .empty, runtime, stats := .zero } []
      { blobs, cache, methods := .empty, runtime, stats := .zero } := by
  obtain ⟨keying, empty⟩ := BlobCache.of_withBuckets made
  refine ⟨⟨keying, .refl _, ?_⟩, ?_, ?_, .refl _, ?_⟩
  · intro key blob hit
    rw [empty] at hit
    cases hit
  · intro key
    rw [empty]
    simp [Sample.wanted]
  · intro key other blob hit
    rw [empty] at hit
    cases hit
  · intro method
    simp [Reaches, Sample.wanted]

theorem counted_zero : Counted [] .zero := ⟨rfl, rfl, rfl, rfl⟩

end Resolution

/-! ## The unresolved samples of a profiler -/

namespace Profiler

variable {σ ρ : Type} {host : Host σ ρ} {before after : Profiler σ ρ}

/-- What a resolution of the unresolved samples has done when it has settled the ones that are
served, which the cache has blobs for, and left the rest. -/
structure Walked (host : Host σ ρ) (before after : Profiler σ ρ) (served rest : List Sample)
    (cache : BlobCache) : Prop where
  split : before.sampler.unresolved = served ++ rest
  sampler : after.sampler =
    before.sampler.replaceFront (served.map (Resolution.settle cache) ++ rest)
  frame : after = { before with
    sampler := after.sampler, blobs := after.blobs, runtime := after.runtime }
  blobs : before.blobs.Grown after.blobs
  cached : ∀ key, (cache.table.lookup key).isSome = true ↔ key ∈ Sample.wanted served
  built : ∀ key blob, cache.table.lookup key = some blob →
    ∃ trace, Resolution.Built host before.traces before.blobs after.blobs key blob trace
  apart : ∀ key other blob, cache.table.lookup key = some blob →
    cache.table.lookup other = some blob → key = other
  atSafepoint : after.runtime.atSafepoint = before.runtime.atSafepoint
  unloaded : after.runtime.unloaded = before.runtime.unloaded
  inVm : after.runtime.inVm = before.runtime.inVm
  tagged : ∀ method, Resolution.Reaches host before.traces (Sample.wanted served) method →
    before.runtime.isUnloaded method.holder = false →
    after.runtime.methodTags method = before.runtime.methodTags method + 1
  untagged : ∀ method, ¬ (Resolution.Reaches host before.traces (Sample.wanted served) method ∧
      before.runtime.isUnloaded method.holder = false) →
    after.runtime.methodTags method = before.runtime.methodTags method

/-- The cache has a blob of its own trace for every key that a settled sample needed. -/
theorem Walked.lookup {served rest : List Sample} {cache : BlobCache}
    (walked : Walked host before after served rest cache) {key : TraceKey}
    (wanted : key ∈ Sample.wanted served) :
    ∃ blob trace, cache.table.lookup key = some blob ∧
      Resolution.Built host before.traces before.blobs after.blobs key blob trace := by
  obtain ⟨blob, hit⟩ := Option.isSome_iff_exists.mp ((walked.cached key).mpr wanted)
  obtain ⟨trace, built⟩ := walked.built key blob hit
  exact ⟨blob, trace, hit, built⟩

/-- The resolution comes to its end, or it fails at the first sample whose key is not served. -/
theorem resolveFresh_outcome {result : Except Failure ResolveStats}
    (roomy : before.options.Roomy) (done : resolveFresh host before = (after, result)) :
    ∃ served rest cache, Walked host before after served rest cache ∧
      ((∃ stats, result = .ok stats ∧ rest = [] ∧ Resolution.Counted served stats) ∨
        ∃ sample more, rest = sample :: more ∧ sample.needsTrace = true ∧
          (∀ trace, ¬ Resolution.Serves host before.traces sample.key trace) ∧
          result = .error (Resolution.refusal host before.traces sample.key)) := by
  obtain ⟨cache, made, begun⟩ :=
    Resolution.ofOptions_of_roomy roomy before.blobs before.runtime.enterVm.lock
  have start := Resolution.met_start made host before.traces before.blobs
    before.runtime.enterVm.lock
  rw [resolveFresh] at done
  dsimp only at done
  rw [begun] at done
  dsimp only at done
  cases all : Resolution.resolveAll host before.traces [] before.sampler.unresolved
      { blobs := before.blobs, cache, methods := .empty
        runtime := before.runtime.enterVm.lock, stats := .zero } with
  | mk state others =>
      obtain ⟨front, outcome⟩ := others
      obtain ⟨served, rest, split, met, placed, ends⟩ :=
        Resolution.resolveAll_outcome start Resolution.counted_zero all
      rw [List.nil_append] at met placed ends
      rw [all] at done
      cases done
      have sameUnloaded (classId : ClassId) :
          before.runtime.enterVm.lock.isUnloaded classId = before.runtime.isUnloaded classId := rfl
      have left (method : MethodId) : state.runtime.unlock.leaveVm.methodTags method =
          state.runtime.methodTags method := Runtime.methodTags_log state.runtime.unlock _ method
      have entered (method : MethodId) : before.runtime.enterVm.lock.methodTags method =
          before.runtime.methodTags method := before.runtime.methodTags_log _ method
      refine ⟨served, rest, state.cache, ?_, ?_⟩
      · exact
          { split
            sampler := by rw [placed]
            frame := rfl
            blobs := met.sound.grown
            cached := met.cached
            built := met.sound.cached
            apart := met.apart
            atSafepoint := met.tags.runtime.atSafepoint
            unloaded := met.tags.runtime.unloaded
            inVm := Runtime.inVm_leaveVm met.tags.runtime
            tagged := by
              intro method reached loaded
              have tags := met.tags.tags method
              rw [if_pos ⟨(met.methods method).mpr reached, IdSet.contains_empty method, loaded⟩,
                entered] at tags
              exact (left method).trans tags
            untagged := by
              intro method not
              have tags := met.tags.tags method
              rw [if_neg fun both => not ⟨(met.methods method).mp both.1, both.2.2⟩, entered]
                at tags
              exact (left method).trans tags }
      · rcases ends with ⟨rfl, rfl, counted⟩ | ⟨sample, more, rfl, needs, unserved, rfl⟩
        · exact .inl ⟨_, rfl, rfl, counted⟩
        · exact .inr ⟨sample, more, rfl, needs, unserved, rfl⟩

end Profiler

end LeakRecorder
