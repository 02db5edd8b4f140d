/-
# LeakRecorder.Proofs.Resolving — what a rotation does to blobs and samples

A resolution only ever adds blobs: it leaves those of the store as they are, and
the ones behind them are the blocks of one trace each, due in the epoch that
starts (`BlobStore.Grown`), whether it comes to its end or not.

So all that a rotation does to the blobs that exist is to make those of the
resolved samples due again (`BlobStore.get?_resetBlobs`,
`Profiler.grown_resolveFresh`).
-/
import LeakRecorder.Profiler.Rotation
import LeakRecorder.Proofs.Pending

set_option autoImplicit false

namespace LeakRecorder

/-- The block of one trace. -/
def OneTrace (bytes : Bytes) : Prop :=
  ∃ trace : Trace, trace.frames.length < countLimit ∧ bytes = (traceBlock [trace]).encode

namespace BlobStore

/-! ## Making blobs due again -/

theorem get?_reset (store : BlobStore) (id other : BlobId) :
    (store.reset id).get? other =
      (store.get? other).map fun blob =>
        if other = id then { blob with written := false } else blob := by
  rw [reset, get?_setWritten]
  by_cases same : id = other
  · simp [same]
  · simp [same, Ne.symm same]

theorem get?_foldl_reset (store : BlobStore) (ids : List BlobId) (id : BlobId) :
    (ids.foldl reset store).get? id =
      (store.get? id).map fun blob =>
        if id ∈ ids then { blob with written := false } else blob := by
  induction ids generalizing store with
  | nil => simp
  | cons first ids ih =>
      rw [List.foldl_cons, ih, get?_reset, Option.map_map]
      congr 1
      funext blob
      by_cases here : id = first <;> by_cases later : id ∈ ids <;> simp [here, later]

/-- Every blob of the samples is due; nothing else has changed. -/
theorem get?_resetBlobs (store : BlobStore) (samples : List Sample) (id : BlobId) :
    (Profiler.resetBlobs store samples).get? id =
      (store.get? id).map fun blob =>
        if id ∈ samples.flatMap Sample.blobs then { blob with written := false } else blob := by
  rw [← get?_foldl_reset, List.foldl_flatMap]
  rfl

/-! ## Adding blobs -/

theorem get?_add_new {store : BlobStore} {id : BlobId} {blob : Blob} (kind : BlobKind)
    (bytes : Bytes) (absent : store.get? id = none)
    (present : (store.add kind bytes).2.get? id = some blob) :
    blob = { kind, bytes, written := false } := by
  simp only [get?, Array.getElem?_eq_none_iff] at absent
  simp only [add, get?, Array.getElem?_push] at present
  split at present
  · exact (Option.some.inj present).symm
  · have inside := (Array.getElem?_eq_some_iff.mp present).1
    omega

/-- A new blob is due, so the epoch has the same blobs as before. -/
theorem has_add (store : BlobStore) (kind : BlobKind) (bytes : Bytes) (id : BlobId) :
    (store.add kind bytes).2.has id = store.has id := by
  rw [has, has]
  cases old : store.get? id with
  | some blob => rw [get?_add kind bytes old]
  | none =>
      cases new : (store.add kind bytes).2.get? id with
      | none => rfl
      | some blob => rw [get?_add_new kind bytes old new, Option.any_some, Option.any_none]

/-- The identifier of the next blob names none yet. -/
theorem get?_next (store : BlobStore) (kind : BlobKind) (bytes : Bytes) :
    store.get? (store.add kind bytes).1 = none := by
  simp [add, get?]

/-- The store with blobs of traces behind its own, each of one trace and due. -/
structure Grown (old new : BlobStore) : Prop where
  kept : ∀ id blob, old.get? id = some blob → new.get? id = some blob
  fresh : ∀ id blob, old.get? id = none → new.get? id = some blob →
    blob.written = false ∧ OneTrace blob.bytes

theorem Grown.refl (store : BlobStore) : store.Grown store where
  kept := fun _ _ present => present
  fresh := by
    intro id blob absent present
    rw [absent] at present
    cases present

theorem Grown.trans {old mid new : BlobStore} (first : old.Grown mid) (second : mid.Grown new) :
    old.Grown new where
  kept := fun id blob present => second.kept id blob (first.kept id blob present)
  fresh := by
    intro id blob absent present
    cases between : mid.get? id with
    | none => exact second.fresh id blob between present
    | some same =>
        rw [second.kept id same between] at present
        cases present
        exact first.fresh id blob absent between

theorem grown_add (store : BlobStore) {trace : Trace}
    (few : trace.frames.length < countLimit) :
    store.Grown (store.add .stackTrace (traceBlock [trace]).encode).2 where
  kept := fun _ _ present => get?_add _ _ present
  fresh := by
    intro id blob absent present
    rw [get?_add_new _ _ absent present]
    exact ⟨rfl, trace, few, rfl⟩

/-- What is said of the bytes of every blob. -/
def All (Holds : Bytes → Prop) (store : BlobStore) : Prop :=
  ∀ id blob, store.get? id = some blob → Holds blob.bytes

/-- What is said of the bytes of every new blob. -/
def Adds (old : BlobStore) (Made : Bytes → Prop) (new : BlobStore) : Prop :=
  ∀ id blob, old.get? id = none → new.get? id = some blob → Made blob.bytes

theorem adds_of_same {old new : BlobStore} (Made : Bytes → Prop) (same : new = old) :
    old.Adds Made new := by
  intro id blob absent present
  rw [same, absent] at present
  cases present

theorem Grown.adds {old new : BlobStore} (grown : old.Grown new) : old.Adds OneTrace new :=
  fun id blob absent present => (grown.fresh id blob absent present).2

/-! ## Blobs that stay but for their flags -/

/-- Every blob of the old store is in the new one, with its kind and its bytes. -/
def Keeps (old new : BlobStore) : Prop :=
  ∀ id blob, old.get? id = some blob → ∃ written, new.get? id = some { blob with written }

theorem Keeps.refl (store : BlobStore) : store.Keeps store :=
  fun _ blob present => ⟨blob.written, present⟩

theorem Keeps.trans {old mid new : BlobStore} (first : old.Keeps mid) (second : mid.Keeps new) :
    old.Keeps new := by
  intro id blob present
  obtain ⟨flag, between⟩ := first id blob present
  obtain ⟨written, later⟩ := second id _ between
  exact ⟨written, later⟩

theorem keeps_add (store : BlobStore) (kind : BlobKind) (bytes : Bytes) :
    store.Keeps (store.add kind bytes).2 :=
  fun _ blob present => ⟨blob.written, get?_add kind bytes present⟩

theorem Grown.keeps {old new : BlobStore} (grown : old.Grown new) : old.Keeps new :=
  fun id blob present => ⟨blob.written, grown.kept id blob present⟩

theorem keeps_resetBlobs (store : BlobStore) (samples : List Sample) :
    store.Keeps (Profiler.resetBlobs store samples) := by
  intro id blob present
  rw [get?_resetBlobs, present, Option.map_some]
  split
  · exact ⟨false, rfl⟩
  · exact ⟨blob.written, rfl⟩

end BlobStore

namespace Resolution

variable {σ ρ : Type}

/-! ## One sample -/

/-- A resolution begins with the blobs that there are, with an empty cache and in the runtime as it
is. -/
theorem ofOptions_ok {options : Options} {blobs : BlobStore} {runtime : Runtime}
    {state : Resolution} (made : ofOptions options blobs runtime = .ok state) :
    state.blobs = blobs ∧ BlobCache.withBuckets options.queueSize = .ok state.cache ∧
      state.runtime = runtime := by
  rw [ofOptions] at made
  cases cache : BlobCache.withBuckets options.queueSize with
  | error cause =>
      rw [cache] at made
      cases made
  | ok emptyCache =>
      cases methods : (IdSet.withCapacity options.idSetSize : Except Failure (IdSet .method)) with
      | error cause =>
          rw [cache, methods] at made
          cases made
      | ok noMethods =>
          rw [cache, methods] at made
          cases made
          exact ⟨rfl, rfl, rfl⟩

/-- Tagging reaches neither the blobs nor the cache. -/
theorem keeps_tagFrame (state : Resolution) (frame : Frame) :
    (state.tagFrame frame).blobs = state.blobs ∧ (state.tagFrame frame).cache = state.cache := by
  rw [tagFrame]
  generalize state.methods.add frame.method = added
  obtain ⟨isNew, methods⟩ := added
  cases isNew with
  | false => exact ⟨rfl, rfl⟩
  | true =>
      generalize state.runtime.checkUnloaded frame.method.holder = asked
      obtain ⟨unloaded, runtime⟩ := asked
      cases unloaded <;> exact ⟨rfl, rfl⟩

theorem keeps_foldl_tagFrame (state : Resolution) (frames : List Frame) :
    (frames.foldl tagFrame state).blobs = state.blobs ∧
      (frames.foldl tagFrame state).cache = state.cache := by
  induction frames generalizing state with
  | nil => exact ⟨rfl, rfl⟩
  | cons frame rest ih =>
      rw [List.foldl_cons, (ih _).1, (ih _).2]
      exact keeps_tagFrame state frame

theorem encode_traceBlock_single (trace : Trace) :
    (traceBlock [trace]).encode =
      Block.encodeHead Block.traceType 1 ++ trace.toRecord.encodeHead ++
        trace.frames.flatMap Frame.encode := by
  rw [List.append_assoc, traceBlock, Block.encode]
  simp only [List.map_cons, List.map_nil, List.length_singleton, List.flatMap_cons,
    List.flatMap_nil, List.append_nil]
  rfl

/-- Serializing is refused for the number of frames, or it tags every frame's method, adds the block
of the trace and caches it. Only the count of copies depends on what is copied. -/
theorem serialize_eq (keepsCopy : Retention) (state : Resolution) (trace : Trace) :
    state.serialize keepsCopy trace =
      if trace.frames.length < countLimit then
        let tagged := trace.frames.foldl tagFrame state
        let added := state.blobs.add .stackTrace (traceBlock [trace]).encode
        let copies := if keepsCopy trace then 1 else 0
        let stats := { tagged.stats with copied := tagged.stats.copied + copies }
        let put := state.cache.put trace.key added.1
        match put.2 with
        | .error cause => ({ tagged with blobs := added.2, cache := put.1, stats }, .error cause)
        | .ok () =>
            ({ tagged with
                blobs := added.2
                cache := put.1
                stats := { stats with serialized := stats.serialized + 1 } }, .ok added.1)
      else (state, .error (.format (.tooManyFrames trace.id))) := by
  have start : Block.writeHead Block.traceType 1 .empty = _ := Block.writeHead_eq .empty _ 1
  rw [serialize, Trace.writeWith]
  by_cases few : trace.frames.length < countLimit
  · rw [if_pos few, if_pos few, TraceRecord.writeHead_eq, start]
    obtain ⟨done, bytes⟩ := @Trace.writeFrames_ok Resolution tagFrame trace.frames
      ((Buffer.empty.append (Block.encodeHead Block.traceType 1)).append
        trace.toRecord.encodeHead) state
    generalize Trace.writeFrames _ _ _ _ = written at done bytes
    obtain ⟨payload, tagged, result⟩ := written
    simp only [Prod.mk.injEq] at done
    obtain ⟨rfl, rfl⟩ := done
    simp only [Buffer.toBytes_append, Buffer.toBytes_empty, List.nil_append] at bytes
    rw [← encode_traceBlock_single] at bytes
    obtain ⟨blobs, cache⟩ := keeps_foldl_tagFrame state trace.frames
    dsimp only
    rewrite [keep_eq, Buffer.copy, bytes, blobs, cache]
    rfl
  · rw [if_neg few, if_neg few]

/-- Serializing is refused, or it adds the block of the trace and caches it; caching may fail. -/
theorem serialize_cases (keepsCopy : Retention) (state : Resolution) (trace : Trace) :
    (∃ cause, state.serialize keepsCopy trace = (state, .error cause)) ∨
      ∃ after result, state.serialize keepsCopy trace = (after, result) ∧
        trace.frames.length < countLimit ∧
        after.blobs = (state.blobs.add .stackTrace (traceBlock [trace]).encode).2 ∧
        ((∃ cause, result = .error cause ∧ after.cache = state.cache) ∨
          result = .ok (state.blobs.add .stackTrace (traceBlock [trace]).encode).1 ∧
            state.cache.put trace.key (state.blobs.add .stackTrace (traceBlock [trace]).encode).1 =
              (after.cache, .ok ())) := by
  rw [serialize_eq]
  by_cases few : trace.frames.length < countLimit
  · refine .inr ?_
    rw [if_pos few]
    dsimp only
    cases put : state.cache.put trace.key
        (state.blobs.add .stackTrace (traceBlock [trace]).encode).1 with
    | mk cache result =>
        cases result with
        | error cause =>
            exact ⟨_, _, rfl, few, rfl, .inl ⟨cause, rfl, BlobCache.put_refused put⟩⟩
        | ok => exact ⟨_, _, rfl, few, rfl, .inr ⟨rfl, rfl⟩⟩
  · rw [if_neg few]
    exact .inl ⟨_, rfl⟩

theorem grown_serialize (keepsCopy : Retention) (state : Resolution) (trace : Trace) :
    state.blobs.Grown (state.serialize keepsCopy trace).1.blobs := by
  rcases serialize_cases keepsCopy state trace with
    ⟨cause, refused⟩ | ⟨after, result, done, few, blobs, -⟩
  · rw [refused]
    exact BlobStore.Grown.refl _
  · rw [done, blobs]
    exact BlobStore.grown_add state.blobs few

/-- A relation that covers every step of a resolution: counting, counting an eligible sample, and
serializing a trace. -/
structure Covers (R : Resolution → Resolution → Prop) : Prop where
  trans : ∀ {before mid after}, R before mid → R mid after → R before after
  counted : ∀ state stats, R state { state with stats }
  eligible : ∀ state object, R state (state.countEligible object)
  serialize : ∀ keepsCopy state trace, R state (state.serialize keepsCopy trace).1

/-! It covers what is made of them, whatever comes of it. -/

namespace Covers

variable {R : Resolution → Resolution → Prop} (covers : Covers R) (host : Host σ ρ) (traces : ρ)
include covers

theorem refl (state : Resolution) : R state state := covers.counted state state.stats

theorem blobFor (state : Resolution) (key : TraceKey) :
    R state (state.blobFor host traces key).1 := by
  rw [Resolution.blobFor]
  split
  · exact covers.refl state
  · exact covers.counted state _
  · split
    · exact covers.refl state
    · split
      · exact covers.serialize host.keepsCopy state _
      · exact covers.refl state

theorem resolve (state : Resolution) (sample : Sample) :
    R state (state.resolve host traces sample).1 := by
  rw [Resolution.resolve]
  cases sample.object with
  | none => exact covers.refl state
  | some object =>
      have eligible := covers.eligible state object
      dsimp only
      split
      · split
        · exact covers.trans eligible (covers.counted _ _)
        · have found := covers.trans eligible (covers.blobFor host traces _ sample.key)
          cases looked : Resolution.blobFor host traces (state.countEligible object) sample.key with
          | mk after result =>
              rw [looked] at found
              cases result <;> exact found
      · exact covers.refl state

theorem resolveAll (done samples : List Sample) (state : Resolution) :
    R state (Resolution.resolveAll host traces done samples state).1 := by
  induction samples generalizing done state with
  | nil => exact covers.refl state
  | cons sample rest ih =>
      have first := covers.resolve host traces state sample
      rw [Resolution.resolveAll]
      cases one : Resolution.resolve host traces state sample with
      | mk after result =>
          rw [one] at first
          cases result with
          | error cause => exact first
          | ok resolved => exact covers.trans first (ih (resolved :: done) after)

end Covers

/-- A resolution only adds blobs. -/
theorem covers_grown : Covers fun before after => before.blobs.Grown after.blobs where
  trans := BlobStore.Grown.trans
  counted state _ := BlobStore.Grown.refl state.blobs
  eligible state _ := BlobStore.Grown.refl state.blobs
  serialize := grown_serialize

end Resolution

namespace Profiler

variable {σ ρ : Type}

/-! ## A rotation -/

theorem grown_resolveFresh (host : Host σ ρ) (profiler : Profiler σ ρ) :
    profiler.blobs.Grown (resolveFresh host profiler).1.blobs := by
  rw [resolveFresh]
  dsimp only
  cases made : Resolution.ofOptions profiler.options profiler.blobs
      profiler.runtime.enterVm.lock with
  | error cause => exact BlobStore.Grown.refl _
  | ok state =>
      rw [← (Resolution.ofOptions_ok made).1]
      exact Resolution.covers_grown.resolveAll host profiler.traces []
        profiler.sampler.unresolved state

/-- Resolving reaches neither the sink nor the traces. -/
theorem keeps_resolveFresh (host : Host σ ρ) (profiler : Profiler σ ρ) :
    (resolveFresh host profiler).1.sink = profiler.sink ∧
      (resolveFresh host profiler).1.traces = profiler.traces := by
  rw [resolveFresh]
  dsimp only
  cases Resolution.ofOptions profiler.options profiler.blobs profiler.runtime.enterVm.lock <;>
    exact ⟨rfl, rfl⟩

end Profiler

end LeakRecorder
