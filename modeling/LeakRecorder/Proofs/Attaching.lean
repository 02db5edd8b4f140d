/-
# LeakRecorder.Proofs.Attaching — which blob a resolution attaches

A resolution attaches to a sample a blob that was built since it began from a
trace that the source has answered for exactly the sample's key (`Built`). Some of
these blobs come out of the cache, so the cache is part of what carries the proof:
it never answers a key with a blob that was built for another one, however the
keys share their buckets (`Table.lookup_insert`, `Resolution.Sound`).

What a rotation does to the samples follows for every outcome (`Profiler.Turned`):
the unresolved ones come back in their places, each as it was or with such a blob
in a slot that was empty. When the rotation succeeds, none of the live ones that
know their traces is left without a blob (`Profiler.turned_rotate`).
-/
import LeakRecorder.Proofs.Resolving

set_option autoImplicit false

namespace LeakRecorder

/-! ## What the cache answers -/

namespace Table

variable {κ α : Type}

/-- A new entry answers the keys that match it, unless an earlier entry does. -/
theorem lookup_insert (table : Table κ α) (key other : κ) (value : α) :
    (table.insert key value).lookup other =
      (table.lookup other).or
        (if table.matchesKey other ⟨table.keying.hash key, key, value⟩ then some value
        else none) := by
  have bucket : (table.insert key value).lookup other =
      ((if table.bucketIndex (table.keying.hash key) =
            table.bucketIndex (table.keying.hash other) then
          table.buckets[table.bucketIndex (table.keying.hash other)] ++
            [⟨table.keying.hash key, key, value⟩]
        else table.buckets[table.bucketIndex (table.keying.hash other)]).find?
          (table.matchesKey other)).map (·.value) := by
    simp only [lookup, insert, bucketIndex, Fin.getElem_fin, Array.getElem_modify,
      Array.size_modify, Fin.mk.injEq]
    rfl
  rw [bucket]
  by_cases here : table.bucketIndex (table.keying.hash key) =
      table.bucketIndex (table.keying.hash other)
  · rw [if_pos here, List.find?_append, lookup]
    cases table.buckets[table.bucketIndex (table.keying.hash other)].find?
        (table.matchesKey other) with
    | some entry => rfl
    | none =>
        cases matched : table.matchesKey other ⟨table.keying.hash key, key, value⟩ <;>
          simp [matched]
  · -- The entry went into another bucket, so its hash is another one.
    have hashes : table.keying.hash key ≠ table.keying.hash other := by
      intro same
      exact here (congrArg table.bucketIndex same)
    have apart : table.matchesKey other ⟨table.keying.hash key, key, value⟩ = false := by
      simp [matchesKey, hashes]
    rw [if_neg here, apart, if_neg Bool.false_ne_true, Option.or_none]
    rfl

end Table

namespace BlobCache

variable {cache after : BlobCache} {key : TraceKey} {blob : BlobId}

/-- A new cache answers nothing. -/
theorem of_withBuckets {count : UInt64} (made : withBuckets count = .ok cache) :
    cache.table.keying = TraceKey.keying ∧ ∀ key, cache.table.lookup key = none := by
  obtain ⟨table, built, rfl⟩ : ∃ table, Table.withBuckets TraceKey.keying count = .ok table ∧
      cache = ⟨table⟩ := by
    cases built : (Table.withBuckets TraceKey.keying count : Except Failure (Table _ BlobId)) with
    | error cause =>
        rw [withBuckets, built] at made
        cases made
    | ok table =>
        rw [withBuckets, built] at made
        cases made
        exact ⟨table, rfl, rfl⟩
  rw [Table.withBuckets] at built
  cases room : reserve count with
  | error cause =>
      rw [room] at built
      cases built
  | ok _ =>
      rw [room] at built
      cases built
      refine ⟨rfl, fun key => ?_⟩
      simp [Table.lookup]

theorem named_ok {named : TraceKey} (done : BlobCache.named key = .ok named) : named = key := by
  rw [BlobCache.named] at done
  split at done
  · cases done
  · cases done
    rfl

theorem get_ok {found : Option BlobId} (answered : cache.get key = .ok found) :
    cache.table.lookup key = found := by
  rw [get] at answered
  cases known : named key with
  | error cause =>
      rw [known] at answered
      cases answered
  | ok same =>
      rw [known] at answered
      cases answered
      rw [named_ok known]

/-- A blob that was put under a key is found under this key and under no other. -/
theorem put_ok (keyed : cache.table.keying = TraceKey.keying)
    (done : cache.put key blob = (after, .ok ())) :
    after.table.keying = TraceKey.keying ∧
      ∀ other, after.table.lookup other =
        if other = key then some blob else cache.table.lookup other := by
  rw [put] at done
  cases known : named key with
  | error cause =>
      rw [known] at done
      cases done
  | ok same =>
      rw [known, named_ok known] at done
      dsimp only at done
      split at done
      · cases done
      next free =>
        cases done
        refine ⟨keyed, fun other => ?_⟩
        have matched : cache.table.matchesKey other ⟨cache.table.keying.hash key, key, blob⟩ =
            decide (other = key) := by
          rw [Table.matchesKey, keyed, Bool.eq_iff_iff, decide_eq_true_iff]
          cases other with | mk hash id
          cases key with | mk hash' id'
          simp only [TraceKey.keying, Bool.and_eq_true, beq_iff_eq, TraceKey.mk.injEq]
          exact and_congr_left' eq_comm
        rw [Table.lookup_insert, matched]
        by_cases same : other = key
        · subst same
          have empty : cache.table.lookup other = none := by simpa using free
          simp [empty]
        · simp [same]

end BlobCache

/-! ## One sample -/

namespace Resolution

variable {σ ρ : Type}

/-- A blob that is the block of a trace that the source has answered for a key, built since a
store was as it was. -/
structure Built (host : Host σ ρ) (traces : ρ) (old new : BlobStore) (key : TraceKey)
    (blob : BlobId) (trace : Trace) : Prop where
  found : host.source.lookup traces key = some trace
  key : trace.key = key
  few : trace.frames.length < countLimit
  absent : old.get? blob = none
  present : new.get? blob =
    some { kind := .stackTrace, bytes := (traceBlock [trace]).encode, written := false }

/-- What a resolution leaves of a sample: the sample as it was, or with a blob of its trace. -/
inductive Attaches (host : Host σ ρ) (traces : ρ) (old new : BlobStore) (sample : Sample) :
    Sample → Prop
  | same : Attaches host traces old new sample sample
  | attached {blob : BlobId} {trace : Trace} (empty : sample.stackTrace = none)
      (built : Built host traces old new sample.key blob trace) :
      Attaches host traces old new sample { sample with stackTrace := some blob }

/-- The states of a resolution that began with the blobs of `old`. -/
structure Sound (host : Host σ ρ) (traces : ρ) (old : BlobStore) (state : Resolution) : Prop where
  keying : state.cache.table.keying = TraceKey.keying
  grown : old.Grown state.blobs
  cached : ∀ key blob, state.cache.table.lookup key = some blob →
    ∃ trace, Built host traces old state.blobs key blob trace

/-- A live sample that knows its trace has a blob of it. -/
def Settled (sample : Sample) : Prop :=
  sample.object.isSome = true → sample.hasTrace = true → sample.stackTrace.isSome = true

section OneSample

variable {host : Host σ ρ} {traces : ρ} {old new newer : BlobStore} {state after : Resolution}

theorem Built.mono {key : TraceKey} {blob : BlobId} {trace : Trace}
    (built : Built host traces old new key blob trace) (grown : new.Grown newer) :
    Built host traces old newer key blob trace :=
  { built with present := grown.kept blob _ built.present }

theorem Attaches.mono {sample left : Sample} (attaches : Attaches host traces old new sample left)
    (grown : new.Grown newer) : Attaches host traces old newer sample left := by
  cases attaches with
  | same => exact .same
  | attached empty built => exact .attached empty (built.mono grown)

/-- A blob that a later store does not have yet was not there before either. -/
theorem Attaches.since {older : BlobStore} {sample left : Sample}
    (attaches : Attaches host traces old new sample left)
    (absent : ∀ blob, old.get? blob = none → older.get? blob = none) :
    Attaches host traces older new sample left := by
  cases attaches with
  | same => exact .same
  | attached empty built => exact .attached empty { built with absent := absent _ built.absent }

theorem sound_ofOptions {options : Options} {runtime : Runtime}
    (made : ofOptions options old runtime = .ok state) : Sound host traces old state := by
  obtain ⟨blobs, cache, -⟩ := ofOptions_ok made
  refine ⟨(BlobCache.of_withBuckets cache).1, ?_, ?_⟩
  · rw [blobs]
    exact BlobStore.Grown.refl old
  · intro key blob hit
    rw [(BlobCache.of_withBuckets cache).2] at hit
    cases hit

/-- Serializing a trace that the source has answered gives a blob that was built for it. -/
theorem sound_serialize {key : TraceKey} {trace : Trace} {result : Except Failure BlobId}
    (sound : Sound host traces old state)
    (found : host.source.lookup traces key = some trace) (same : trace.key = key)
    (done : state.serialize host.keepsCopy trace = (after, result)) :
    Sound host traces old after ∧
      ∀ blob, result = .ok blob → ∃ trace, Built host traces old after.blobs key blob trace := by
  rcases serialize_cases host.keepsCopy state trace with
    ⟨cause, refused⟩ | ⟨next, answer, serialized, few, blobs, cached⟩
  · rw [refused] at done
    cases done
    exact ⟨sound, by simp⟩
  · rw [serialized] at done
    cases done
    have grown : state.blobs.Grown after.blobs := by
      rw [blobs]
      exact BlobStore.grown_add state.blobs few
    have built : Built host traces old after.blobs key
        (state.blobs.add .stackTrace (traceBlock [trace]).encode).1 trace := by
      refine ⟨found, same, few, ?_, ?_⟩
      · refine Option.eq_none_iff_forall_ne_some.mpr fun blob present => ?_
        have stale := sound.grown.kept _ blob present
        rw [BlobStore.get?_next] at stale
        cases stale
      · rw [blobs, BlobStore.get?_add_self]
    have older : ∀ other blob, state.cache.table.lookup other = some blob →
        ∃ trace, Built host traces old after.blobs other blob trace := by
      intro other blob hit
      obtain ⟨trace, before⟩ := sound.cached other blob hit
      exact ⟨trace, before.mono grown⟩
    rcases cached with ⟨cause, rfl, cache⟩ | ⟨rfl, put⟩
    · refine ⟨⟨?_, sound.grown.trans grown, ?_⟩, by simp⟩
      · rw [cache]
        exact sound.keying
      · rw [cache]
        exact older
    · obtain ⟨keying, lookups⟩ := BlobCache.put_ok sound.keying put
      refine ⟨⟨keying, sound.grown.trans grown, ?_⟩, ?_⟩
      · intro other blob hit
        rw [lookups, same] at hit
        split at hit
        next here =>
          cases hit
          rw [here]
          exact ⟨trace, built⟩
        next => exact older other blob hit
      · intro blob answer
        cases answer
        exact ⟨trace, built⟩

/-- A blob for a key, out of the cache or serialized, was built for it. -/
theorem sound_blobFor {key : TraceKey} {result : Except Failure BlobId}
    (sound : Sound host traces old state)
    (done : state.blobFor host traces key = (after, result)) :
    Sound host traces old after ∧
      ∀ blob, result = .ok blob → ∃ trace, Built host traces old after.blobs key blob trace := by
  rw [blobFor] at done
  split at done
  · cases done
    exact ⟨sound, by simp⟩
  next cached hit =>
    cases done
    refine ⟨⟨sound.keying, sound.grown, sound.cached⟩, ?_⟩
    rintro blob ⟨⟩
    exact sound.cached key cached (BlobCache.get_ok hit)
  · split at done
    · cases done
      exact ⟨sound, by simp⟩
    next trace found =>
      split at done
      next same => exact sound_serialize sound found same done
      · cases done
        exact ⟨sound, by simp⟩

theorem sound_resolve {sample : Sample} {result : Except Failure Sample}
    (sound : Sound host traces old state)
    (done : state.resolve host traces sample = (after, result)) :
    Sound host traces old after ∧
      ∀ left, result = .ok left →
        Attaches host traces old after.blobs sample left ∧ Settled left := by
  rw [resolve] at done
  cases object : sample.object with
  | none =>
      rw [object] at done
      cases done
      refine ⟨sound, ?_⟩
      rintro left ⟨⟩
      exact ⟨.same, by simp [Settled, object]⟩
  | some live =>
      rw [object] at done
      dsimp only at done
      have eligible : Sound host traces old (state.countEligible live) :=
        ⟨sound.keying, sound.grown, sound.cached⟩
      split at done
      next traced =>
        split at done
        next carried =>
          cases done
          refine ⟨⟨sound.keying, sound.grown, sound.cached⟩, ?_⟩
          rintro left ⟨⟩
          exact ⟨.same, fun _ _ => carried⟩
        next bare =>
          have empty : sample.stackTrace = none := by simpa using bare
          split at done
          next next blob answered =>
            cases done
            obtain ⟨sound', built⟩ := sound_blobFor eligible answered
            obtain ⟨trace, built⟩ := built blob rfl
            refine ⟨sound', ?_⟩
            rintro left ⟨⟩
            rw [Sample.attach_stackTrace empty]
            exact ⟨.attached empty built, fun _ _ => rfl⟩
          next next cause answered =>
            cases done
            exact ⟨(sound_blobFor eligible answered).1, by simp⟩
      next untraced =>
        cases done
        refine ⟨sound, ?_⟩
        rintro left ⟨⟩
        exact ⟨.same, fun _ traced => absurd traced untraced⟩

/-! ## All samples -/

/-- The samples come back in their places; those behind a failure as they were. -/
theorem attaches_resolveAll {samples left before front : List Sample}
    {result : Except Failure Unit} (sound : Sound host traces old state)
    (soFar : List.Forall₂ (Attaches host traces old state.blobs) before left)
    (done : resolveAll host traces left samples state = (after, front, result)) :
    List.Forall₂ (Attaches host traces old after.blobs) (before.reverse ++ samples) front ∧
      ((∀ sample ∈ left, Settled sample) → result = .ok () → ∀ sample ∈ front, Settled sample) := by
  induction samples generalizing left before state with
  | nil =>
      rw [resolveAll] at done
      cases done
      rw [List.append_nil]
      refine ⟨List.forall₂_reverse_iff.mpr soFar, ?_⟩
      intro settled _ sample member
      exact settled sample (List.mem_reverse.mp member)
  | cons sample rest ih =>
      rw [resolveAll] at done
      have grown := covers_grown.resolve host traces state sample
      cases one : state.resolve host traces sample with
      | mk next answer =>
          obtain ⟨sound', outcome⟩ := sound_resolve sound one
          rw [one] at done grown
          cases answer with
          | error cause =>
              cases done
              rw [List.reverseAux_eq]
              refine ⟨?_, by simp⟩
              have kept : List.Forall₂ (Attaches host traces old after.blobs) before left :=
                soFar.imp fun _ _ attaches => attaches.mono grown
              exact List.rel_append (List.forall₂_reverse_iff.mpr kept)
                (List.forall₂_same.mpr fun _ _ => .same)
          | ok resolved =>
              obtain ⟨attaches, settled⟩ := outcome resolved rfl
              have kept : List.Forall₂ (Attaches host traces old next.blobs) before left :=
                soFar.imp fun _ _ attaches => attaches.mono grown
              obtain ⟨all, settles⟩ := ih sound' (.cons attaches kept) done
              rw [List.reverse_cons, List.append_assoc] at all
              refine ⟨all, fun soFar success => ?_⟩
              exact settles (List.forall_mem_cons.mpr ⟨settled, soFar⟩) success

end OneSample

end Resolution

/-! ## A rotation -/

namespace Profiler

variable {σ ρ : Type} {host : Host σ ρ} {before after : Profiler σ ρ}

/-- What a rotation has done to samples and blobs, whether it succeeded or not. -/
structure Turned (host : Host σ ρ) (before after : Profiler σ ρ) (front : List Sample) :
    Prop where
  blobs : before.blobs.Keeps after.blobs
  built : before.blobs.Adds OneTrace after.blobs
  traces : after.traces = before.traces ∨ after.traces = host.source.clear before.traces
  sampler : after.sampler = before.sampler.replaceFront front
  front : List.Forall₂ (Resolution.Attaches host before.traces before.blobs after.blobs)
    before.sampler.unresolved front

/-- A step that leaves samples, blobs and traces alone. -/
theorem Turned.of_same (linked : before.sampler.Linked) (blobs : after.blobs = before.blobs)
    (traces : after.traces = before.traces) (sampler : after.sampler = before.sampler) :
    Turned host before after before.sampler.unresolved where
  blobs := by
    rw [blobs]
    exact .refl before.blobs
  built := BlobStore.adds_of_same _ blobs
  traces := .inl traces
  sampler := by rw [linked.replaceFront_unresolved, sampler]
  front := List.forall₂_same.mpr fun _ _ => .same

theorem turned_resolveFresh {result : Except Failure ResolveStats}
    (linked : before.sampler.Linked) (done : resolveFresh host before = (after, result)) :
    ∃ front, Turned host before after front ∧
      ∀ stats, result = .ok stats → ∀ sample ∈ front, Resolution.Settled sample := by
  have grown := grown_resolveFresh host before
  have traces := (keeps_resolveFresh host before).2
  rw [done] at grown traces
  rw [resolveFresh] at done
  dsimp only at done
  split at done
  · cases done
    exact ⟨_, Turned.of_same linked rfl rfl rfl, by simp⟩
  next state made =>
    cases all : Resolution.resolveAll host before.traces [] before.sampler.unresolved state with
    | mk next others =>
        obtain ⟨front, outcome⟩ := others
        obtain ⟨attached, settled⟩ := Resolution.attaches_resolveAll
          (Resolution.sound_ofOptions made) List.Forall₂.nil all
        rw [all] at done
        cases done
        refine ⟨front, ⟨grown.keeps, grown.adds, .inl traces, rfl, attached⟩, ?_⟩
        intro stats success
        cases outcome with
        | error cause => cases success
        | ok _ => exact settled (by simp) rfl

/-- Making blobs due again changes no kind and no bytes. -/
theorem Turned.of_reset (samples : List Sample) {front : List Sample}
    (later : Turned host { before with blobs := resetBlobs before.blobs samples } after front) :
    Turned host before after front where
  blobs := (BlobStore.keeps_resetBlobs before.blobs samples).trans later.blobs
  built := by
    refine fun id blob absent => later.built id blob ?_
    rw [BlobStore.get?_resetBlobs, absent]
    rfl
  traces := later.traces
  sampler := later.sampler
  front := by
    refine later.front.imp fun _ _ attaches => attaches.since fun id none => ?_
    rw [BlobStore.get?_resetBlobs] at none
    exact Option.map_eq_none_iff.mp none

/-- What a rotation does, whatever comes of it; a successful one settles the samples. -/
theorem turned_rotate {result : Except Failure RotationStats} (linked : before.sampler.Linked)
    (done : rotate host before = (after, result)) :
    ∃ front, Turned host before after front ∧
      ∀ stats, result = .ok stats → ∀ sample ∈ front, Resolution.Settled sample := by
  rw [rotate] at done
  split at done
  · cases done
    exact ⟨_, Turned.of_same linked rfl rfl rfl, by simp⟩
  split at done
  · cases done
    exact ⟨_, Turned.of_same linked rfl rfl rfl, by simp⟩
  dsimp only at done
  split at done
  · have same := (keeps_resolveFresh host
      { before with blobs := resetBlobs before.blobs before.sampler.resolved }).2
    generalize fresh : resolveFresh host _ = resolved at done same
    obtain ⟨next, answer⟩ := resolved
    obtain ⟨front, later, settled⟩ := turned_resolveFresh (by exact linked) fresh
    cases answer with
    | error cause =>
        cases done
        exact ⟨front, later.of_reset _, by simp⟩
    | ok stats =>
        cases done
        refine ⟨front, Turned.of_reset before.sampler.resolved ?_, fun _ _ => settled stats rfl⟩
        exact ⟨later.blobs, later.built, .inr (congrArg host.source.clear same), later.sampler,
          later.front⟩
  next none =>
    cases done
    refine ⟨before.sampler.unresolved,
      Turned.of_reset before.sampler.resolved (Turned.of_same linked rfl rfl rfl), ?_⟩
    have empty := linked.unresolved_eq_nil (by simpa using none)
    simp [empty]

theorem turned_rotateChunk {result : Except Failure RotationStats}
    (linked : before.sampler.Linked) (done : rotateChunk host before = (after, result)) :
    ∃ front, Turned host before after front := by
  rw [rotateChunk] at done
  split at done
  · cases done
    exact ⟨_, Turned.of_same linked rfl rfl rfl⟩
  next sink opened =>
    have moved : ({ before with sink } : Profiler σ ρ).sampler.Linked := linked
    obtain ⟨front, turned, -⟩ := turned_rotate moved done
    exact ⟨front, turned.blobs, turned.built, turned.traces, turned.sampler, turned.front⟩

theorem turned_rotateIfNeeded (host : Host σ ρ) (linked : before.sampler.Linked) :
    ∃ front, Turned host before (rotateIfNeeded host before).1 front := by
  rw [rotateIfNeeded]
  split
  · exact turned_rotateChunk linked (Eq.refl (before.rotateChunk host))
  · exact ⟨_, Turned.of_same linked rfl rfl rfl⟩

end Profiler

end LeakRecorder
