/-
# LeakRecorder.Proofs.Operations — a profiler driven on through failures

An `Operation` is a pass of the profiler or what happens between the passes: samples
are taken and die, traces are recorded, threads exit, the world stops and runs. An
operation that fails leaves what it has done so far, and the next one starts from
there (`drive`). The traces are in the keeping of any source, and what the capture
side does to them is any change (`Operation.capture`).

`Operation.evolved` says once what an operation can do to samples, blobs and traces,
whatever comes of it: it takes at most one sample, in front of the others; it
keeps the others in their places, with their keys, and changes the stack trace of
one only by attaching a blob that it has built for it; it moves the boundary only
as a type-set pass does; it changes no blob but for its flag, and the bytes of a new
one were handed in or are the block of one trace; and it changes the traces only as
the capture side does, or clears them. So a blob that a sample carries stays
(`drive_carries`), and some operation of the run has built it for this sample
(`drive_built`).
-/
import LeakRecorder.Profiler.Marking
import LeakRecorder.Profiler.TypeSet
import LeakRecorder.Proofs.Attaching
import LeakRecorder.Proofs.WritePass

set_option autoImplicit false

namespace LeakRecorder

variable {σ ρ : Type}

/-- What can be done with a profiler over traces with states in `ρ`. -/
inductive Operation (ρ : Type) where
  | start
  | stop
  | setOptions (options : Options)
  | push (draft : Sample.Draft)
  | clearObject (id : SampleId)
  | sweep (time : Int64)
  /-- The capture side records traces, or drops some, or notes that it has written one. -/
  | capture (change : ρ → ρ)
  | threadExit (tid : TraceId)
  | clearExits
  | beginSafepoint
  | endSafepoint
  | unloadClass (id : ClassId)
  | addBlob (kind : BlobKind) (bytes : Bytes)
  | installTypeSet (typeSet : Option BlobId)
  | rotate
  | rotateChunk
  | rotateIfNeeded
  | write (chains : ReferenceChains) (emitAll : Bool)
  /-- Hands over objects and leaves the profiler as it is. -/
  | mark (emitAll : Bool)
  | flush

namespace Operation

/-- What an operation leaves, and whether it has succeeded. -/
def step (host : Host σ ρ) (operation : Operation ρ) (profiler : Profiler σ ρ) :
    Profiler σ ρ × Except Failure Unit :=
  let done {α : Type} (outcome : Profiler σ ρ × Except Failure α) :
      Profiler σ ρ × Except Failure Unit := (outcome.1, outcome.2.map fun _ => ())
  let sampler := profiler.sampler
  let runtime := profiler.runtime
  match operation with
  | .start => (profiler.start, .ok ())
  | .stop => (profiler.stop, .ok ())
  | .setOptions options => (profiler.setOptions options, .ok ())
  | .push draft => ({ profiler with sampler := (sampler.push draft).2 }, .ok ())
  | .clearObject id =>
      ({ profiler with sampler := sampler.modify id Sample.clearObject }, .ok ())
  | .sweep time => ({ profiler with sampler := sampler.setLastSweep time }, .ok ())
  | .capture change => ({ profiler with traces := change profiler.traces }, .ok ())
  | .threadExit tid => profiler.threadExit tid
  | .clearExits => profiler.clearExits
  | .beginSafepoint => ({ profiler with runtime := runtime.beginSafepoint }, .ok ())
  | .endSafepoint =>
      ({ profiler with runtime := runtime.endSafepoint?.getD runtime }, .ok ())
  | .unloadClass id => ({ profiler with runtime := runtime.unloadClass id }, .ok ())
  | .addBlob kind bytes => ((profiler.addBlob kind bytes).2, .ok ())
  | .installTypeSet typeSet => done (profiler.installTypeSet typeSet)
  | .rotate => done (profiler.rotate host)
  | .rotateChunk => done (profiler.rotateChunk host)
  | .rotateIfNeeded => done (profiler.rotateIfNeeded host)
  | .write chains emitAll => done (profiler.write host chains emitAll)
  | .mark emitAll => done (profiler, .ok (profiler.mark emitAll))
  | .flush => profiler.flush host

/-- The sample that the operation takes. -/
def taken : Operation ρ → Profiler σ ρ → List Sample
  | .push draft, profiler => [.ofDraft ⟨profiler.sampler.births⟩ draft]
  | _, _ => []

/-- How the bytes of a new blob come about: they are handed in, or they are made of a trace. -/
def Makes (operation : Operation ρ) (bytes : Bytes) : Prop :=
  (∃ kind, operation = .addBlob kind bytes) ∨ OneTrace bytes

/-- The operation moves the boundary up to the newest sample. -/
def advances : Operation ρ → Profiler σ ρ → Bool
  | .installTypeSet _, profiler => profiler.running && profiler.sampler.hasUnresolved
  | _, _ => false

end Operation

/-! ## One operation -/

/-- What an operation leaves of a sample. A stack trace changes only from none to a blob that was
built for the sample, and only while the sample is unresolved and the boundary stays. -/
structure Ages (host : Host σ ρ) (before after : Profiler σ ρ) (old new : Sample) : Prop where
  id : new.id = old.id
  key : new.key = old.key
  stackTrace : new.stackTrace = old.stackTrace ∨
    old ∈ before.sampler.unresolved ∧ after.sampler.boundary = before.sampler.boundary ∧
      old.stackTrace = none ∧ ∃ blob trace, new.stackTrace = some blob ∧
        Resolution.Built host before.traces before.blobs after.blobs old.key blob trace

/-- What an operation has done to samples, blobs and traces. -/
structure Evolved (host : Host σ ρ) (operation : Operation ρ) (before after : Profiler σ ρ) :
    Prop where
  linked : after.sampler.Linked
  births : after.sampler.births = before.sampler.births + (operation.taken before).length
  size : after.sampler.size = before.sampler.size + (operation.taken before).length
  boundary : after.sampler.boundary =
    if operation.advances before then before.sampler.newest? else before.sampler.boundary
  samples : ∃ aged, after.sampler.samples = operation.taken before ++ aged ∧
    List.Forall₂ (Ages host before after) before.sampler.samples aged
  blobs : before.blobs.Keeps after.blobs
  made : before.blobs.Adds operation.Makes after.blobs
  traces : after.traces = before.traces ∨ after.traces = host.source.clear before.traces ∨
    ∃ change, operation = .capture change ∧ after.traces = change before.traces

section Evolved

variable {host : Host σ ρ} {operation : Operation ρ} {before after : Profiler σ ρ}

theorem Ages.refl (sample : Sample) : Ages host before after sample sample :=
  ⟨rfl, rfl, .inl rfl⟩

theorem ages_same (samples : List Sample) :
    List.Forall₂ (Ages host before after) samples samples :=
  List.forall₂_same.mpr fun sample _ => Ages.refl sample

/-- An operation that reaches no sample. -/
theorem evolved_of_sampler (linked : before.sampler.Linked)
    (taken : operation.taken before = []) (stays : operation.advances before = false)
    (sampler : after.sampler = before.sampler) (blobs : before.blobs.Keeps after.blobs)
    (made : before.blobs.Adds operation.Makes after.blobs)
    (traces : after.traces = before.traces) : Evolved host operation before after where
  linked := by
    rw [sampler]
    exact linked
  births := by rw [sampler, taken]; rfl
  size := by rw [sampler, taken]; rfl
  boundary := by rw [sampler, stays]; rfl
  samples := by
    rw [sampler, taken]
    exact ⟨_, rfl, ages_same _⟩
  blobs := blobs
  made := made
  traces := .inl traces

/-- An operation that reaches neither samples nor blobs nor traces. -/
theorem evolved_aside (linked : before.sampler.Linked)
    (taken : operation.taken before = []) (stays : operation.advances before = false)
    (sampler : after.sampler = before.sampler) (blobs : after.blobs = before.blobs)
    (traces : after.traces = before.traces) : Evolved host operation before after := by
  refine evolved_of_sampler linked taken stays sampler ?_ (BlobStore.adds_of_same _ blobs) traces
  rw [blobs]
  exact .refl before.blobs

theorem Ages.of_attaches {old new : Sample} (member : old ∈ before.sampler.unresolved)
    (stays : after.sampler.boundary = before.sampler.boundary)
    (attaches : Resolution.Attaches host before.traces before.blobs after.blobs old new) :
    Ages host before after old new := by
  cases attaches with
  | same => exact .refl old
  | @attached blob trace empty built =>
      exact ⟨rfl, rfl, .inr ⟨member, stays, empty, blob, trace, rfl, built⟩⟩

theorem evolved_of_turned {front : List Sample} (linked : before.sampler.Linked)
    (taken : operation.taken before = []) (stays : operation.advances before = false)
    (turned : Profiler.Turned host before after front) :
    Evolved host operation before after := by
  have kept : after.sampler.boundary = before.sampler.boundary := by
    rw [turned.sampler]
    rfl
  have aged : List.Forall₂ (Ages host before after) before.sampler.unresolved front :=
    ((List.forall₂_and_left _ _).mpr ⟨fun _ member => member, turned.front⟩).imp
      fun _ _ both => .of_attaches both.1 kept both.2
  have ids := Sampler.ids_of_forall₂ aged fun _ _ ages => ages.id
  constructor
  · rw [turned.sampler]
    exact linked.replaceFront ids
  · rw [turned.sampler, taken]
    rfl
  · rw [turned.sampler, taken]
    rfl
  · rw [kept, stays]
    rfl
  · rw [turned.sampler, taken]
    exact ⟨_, rfl, linked.forall₂_replaceFront Ages.refl aged⟩
  · exact turned.blobs
  · exact fun id blob absent present => .inr (turned.built id blob absent present)
  · exact turned.traces.imp_right .inl

theorem evolved_push (linked : before.sampler.Linked) (draft : Sample.Draft) :
    Evolved host (.push draft) before { before with sampler := (before.sampler.push draft).2 } where
  linked := linked.push draft
  births := rfl
  size := rfl
  boundary := rfl
  samples := ⟨_, rfl, ages_same _⟩
  blobs := .refl before.blobs
  made := BlobStore.adds_of_same _ rfl
  traces := .inl rfl

theorem evolved_clearObject (linked : before.sampler.Linked) (id : SampleId) :
    Evolved host (.clearObject id) before
      { before with sampler := before.sampler.modify id Sample.clearObject } where
  linked := linked.modify id fun _ => rfl
  births := rfl
  size := rfl
  boundary := rfl
  samples := by
    refine ⟨_, rfl, List.forall₂_map_right_iff.mpr (List.forall₂_same.mpr fun sample _ => ?_)⟩
    split
    · exact ⟨rfl, rfl, .inl rfl⟩
    · exact Ages.refl sample
  blobs := .refl before.blobs
  made := BlobStore.adds_of_same _ rfl
  traces := .inl rfl

theorem evolved_sweep (linked : before.sampler.Linked) (time : Int64) :
    Evolved host (.sweep time) before
      { before with sampler := before.sampler.setLastSweep time } where
  linked := linked.setLastSweep time
  births := rfl
  size := rfl
  boundary := rfl
  samples := ⟨_, rfl, ages_same _⟩
  blobs := .refl before.blobs
  made := BlobStore.adds_of_same _ rfl
  traces := .inl rfl

theorem evolved_capture (linked : before.sampler.Linked) (change : ρ → ρ) :
    Evolved host (.capture change) before { before with traces := change before.traces } where
  linked := linked
  births := rfl
  size := rfl
  boundary := rfl
  samples := ⟨_, rfl, ages_same _⟩
  blobs := .refl before.blobs
  made := BlobStore.adds_of_same _ rfl
  traces := .inr (.inr ⟨change, rfl, rfl⟩)

theorem evolved_installTypeSet (linked : before.sampler.Linked) (typeSet : Option BlobId) :
    Evolved host (.installTypeSet typeSet) before (before.installTypeSet typeSet).1 := by
  rw [Profiler.installTypeSet]
  split
  next stopped =>
    have stays : (Operation.installTypeSet typeSet : Operation ρ).advances before = false := by
      have running : before.running = false := by simpa using stopped
      rw [Operation.advances, running, Bool.false_and]
    exact evolved_aside linked rfl stays rfl rfl rfl
  next started =>
  split
  next none =>
    have stays : (Operation.installTypeSet typeSet : Operation ρ).advances before = false := by
      have empty : before.sampler.hasUnresolved = false := by simpa using none
      rw [Operation.advances, empty, Bool.and_false]
    exact evolved_aside linked rfl stays rfl rfl rfl
  next fresh =>
    have advances : (Operation.installTypeSet typeSet : Operation ρ).advances before = true := by
      rw [Operation.advances, Bool.and_eq_true]
      exact ⟨by simpa using started, by simpa using fresh⟩
    cases typeSet with
    | none =>
        refine ⟨linked.setBoundary _, rfl, rfl, ?_, ⟨_, rfl, ages_same _⟩, .refl _,
          BlobStore.adds_of_same _ rfl, .inl rfl⟩
        rw [advances]
        rfl
    | some blob =>
        have ids : (before.sampler.unresolved.map (·.attach .typeSet blob)).map (·.id) =
            before.sampler.unresolved.map (·.id) := by
          rw [List.map_map]
          exact List.map_congr_left fun sample _ => Sample.id_attach sample .typeSet blob
        refine ⟨(linked.replaceFront ids).setBoundary _, rfl, rfl, ?_, ⟨_, rfl, ?_⟩, .refl _,
          BlobStore.adds_of_same _ rfl, .inl rfl⟩
        · rw [advances]
          rfl
        · refine linked.forall₂_replaceFront Ages.refl (List.forall₂_map_right_iff.mpr ?_)
          exact List.forall₂_same.mpr fun sample _ => ⟨rfl, rfl, .inl rfl⟩

theorem evolved_write (linked : before.sampler.Linked) (chains : ReferenceChains)
    (emitAll : Bool) :
    Evolved host (.write chains emitAll) before (before.write host chains emitAll).1 := by
  have window : before.blobs.Keeps (before.afterWindow emitAll).blobs := by
    intro id blob present
    rw [Profiler.get?_afterWindow emitAll linked, present, Option.map_some]
    split
    · exact ⟨true, rfl⟩
    · exact ⟨blob.written, rfl⟩
  have made : before.blobs.Adds (@Operation.write ρ chains emitAll).Makes
      (before.afterWindow emitAll).blobs := by
    intro id blob absent present
    rw [Profiler.get?_afterWindow emitAll linked, absent] at present
    cases present
  rw [Profiler.write_eq]
  cases reserve before.options.passSetSize with
  | error cause => exact evolved_aside linked rfl rfl rfl rfl rfl
  | ok _ =>
      cases before.compose host chains emitAll with
      | error cause => exact evolved_of_sampler linked rfl rfl rfl window made rfl
      | ok composed => exact evolved_of_sampler linked rfl rfl rfl window made rfl

/-- Says what every operation does, whatever comes of it. -/
theorem Operation.evolved (host : Host σ ρ) (operation : Operation ρ)
    (linked : before.sampler.Linked) :
    Evolved host operation before (operation.step host before).1 := by
  cases operation with
  | push draft => exact evolved_push linked draft
  | clearObject id => exact evolved_clearObject linked id
  | sweep time => exact evolved_sweep linked time
  | capture change => exact evolved_capture linked change
  | threadExit tid =>
      obtain ⟨exited, same⟩ := before.threadExit_eq tid
      dsimp only [step]
      rw [same]
      exact evolved_aside linked rfl rfl rfl rfl rfl
  | addBlob kind bytes =>
      refine evolved_of_sampler linked rfl rfl rfl (BlobStore.keeps_add _ kind bytes) ?_ rfl
      intro id blob absent present
      rw [BlobStore.get?_add_new kind bytes absent present]
      exact .inl ⟨kind, rfl⟩
  | installTypeSet typeSet => exact evolved_installTypeSet linked typeSet
  | rotate =>
      obtain ⟨front, turned, -⟩ := Profiler.turned_rotate linked (Eq.refl (before.rotate host))
      exact evolved_of_turned linked rfl rfl turned
  | rotateChunk =>
      obtain ⟨front, turned⟩ :=
        Profiler.turned_rotateChunk linked (Eq.refl (before.rotateChunk host))
      exact evolved_of_turned linked rfl rfl turned
  | rotateIfNeeded =>
      obtain ⟨front, turned⟩ := Profiler.turned_rotateIfNeeded host linked
      exact evolved_of_turned linked rfl rfl turned
  | write chains emitAll => exact evolved_write linked chains emitAll
  | flush => exact evolved_aside linked rfl rfl rfl rfl rfl
  | _ => exact evolved_aside linked rfl rfl rfl rfl rfl

/-! ## What a step says about one sample -/

/-- In lists that agree item by item, each item of one has a partner in the other. -/
theorem exists_partner {α β : Type} {R : α → β → Prop} {xs : List α} {ys : List β}
    (each : List.Forall₂ R xs ys) {x : α} (member : x ∈ xs) : ∃ y ∈ ys, R x y := by
  induction each with
  | nil => cases member
  | cons head _ ih =>
      rcases List.mem_cons.mp member with rfl | later
      · exact ⟨_, List.mem_cons_self, head⟩
      · obtain ⟨y, inside, related⟩ := ih later
        exact ⟨y, List.mem_cons_of_mem _ inside, related⟩

namespace Evolved

theorem onward (evolved : Evolved host operation before after) {old : Sample}
    (member : old ∈ before.sampler.samples) :
    ∃ new ∈ after.sampler.samples, Ages host before after old new := by
  obtain ⟨aged, samples, each⟩ := evolved.samples
  obtain ⟨new, inside, ages⟩ := exists_partner each member
  rw [samples]
  exact ⟨new, List.mem_append_right _ inside, ages⟩

theorem all (evolved : Evolved host operation before after) {Holds : Bytes → Prop}
    (made : ∀ bytes, operation.Makes bytes → Holds bytes) (all : before.blobs.All Holds) :
    after.blobs.All Holds := by
  intro id blob present
  cases was : before.blobs.get? id with
  | none => exact made blob.bytes (evolved.made id blob was present)
  | some old =>
      obtain ⟨written, same⟩ := evolved.blobs id old was
      rw [present] at same
      cases same
      exact all id old was

/-- The counter goes on with the list. -/
theorem counted (evolved : Evolved host operation before after)
    (counted : before.sampler.Counted) : after.sampler.Counted := by
  obtain ⟨aged, samples, each⟩ := evolved.samples
  rw [Sampler.Counted, evolved.size, counted, samples, List.length_append, each.length_eq,
    Nat.add_comm]

theorem back (evolved : Evolved host operation before after) {new : Sample}
    (member : new ∈ after.sampler.samples) :
    new ∈ operation.taken before ∨
      ∃ old ∈ before.sampler.samples, Ages host before after old new := by
  obtain ⟨aged, samples, each⟩ := evolved.samples
  rw [samples] at member
  rcases List.mem_append.mp member with taken | inside
  · exact .inl taken
  · exact .inr (exists_partner each.flip inside)

end Evolved

theorem Ages.carries {old new : Sample} (ages : Ages host before after old new) {blob : BlobId}
    (carries : old.stackTrace = some blob) : new.stackTrace = some blob := by
  rcases ages.stackTrace with same | ⟨-, -, empty, -⟩
  · rw [same, carries]
  · rw [carries] at empty
    cases empty

/-- A sample that is taken has the next number, and nothing is attached to it yet. -/
theorem Operation.taken_new {new : Sample} (member : new ∈ operation.taken before) :
    new.id.birth = before.sampler.births ∧ new.stackTrace = none ∧ new.typeSet = none := by
  cases operation with
  | push draft =>
      rw [Operation.taken, List.mem_singleton] at member
      rw [member]
      exact ⟨rfl, rfl, rfl⟩
  | _ => cases member

/-! ## What a step says about the boundary -/

namespace Evolved

/-- The boundary marks a sample that was there before the operation. -/
theorem marks (evolved : Evolved host operation before after) (linked : before.sampler.Linked)
    (marked : before.sampler.Marked) {last : SampleId}
    (here : after.sampler.boundary = some last) :
    ∃ sample ∈ before.sampler.samples, sample.id = last := by
  rw [evolved.boundary] at here
  split at here
  · exact (linked.of_newest here).1
  · exact marked last here

theorem marked (evolved : Evolved host operation before after) (linked : before.sampler.Linked)
    (marked : before.sampler.Marked) : after.sampler.Marked := by
  intro last here
  obtain ⟨old, inside, same⟩ := evolved.marks linked marked here
  obtain ⟨new, inside, ages⟩ := evolved.onward inside
  exact ⟨new, inside, ages.id.trans same⟩

/-- A sample that is taken is newer than the boundary. -/
theorem fresh_taken (evolved : Evolved host operation before after)
    (linked : before.sampler.Linked) (marked : before.sampler.Marked) {new : Sample}
    (taken : new ∈ operation.taken before) : after.sampler.IsFresh new.id := by
  intro last here
  obtain ⟨sample, inside, rfl⟩ := evolved.marks linked marked here
  rw [(Operation.taken_new taken).1]
  exact linked.born sample inside

/-- An operation that moves the boundary leaves no older sample newer than it. -/
theorem stale_of_advances (evolved : Evolved host operation before after)
    (linked : before.sampler.Linked) (advances : operation.advances before = true) {old : Sample}
    (inside : old ∈ before.sampler.samples) : ¬ after.sampler.IsFresh old.id := by
  intro fresh
  have boundary := evolved.boundary
  rw [if_pos advances] at boundary
  cases newest : before.sampler.newest? with
  | none =>
      have empty : before.sampler.samples = [] := by simpa [Sampler.newest?] using newest
      rw [empty] at inside
      cases inside
  | some last =>
      have larger := fresh last (boundary.trans newest)
      have least := (linked.of_newest newest).2 old inside
      omega

/-- While the boundary stays, so do the samples that are newer. -/
theorem isFresh_of_stays (evolved : Evolved host operation before after)
    (stays : operation.advances before = false) (id : SampleId) :
    after.sampler.IsFresh id ↔ before.sampler.IsFresh id := by
  have boundary := evolved.boundary
  rw [stays, if_neg Bool.false_ne_true] at boundary
  rw [Sampler.IsFresh, Sampler.IsFresh, boundary]

end Evolved

end Evolved

/-! ## Runs -/

section Drive

variable (host : Host σ ρ)

/-- Carries out operations in order, whatever comes of each. -/
def drive : List (Operation ρ) → Profiler σ ρ → Profiler σ ρ
  | [], profiler => profiler
  | operation :: rest, profiler => drive rest (operation.step host profiler).1

/-- What the operations of a run read off the states before them, in order. -/
def collect {α : Type} (read : Operation ρ → Profiler σ ρ → List α) :
    List (Operation ρ) → Profiler σ ρ → List α
  | [], _ => []
  | operation :: rest, profiler =>
      read operation profiler ++ collect read rest (operation.step host profiler).1

variable (operations : List (Operation ρ)) {before : Profiler σ ρ}

theorem drive_append (more : List (Operation ρ)) :
    drive host (operations ++ more) before = drive host more (drive host operations before) := by
  induction operations generalizing before with
  | nil => rfl
  | cons operation rest ih => exact ih

theorem collect_append {α : Type} (read : Operation ρ → Profiler σ ρ → List α)
    (more : List (Operation ρ)) :
    collect host read (operations ++ more) before =
      collect host read operations before ++
        collect host read more (drive host operations before) := by
  induction operations generalizing before with
  | nil => rfl
  | cons operation rest ih =>
      rw [List.cons_append, collect, collect, ih, List.append_assoc]
      rfl

/-- What every operation keeps, a run keeps. -/
theorem drive_keeps (Holds : Profiler σ ρ → Prop)
    (each : ∀ operation ∈ operations, ∀ profiler, Holds profiler →
      Holds (Operation.step host operation profiler).1) (holds : Holds before) :
    Holds (drive host operations before) := by
  induction operations generalizing before with
  | nil => exact holds
  | cons operation rest ih =>
      rw [List.forall_mem_cons] at each
      exact ih each.2 (each.1 before holds)

theorem drive_linked (linked : before.sampler.Linked) :
    (drive host operations before).sampler.Linked :=
  drive_keeps host operations (·.sampler.Linked)
    (fun operation _ _ linked => (operation.evolved host linked).linked) linked

/-- What holds of a linked chain and stays so from operation to operation, stays so in a run. -/
theorem drive_evolves (Holds : Profiler σ ρ → Prop) (linked : before.sampler.Linked)
    (each : ∀ operation ∈ operations, ∀ profiler after,
      Evolved host operation profiler after → Holds profiler → Holds after)
    (holds : Holds before) : Holds (drive host operations before) := by
  have both := drive_keeps host operations
    (fun profiler => profiler.sampler.Linked ∧ Holds profiler)
    (fun operation member profiler holds => by
      have evolved := operation.evolved host holds.1
      exact ⟨evolved.linked, each operation member profiler _ evolved holds.2⟩)
    ⟨linked, holds⟩
  exact both.2

theorem drive_counted (linked : before.sampler.Linked) (counted : before.sampler.Counted) :
    (drive host operations before).sampler.Counted :=
  drive_evolves host operations (·.sampler.Counted) linked
    (fun _ _ _ _ evolved counted => evolved.counted counted) counted

/-- A run changes neither kind nor bytes of a blob. -/
theorem drive_blobs (linked : before.sampler.Linked) :
    before.blobs.Keeps (drive host operations before).blobs :=
  drive_evolves host operations (before.blobs.Keeps ·.blobs) linked
    (fun _ _ _ _ evolved keeps => keeps.trans evolved.blobs) (.refl before.blobs)

/-- A sample keeps its key and the blob of its stack trace. -/
theorem drive_carries (linked : before.sampler.Linked) {sample : Sample} {blob : BlobId}
    (member : sample ∈ before.sampler.samples) (carries : sample.stackTrace = some blob) :
    ∃ same ∈ (drive host operations before).sampler.samples,
      same.id = sample.id ∧ same.key = sample.key ∧ same.stackTrace = some blob := by
  refine drive_evolves host operations (fun profiler => ∃ same ∈ profiler.sampler.samples,
    same.id = sample.id ∧ same.key = sample.key ∧ same.stackTrace = some blob) linked ?_
    ⟨sample, member, rfl, rfl, carries⟩
  rintro operation - profiler after evolved ⟨same, inside, id, key, carries⟩
  obtain ⟨new, inside, ages⟩ := evolved.onward inside
  exact ⟨new, inside, ages.id.trans id, ages.key.trans key, ages.carries carries⟩

/-- During the run an operation has built the blob, from the trace that the source answered for the
key then. -/
def BuiltIn (before : Profiler σ ρ) (key : TraceKey) (blob : BlobId) (trace : Trace) : Prop :=
  ∃ earlier operation later, operations = earlier ++ operation :: later ∧
    Resolution.Built host (drive host earlier before).traces (drive host earlier before).blobs
      (operation.step host (drive host earlier before)).1.blobs key blob trace

/-- A blob that a sample carries was carried before the run, or the run has built it. -/
theorem drive_built (linked : before.sampler.Linked) {sample : Sample} {blob : BlobId}
    (member : sample ∈ (drive host operations before).sampler.samples)
    (carries : sample.stackTrace = some blob) :
    (∃ old ∈ before.sampler.samples, old.key = sample.key ∧ old.stackTrace = some blob) ∨
      ∃ trace, BuiltIn host operations before sample.key blob trace := by
  induction operations generalizing before with
  | nil => exact .inl ⟨sample, member, rfl, carries⟩
  | cons operation rest ih =>
      have evolved := operation.evolved host linked
      rcases ih evolved.linked member with
        ⟨new, inside, key, carries⟩ | ⟨trace, earlier, last, later, rfl, built⟩
      · rcases evolved.back inside with taken | ⟨old, inside, ages⟩
        · rw [(Operation.taken_new taken).2.1] at carries
          cases carries
        · rcases ages.stackTrace with same | ⟨-, -, -, other, trace, attached, built⟩
          · exact .inl ⟨old, inside, ages.key.symm.trans key, same.symm.trans carries⟩
          · rw [attached] at carries
            cases carries
            rw [← ages.key, key] at built
            exact .inr ⟨trace, [], operation, rest, rfl, built⟩
      · exact .inr ⟨trace, operation :: earlier, last, later, rfl, built⟩

variable {host operations}

theorem BuiltIn.key {key : TraceKey} {blob : BlobId} {trace : Trace}
    (built : BuiltIn host operations before key blob trace) : trace.key = key := by
  obtain ⟨_, _, _, -, built⟩ := built
  exact built.key

/-- The block of the trace, which can be decoded, is still there at the end of the run. -/
theorem BuiltIn.present (linked : before.sampler.Linked) {key : TraceKey} {blob : BlobId}
    {trace : Trace} (built : BuiltIn host operations before key blob trace) :
    trace.frames.length < countLimit ∧
      ∃ written, (drive host operations before).blobs.get? blob =
        some { kind := .stackTrace, bytes := (traceBlock [trace]).encode, written } := by
  obtain ⟨earlier, operation, later, rfl, built⟩ := built
  refine ⟨built.few, ?_⟩
  rw [drive_append]
  have evolved := operation.evolved host (drive_linked host earlier linked)
  exact drive_blobs host later evolved.linked blob _ built.present

end Drive

end LeakRecorder
