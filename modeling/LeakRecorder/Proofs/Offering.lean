/-
# LeakRecorder.Proofs.Offering — what the samples of a window put into a payload

A write offers the blobs of each sample that it visits: stack trace, thread, type
set. Offering is the same for every kind of blob, so a write is one run of offers
(`Emission.front_foldl`), and a run of offers is described without its order of
steps:

* the payload grows by the bytes of the blobs that the epoch did not have, each
  once, at its first occurrence (`BlobStore.toBytes_offerAll`);
* afterwards the epoch has every blob that was offered, and nothing else changed
  (`BlobStore.get?_offerAll`).

A sample that knows its trace but carries no stack-trace blob leaves the trace
pending; the pending traces of a window are a set (`Emission.pending_foldl`).
-/
import LeakRecorder.Profiler.Emission
import LeakRecorder.Proofs.Chain

set_option autoImplicit false

namespace LeakRecorder

namespace BlobStore

/-! ## One offer -/

/-- The epoch does not have the blob yet. -/
def owes (store : BlobStore) (id : BlobId) : Bool := (store.get? id).any fun blob => !blob.written

/-- The epoch has the blob. -/
def has (store : BlobStore) (id : BlobId) : Bool := (store.get? id).any (·.written)

def bytesOf (store : BlobStore) (id : BlobId) : Bytes := ((store.get? id).map (·.bytes)).getD []

theorem owes_iff {store : BlobStore} {id : BlobId} :
    store.owes id = true ↔ ∃ blob, store.get? id = some blob ∧ blob.written = false := by
  cases found : store.get? id <;> simp [owes, found]

/-- A blob that is there is owed exactly when the epoch does not have it. -/
theorem has_eq_not_owes {store : BlobStore} {id : BlobId} {blob : Blob}
    (present : store.get? id = some blob) : store.has id = !store.owes id := by
  simp [has, owes, present]

theorem not_has_of_owes {store : BlobStore} {id : BlobId} (owed : store.owes id = true) :
    store.has id = false := by
  obtain ⟨blob, present, -⟩ := owes_iff.mp owed
  rw [has_eq_not_owes present, owed]
  rfl

theorem bytesOf_eq {store : BlobStore} {id : BlobId} {blob : Blob}
    (present : store.get? id = some blob) : store.bytesOf id = blob.bytes := by
  simp [bytesOf, present]

/-- The bytes of each of some blobs are a part of their bytes in a row. -/
theorem bytesOf_infix (store : BlobStore) {id : BlobId} {ids : List BlobId} (member : id ∈ ids) :
    store.bytesOf id <:+: ids.flatMap store.bytesOf := by
  rw [List.flatMap_def]
  exact List.infix_of_mem_flatten (List.mem_map_of_mem member)

theorem exclusiveWrite_of_owes {store : BlobStore} {id : BlobId} (owed : store.owes id = true)
    (buffer : Buffer) :
    store.exclusiveWrite id buffer =
      (true, store.setWritten id true, buffer.append (store.bytesOf id)) := by
  obtain ⟨blob, present, unwritten⟩ := owes_iff.mp owed
  simp [exclusiveWrite, present, unwritten, bytesOf_eq present]

theorem exclusiveWrite_of_not_owes {store : BlobStore} {id : BlobId}
    (had : store.owes id = false) (buffer : Buffer) :
    store.exclusiveWrite id buffer = (false, store, buffer) := by
  cases found : store.get? id with
  | none => simp [exclusiveWrite, found]
  | some blob =>
      have written : blob.written = true := by simpa [owes, found] using had
      simp [exclusiveWrite, found, written]

theorem wrote_exclusiveWrite (store : BlobStore) (id : BlobId) (buffer : Buffer) :
    (store.exclusiveWrite id buffer).1 = store.owes id := by
  cases owed : store.owes id with
  | true => rw [exclusiveWrite_of_owes owed]
  | false => rw [exclusiveWrite_of_not_owes owed]

theorem get?_exclusiveWrite (store : BlobStore) (id other : BlobId) (buffer : Buffer) :
    (store.exclusiveWrite id buffer).2.1.get? other =
      (store.get? other).map fun blob =>
        if id = other then { blob with written := true } else blob := by
  cases owed : store.owes id with
  | true =>
      rw [exclusiveWrite_of_owes owed, get?_setWritten]
      by_cases same : id = other <;> simp [same]
  | false =>
      rw [exclusiveWrite_of_not_owes owed]
      cases found : store.get? other with
      | none => rfl
      | some blob =>
          by_cases same : id = other
          · subst same
            have written : blob.written = true := by simpa [owes, found] using owed
            cases blob
            simp_all
          · simp [same]

/-- A blob that was offered is not owed any more; the others are as they were. -/
theorem owes_setWritten (store : BlobStore) (id other : BlobId) :
    (store.setWritten id true).owes other = (store.owes other && !(other == id)) := by
  rw [owes, get?_setWritten, owes]
  by_cases same : id = other
  · subst same
    cases store.get? id <;> simp
  · simp [same, Ne.symm same]

theorem bytesOf_setWritten (store : BlobStore) (id : BlobId) (written : Bool) :
    (store.setWritten id written).bytesOf = store.bytesOf := by
  funext other
  rw [bytesOf, get?_setWritten, bytesOf]
  by_cases same : id = other
  · cases store.get? other <;> simp [same]
  · simp [same]

/-! ## A run of offers -/

/-- Offers blobs one after the other. -/
def offerAll (store : BlobStore) (ids : List BlobId) (payload : Buffer) : BlobStore × Buffer :=
  ids.foldl (fun front id => (front.1.exclusiveWrite id front.2).2) (store, payload)

/-- The blobs among `ids` that the epoch does not have, each at its first occurrence. -/
def due (store : BlobStore) (ids : List BlobId) : List BlobId := (ids.filter store.owes).eraseDups

theorem offerAll_cons (store : BlobStore) (id : BlobId) (ids : List BlobId) (payload : Buffer) :
    store.offerAll (id :: ids) payload =
      (store.exclusiveWrite id payload).2.1.offerAll ids (store.exclusiveWrite id payload).2.2 :=
  rfl

theorem offerAll_append (store : BlobStore) (ids more : List BlobId) (payload : Buffer) :
    store.offerAll (ids ++ more) payload =
      (store.offerAll ids payload).1.offerAll more (store.offerAll ids payload).2 := by
  simp only [offerAll, List.foldl_append]

@[simp] theorem mem_due {store : BlobStore} {ids : List BlobId} {id : BlobId} :
    id ∈ store.due ids ↔ id ∈ ids ∧ store.owes id = true := by
  simp [due, List.mem_eraseDups]

theorem due_cons_of_owes {store : BlobStore} {id : BlobId} (owed : store.owes id = true)
    (ids : List BlobId) :
    store.due (id :: ids) = id :: (store.setWritten id true).due ids := by
  have later : ids.filter (store.setWritten id true).owes =
      (ids.filter store.owes).filter fun other => !(other == id) := by
    rw [List.filter_filter]
    apply List.filter_congr
    intro other _
    rw [owes_setWritten, Bool.and_comm]
  rw [due, List.filter_cons_of_pos owed, List.eraseDups_cons, due, later]

theorem due_cons_of_not_owes {store : BlobStore} {id : BlobId} (had : store.owes id = false)
    (ids : List BlobId) : store.due (id :: ids) = store.due ids := by
  rw [due, List.filter_cons_of_neg (by simp [had]), due]

/-- Nothing is sent twice by one run of offers. -/
theorem nodup_due (store : BlobStore) (ids : List BlobId) : (store.due ids).Nodup := by
  induction ids generalizing store with
  | nil => exact List.nodup_nil
  | cons id ids ih =>
      cases owed : store.owes id with
      | false =>
          rw [due_cons_of_not_owes owed]
          exact ih store
      | true =>
          rw [due_cons_of_owes owed]
          refine List.nodup_cons.mpr ⟨?_, ih _⟩
          intro again
          have still := (mem_due.mp again).2
          rw [owes_setWritten] at still
          simp at still

theorem length_due_singleton (store : BlobStore) (id : BlobId) :
    (store.due [id]).length = if store.owes id then 1 else 0 := by
  cases owed : store.owes id with
  | true =>
      rw [due_cons_of_owes owed]
      rfl
  | false =>
      rw [due_cons_of_not_owes owed]
      rfl

/-- **The payload grows by the due blobs' bytes.** -/
theorem toBytes_offerAll (store : BlobStore) (ids : List BlobId) (payload : Buffer) :
    (store.offerAll ids payload).2.toBytes =
      payload.toBytes ++ (store.due ids).flatMap store.bytesOf := by
  induction ids generalizing store payload with
  | nil => exact (List.append_nil _).symm
  | cons id ids ih =>
      rw [offerAll_cons, ih]
      cases owed : store.owes id with
      | true =>
          rw [exclusiveWrite_of_owes owed, due_cons_of_owes owed, bytesOf_setWritten]
          simp
      | false =>
          rw [exclusiveWrite_of_not_owes owed, due_cons_of_not_owes owed]

/-- **Every blob that was offered is in the epoch; nothing else has changed.** -/
theorem get?_offerAll (store : BlobStore) (ids : List BlobId) (payload : Buffer) (id : BlobId) :
    (store.offerAll ids payload).1.get? id =
      (store.get? id).map fun blob => if id ∈ ids then { blob with written := true } else blob := by
  induction ids generalizing store payload with
  | nil => simp [offerAll]
  | cons first ids ih =>
      rw [offerAll_cons, ih, get?_exclusiveWrite, Option.map_map]
      congr 1
      funext blob
      by_cases same : first = id
      · simp [same]
      · simp [same, Ne.symm same]

/-- What a run of offers sends is what its parts send. -/
theorem due_append (store : BlobStore) (ids more : List BlobId) (payload : Buffer) :
    store.due (ids ++ more) = store.due ids ++ (store.offerAll ids payload).1.due more := by
  induction ids generalizing store payload with
  | nil => rfl
  | cons id ids ih =>
      rw [List.cons_append, offerAll_cons]
      cases owed : store.owes id with
      | true =>
          rw [due_cons_of_owes owed, due_cons_of_owes owed, exclusiveWrite_of_owes owed, ih,
            List.cons_append]
      | false =>
          rw [due_cons_of_not_owes owed, due_cons_of_not_owes owed,
            exclusiveWrite_of_not_owes owed, ih]

end BlobStore

/-! ## What a sample offers -/

namespace Sample

/-- The blobs that a write offers for a sample. A thread is described for a virtual thread and for
one that has exited. -/
def offered (exited : ExitedThreads) (sample : Sample) : List BlobId :=
  sample.stackTrace.toList ++
    (if sample.isVirtual || (sample.thread.val != 0 && exited.hasExited sample.thread) then
      sample.threadBlob.toList else []) ++
    sample.typeSet.toList

/-- The trace that a sample leaves pending: it knows one and carries no blob of it. -/
def pendingTrace? (sample : Sample) : Option TraceId :=
  if sample.stackTrace.isNone && sample.key.id.val != 0 then some sample.key.id else none

end Sample

namespace IdSet

variable {kind : IdentKind}

theorem nodup_toList (set : IdSet kind) : set.toList.Nodup := by
  refine List.Pairwise.imp ?_ (Std.TreeSet.distinct_toList (t := set.members))
  intro a b differ equal
  exact differ (Std.LawfulEqCmp.compare_eq_iff_eq.mpr equal)

theorem mem_toList {set : IdSet kind} {id : Ident kind} :
    id ∈ set.toList ↔ set.contains id = true := Std.TreeSet.mem_toList

theorem length_toList (set : IdSet kind) : set.toList.length = set.size :=
  Std.TreeSet.length_toList

/-- A set with the members of a list that repeats nothing lists the same. -/
theorem toList_perm {set : IdSet kind} {ids : List (Ident kind)} (nodup : ids.Nodup)
    (same : ∀ id, set.contains id = true ↔ id ∈ ids) : set.toList.Perm ids := by
  refine (List.perm_ext_iff_of_nodup set.nodup_toList nodup).mpr ?_
  intro id
  rw [← same id, mem_toList]

theorem size_eq_length {set : IdSet kind} {ids : List (Ident kind)} (nodup : ids.Nodup)
    (same : ∀ id, set.contains id = true ↔ id ∈ ids) : set.size = ids.length := by
  rw [← (toList_perm nodup same).length_eq, length_toList]

end IdSet

/-! ## A write's run of offers -/

namespace Emission

/-- The part of a pass's state that offers change: the flags and the payload. -/
def front (state : Emission) : BlobStore × Buffer := (state.blobs, state.payload)

section Offers

variable (exited : ExitedThreads) (state : Emission) (sample : Sample)

theorem front_offerStackTrace :
    (state.offerStackTrace sample).front =
      state.front.1.offerAll sample.stackTrace.toList state.front.2 := by
  unfold offerStackTrace
  cases sample.stackTrace with
  | some blob => rfl
  | none => cases sample.hasTrace <;> rfl

theorem front_offerThread :
    (state.offerThread exited sample).front =
      state.front.1.offerAll
        (if describesThread exited sample then sample.threadBlob.toList else []) state.front.2 := by
  unfold offerThread
  cases sample.threadBlob <;> cases describesThread exited sample <;> rfl

theorem front_offerTypeSet :
    (state.offerTypeSet sample).front =
      state.front.1.offerAll sample.typeSet.toList state.front.2 := by
  unfold offerTypeSet
  cases sample.typeSet <;> rfl

theorem front_offer :
    (state.offer exited sample).front =
      state.front.1.offerAll (sample.offered exited) state.front.2 := by
  rw [Sample.offered, BlobStore.offerAll_append, BlobStore.offerAll_append, offer,
    front_offerTypeSet, front_offerThread, front_offerStackTrace]
  rfl

/-- A type set leaves the pending traces and the number of samples alone. -/
theorem offerTypeSet_keeps :
    (state.offerTypeSet sample).pending = state.pending ∧
      (state.offerTypeSet sample).stats.samples = state.stats.samples := by
  unfold offerTypeSet
  cases sample.typeSet with
  | none => exact ⟨rfl, rfl⟩
  | some blob => exact ⟨rfl, rfl⟩

/-- So does a thread. -/
theorem offerThread_keeps :
    (state.offerThread exited sample).pending = state.pending ∧
      (state.offerThread exited sample).stats.samples = state.stats.samples := by
  unfold offerThread
  cases sample.threadBlob with
  | none => exact ⟨rfl, rfl⟩
  | some blob => cases describesThread exited sample <;> exact ⟨rfl, rfl⟩

theorem pending_offerStackTrace :
    (state.offerStackTrace sample).pending =
      match sample.pendingTrace? with
      | some id => (state.pending.add id).2
      | none => state.pending := by
  unfold offerStackTrace Sample.pendingTrace?
  cases sample.stackTrace with
  | some blob => rfl
  | none =>
      show _ = match (if sample.hasTrace then some sample.key.id else none) with
        | some id => (state.pending.add id).2
        | none => state.pending
      cases sample.hasTrace <;> rfl

theorem samples_offerStackTrace :
    (state.offerStackTrace sample).stats.samples = state.stats.samples := by
  unfold offerStackTrace
  cases sample.stackTrace with
  | some blob => rfl
  | none => cases sample.hasTrace <;> rfl

theorem pending_offer :
    (state.offer exited sample).pending =
      match sample.pendingTrace? with
      | some id => (state.pending.add id).2
      | none => state.pending := by
  rw [offer, (offerTypeSet_keeps _ sample).1, (offerThread_keeps exited _ sample).1,
    pending_offerStackTrace]

theorem samples_offer : (state.offer exited sample).stats.samples = state.stats.samples + 1 := by
  rw [offer, (offerTypeSet_keeps _ sample).2, (offerThread_keeps exited _ sample).2,
    samples_offerStackTrace]

/-- What is emitted is counted when it was due. -/
theorem count_emit (blob : BlobId) :
    (if (state.emit blob).1 then 1 else 0) = (state.front.1.due [blob]).length := by
  have wrote : (state.emit blob).1 = state.front.1.owes blob :=
    BlobStore.wrote_exclusiveWrite state.blobs blob state.payload
  rw [wrote, BlobStore.length_due_singleton]

theorem blobsWritten_offerStackTrace :
    (state.offerStackTrace sample).stats.blobsWritten =
      state.stats.blobsWritten + (state.front.1.due sample.stackTrace.toList).length := by
  unfold offerStackTrace
  cases sample.stackTrace with
  | none => cases sample.hasTrace <;> rfl
  | some blob =>
      rw [Option.toList_some, ← count_emit]
      simp only [WriteStats.blobsWritten, emit]
      omega

theorem blobsWritten_offerThread :
    (state.offerThread exited sample).stats.blobsWritten =
      state.stats.blobsWritten + (state.front.1.due
        (if describesThread exited sample then sample.threadBlob.toList else [])).length := by
  unfold offerThread
  cases describesThread exited sample with
  | false => cases sample.threadBlob <;> rfl
  | true =>
      cases sample.threadBlob with
      | none => rfl
      | some blob =>
          rw [if_pos rfl, Option.toList_some, ← count_emit]
          simp only [WriteStats.blobsWritten, emit, if_true]
          omega

theorem blobsWritten_offerTypeSet :
    (state.offerTypeSet sample).stats.blobsWritten =
      state.stats.blobsWritten + (state.front.1.due sample.typeSet.toList).length := by
  unfold offerTypeSet
  cases sample.typeSet with
  | none => rfl
  | some blob =>
      rw [Option.toList_some, ← count_emit]
      simp only [WriteStats.blobsWritten, emit]
      omega

theorem blobsWritten_offer :
    (state.offer exited sample).stats.blobsWritten =
      state.stats.blobsWritten + (state.front.1.due (sample.offered exited)).length := by
  rw [Sample.offered, BlobStore.due_append _ _ _ state.front.2,
    BlobStore.due_append _ _ _ state.front.2, BlobStore.offerAll_append, offer,
    blobsWritten_offerTypeSet, blobsWritten_offerThread, blobsWritten_offerStackTrace,
    front_offerThread, front_offerStackTrace, List.length_append, List.length_append,
    ← Nat.add_assoc, ← Nat.add_assoc]
  rfl

end Offers

/-- Going through samples is one run of offers. -/
theorem front_foldl (exited : ExitedThreads) (samples : List Sample) (state : Emission) :
    (samples.foldl (offer exited) state).front =
      state.front.1.offerAll (samples.flatMap (Sample.offered exited)) state.front.2 := by
  induction samples generalizing state with
  | nil => rfl
  | cons sample rest ih =>
      rw [List.foldl_cons, ih, front_offer, List.flatMap_cons, BlobStore.offerAll_append]

theorem samples_foldl (exited : ExitedThreads) (samples : List Sample) (state : Emission) :
    (samples.foldl (offer exited) state).stats.samples = state.stats.samples + samples.length := by
  induction samples generalizing state with
  | nil => rfl
  | cons sample rest ih =>
      rw [List.foldl_cons, ih, samples_offer, List.length_cons]
      omega

theorem blobsWritten_foldl (exited : ExitedThreads) (samples : List Sample) (state : Emission) :
    (samples.foldl (offer exited) state).stats.blobsWritten =
      state.stats.blobsWritten +
        (state.front.1.due (samples.flatMap (Sample.offered exited))).length := by
  induction samples generalizing state with
  | nil => rfl
  | cons sample rest ih =>
      rw [List.foldl_cons, ih, blobsWritten_offer, front_offer, List.flatMap_cons,
        BlobStore.due_append _ _ _ state.front.2, List.length_append, Nat.add_assoc]

/-- A trace is pending once a sample has left it so. -/
theorem pending_foldl (exited : ExitedThreads) (samples : List Sample) (state : Emission)
    (id : TraceId) :
    (samples.foldl (offer exited) state).pending.contains id = true ↔
      state.pending.contains id = true ∨ id ∈ samples.filterMap Sample.pendingTrace? := by
  induction samples generalizing state with
  | nil => simp
  | cons sample rest ih =>
      rw [List.foldl_cons, ih, pending_offer, List.filterMap_cons]
      cases sample.pendingTrace? with
      | none => rfl
      | some left =>
          simp only [IdSet.contains_add, Bool.or_eq_true, decide_eq_true_eq, List.mem_cons]
          rw [or_assoc, or_left_comm, @eq_comm _ left id]

end Emission

end LeakRecorder
