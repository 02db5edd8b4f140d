/-
# LeakRecorder.Proofs.Retrying — a rotation that failed can be tried again

A rotation that fails over a missing trace has settled the samples in front of the
one whose trace is missing, tagged the methods of their traces and thrown its cache
away. Nothing that a later rotation needs is lost (`Refrained`): the traces are not
released, the boundary stays, and an attached blob is not replaced.

What has been done so far is measured against the state before the first attempt
(`Progress`): a sample is as it was or has a blob with the block of its trace, and
of the methods those are tagged that a trace of the keys taken so far goes through.
An attempt takes some more keys, whether it fails or not (`Progress.walk`). When no
sample needs a trace any more, all the keys are taken; which attempt took which of
them can no longer be seen, neither in the bytes nor in the tags
(`Progress.sameTraces`).
-/
import LeakRecorder.Proofs.RotationOutcome

set_option autoImplicit false

namespace LeakRecorder

variable {σ ρ : Type}

/-! ## Sources that answer more -/

/-- Whatever the source answered over some traces it answers over others. -/
def Supplies (host : Host σ ρ) (traces more : ρ) : Prop :=
  ∀ key trace, host.source.lookup traces key = some trace →
    host.source.lookup more key = some trace

namespace Resolution

variable {host : Host σ ρ} {traces more : ρ} {key : TraceKey}

theorem Serves.mono {trace : Trace} (serves : Serves host traces key trace)
    (supplies : Supplies host traces more) : Serves host more key trace :=
  { serves with found := supplies key trace serves.found }

/-- Which methods the traces of served keys go through is the same over more traces. -/
theorem reaches_mono {keys : List TraceKey} {method : MethodId}
    (served : ∀ key ∈ keys, ∃ trace, Serves host traces key trace)
    (supplies : Supplies host traces more) :
    Reaches host more keys method ↔ Reaches host traces keys method := by
  constructor
  · rintro ⟨key, member, trace, serves, reached⟩
    obtain ⟨earlier, before⟩ := served key member
    have same := (before.mono supplies).unique serves
    subst same
    exact ⟨key, member, earlier, before, reached⟩
  · rintro ⟨key, member, trace, serves, reached⟩
    exact ⟨key, member, trace, serves.mono supplies, reached⟩

theorem reaches_append {keys others : List TraceKey} {method : MethodId} :
    Reaches host traces (keys ++ others) method ↔
      Reaches host traces keys method ∨ Reaches host traces others method := by
  simp only [Reaches, List.mem_append, or_and_right, exists_or]

theorem reaches_congr {keys others : List TraceKey} {method : MethodId}
    (same : ∀ key, key ∈ keys ↔ key ∈ others) :
    Reaches host traces keys method ↔ Reaches host traces others method := by
  simp only [Reaches, same]

/-! ## What becomes of a sample over several attempts -/

/-- A sample is as it was, or it needed a trace and has a blob with the block of a trace that is
served for its key. -/
inductive Advances (host : Host σ ρ) (traces : ρ) (blobs : BlobStore) (old : Sample) :
    Sample → Prop
  | same : Advances host traces blobs old old
  | attached {blob : BlobId} {trace : Trace} {built : Blob} (needs : old.needsTrace = true)
      (serves : Serves host traces old.key trace) (present : blobs.get? blob = some built)
      (bytes : built.bytes = (traceBlock [trace]).encode) :
      Advances host traces blobs old { old with stackTrace := some blob }

variable {blobs later : BlobStore} {old mid new : Sample}

theorem Advances.id (advances : Advances host traces blobs old new) : new.id = old.id := by
  cases advances <;> rfl

theorem Advances.mono (advances : Advances host traces blobs old new)
    (supplies : Supplies host traces more) (keeps : blobs.Keeps later) :
    Advances host more later old new := by
  cases advances with
  | same => exact .same
  | attached needs serves present bytes =>
      obtain ⟨written, kept⟩ := keeps _ _ present
      exact .attached needs (serves.mono supplies) kept bytes

/-- A sample that still needs a trace is as it was. -/
theorem Advances.eq_of_needsTrace (advances : Advances host traces blobs old new)
    (needs : new.needsTrace = true) : new = old := by
  cases advances with
  | same => rfl
  | attached => cases (Sample.needsTrace_iff.mp needs).2

theorem Advances.trans (first : Advances host traces blobs old mid)
    (second : Advances host traces blobs mid new) : Advances host traces blobs old new := by
  cases second with
  | same => exact first
  | attached needs serves present bytes =>
      have same := first.eq_of_needsTrace needs
      subst same
      exact .attached needs serves present bytes

end Resolution

/-- Two lists that stand to a third one stand to each other. -/
theorem forall₂_join {α β γ : Type} {R : α → β → Prop} {S : α → γ → Prop} {T : β → γ → Prop}
    {base : List α} {left : List β} {right : List γ} (first : List.Forall₂ R base left)
    (second : List.Forall₂ S base right)
    (join : ∀ a ∈ base, ∀ b ∈ left, ∀ c ∈ right, R a b → S a c → T b c) :
    List.Forall₂ T left right := by
  induction first generalizing right with
  | nil =>
      cases second
      exact .nil
  | @cons a b base left head _ ih =>
      cases second with
      | cons other rest =>
          refine .cons (join a (by simp) b (by simp) _ (by simp) head other) (ih rest ?_)
          intro x base y left z right
          exact join x (List.mem_cons_of_mem _ base) y (List.mem_cons_of_mem _ left) z
            (List.mem_cons_of_mem _ right)

/-- Advancing, samples come to need no trace that they have not needed before. -/
theorem wanted_of_advances {host : Host σ ρ} {traces : ρ} {blobs : BlobStore}
    {samples front : List Sample}
    (each : List.Forall₂ (Resolution.Advances host traces blobs) samples front) {key : TraceKey}
    (wanted : key ∈ Sample.wanted front) : key ∈ Sample.wanted samples := by
  obtain ⟨new, member, needs, rfl⟩ := Sample.mem_wanted.mp wanted
  obtain ⟨old, inside, advances⟩ := exists_partner (List.Forall₂.flip each) member
  have same := Resolution.Advances.eq_of_needsTrace advances needs
  subst same
  exact Sample.mem_wanted.mpr ⟨new, inside, needs, rfl⟩

namespace Profiler

/-! ## The progress of several attempts -/

/-- What has come of a profiler after some attempts, the traces now being the given ones: the
unresolved samples that have advanced, and the keys that the attempts have taken. -/
structure Progress (host : Host σ ρ) (traces : ρ) (start now : Profiler σ ρ)
    (front : List Sample) (taken : List TraceKey) : Prop where
  sampler : now.sampler = start.sampler.replaceFront front
  each : List.Forall₂ (Resolution.Advances host traces now.blobs) start.sampler.unresolved front
  served : ∀ key ∈ taken, ∃ trace, Resolution.Serves host traces key trace
  needed : ∀ key ∈ taken, key ∈ Sample.wanted start.sampler.unresolved
  cover : ∀ key ∈ Sample.wanted start.sampler.unresolved, key ∈ taken ∨ key ∈ Sample.wanted front
  tagged : ∀ method, 0 < now.runtime.methodTags method ↔
    0 < start.runtime.methodTags method ∨
      Resolution.Reaches host traces taken method ∧
        start.runtime.isUnloaded method.holder = false
  blobs : start.blobs.Keeps now.blobs
  unloaded : now.runtime.unloaded = start.runtime.unloaded

section Progress

variable {host : Host σ ρ} {traces more : ρ} {start now later : Profiler σ ρ}
  {front : List Sample} {taken : List TraceKey}

theorem Progress.refl (linked : start.sampler.Linked) :
    Progress host traces start start start.sampler.unresolved [] where
  sampler := linked.replaceFront_unresolved.symm
  each := List.forall₂_same.mpr fun _ _ => .same
  served := by simp
  needed := by simp
  cover _ wanted := .inr wanted
  tagged method := by simp [Resolution.Reaches]
  blobs := .refl _
  unloaded := rfl

theorem Progress.unresolved (progress : Progress host traces start now front taken)
    (linked : start.sampler.Linked) : now.sampler.unresolved = front := by
  have ids := Sampler.ids_of_forall₂ progress.each fun _ _ advances => advances.id
  rw [progress.sampler]
  exact linked.unresolved_replaceFront ids

/-- Time goes by: more is served, and samples, tags and the bytes of blobs stay. -/
theorem Progress.wait (progress : Progress host traces start now front taken)
    (supplies : Supplies host traces more) (sampler : later.sampler = now.sampler)
    (blobs : now.blobs.Keeps later.blobs)
    (unloaded : later.runtime.unloaded = now.runtime.unloaded)
    (tags : ∀ method, later.runtime.methodTags method = now.runtime.methodTags method) :
    Progress host more start later front taken where
  sampler := sampler.trans progress.sampler
  each := progress.each.imp fun _ _ advances => advances.mono supplies blobs
  served key member := by
    obtain ⟨trace, serves⟩ := progress.served key member
    exact ⟨trace, serves.mono supplies⟩
  needed := progress.needed
  cover := progress.cover
  tagged method := by
    rw [tags, progress.tagged, Resolution.reaches_mono progress.served supplies]
  blobs := progress.blobs.trans blobs
  unloaded := unloaded.trans progress.unloaded

/-- The cache settles a sample by a blob of its trace. -/
theorem Walked.advances {served rest : List Sample} {cache : BlobCache}
    (walked : Walked host now later served rest cache) {sample : Sample}
    (member : sample ∈ served) :
    Resolution.Advances host now.traces later.blobs sample (Resolution.settle cache sample) := by
  rw [Resolution.settle]
  split
  next needs =>
    have wanted := Sample.mem_wanted.mpr ⟨sample, member, needs, rfl⟩
    obtain ⟨blob, trace, hit, built⟩ := walked.lookup wanted
    rw [hit]
    exact .attached needs ⟨built.found, built.key, built.few⟩ built.present rfl
  next => exact .same

/-- An attempt takes the keys of the samples that it settles, however it ends. -/
theorem Progress.walk (progress : Progress host now.traces start now front taken)
    (linked : start.sampler.Linked) {served rest : List Sample} {cache : BlobCache}
    (walked : Walked host now.renewed later served rest cache) :
    Progress host now.traces start later
      (served.map (Resolution.settle cache) ++ rest) (taken ++ Sample.wanted served) := by
  have split : front = served ++ rest := by
    rw [← progress.unresolved linked]
    exact walked.split
  have keeps : now.blobs.Keeps later.blobs :=
    (BlobStore.keeps_resetBlobs now.blobs _).trans walked.blobs.keeps
  have further : List.Forall₂ (Resolution.Advances host now.traces later.blobs) front
      (served.map (Resolution.settle cache) ++ rest) := by
    rw [split]
    refine List.rel_append ?_ (List.forall₂_same.mpr fun _ _ => .same)
    rw [List.forall₂_map_right_iff, List.forall₂_same]
    exact fun sample member => walked.advances member
  have before := progress.each.imp fun _ _ advances =>
    advances.mono (fun _ _ found => found) keeps
  have inFront (key : TraceKey) :
      key ∈ Sample.wanted front ↔ key ∈ Sample.wanted served ∨ key ∈ Sample.wanted rest := by
    rw [split, Sample.wanted_append, List.mem_append]
  constructor
  · -- The samples that have advanced further take the place of those that had advanced.
    have length : front.length = (served.map (Resolution.settle cache) ++ rest).length := by
      rw [split, List.length_append, List.length_append, List.length_map]
    have sampler : later.sampler = now.sampler.replaceFront
        (served.map (Resolution.settle cache) ++ rest) := walked.sampler
    rw [sampler, progress.sampler]
    simp only [Sampler.replaceFront, ← length, List.drop_left]
  · exact forall₂_join (List.Forall₂.flip before) further
      fun _ _ _ _ _ _ first second => Resolution.Advances.trans first second
  · intro key member
    rcases List.mem_append.mp member with earlier | now
    · exact progress.served key earlier
    · exact walked.serves now
  · intro key member
    rcases List.mem_append.mp member with earlier | now
    · exact progress.needed key earlier
    · exact wanted_of_advances progress.each ((inFront key).mpr (.inl now))
  · intro key wanted
    rw [List.mem_append, Sample.wanted_append, List.mem_append]
    rcases progress.cover key wanted with earlier | left
    · exact .inl (.inl earlier)
    · rcases (inFront key).mp left with now | after
      · exact .inl (.inr now)
      · exact .inr (.inr after)
  · intro method
    have sameUnloaded : now.renewed.runtime.isUnloaded method.holder =
        start.runtime.isUnloaded method.holder := by
      show now.runtime.unloaded.contains _ = start.runtime.unloaded.contains _
      rw [progress.unloaded]
    have already : now.renewed.runtime.methodTags method = now.runtime.methodTags method := rfl
    have tagged := progress.tagged method
    rw [Resolution.reaches_append]
    by_cases reached : Resolution.Reaches host now.traces (Sample.wanted served) method ∧
        start.runtime.isUnloaded method.holder = false
    · have tags := walked.tagged method reached.1 (sameUnloaded.trans reached.2)
      rw [tags]
      exact iff_of_true (Nat.succ_pos _) (.inr ⟨.inr reached.1, reached.2⟩)
    · have tags := walked.untagged method fun both => reached ⟨both.1, sameUnloaded ▸ both.2⟩
      rw [tags, already, tagged]
      tauto
  · exact progress.blobs.trans keeps
  · exact walked.unloaded.trans progress.unloaded

theorem Progress.linked (progress : Progress host traces start now front taken)
    (linked : start.sampler.Linked) : now.sampler.Linked := by
  rw [progress.sampler]
  exact linked.replaceFront
    (Sampler.ids_of_forall₂ progress.each fun _ _ advances => advances.id)

/-- What the cache has settled needs nothing any more. -/
theorem Walked.wanted_settled {served rest : List Sample} {cache : BlobCache}
    (walked : Walked host now later served rest cache) :
    Sample.wanted (served.map (Resolution.settle cache)) = [] := by
  refine Sample.wanted_eq_nil_iff.mpr fun settled member => ?_
  obtain ⟨sample, inside, rfl⟩ := List.mem_map.mp member
  rw [Resolution.settle]
  split
  next needs =>
    obtain ⟨blob, -, hit, -⟩ := walked.lookup (Sample.mem_wanted.mpr ⟨sample, inside, needs, rfl⟩)
    exact Sample.needsTrace_of_carries (by rw [hit]; rfl)
  next idle => exact Bool.eq_false_iff.mpr idle

/-- An attempt that succeeds takes every key that is left. -/
theorem Progress.rotate_ok (progress : Progress host now.traces start now front taken)
    (linked : start.sampler.Linked) (admits : now.Admits) (roomy : now.options.Roomy)
    {stats : RotationStats} (done : rotate host now = (later, .ok stats)) :
    ∃ front taken, Progress host now.traces start later front taken ∧
      Sample.wanted front = [] := by
  cases fresh : now.sampler.hasUnresolved with
  | false =>
      rw [rotate_of_admits host admits, fresh, if_neg Bool.false_ne_true] at done
      cases done
      have none : front = [] := by
        rw [← progress.unresolved linked]
        exact (progress.linked linked).unresolved_eq_nil fresh
      refine ⟨front, taken, progress.wait (fun _ _ found => found) rfl
        (BlobStore.keeps_resetBlobs now.blobs _) rfl fun _ => rfl, ?_⟩
      rw [none]
      rfl
  | true =>
      obtain ⟨next, served, rest, cache, walked, ends⟩ := rotate_outcome admits roomy fresh done
      rcases ends with ⟨counts, -, rfl, rfl, -⟩ | ⟨_, _, _, _, _, failed, _⟩
      · have further := progress.walk linked walked
        rw [List.append_nil] at further
        exact ⟨_, _, ⟨further.sampler, further.each, further.served, further.needed,
          further.cover, further.tagged, further.blobs, further.unloaded⟩, walked.wanted_settled⟩
      · cases failed

/-! ## What can be seen of it in the end -/

/-- Sample by sample, the stack traces have the same bytes, and the same methods are tagged. -/
structure SameTraces (first second : Profiler σ ρ) : Prop where
  samples : List.Forall₂ (fun one other =>
      other = { one with stackTrace := other.stackTrace } ∧
        one.stackTrace.map first.blobs.bytesOf = other.stackTrace.map second.blobs.bytesOf)
    first.sampler.samples second.sampler.samples
  tagged : ∀ method, first.runtime.taggedMethods.contains method =
    second.runtime.taggedMethods.contains method

/-- Every stack trace that a sample carries is a blob of the store. -/
def Holds (profiler : Profiler σ ρ) : Prop :=
  ∀ sample ∈ profiler.sampler.samples, ∀ blob, sample.stackTrace = some blob →
    ∃ held, profiler.blobs.get? blob = some held

/-- A blob that a sample carried from the start still has its bytes. -/
theorem Progress.bytesOf_held (progress : Progress host traces start now front taken)
    (holds : start.Holds) {sample : Sample} (member : sample ∈ start.sampler.samples) :
    sample.stackTrace.map now.blobs.bytesOf = sample.stackTrace.map start.blobs.bytesOf := by
  cases carried : sample.stackTrace with
  | none => rfl
  | some blob =>
      obtain ⟨held, present⟩ := holds sample member blob carried
      obtain ⟨written, kept⟩ := progress.blobs blob held present
      rw [Option.map_some, Option.map_some, BlobStore.bytesOf_eq present,
        BlobStore.bytesOf_eq kept]

/-- When every key is taken, it cannot be seen which attempts took which. -/
theorem Progress.sameTraces {other : Profiler σ ρ} {others : List Sample}
    {takenOther : List TraceKey} (linked : start.sampler.Linked) (holds : start.Holds)
    (first : Progress host traces start now front taken) (complete : Sample.wanted front = [])
    (second : Progress host traces start other others takenOther)
    (completeOther : Sample.wanted others = []) : SameTraces now other := by
  have idle {samples : List Sample} (none : Sample.wanted samples = []) {sample : Sample}
      (member : sample ∈ samples) : ¬ sample.needsTrace = true :=
    Bool.eq_false_iff.mp (Sample.wanted_eq_nil_iff.mp none sample member)
  have same (sample : Sample) (member : sample ∈ start.sampler.samples) :
      sample.stackTrace.map now.blobs.bytesOf = sample.stackTrace.map other.blobs.bytesOf :=
    (first.bytesOf_held holds member).trans (second.bytesOf_held holds member).symm
  constructor
  · have fronts : List.Forall₂ (fun one two =>
        two = { one with stackTrace := two.stackTrace } ∧
          one.stackTrace.map now.blobs.bytesOf = two.stackTrace.map other.blobs.bytesOf)
        front others := by
      refine forall₂_join first.each second.each ?_
      intro old inside one member two memberOther here there
      have inChain := linked.unresolved_isPrefix.subset inside
      cases here with
      | same =>
          cases there with
          | same => exact ⟨rfl, same old inChain⟩
          | attached needs => exact absurd needs (idle complete member)
      | attached needs serves present bytes =>
          cases there with
          | same => exact absurd needs (idle completeOther memberOther)
          | attached _ servesOther presentOther bytesOther =>
              have unique := serves.unique servesOther
              subst unique
              refine ⟨rfl, ?_⟩
              rw [Option.map_some, Option.map_some, BlobStore.bytesOf_eq present,
                BlobStore.bytesOf_eq presentOther, bytes, bytesOther]
    rw [first.sampler, second.sampler]
    show List.Forall₂ _ (front ++ start.sampler.samples.drop front.length)
      (others ++ start.sampler.samples.drop others.length)
    rw [← first.each.length_eq, ← second.each.length_eq]
    refine List.rel_append fronts (List.forall₂_same.mpr fun sample member => ?_)
    exact ⟨rfl, same sample (List.mem_of_mem_drop member)⟩
  · intro method
    have every {front : List Sample} {taken : List TraceKey} {now : Profiler σ ρ}
        (progress : Progress host traces start now front taken)
        (complete : Sample.wanted front = []) (key : TraceKey) :
        key ∈ taken ↔ key ∈ Sample.wanted start.sampler.unresolved := by
      refine ⟨progress.needed key, fun wanted => ?_⟩
      rcases progress.cover key wanted with member | left
      · exact member
      · rw [complete] at left
        cases left
    rw [Bool.eq_iff_iff, Runtime.contains_taggedMethods, Runtime.contains_taggedMethods,
      first.tagged, second.tagged, Resolution.reaches_congr (every first complete),
      Resolution.reaches_congr (every second completeOther)]

end Progress

/-! ## An attempt that fails over a missing trace -/

/-- What a failed attempt has left alone. -/
structure Refrained (before after : Profiler σ ρ) : Prop where
  traces : after.traces = before.traces
  boundary : after.sampler.boundary = before.sampler.boundary
  sink : after.sink = before.sink
  /-- The thread has left the VM state again. -/
  inVm : after.runtime.inVm = before.runtime.inVm
  /-- A blob that a sample has stays, in every slot. -/
  kept : List.Forall₂ (fun old new => ∀ slot blob, old.blobAt slot = some blob →
    new.blobAt slot = some blob) before.sampler.samples after.sampler.samples
  bytes : before.blobs.Keeps after.blobs

section Failing

variable {host : Host σ ρ} {before after : Profiler σ ρ} {key : TraceKey}

/-- Such an attempt was admitted, could make its collections and had samples to resolve. -/
theorem walked_of_traceMissing
    (failed : rotate host before = (after, .error (.violation (.traceMissing key)))) :
    ∃ served rest cache, Walked host before.renewed after served rest cache := by
  have admits : before.Admits := by
    by_contra refused
    rw [rotate_of_refused host refused, refusal] at failed
    split at failed <;> cases failed
  cases fresh : before.sampler.hasUnresolved with
  | false =>
      rw [rotate_of_admits host admits, fresh, if_neg Bool.false_ne_true] at failed
      cases failed
  | true =>
      have roomy : before.options.Roomy := by
        by_contra cramped
        have refused := Resolution.ofOptions_of_not_roomy cramped before.renewed.blobs
          before.renewed.runtime.enterVm.lock
        rw [rotate_of_admits host admits, fresh, if_pos rfl, resolveFresh] at failed
        have stopped : Resolution.ofOptions before.renewed.options before.renewed.blobs
            before.renewed.runtime.enterVm.lock = .error .allocation := refused
        rw [stopped] at failed
        cases failed
      obtain ⟨next, served, rest, cache, walked, ends⟩ :=
        rotate_outcome admits roomy fresh failed
      rcases ends with ⟨_, success, _⟩ | ⟨_, _, _, _, _, _, rfl⟩
      · cases success
      · exact ⟨served, rest, cache, walked⟩

theorem refrained_of_traceMissing (linked : before.sampler.Linked)
    (failed : rotate host before = (after, .error (.violation (.traceMissing key)))) :
    Refrained before after := by
  obtain ⟨served, rest, cache, walked⟩ := walked_of_traceMissing failed
  have frame := walked.frame
  have settled : List.Forall₂ (fun old new => ∀ slot blob, Sample.blobAt old slot = some blob →
      Sample.blobAt new slot = some blob) before.sampler.unresolved
      (served.map (Resolution.settle cache) ++ rest) := by
    have split : before.sampler.unresolved = served ++ rest := walked.split
    rw [split]
    refine List.rel_append ?_ (List.forall₂_same.mpr fun _ _ _ _ held => held)
    rw [List.forall₂_map_right_iff, List.forall₂_same]
    intro sample _ slot blob held
    rw [Resolution.settle]
    split
    next needs =>
      have bare := (Sample.needsTrace_iff.mp needs).2
      cases slot with
      | stackTrace =>
          rw [show sample.blobAt .stackTrace = sample.stackTrace from rfl, bare] at held
          cases held
      | thread => exact held
      | typeSet => exact held
    next => exact held
  constructor
  · rw [frame]
    rfl
  · rw [walked.sampler]
    rfl
  · rw [frame]
    rfl
  · exact walked.inVm
  · rw [walked.sampler]
    exact linked.forall₂_replaceFront (fun _ _ _ held => held) settled
  · exact (BlobStore.keeps_resetBlobs before.blobs _).trans walked.blobs.keeps

end Failing

/-! ## Attempts over a log -/

end Profiler

/-- Recording a trace takes no answer back. -/
theorem TraceLog.lookup_record {log : TraceLog} {key : TraceKey} {found : Trace}
    (answered : log.lookup key = some found) (trace : Trace) :
    (log.record trace).lookup key = some found := by
  obtain ⟨filed, hash⟩ := Option.filter_eq_some_iff.mp answered
  rw [lookup, get?_record, if_neg (by simp [filed])]
  exact answered

theorem TraceLog.lookup_records {log : TraceLog} {key : TraceKey} {found : Trace}
    (answered : log.lookup key = some found) (traces : List Trace) :
    (traces.foldl TraceLog.record log).lookup key = some found := by
  induction traces generalizing log with
  | nil => exact answered
  | cons trace rest ih => exact ih (lookup_record answered trace)

theorem TraceLog.Keyed.records {log : TraceLog} (keyed : log.Keyed) (traces : List Trace) :
    (traces.foldl TraceLog.record log).Keyed := by
  induction traces generalizing log with
  | nil => exact keyed
  | cons trace rest ih => exact ih (keyed.record trace)

namespace Profiler

/-- What may happen between two attempts: traces are recorded, and whatever else happens, samples,
unloaded classes and tags stay, and blobs keep their bytes. -/
structure Waits (before after : Profiler σ TraceLog) : Prop where
  traces : ∃ recorded : List Trace, after.traces = recorded.foldl TraceLog.record before.traces
  sampler : after.sampler = before.sampler
  blobs : before.blobs.Keeps after.blobs
  unloaded : after.runtime.unloaded = before.runtime.unloaded
  tags : ∀ method, after.runtime.methodTags method = before.runtime.methodTags method

/-- The states that attempts lead to which all fail over a missing trace, with waits in between. -/
inductive Retried (host : Host σ TraceLog) (start : Profiler σ TraceLog) :
    Profiler σ TraceLog → Prop
  | start : Retried host start start
  | waits {now later : Profiler σ TraceLog} (retried : Retried host start now)
      (waits : Waits now later) : Retried host start later
  | fails {now later : Profiler σ TraceLog} {key : TraceKey} (retried : Retried host start now)
      (failed : rotate host now = (later, .error (.violation (.traceMissing key)))) :
      Retried host start later

section Log

variable {sink : Sink σ} {keepsCopy : Retention} {start now : Profiler σ TraceLog}

theorem Retried.keyed (retried : Retried ⟨sink, .log, keepsCopy⟩ start now)
    (keyed : start.traces.Keyed) (linked : start.sampler.Linked) :
    now.traces.Keyed ∧ ∃ front taken,
      Progress ⟨sink, .log, keepsCopy⟩ now.traces start now front taken := by
  induction retried with
  | start => exact ⟨keyed, _, _, .refl linked⟩
  | waits _ waits ih =>
      obtain ⟨keyed, front, taken, progress⟩ := ih
      obtain ⟨recorded, traces⟩ := waits.traces
      refine ⟨?_, front, taken,
        progress.wait ?_ waits.sampler waits.blobs waits.unloaded waits.tags⟩
      · rw [traces]
        exact keyed.records recorded
      · intro key trace found
        rw [traces]
        exact TraceLog.lookup_records found recorded
  | @fails now later key _ failed ih =>
      obtain ⟨keyed, front, taken, progress⟩ := ih
      have refrained := refrained_of_traceMissing (progress.linked linked) failed
      obtain ⟨served, rest, cache, walked⟩ := walked_of_traceMissing failed
      rw [refrained.traces]
      exact ⟨keyed, _, _, progress.walk linked walked⟩

end Log

/-- **A failed rotation can be retried.** However many attempts have failed over missing traces,
with traces recorded in between, none has released a trace, moved the boundary, touched the sink,
kept the thread in the VM state or replaced a blob. Once the traces that are needed are recorded,
the next attempt succeeds, and what it leaves has the stack traces and the tagged methods that a
single rotation at the start would have left, had all the traces been there. -/
theorem retried_settles (sink : Sink σ) (keepsCopy : Retention) {start now : Profiler σ TraceLog}
    (linked : start.sampler.Linked) (keyed : start.traces.Keyed) (holds : start.Holds)
    (retried : Retried ⟨sink, .log, keepsCopy⟩ start now) :
    let host : Host σ TraceLog := ⟨sink, .log, keepsCopy⟩
    (∀ after key, rotate host now = (after, .error (.violation (.traceMissing key))) →
      Refrained now after) ∧
    (start.Admits → start.options.Roomy → now.Admits → now.options.Roomy →
      (∀ sample ∈ now.sampler.unresolved, sample.needsTrace = true →
        ∃ trace, now.traces.lookup sample.key = some trace ∧ trace.frames.length < countLimit) →
      ∃ after stats direct once, rotate host now = (after, .ok stats) ∧
        rotate host { start with traces := now.traces } = (direct, .ok once) ∧
        SameTraces after direct) := by
  intro host
  obtain ⟨keyedNow, front, taken, progress⟩ := retried.keyed keyed linked
  refine ⟨fun after key failed => refrained_of_traceMissing (progress.linked linked) failed, ?_⟩
  intro admitsStart roomyStart admits roomy recorded
  have needed : ∀ key ∈ Sample.wanted now.sampler.unresolved,
      ∃ trace, Resolution.Serves host now.traces key trace := by
    intro key wanted
    obtain ⟨sample, member, needs, rfl⟩ := Sample.mem_wanted.mp wanted
    obtain ⟨trace, found⟩ := recorded sample member needs
    exact ⟨trace, (TraceLog.serves_iff keyedNow).mpr found⟩
  obtain ⟨stats, success⟩ :=
    (rotate_ok_iff (progress.linked linked) admits roomy).mpr needed
  -- Of the keys needed at the start some are taken, hence served, and the others are needed now.
  have neededOnce : ∀ key ∈ Sample.wanted start.sampler.unresolved,
      ∃ trace, Resolution.Serves host now.traces key trace := by
    intro key wanted
    rcases progress.cover key wanted with member | left
    · exact progress.served key member
    · rw [← progress.unresolved linked] at left
      exact needed key left
  have begun : Progress host now.traces start { start with traces := now.traces }
      start.sampler.unresolved [] :=
    (Progress.refl linked).wait (fun _ _ found => found) rfl (.refl _) rfl fun _ => rfl
  have admitsOnce : ({ start with traces := now.traces } : Profiler σ TraceLog).Admits :=
    admitsStart
  have roomyOnce : ({ start with traces := now.traces } : Profiler σ TraceLog).options.Roomy :=
    roomyStart
  obtain ⟨once, successOnce⟩ :=
    (rotate_ok_iff (begun.linked linked) admitsOnce roomyOnce).mpr neededOnce
  have done : rotate host now = ((rotate host now).1, .ok stats) := Prod.ext rfl success
  have doneOnce : rotate host { start with traces := now.traces } =
      ((rotate host { start with traces := now.traces }).1, .ok once) := Prod.ext rfl successOnce
  obtain ⟨last, _, settled, complete⟩ := progress.rotate_ok linked admits roomy done
  obtain ⟨lastOnce, _, settledOnce, completeOnce⟩ :=
    begun.rotate_ok linked admitsOnce roomyOnce doneOnce
  exact ⟨_, stats, _, once, done, doneOnce,
    settled.sameTraces linked holds complete settledOnce completeOnce⟩

/-- Two samples, of which the newer one's trace is recorded and calls a method. -/
def attempted : Profiler MemorySink TraceLog :=
  drive ⟨.memory, .log, Retention.unwritten⟩
    [.start,
      .capture (·.record { rootTrace with frames := [.ofMethod ⟨0x10001⟩ 1 0 .interpreted] }),
      .push (tracedDraft collidingTrace.key), .push (tracedDraft rootTrace.key)]
    (.create { Options.standard with queueSize := 1 } (.ofLimit none) .empty)

/-- The first attempt fails with one sample settled; once the other trace is recorded, the second
attempt ends like a single one. -/
theorem retried_settles_attempted :
    let host : Host MemorySink TraceLog := ⟨.memory, .log, Retention.unwritten⟩
    ∃ failed now after stats direct once,
      rotate host attempted = (failed, .error (.violation (.traceMissing collidingTrace.key))) ∧
      failed.sampler.samples.map (·.stackTrace.isSome) = [true, false] ∧
      Refrained attempted failed ∧
      now = { failed with traces := failed.traces.record collidingTrace } ∧
      rotate host now = (after, .ok stats) ∧
      rotate host { attempted with traces := now.traces } = (direct, .ok once) ∧
      SameTraces after direct := by
  intro host
  have linked : attempted.sampler.Linked := drive_linked _ _ (linked_create _ _ _)
  have keyed : attempted.traces.Keyed := TraceLog.keyed_empty.record _
  have bare : ∀ sample ∈ attempted.sampler.samples, sample.stackTrace = none := by decide
  have holds : attempted.Holds := by
    intro sample member blob carried
    rw [bare sample member] at carried
    cases carried
  have answer : (rotate host attempted).2 =
      .error (.violation (.traceMissing collidingTrace.key)) := by decide
  have samples : (rotate host attempted).1.sampler.samples.map (·.stackTrace.isSome) =
      [true, false] := by decide
  have admits : (rotate host attempted).1.Admits := ⟨by decide, by decide⟩
  have roomy : (rotate host attempted).1.options.Roomy := ⟨by decide, by decide⟩
  have keys : ∀ sample ∈ (rotate host attempted).1.sampler.unresolved,
      sample.needsTrace = true → sample.key = collidingTrace.key := by decide
  have recorded : ((rotate host attempted).1.traces.record collidingTrace).lookup
      collidingTrace.key = some collidingTrace := by decide
  generalize failing : rotate host attempted = outcome at *
  obtain ⟨failed, result⟩ := outcome
  cases answer
  have retried : Retried host attempted
      { failed with traces := failed.traces.record collidingTrace } :=
    .waits (.fails .start failing) ⟨⟨[collidingTrace], rfl⟩, rfl, .refl _, rfl, fun _ => rfl⟩
  have refrained := (retried_settles .memory Retention.unwritten linked keyed holds .start).1
    failed _ failing
  obtain ⟨after, stats, direct, once, done, doneOnce, same⟩ :=
    (retried_settles .memory Retention.unwritten linked keyed holds retried).2
      ⟨by decide, by decide⟩ ⟨by decide, by decide⟩ admits roomy fun sample member needs =>
        ⟨collidingTrace, keys sample member needs ▸ recorded, by decide⟩
  exact ⟨failed, _, after, stats, direct, once, rfl, samples, refrained, rfl, done, doneOnce, same⟩

end Profiler

end LeakRecorder
