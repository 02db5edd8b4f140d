/-
# LeakRecorder.Proofs.Boundary — the boundary splits the chain

A sampler walks its chain in three ways: all of it, what is in front of the boundary, and
the boundary with what is behind it. Whether anything is in front is asked apart from the
walks, of the newest sample and the boundary alone. Where the boundary marks a sample of
the chain, or none, the last two walks are the first one cut in two (`Sampler.Splits`).
This is a matter of numbers, so it holds also between the passes of a profiler, which
attach blobs to the samples on the way (`drive_splits`).

A `Linking` is what can be done with a sampler. The samples that a history of them has
linked in are said without a state (`linkedIn`), and so is the one marked last
(`markedLast`). `boundary_splits_chain` is the result: whatever the order in which samples
are linked in and marked, the walk of everything has the samples that were linked in, each
once and the newest first, and the boundary splits it.
-/
import LeakRecorder.Proofs.History
import LeakRecorder.Proofs.MarkedWindow
import LeakRecorder.Proofs.Periods
import Mathlib.Data.List.TakeWhile

set_option autoImplicit false

namespace LeakRecorder

namespace Sampler

/-! ## The two parts of a chain -/

/-- The boundary cuts the chain in two. -/
structure Splits (sampler : Sampler) : Prop where
  whole : sampler.unresolved ++ sampler.resolved = sampler.all
  first : sampler.resolved.head?.map (·.id) = sampler.boundary
  pending_iff : sampler.hasUnresolved = true ↔ sampler.unresolved ≠ []

namespace Bounded

variable {sampler : Sampler}

/-- The resolved samples are the chain from the boundary on. -/
theorem resolved_eq (bounded : sampler.Bounded) :
    sampler.resolved =
      match sampler.boundary with
      | none => []
      | some last => sampler.samples.dropWhile (·.id != last) := by
  rw [resolved]
  cases marked : sampler.boundary with
  | none => rfl
  | some last =>
      obtain ⟨sample, inside, rfl⟩ := bounded.marked last marked
      have noStray : sampler.strays.find? (·.id == sample.id) = none := by
        rw [List.find?_eq_none]
        intro stray member same
        exact bounded.linked.apart stray member sample inside (by simpa using same)
      show sampler.olderFrom sample.id = _
      rw [olderFrom, noStray]

theorem unresolved_append_resolved (bounded : sampler.Bounded) :
    sampler.unresolved ++ sampler.resolved = sampler.all := by
  rw [bounded.linked.unresolved_eq, bounded.resolved_eq, bounded.linked.all_eq]
  cases sampler.boundary with
  | none => exact List.append_nil _
  | some last => exact List.takeWhile_append_dropWhile

theorem head?_resolved (bounded : sampler.Bounded) :
    sampler.resolved.head?.map (·.id) = sampler.boundary := by
  rw [bounded.resolved_eq]
  cases marked : sampler.boundary with
  | none => rfl
  | some last =>
      obtain ⟨sample, inside, same⟩ := bounded.marked last marked
      have stops := List.head?_dropWhile_not (·.id != last) sampler.samples
      cases head : (sampler.samples.dropWhile (·.id != last)).head? with
      | none =>
          -- A walk that never stops has passed over the marked sample.
          have passed := List.dropWhile_eq_nil_iff.mp (List.head?_eq_none_iff.mp head) sample inside
          simp [same] at passed
      | some first =>
          rw [head] at stops
          have here : first.id = last := by simpa using stops
          exact congrArg some here

theorem hasUnresolved_iff (bounded : sampler.Bounded) :
    sampler.hasUnresolved = true ↔ sampler.unresolved ≠ [] := by
  constructor
  · intro pending none
    cases chain : sampler.samples with
    | nil => simp [hasUnresolved, newest?, chain] at pending
    | cons newest rest =>
        rw [bounded.linked.unresolved_eq, chain] at none
        rw [hasUnresolved, newest?, chain, List.head?_cons, Option.map_some] at pending
        cases marked : sampler.boundary with
        | none => simp [marked] at none
        | some last =>
            have differs : newest.id ≠ last := by simpa [marked] using pending
            simp [marked, differs] at none
  · intro some
    cases pending : sampler.hasUnresolved with
    | true => rfl
    | false => exact absurd (bounded.linked.unresolved_eq_nil pending) some

theorem splits (bounded : sampler.Bounded) : sampler.Splits where
  whole := bounded.unresolved_append_resolved
  first := bounded.head?_resolved
  pending_iff := bounded.hasUnresolved_iff

end Bounded

end Sampler

/-- Whatever is done with a profiler, the boundary splits the chain of its samples. -/
theorem drive_splits {σ ρ : Type} (host : Host σ ρ) (operations : List (Operation ρ))
    {start : Profiler σ ρ} (bounded : start.sampler.Bounded) :
    (drive host operations start).sampler.Splits :=
  (drive_bounded host operations bounded).splits

/-! ## What is done with a sampler -/

/-- One thing that is done with a sampler. -/
inductive Linking where
  /-- A sample is taken and linked in as the newest. -/
  | push (draft : Sample.Draft)
  /-- A sample is taken and linked in nowhere. -/
  | pushStray (draft : Sample.Draft)
  /-- The boundary is put on a sample, or taken away. -/
  | mark (boundary : Option SampleId)
  | sweep (time : Int64)

namespace Linking

def apply (sampler : Sampler) : Linking → Sampler
  | .push draft => (sampler.push draft).2
  | .pushStray draft => (sampler.pushStray draft).2
  | .mark boundary => sampler.setBoundary boundary
  | .sweep time => sampler.setLastSweep time

/-- What the boundary is put on. -/
def marked? : Linking → Option (Option SampleId)
  | .mark boundary => some boundary
  | _ => none

end Linking

/-- An empty sampler after a history. -/
def linkedSampler (history : List Linking) : Sampler := history.foldl Linking.apply .empty

/-- The samples that are linked in, oldest first, when `births` samples have been taken before. -/
def linkedAfter : Nat → List Linking → List Sample
  | _, [] => []
  | births, .push draft :: rest => .ofDraft ⟨births⟩ draft :: linkedAfter (births + 1) rest
  | births, .pushStray _ :: rest => linkedAfter (births + 1) rest
  | births, _ :: rest => linkedAfter births rest

/-- The samples that a history has linked in, newest first. -/
def linkedIn (history : List Linking) : List Sample := (linkedAfter 0 history).reverse

/-- The sample that was marked last, unless the mark was taken away. -/
def markedLast (history : List Linking) : Option SampleId := lastOf Linking.marked? none history

/-- Only samples that have been linked in are marked. -/
def Linking.Fits (history : List Linking) : Linking → Prop
  | .mark (some id) => ∃ sample ∈ linkedIn history, sample.id = id
  | _ => True

instance Linking.decidableFits (history : List Linking) (linking : Linking) :
    Decidable (linking.Fits history) :=
  match linking with
  | .push _ | .pushStray _ | .sweep _ | .mark none => .isTrue trivial
  | .mark (some id) => inferInstanceAs (Decidable (∃ sample ∈ linkedIn history, sample.id = id))

theorem samples_foldl (history : List Linking) (sampler : Sampler) :
    (history.foldl Linking.apply sampler).samples =
      (linkedAfter sampler.births history).reverse ++ sampler.samples := by
  induction history generalizing sampler with
  | nil => rfl
  | cons linking rest ih =>
      rw [List.foldl_cons, ih]
      cases linking with
      | push draft =>
          rw [linkedAfter, List.reverse_cons, List.append_assoc]
          rfl
      | pushStray draft | mark boundary | sweep time => rfl

theorem samples_linkedSampler (history : List Linking) :
    (linkedSampler history).samples = linkedIn history := by
  rw [linkedSampler, samples_foldl]
  exact List.append_nil _

theorem linkedSampler_concat (history : List Linking) (linking : Linking) :
    linkedSampler (history ++ [linking]) = linking.apply (linkedSampler history) := by
  rw [linkedSampler, List.foldl_append]
  rfl

theorem boundary_linkedSampler (history : List Linking) :
    (linkedSampler history).boundary = markedLast history := by
  induction history using List.reverseRecOn with
  | nil => rfl
  | append_singleton history linking ih =>
      rw [linkedSampler_concat, markedLast, lastOf_concat]
      cases linking with
      | mark boundary => rfl
      | push draft | pushStray draft | sweep time => exact ih

theorem counted_linkedSampler (history : List Linking) : (linkedSampler history).Counted := by
  induction history using List.reverseRecOn with
  | nil => rfl
  | append_singleton history linking ih =>
      rw [linkedSampler_concat]
      cases linking with
      | push draft => exact congrArg (· + 1) ih
      | pushStray draft | mark boundary | sweep time => exact ih

/-- A sample that is linked in leaves the others, and with them the marked one, in the chain. -/
theorem bounded_linkedSampler {history : List Linking} (fits : Throughout Linking.Fits history) :
    (linkedSampler history).Bounded := by
  induction history using List.reverseRecOn with
  | nil => exact Sampler.bounded_empty
  | append_singleton history linking ih =>
      have fit := fits.last
      have before := ih fits.front
      rw [linkedSampler_concat]
      cases linking with
      | push draft =>
          refine ⟨before.linked.push draft, fun last marked => ?_⟩
          obtain ⟨sample, inside, same⟩ := before.marked last marked
          exact ⟨sample, List.mem_cons_of_mem _ inside, same⟩
      | pushStray draft => exact ⟨before.linked.pushStray draft, before.marked⟩
      | sweep time => exact ⟨before.linked.setLastSweep time, before.marked⟩
      | mark boundary =>
          refine ⟨before.linked.setBoundary boundary, fun last marked => ?_⟩
          change boundary = some last at marked
          subst marked
          have inside : ∃ sample ∈ linkedIn history, sample.id = last := fit
          rw [← samples_linkedSampler] at inside
          exact inside

/-- **The boundary always splits the chain.** In whatever order samples are linked in and one of
them is marked, or none: the walk of everything has the samples that were linked in, each once and
the newest first, and there are as many as the sampler counts. The boundary is what was marked last.
The unresolved and the resolved samples in a row are the walk of everything, the boundary is the
first of the resolved ones, and the sampler says that it has unresolved samples exactly if the walk
of them has any. -/
theorem boundary_splits_chain {history : List Linking} (fits : Throughout Linking.Fits history) :
    let sampler := linkedSampler history
    sampler.all = linkedIn history ∧ (sampler.all.map (·.id)).Nodup ∧
      sampler.size = (linkedIn history).length ∧ sampler.boundary = markedLast history ∧
      sampler.Splits := by
  intro sampler
  have bounded := bounded_linkedSampler fits
  have chain : sampler.samples = linkedIn history := samples_linkedSampler history
  have size := (counted_linkedSampler history).trans (congrArg List.length chain)
  refine ⟨bounded.linked.all_eq.trans chain, ?_, size, boundary_linkedSampler history,
    bounded.splits⟩
  rw [bounded.linked.all_eq]
  exact bounded.linked.nodup_ids

/-- Samples are linked in before and after marks, one is left out, and the mark goes back to the
oldest. -/
def remarked : List Linking :=
  [.push (Profiler.timedDraft 1), .mark (some ⟨0⟩), .pushStray (Profiler.timedDraft 2),
    .push (Profiler.timedDraft 3), .push (Profiler.timedDraft 4), .mark (some ⟨3⟩), .mark none,
    .mark (some ⟨0⟩)]

theorem boundary_splits_chain_remarked :
    let sampler := linkedSampler remarked
    Throughout Linking.Fits remarked ∧
      sampler.all.map (·.id) = [⟨3⟩, ⟨2⟩, ⟨0⟩] ∧ sampler.size = 3 ∧
      sampler.unresolved.map (·.id) = [⟨3⟩, ⟨2⟩] ∧ sampler.resolved.head?.map (·.id) = some ⟨0⟩ ∧
      sampler.hasUnresolved = true := by
  intro sampler
  have fits : Throughout Linking.Fits remarked := by decide
  obtain ⟨all, -, size, boundary, splits⟩ := boundary_splits_chain fits
  refine ⟨fits, ?_, size, by decide, splits.first.trans boundary, ?_⟩
  · rw [all]
    decide
  · exact splits.pending_iff.mpr (by decide)

end LeakRecorder
