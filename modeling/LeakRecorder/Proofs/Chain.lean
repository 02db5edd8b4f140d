/-
# LeakRecorder.Proofs.Chain — the samples are one chain, newest first

A sampler numbers its samples as it takes them and links each new one in at the
front. `Sampler.Linked` says what follows for every sampler that was built this
way: along the chain the numbers fall, and a stray has a number of its own. It
is what makes a walk by number a walk of the chain:

* a walk of everything is the chain (`Linked.all_eq`);
* the unresolved samples are a front of the chain (`Linked.unresolved_isPrefix`);
* the emission window is a filter of the chain (`Linked.window_eq`).

Attaching blobs and clearing objects change no number, so they keep the sampler
linked whatever else they do (`Linked.of_ids`).
-/
import LeakRecorder.Sampler
import Mathlib.Data.List.Forall2
import Mathlib.Data.List.Nodup

set_option autoImplicit false

namespace LeakRecorder

namespace Sampler

/-- The numbers of the samples fall from the newest to the oldest, and no stray
has the number of a linked sample. -/
structure Linked (sampler : Sampler) : Prop where
  falling : sampler.samples.Pairwise fun newer older => older.id.birth < newer.id.birth
  born : ∀ sample ∈ sampler.samples, sample.id.birth < sampler.births
  strayBorn : ∀ stray ∈ sampler.strays, stray.id.birth < sampler.births
  apart : ∀ stray ∈ sampler.strays, ∀ sample ∈ sampler.samples, stray.id ≠ sample.id

/-- The samples that a write describes: the object is alive and was allocated
before the last sweep, or at any time but the last representable one. -/
def visited (sampler : Sampler) (emitAll : Bool) : List Sample :=
  sampler.samples.filter fun sample =>
    sample.object.isSome &&
      decide (sample.allocatedAt < if emitAll then Int64.maxValue else sampler.lastSweep)

/-! ## Walks -/

namespace Linked

variable {sampler : Sampler}

/-- A walk that starts at the newest sample goes through the chain. -/
theorem olderFrom_newest (linked : sampler.Linked) {newest : Sample} {rest : List Sample}
    (chain : sampler.samples = newest :: rest) :
    sampler.olderFrom newest.id = sampler.samples := by
  have noStray : sampler.strays.find? (fun stray => stray.id == newest.id) = none := by
    rw [List.find?_eq_none]
    intro stray member same
    exact linked.apart stray member newest (by simp [chain]) (by simpa using same)
  simp [olderFrom, noStray, chain]

theorem all_eq (linked : sampler.Linked) : sampler.all = sampler.samples := by
  cases chain : sampler.samples with
  | nil => simp [all, newest?, walk, chain]
  | cons newest rest =>
      have walked := linked.olderFrom_newest chain
      simp only [all, newest?, walk, chain, List.head?_cons, Option.map_some]
      rw [walked, chain]

theorem window_eq (linked : sampler.Linked) (emitAll : Bool) :
    sampler.window emitAll = sampler.visited emitAll := by
  rw [window, linked.all_eq, visited]
  apply List.filter_congr
  intro sample _
  simp only [Sample.isAliveAndOlderThan, Sample.isDead, horizon, Option.not_isNone]
  rfl

/-- The unresolved samples are those in front of the boundary. -/
theorem unresolved_eq (linked : sampler.Linked) :
    sampler.unresolved =
      match sampler.boundary with
      | none => sampler.samples
      | some last => sampler.samples.takeWhile (·.id != last) := by
  cases chain : sampler.samples with
  | nil => cases boundary : sampler.boundary <;> simp [unresolved, newest?, walk, chain]
  | cons newest rest =>
      have walked := linked.olderFrom_newest chain
      rw [unresolved, newest?, chain, List.head?_cons, Option.map_some, ← chain]
      cases sampler.boundary with
      | none => exact walked
      | some last => exact congrArg (List.takeWhile (·.id != last)) walked

/-- Which samples are unresolved is a matter of their numbers. -/
theorem ids_unresolved (linked : sampler.Linked) :
    sampler.unresolved.map (·.id) =
      match sampler.boundary with
      | none => sampler.samples.map (·.id)
      | some last => (sampler.samples.map (·.id)).takeWhile (· != last) := by
  rw [linked.unresolved_eq]
  cases sampler.boundary with
  | none => rfl
  | some last =>
      dsimp only
      rw [List.takeWhile_map]
      rfl

theorem unresolved_isPrefix (linked : sampler.Linked) :
    sampler.unresolved <+: sampler.samples := by
  rw [linked.unresolved_eq]
  cases sampler.boundary with
  | none => exact List.prefix_refl _
  | some last => exact List.takeWhile_prefix _

/-- The unresolved samples in their own place change nothing. -/
theorem replaceFront_unresolved (linked : sampler.Linked) :
    sampler.replaceFront sampler.unresolved = sampler := by
  obtain ⟨rest, chain⟩ := linked.unresolved_isPrefix
  have drop : sampler.samples.drop sampler.unresolved.length = rest := by
    rw [← chain, List.drop_left]
  rw [Sampler.replaceFront, drop, chain]

theorem unresolved_eq_nil (linked : sampler.Linked) (none : sampler.hasUnresolved = false) :
    sampler.unresolved = [] := by
  cases chain : sampler.samples with
  | nil => simp [unresolved, newest?, walk, chain]
  | cons newest rest =>
      have walked := linked.olderFrom_newest chain
      rw [hasUnresolved, newest?, chain, List.head?_cons, Option.map_some] at none
      rw [unresolved, newest?, chain, List.head?_cons, Option.map_some]
      cases marked : sampler.boundary with
      | none => simp [marked] at none
      | some last =>
          have same : newest.id = last := by simpa [marked] using none
          show (sampler.olderFrom newest.id).takeWhile (·.id != last) = []
          rw [walked, chain]
          simp [same]

end Linked

/-! ## Which samples the boundary leaves unresolved -/

/-- The boundary, if there is one, is older than the sample. -/
def IsFresh (sampler : Sampler) (id : SampleId) : Prop :=
  ∀ last, sampler.boundary = some last → last.birth < id.birth

/-- The boundary marks a sample of the chain, if it marks any. -/
def Marked (sampler : Sampler) : Prop :=
  ∀ last, sampler.boundary = some last → ∃ sample ∈ sampler.samples, sample.id = last

/-- Before a sample of a falling chain stand the ones with a larger number. -/
theorem mem_takeWhile_iff {samples : List Sample}
    (falling : samples.Pairwise fun newer older => older.id.birth < newer.id.birth)
    {last : SampleId} (marked : ∃ sample ∈ samples, sample.id = last) {sample : Sample} :
    sample ∈ samples.takeWhile (·.id != last) ↔
      sample ∈ samples ∧ last.birth < sample.id.birth := by
  induction samples with
  | nil => simp at marked
  | cons newest rest ih =>
      rw [List.pairwise_cons] at falling
      by_cases here : newest.id = last
      · subst here
        rw [List.takeWhile_cons_of_neg (by simp), List.mem_cons]
        constructor
        · intro member
          cases member
        · rintro ⟨rfl | older, larger⟩
          · exact absurd larger (Nat.lt_irrefl _)
          · have smaller := falling.1 sample older
            omega
      · obtain ⟨found, inside, same⟩ := marked
        have later : found ∈ rest := by
          rcases List.mem_cons.mp inside with rfl | later
          · exact absurd same here
          · exact later
        have larger : last.birth < newest.id.birth := by
          rw [← same]
          exact falling.1 found later
        rw [List.takeWhile_cons_of_pos (by simpa using here), List.mem_cons, List.mem_cons,
          ih falling.2 ⟨found, later, same⟩]
        constructor
        · rintro (rfl | ⟨older, newer⟩)
          · exact ⟨.inl rfl, larger⟩
          · exact ⟨.inr older, newer⟩
        · rintro ⟨rfl | older, newer⟩
          · exact .inl rfl
          · exact .inr ⟨older, newer⟩

namespace Linked

variable {sampler : Sampler}

theorem mem_unresolved_iff (linked : sampler.Linked) (marked : sampler.Marked)
    {sample : Sample} :
    sample ∈ sampler.unresolved ↔ sample ∈ sampler.samples ∧ sampler.IsFresh sample.id := by
  cases chain : sampler.samples with
  | nil => simp [unresolved, newest?, walk, chain]
  | cons newest rest =>
      have walked := linked.olderFrom_newest chain
      rw [unresolved, newest?, chain, List.head?_cons, Option.map_some, ← chain]
      cases last : sampler.boundary with
      | none =>
          show sample ∈ sampler.olderFrom newest.id ↔ _
          rw [walked]
          simp [IsFresh, last]
      | some last' =>
          show sample ∈ (sampler.olderFrom newest.id).takeWhile (·.id != last') ↔ _
          rw [walked, mem_takeWhile_iff linked.falling (marked last' last)]
          simp [IsFresh, last]

/-- The newest sample is one of the chain, and none has a larger number. -/
theorem of_newest (linked : sampler.Linked) {last : SampleId}
    (newest : sampler.newest? = some last) :
    (∃ sample ∈ sampler.samples, sample.id = last) ∧
      ∀ sample ∈ sampler.samples, sample.id.birth ≤ last.birth := by
  cases chain : sampler.samples with
  | nil => simp [newest?, chain] at newest
  | cons first rest =>
      have same : first.id = last := by simpa [newest?, chain] using newest
      have falling := linked.falling
      rw [chain, List.pairwise_cons] at falling
      refine ⟨⟨first, List.mem_cons_self, same⟩, ?_⟩
      intro sample member
      rw [← same]
      rcases List.mem_cons.mp member with rfl | older
      · exact Nat.le_refl _
      · exact Nat.le_of_lt (falling.1 sample older)

theorem nodup_ids (linked : sampler.Linked) : (sampler.samples.map (·.id)).Nodup := by
  refine List.pairwise_map.mpr (linked.falling.imp ?_)
  intro newer older less equal
  rw [equal] at less
  exact absurd less (Nat.lt_irrefl _)

/-- A number names one sample of the chain. -/
theorem eq_of_id (linked : sampler.Linked) {sample other : Sample}
    (member : sample ∈ sampler.samples) (inside : other ∈ sampler.samples)
    (same : sample.id = other.id) : sample = other :=
  List.inj_on_of_nodup_map linked.nodup_ids member inside same

theorem find?_eq (linked : sampler.Linked) {sample : Sample}
    (member : sample ∈ sampler.samples) : sampler.find? sample.id = some sample := by
  rw [find?]
  cases found : sampler.samples.find? (·.id == sample.id) with
  | none =>
      have differs := List.find?_eq_none.mp found sample member
      simp at differs
  | some other =>
      have same : other.id = sample.id := by simpa using List.find?_some found
      have inside := List.mem_of_find?_eq_some found
      rw [linked.eq_of_id inside member same]
      rfl

end Linked

/-! ## What keeps a sampler linked -/

/-- Samples that stand for others one by one, and keep their numbers. -/
theorem ids_of_forall₂ {Stands : Sample → Sample → Prop} {samples front : List Sample}
    (each : List.Forall₂ Stands samples front)
    (same : ∀ old new, Stands old new → new.id = old.id) :
    front.map (·.id) = samples.map (·.id) := by
  induction each with
  | nil => rfl
  | cons head _ ih => rw [List.map_cons, List.map_cons, ih, same _ _ head]

theorem linked_empty : empty.Linked where
  falling := List.Pairwise.nil
  born := by simp [empty]
  strayBorn := by simp [empty]
  apart := by simp [empty]

namespace Linked

variable {sampler : Sampler}

theorem push (linked : sampler.Linked) (draft : Sample.Draft) : (sampler.push draft).2.Linked where
  falling := List.pairwise_cons.mpr ⟨fun older member => linked.born older member, linked.falling⟩
  born := by
    intro sample member
    rcases List.mem_cons.mp member with rfl | member
    · exact Nat.lt_succ_self _
    · exact Nat.lt_succ_of_lt (linked.born sample member)
  strayBorn := by
    intro stray member
    exact Nat.lt_succ_of_lt (linked.strayBorn stray member)
  apart := by
    intro stray strayMember sample member
    rcases List.mem_cons.mp member with rfl | member
    · intro same
      have older := linked.strayBorn stray strayMember
      rw [same] at older
      exact absurd older (Nat.lt_irrefl _)
    · exact linked.apart stray strayMember sample member

theorem pushStray (linked : sampler.Linked) (draft : Sample.Draft) :
    (sampler.pushStray draft).2.Linked where
  falling := linked.falling
  born := by
    intro sample member
    exact Nat.lt_succ_of_lt (linked.born sample member)
  strayBorn := by
    intro stray member
    rcases List.mem_cons.mp member with rfl | member
    · exact Nat.lt_succ_self _
    · exact Nat.lt_succ_of_lt (linked.strayBorn stray member)
  apart := by
    intro stray strayMember sample member
    rcases List.mem_cons.mp strayMember with rfl | strayMember
    · intro same
      have older := linked.born sample member
      rw [← same] at older
      exact absurd older (Nat.lt_irrefl _)
    · exact linked.apart stray strayMember sample member

/-- Being linked is a matter of numbers alone. -/
theorem of_ids {changed : Sampler} (linked : sampler.Linked)
    (samples : changed.samples.map (·.id) = sampler.samples.map (·.id))
    (strays : changed.strays.map (·.id) = sampler.strays.map (·.id))
    (births : changed.births = sampler.births) : changed.Linked := by
  have member : ∀ sample ∈ changed.samples, ∃ same ∈ sampler.samples, same.id = sample.id := by
    intro sample inside
    have : sample.id ∈ sampler.samples.map (·.id) := samples ▸ List.mem_map_of_mem inside
    simpa using this
  have strayMember : ∀ stray ∈ changed.strays, ∃ same ∈ sampler.strays, same.id = stray.id := by
    intro stray inside
    have : stray.id ∈ sampler.strays.map (·.id) := strays ▸ List.mem_map_of_mem inside
    simpa using this
  constructor
  · have falling : (sampler.samples.map (·.id)).Pairwise fun newer older =>
        older.birth < newer.birth := List.pairwise_map.mpr linked.falling
    rw [← samples] at falling
    exact List.pairwise_map.mp falling
  · intro sample inside
    obtain ⟨same, old, id⟩ := member sample inside
    rw [births, ← id]
    exact linked.born same old
  · intro stray inside
    obtain ⟨same, old, id⟩ := strayMember stray inside
    rw [births, ← id]
    exact linked.strayBorn same old
  · intro stray strayInside sample inside
    obtain ⟨sameStray, oldStray, strayId⟩ := strayMember stray strayInside
    obtain ⟨same, old, id⟩ := member sample inside
    rw [← strayId, ← id]
    exact linked.apart sameStray oldStray same old

theorem setBoundary (linked : sampler.Linked) (boundary : Option SampleId) :
    (sampler.setBoundary boundary).Linked :=
  linked.of_ids rfl rfl rfl

theorem setLastSweep (linked : sampler.Linked) (time : Int64) :
    (sampler.setLastSweep time).Linked :=
  linked.of_ids rfl rfl rfl

theorem modify (linked : sampler.Linked) (id : SampleId) {change : Sample → Sample}
    (sameId : ∀ sample, (change sample).id = sample.id) : (sampler.modify id change).Linked := by
  have touched : ∀ samples : List Sample,
      (samples.map fun sample => if sample.id = id then change sample else sample).map (·.id) =
        samples.map (·.id) := by
    intro samples
    rw [List.map_map]
    apply List.map_congr_left
    intro sample _
    simp only [Function.comp_apply]
    split
    · exact sameId sample
    · rfl
  exact linked.of_ids (touched _) (touched _) rfl

/-- Samples that stand for the unresolved ones, number by number, can take their place. -/
theorem ids_replaceFront (linked : sampler.Linked) {front : List Sample}
    (same : front.map (·.id) = sampler.unresolved.map (·.id)) :
    (sampler.replaceFront front).samples.map (·.id) = sampler.samples.map (·.id) := by
  obtain ⟨rest, chain⟩ := linked.unresolved_isPrefix
  have length : front.length = sampler.unresolved.length := by
    simpa using congrArg List.length same
  calc (sampler.replaceFront front).samples.map (·.id)
      = front.map (·.id) ++ (sampler.samples.drop front.length).map (·.id) := by
        simp [Sampler.replaceFront]
    _ = sampler.unresolved.map (·.id) ++ rest.map (·.id) := by
        rw [same, length, ← chain, List.drop_left]
    _ = sampler.samples.map (·.id) := by
        rw [← chain, List.map_append]

theorem replaceFront (linked : sampler.Linked) {front : List Sample}
    (same : front.map (·.id) = sampler.unresolved.map (·.id)) :
    (sampler.replaceFront front).Linked :=
  linked.of_ids (linked.ids_replaceFront same) rfl rfl

/-- Where each of them stands for its predecessor, so does each sample of the chain. -/
theorem forall₂_replaceFront (linked : sampler.Linked) {Stands : Sample → Sample → Prop}
    (refl : ∀ sample, Stands sample sample) {front : List Sample}
    (each : List.Forall₂ Stands sampler.unresolved front) :
    List.Forall₂ Stands sampler.samples (sampler.replaceFront front).samples := by
  obtain ⟨rest, chain⟩ := linked.unresolved_isPrefix
  have drop : sampler.samples.drop front.length = rest := by
    rw [← each.length_eq, ← chain, List.drop_left]
  show List.Forall₂ _ sampler.samples (front ++ sampler.samples.drop front.length)
  rw [drop, ← chain]
  exact List.rel_append each (List.forall₂_same.mpr fun sample _ => refl sample)

theorem hasUnresolved_replaceFront (linked : sampler.Linked) {front : List Sample}
    (same : front.map (·.id) = sampler.unresolved.map (·.id)) :
    (sampler.replaceFront front).hasUnresolved = sampler.hasUnresolved := by
  have newest : (sampler.replaceFront front).newest? = sampler.newest? := by
    rw [newest?, ← List.head?_map, linked.ids_replaceFront same, List.head?_map, newest?]
  rw [hasUnresolved, newest, hasUnresolved]
  rfl

/-- They are then the unresolved ones. -/
theorem unresolved_replaceFront (linked : sampler.Linked) {front : List Sample}
    (same : front.map (·.id) = sampler.unresolved.map (·.id)) :
    (sampler.replaceFront front).unresolved = front := by
  have replaced := linked.replaceFront same
  have ids : (sampler.replaceFront front).unresolved.map (·.id) = front.map (·.id) := by
    rw [same, replaced.ids_unresolved, linked.ids_unresolved, linked.ids_replaceFront same]
    rfl
  have length : (sampler.replaceFront front).unresolved.length = front.length := by
    simpa using congrArg List.length ids
  have inFront : front <+: (sampler.replaceFront front).samples := List.prefix_append _ _
  exact (List.prefix_of_prefix_length_le replaced.unresolved_isPrefix inFront
    (Nat.le_of_eq length)).eq_of_length length

end Linked

end Sampler

end LeakRecorder
