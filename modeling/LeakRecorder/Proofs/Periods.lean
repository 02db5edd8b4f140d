/-
# LeakRecorder.Proofs.Periods — the type set of a sample's period

A period ends with a type-set pass that succeeds; the samples that were taken since the
last one belong to it and get its type set. Which samples these are is nowhere recorded:
the pass goes by the boundary. `firstTypeSet` is what the run says, the type set of the
first pass that has succeeded after a sample was taken, and the samples always have it
(`type_sets_by_period`).

The proof relates the two. `Dated` says what every operation does to the type sets: none
but those of the samples in front of the boundary change, and these only when a period
ends. Ending a period leaves no sample in front of the boundary, taking a sample puts it
there, and nothing else moves the boundary. So a sample waits in front of the boundary
without a type set (`drive_waiting`) until its period ends; from then on it is behind the
boundary, and what it has by then it keeps (`drive_passed`).
-/
import LeakRecorder.Proofs.Operations

set_option autoImplicit false

namespace LeakRecorder

variable {σ ρ : Type}

/-! ## What the run says -/

/-- The type set with which the operation ends a period, if it is a type-set pass and succeeds. -/
def Operation.ended : Operation ρ → Profiler σ ρ → Option (Option BlobId)
  | .installTypeSet typeSet, profiler =>
      match (profiler.installTypeSet typeSet).2 with
      | .ok _ => some typeSet
      | .error _ => none
  | _, _ => none

/-- The type set of the first period that ends during the run; none if it ends without one, or if
none ends. -/
def firstTypeSet (host : Host σ ρ) : List (Operation ρ) → Profiler σ ρ → Option BlobId
  | [], _ => none
  | operation :: rest, profiler =>
      match operation.ended profiler with
      | some typeSet => typeSet
      | none => firstTypeSet host rest (operation.step host profiler).1

/-! ## A type-set pass -/

theorem Sample.typeSet_attach (sample : Sample) (blob : BlobId) :
    (sample.attach .typeSet blob).typeSet = sample.typeSet.or (some blob) := by
  rw [attach]
  cases sample.typeSet <;> rfl

namespace Profiler

variable (profiler : Profiler σ ρ) (typeSet : Option BlobId)

theorem installTypeSet_of_stopped {profiler : Profiler σ ρ} (stopped : profiler.running = false) :
    profiler.installTypeSet typeSet = (profiler, .error (stoppedDuring .typeSet)) := by
  unfold installTypeSet
  simp [stopped]

/-- While nothing is unresolved, a type-set pass does nothing. -/
theorem installTypeSet_of_resolved {profiler : Profiler σ ρ} (running : profiler.running = true)
    (resolved : profiler.sampler.hasUnresolved = false) :
    profiler.installTypeSet typeSet = (profiler, .ok 0) := by
  unfold installTypeSet
  simp [running, resolved]

/-- The unresolved samples with the type set, if there is one; a sample that has one keeps it. -/
def freshWith : List Sample :=
  match typeSet with
  | none => profiler.sampler.unresolved
  | some blob => profiler.sampler.unresolved.map (·.attach .typeSet blob)

theorem installTypeSet_of_fresh {profiler : Profiler σ ρ} (linked : profiler.sampler.Linked)
    (running : profiler.running = true) (fresh : profiler.sampler.hasUnresolved = true) :
    profiler.installTypeSet typeSet =
      ({ profiler with
          sampler := (profiler.sampler.replaceFront (profiler.freshWith typeSet)).setBoundary
            profiler.sampler.newest? },
        .ok (if typeSet = none then 0
          else profiler.sampler.unresolved.countP (·.typeSet.isNone))) := by
  unfold installTypeSet
  rw [running, fresh]
  cases typeSet with
  | none =>
      rw [freshWith, linked.replaceFront_unresolved]
      rfl
  | some blob => rfl

/-- What can come of a type-set pass: it is refused, it finds nothing unresolved, or it installs the
type set and moves the boundary. -/
theorem installTypeSet_cases {profiler : Profiler σ ρ} (linked : profiler.sampler.Linked) :
    (profiler.running = false ∧
        profiler.installTypeSet typeSet = (profiler, .error (stoppedDuring .typeSet))) ∨
      (profiler.running = true ∧ profiler.sampler.hasUnresolved = false ∧
        profiler.installTypeSet typeSet = (profiler, .ok 0)) ∨
      (profiler.running = true ∧ profiler.sampler.hasUnresolved = true ∧
        profiler.installTypeSet typeSet =
          ({ profiler with
              sampler := (profiler.sampler.replaceFront (profiler.freshWith typeSet)).setBoundary
                profiler.sampler.newest? },
            .ok (if typeSet = none then 0
              else profiler.sampler.unresolved.countP (·.typeSet.isNone)))) := by
  rcases Bool.eq_false_or_eq_true profiler.running with running | stopped
  · rcases Bool.eq_false_or_eq_true profiler.sampler.hasUnresolved with fresh | resolved
    · have installed := installTypeSet_of_fresh typeSet linked running fresh
      exact .inr (.inr ⟨running, fresh, installed⟩)
    · have nothing := installTypeSet_of_resolved typeSet running resolved
      exact .inr (.inl ⟨running, resolved, nothing⟩)
  · exact .inl ⟨stopped, installTypeSet_of_stopped typeSet stopped⟩

/-- It succeeds exactly while the profiler runs. -/
theorem ended_installTypeSet :
    (Operation.installTypeSet typeSet : Operation ρ).ended profiler =
      if profiler.running then some typeSet else none := by
  rw [Operation.ended, installTypeSet]
  cases profiler.running with
  | false => rfl
  | true =>
      cases profiler.sampler.hasUnresolved with
      | false => rfl
      | true => cases typeSet <;> rfl

end Profiler

/-- The boundary only moves when a period ends. -/
theorem Operation.ended_of_advances {operation : Operation ρ} {profiler : Profiler σ ρ}
    (advances : operation.advances profiler = true) : (operation.ended profiler).isSome = true := by
  cases operation with
  | installTypeSet typeSet =>
      have both : (profiler.running && profiler.sampler.hasUnresolved) = true := advances
      rw [Bool.and_eq_true] at both
      rw [Profiler.ended_installTypeSet, if_pos both.1]
      rfl
  | _ => cases advances

/-! ## One operation -/

/-- What an operation does to the type set of a sample. -/
structure Dates (before : Profiler σ ρ) (ended : Option (Option BlobId)) (old new : Sample) :
    Prop where
  id : new.id = old.id
  typeSet : new.typeSet =
    if old ∈ before.sampler.unresolved then old.typeSet.or ended.join else old.typeSet

/-- What an operation has done to the type sets. -/
def Dated (operation : Operation ρ) (before after : Profiler σ ρ) : Prop :=
  ∃ dated, after.sampler.samples = operation.taken before ++ dated ∧
    List.Forall₂ (Dates before (operation.ended before)) before.sampler.samples dated

section Dated

variable {host : Host σ ρ} {operation : Operation ρ} {before after : Profiler σ ρ}

/-- Without the end of a period, a sample that keeps its type set is dated. -/
theorem Dates.kept {old new : Sample} (id : new.id = old.id) (typeSet : new.typeSet = old.typeSet) :
    Dates before none old new := by
  refine ⟨id, ?_⟩
  rw [typeSet, Option.join_none, Option.or_none, ite_self]

theorem dated_same (samples : List Sample) : List.Forall₂ (Dates before none) samples samples :=
  List.forall₂_same.mpr fun _ _ => Dates.kept rfl rfl

/-- An operation that leaves the samples alone and ends no period. -/
theorem dated_of_samples (taken : operation.taken before = [])
    (goesOn : operation.ended before = none)
    (samples : after.sampler.samples = before.sampler.samples) : Dated operation before after := by
  refine ⟨before.sampler.samples, ?_, ?_⟩
  · rw [samples, taken, List.nil_append]
  · rw [goesOn]
    exact dated_same _

/-- A rotation leaves the type sets alone. -/
theorem dated_of_turned {front : List Sample} (linked : before.sampler.Linked)
    (taken : operation.taken before = []) (goesOn : operation.ended before = none)
    (turned : Profiler.Turned host before after front) : Dated operation before after := by
  have each : List.Forall₂ (Dates before none) before.sampler.unresolved front := by
    refine turned.front.imp fun old new attaches => ?_
    cases attaches with
    | same => exact Dates.kept rfl rfl
    | attached empty built => exact Dates.kept rfl rfl
  refine ⟨after.sampler.samples, ?_, ?_⟩
  · rw [taken, List.nil_append]
  · rw [goesOn, turned.sampler]
    exact linked.forall₂_replaceFront (fun _ => Dates.kept rfl rfl) each

theorem sampler_write (chains : ReferenceChains) (emitAll : Bool) :
    (before.write host chains emitAll).1.sampler = before.sampler := by
  rw [Profiler.write_eq]
  cases reserve before.options.passSetSize with
  | error cause => rfl
  | ok _ => cases before.compose host chains emitAll <;> rfl

theorem Sampler.Linked.disjoint_unresolved {sampler : Sampler} (linked : sampler.Linked)
    {rest : List Sample} (chain : sampler.unresolved ++ rest = sampler.samples) {sample : Sample}
    (member : sample ∈ rest) : sample ∉ sampler.unresolved := by
  have apart : (sampler.unresolved ++ rest).Nodup := by
    rw [chain]
    exact linked.nodup_ids.of_map _
  intro unresolved
  exact (List.nodup_append.mp apart).2.2 sample unresolved sample member rfl

/-- The samples in front of the boundary are dated with the type set. -/
theorem dates_freshWith (before : Profiler σ ρ) (typeSet : Option BlobId) :
    List.Forall₂ (Dates before (some typeSet)) before.sampler.unresolved
      (before.freshWith typeSet) := by
  cases typeSet with
  | none =>
      refine List.forall₂_same.mpr fun old member => ⟨rfl, ?_⟩
      rw [if_pos member]
      exact Option.or_none.symm
  | some blob =>
      refine List.forall₂_map_right_iff.mpr (List.forall₂_same.mpr fun old member => ?_)
      refine ⟨rfl, ?_⟩
      rw [if_pos member]
      exact old.typeSet_attach blob

/-- A type-set pass dates the samples in front of the boundary, and no others. -/
theorem dated_installTypeSet (linked : before.sampler.Linked) (typeSet : Option BlobId) :
    Dated (.installTypeSet typeSet) before (before.installTypeSet typeSet).1 := by
  have ended := before.ended_installTypeSet typeSet
  rcases Profiler.installTypeSet_cases typeSet linked with
    ⟨stopped, refused⟩ | ⟨running, resolved, nothing⟩ | ⟨running, -, installed⟩
  · rw [stopped, if_neg Bool.false_ne_true] at ended
    rw [refused]
    exact dated_of_samples rfl ended rfl
  · rw [running, if_pos rfl] at ended
    rw [nothing, Dated, ended]
    refine ⟨before.sampler.samples, rfl, List.forall₂_same.mpr fun old _ => ⟨rfl, ?_⟩⟩
    rw [linked.unresolved_eq_nil resolved, if_neg List.not_mem_nil]
  · rw [running, if_pos rfl] at ended
    obtain ⟨rest, chain⟩ := linked.unresolved_isPrefix
    have front := dates_freshWith before typeSet
    have back : List.Forall₂ (Dates before (some typeSet)) rest rest := by
      refine List.forall₂_same.mpr fun old member => ⟨rfl, ?_⟩
      rw [if_neg (linked.disjoint_unresolved chain member)]
    have drop : before.sampler.samples.drop (before.freshWith typeSet).length = rest := by
      rw [← front.length_eq, ← chain, List.drop_left]
    rw [installed, Dated, ended]
    refine ⟨before.freshWith typeSet ++ rest, ?_, ?_⟩
    · show before.freshWith typeSet ++ before.sampler.samples.drop _ = _
      rw [drop]
      rfl
    · rw [← chain]
      exact List.rel_append front back

/-- Says what every operation does to the type sets, whatever comes of it. -/
theorem Operation.dated (host : Host σ ρ) (operation : Operation ρ)
    (linked : before.sampler.Linked) : Dated operation before (operation.step host before).1 := by
  cases operation with
  | push draft => exact ⟨before.sampler.samples, rfl, dated_same _⟩
  | clearObject id =>
      refine ⟨_, rfl, List.forall₂_map_right_iff.mpr (List.forall₂_same.mpr fun old _ => ?_)⟩
      split
      · exact Dates.kept rfl rfl
      · exact Dates.kept rfl rfl
  | threadExit tid =>
      obtain ⟨exited, same⟩ := before.threadExit_eq tid
      dsimp only [step]
      rw [same]
      exact dated_of_samples rfl rfl rfl
  | installTypeSet typeSet => exact dated_installTypeSet linked typeSet
  | rotate =>
      obtain ⟨front, turned, -⟩ := Profiler.turned_rotate linked (Eq.refl (before.rotate host))
      exact dated_of_turned linked rfl rfl turned
  | rotateChunk =>
      obtain ⟨front, turned⟩ :=
        Profiler.turned_rotateChunk linked (Eq.refl (before.rotateChunk host))
      exact dated_of_turned linked rfl rfl turned
  | rotateIfNeeded =>
      obtain ⟨front, turned⟩ := Profiler.turned_rotateIfNeeded host linked
      exact dated_of_turned linked rfl rfl turned
  | write chains emitAll =>
      refine dated_of_samples rfl rfl ?_
      exact congrArg Sampler.samples (sampler_write chains emitAll)
  | _ => exact dated_of_samples rfl rfl rfl

theorem Dated.onward (dated : Dated operation before after) {old : Sample}
    (member : old ∈ before.sampler.samples) :
    ∃ new ∈ after.sampler.samples, Dates before (operation.ended before) old new := by
  obtain ⟨others, samples, each⟩ := dated
  obtain ⟨new, inside, dates⟩ := exists_partner each member
  rw [samples]
  exact ⟨new, List.mem_append_right _ inside, dates⟩

/-! ## The end of a period -/

/-- The samples are one chain, and the boundary marks one of them if it marks any. -/
structure Sampler.Bounded (sampler : Sampler) : Prop where
  linked : sampler.Linked
  marked : sampler.Marked

theorem Sampler.bounded_empty : empty.Bounded where
  linked := linked_empty
  marked := by
    intro last marked
    cases marked

theorem Sampler.Bounded.step (bounded : before.sampler.Bounded) (host : Host σ ρ)
    (operation : Operation ρ) : (operation.step host before).1.sampler.Bounded := by
  have evolved := operation.evolved host bounded.linked
  exact ⟨evolved.linked, evolved.marked bounded.linked bounded.marked⟩

theorem drive_bounded (host : Host σ ρ) (operations : List (Operation ρ))
    (bounded : before.sampler.Bounded) : (drive host operations before).sampler.Bounded :=
  drive_keeps host operations (fun profiler => profiler.sampler.Bounded)
    (fun operation _ _ bounded => bounded.step host operation) bounded

/-- Nothing is unresolved where the boundary is the newest sample. -/
theorem Sampler.hasUnresolved_of_newest {sampler : Sampler}
    (newest : sampler.boundary = sampler.newest?) : sampler.hasUnresolved = false := by
  rw [hasUnresolved, newest]
  cases sampler.newest? with
  | none => rfl
  | some last => simp

/-- Where nothing is unresolved, the boundary is the newest sample. -/
theorem Sampler.Bounded.newest {sampler : Sampler} (bounded : sampler.Bounded)
    (resolved : sampler.hasUnresolved = false) : sampler.boundary = sampler.newest? := by
  rw [Sampler.hasUnresolved] at resolved
  cases marked : sampler.boundary with
  | none =>
      cases newest : sampler.newest? with
      | none => rfl
      | some last => simp [marked, newest] at resolved
  | some last =>
      obtain ⟨sample, inside, -⟩ := bounded.marked last marked
      cases newest : sampler.newest? with
      | none =>
          have empty : sampler.samples = [] := by simpa [Sampler.newest?] using newest
          rw [empty] at inside
          cases inside
      | some first =>
          have same : first = last := by simpa [marked, newest] using resolved
          rw [same]

theorem newest_installTypeSet (bounded : before.sampler.Bounded) {typeSet : Option BlobId}
    {count : Nat} (done : before.installTypeSet typeSet = (after, .ok count)) :
    after.sampler.boundary = after.sampler.newest? := by
  rcases Profiler.installTypeSet_cases typeSet bounded.linked with
    ⟨-, refused⟩ | ⟨-, resolved, nothing⟩ | ⟨-, -, installed⟩
  · rw [refused] at done
    cases done
  · rw [nothing] at done
    cases done
    exact bounded.newest resolved
  · rw [installed] at done
    cases done
    have ids := Sampler.ids_of_forall₂ (dates_freshWith before typeSet) fun _ _ dates => dates.id
    show before.sampler.newest? = (before.sampler.replaceFront _).newest?
    rw [Sampler.newest?, ← List.head?_map, Sampler.newest?, ← List.head?_map,
      bounded.linked.ids_replaceFront ids]

/-- When a period has ended, no sample is newer than the boundary. -/
theorem Sampler.Bounded.stale_of_ended (bounded : before.sampler.Bounded) (host : Host σ ρ)
    {typeSet : Option BlobId} (ended : operation.ended before = some typeSet) {old : Sample}
    (member : old ∈ before.sampler.samples) :
    ¬ (operation.step host before).1.sampler.IsFresh old.id := by
  have evolved := operation.evolved host bounded.linked
  cases advances : operation.advances before with
  | true => exact evolved.stale_of_advances bounded.linked advances member
  | false =>
      cases operation with
      | installTypeSet given =>
          rw [Profiler.ended_installTypeSet] at ended
          split at ended
          next running =>
            have resolved : before.sampler.hasUnresolved = false := by
              simpa [Operation.advances, running] using advances
            rw [evolved.isFresh_of_stays advances]
            intro fresh
            have inside := (bounded.linked.mem_unresolved_iff bounded.marked).mpr ⟨member, fresh⟩
            rw [bounded.linked.unresolved_eq_nil resolved] at inside
            cases inside
          next => cases ended
      | _ => cases ended

/-! ## Waiting for the end of the period, and after it -/

/-- A sample behind the boundary keeps its type set, or keeps having none. -/
theorem drive_passed (host : Host σ ρ) (operations : List (Operation ρ))
    (bounded : before.sampler.Bounded)
    {sample : Sample} (member : sample ∈ before.sampler.samples)
    (passed : ¬ before.sampler.IsFresh sample.id) :
    ∃ same ∈ (drive host operations before).sampler.samples,
      same.id = sample.id ∧ same.typeSet = sample.typeSet := by
  induction operations generalizing before sample with
  | nil => exact ⟨sample, member, rfl, rfl⟩
  | cons operation rest ih =>
      have next := bounded.step host operation
      have evolved := operation.evolved host bounded.linked
      obtain ⟨new, inside, id, typeSet⟩ := (operation.dated host bounded.linked).onward member
      have resolved : sample ∉ before.sampler.unresolved := by
        intro unresolved
        exact passed ((bounded.linked.mem_unresolved_iff bounded.marked).mp unresolved).2
      have still : ¬ (operation.step host before).1.sampler.IsFresh new.id := by
        rw [id]
        cases advances : operation.advances before with
        | true => exact evolved.stale_of_advances bounded.linked advances member
        | false =>
            rw [evolved.isFresh_of_stays advances]
            exact passed
      obtain ⟨same, last, sameId, sameSet⟩ := ih next inside still
      rw [if_neg resolved] at typeSet
      exact ⟨same, last, sameId.trans id, sameSet.trans typeSet⟩

/-- A sample in front of the boundary gets the type set of the first period that ends. -/
theorem drive_waiting (host : Host σ ρ) (operations : List (Operation ρ))
    (bounded : before.sampler.Bounded)
    {sample : Sample} (member : sample ∈ before.sampler.samples)
    (fresh : before.sampler.IsFresh sample.id) (bare : sample.typeSet = none) :
    ∃ same ∈ (drive host operations before).sampler.samples,
      same.id = sample.id ∧ same.typeSet = firstTypeSet host operations before := by
  induction operations generalizing before sample with
  | nil => exact ⟨sample, member, rfl, bare⟩
  | cons operation rest ih =>
      have next := bounded.step host operation
      have evolved := operation.evolved host bounded.linked
      obtain ⟨new, inside, id, typeSet⟩ := (operation.dated host bounded.linked).onward member
      have waiting := (bounded.linked.mem_unresolved_iff bounded.marked).mpr ⟨member, fresh⟩
      rw [if_pos waiting, bare, Option.none_or] at typeSet
      rw [firstTypeSet]
      cases ended : operation.ended before with
      | some given =>
          have stale := bounded.stale_of_ended host ended member
          rw [← id] at stale
          obtain ⟨same, last, sameId, sameSet⟩ := drive_passed host rest next inside stale
          rw [ended] at typeSet
          exact ⟨same, last, sameId.trans id, sameSet.trans typeSet⟩
      | none =>
          have stays : operation.advances before = false := by
            cases advances : operation.advances before with
            | false => rfl
            | true =>
                have ends := Operation.ended_of_advances advances
                rw [ended] at ends
                cases ends
          have still : (operation.step host before).1.sampler.IsFresh new.id := by
            rw [id, evolved.isFresh_of_stays stays]
            exact fresh
          rw [ended] at typeSet
          obtain ⟨same, last, sameId, sameSet⟩ := ih next inside still typeSet
          exact ⟨same, last, sameId.trans id, sameSet⟩

/-- A type set that a sample has is never replaced. -/
theorem drive_typeSet (host : Host σ ρ) (operations : List (Operation ρ))
    (linked : before.sampler.Linked)
    {sample : Sample} {blob : BlobId} (member : sample ∈ before.sampler.samples)
    (carries : sample.typeSet = some blob) :
    ∃ same ∈ (drive host operations before).sampler.samples,
      same.id = sample.id ∧ same.typeSet = some blob := by
  have both := drive_keeps host operations
    (fun profiler => profiler.sampler.Linked ∧ ∃ same ∈ profiler.sampler.samples,
      same.id = sample.id ∧ same.typeSet = some blob)
    (fun operation _ profiler holds => by
      obtain ⟨linked, same, inside, id, carries⟩ := holds
      obtain ⟨new, inside, newId, typeSet⟩ := (operation.dated host linked).onward inside
      refine ⟨(operation.evolved host linked).linked, new, inside, newId.trans id, ?_⟩
      rw [typeSet, carries, Option.some_or, ite_self])
    ⟨linked, sample, member, rfl, carries⟩
  exact both.2

/-! ## Where samples come from -/

theorem Operation.mem_taken {sample : Sample} :
    sample ∈ operation.taken before ↔
      ∃ draft, operation = .push draft ∧ sample = .ofDraft ⟨before.sampler.births⟩ draft := by
  constructor
  · intro member
    cases operation with
    | push draft => exact ⟨draft, rfl, List.mem_singleton.mp member⟩
    | _ => cases member
  · rintro ⟨draft, rfl, rfl⟩
    exact List.mem_singleton_self _

/-- A sample was there before the run, or the run has taken it. -/
theorem drive_taken (operations : List (Operation ρ)) (linked : before.sampler.Linked)
    {sample : Sample} (member : sample ∈ (drive host operations before).sampler.samples) :
    (∃ old ∈ before.sampler.samples, old.id = sample.id) ∨
      ∃ earlier draft later, operations = earlier ++ .push draft :: later ∧
        sample.id = ⟨(drive host earlier before).sampler.births⟩ := by
  induction operations generalizing before with
  | nil => exact .inl ⟨sample, member, rfl⟩
  | cons operation rest ih =>
      have evolved := operation.evolved host linked
      rcases ih evolved.linked member with ⟨new, inside, same⟩ | ⟨earlier, draft, later, rfl, same⟩
      · rcases evolved.back inside with taken | ⟨old, inside, ages⟩
        · obtain ⟨draft, rfl, rfl⟩ := Operation.mem_taken.mp taken
          exact .inr ⟨[], draft, rest, rfl, same.symm⟩
        · exact .inl ⟨old, inside, ages.id.symm.trans same⟩
      · exact .inr ⟨operation :: earlier, draft, later, rfl, same⟩

/-- A sample has the type set of the first period that has ended since it was taken. -/
theorem typeSet_taken (earlier later : List (Operation ρ)) (draft : Sample.Draft)
    (bounded : before.sampler.Bounded) {sample : Sample}
    (member : sample ∈ (drive host (earlier ++ .push draft :: later) before).sampler.samples)
    (taken : sample.id = ⟨(drive host earlier before).sampler.births⟩) :
    sample.typeSet =
      firstTypeSet host later (drive host (earlier ++ [.push draft]) before) := by
  have split : drive host (earlier ++ .push draft :: later) before =
      drive host later (drive host (earlier ++ [.push draft]) before) := by
    rw [← drive_append, List.append_assoc]
    rfl
  have start := drive_bounded host earlier bounded
  have pushed := drive_bounded host (earlier ++ [.push draft]) bounded
  have last := drive_bounded host (earlier ++ .push draft :: later) bounded
  have newest : Sample.ofDraft ⟨(drive host earlier before).sampler.births⟩ draft ∈
      (drive host (earlier ++ [.push draft]) before).sampler.samples := by
    rw [drive_append]
    exact List.mem_cons_self
  have fresh : (drive host (earlier ++ [.push draft]) before).sampler.IsFresh
      ⟨(drive host earlier before).sampler.births⟩ := by
    rw [drive_append]
    have evolved := Operation.evolved host (.push draft) start.linked
    exact evolved.fresh_taken start.linked start.marked (List.mem_singleton_self _)
  obtain ⟨same, inside, id, typeSet⟩ := drive_waiting host later pushed newest fresh rfl
  rw [← split] at inside
  obtain rfl : same = sample := last.linked.eq_of_id inside member (id.trans taken.symm)
  exact typeSet

/-! ## Who receives a type set -/

namespace Profiler

/-- The sample has a type set, and had none before. -/
def gains (before : Profiler σ ρ) (new : Sample) : Bool :=
  new.typeSet.isSome &&
    before.sampler.samples.any fun old => decide (old.id = new.id) && old.typeSet.isNone

/-- The samples that have received a type set. -/
def received (before after : Profiler σ ρ) : List Sample :=
  after.sampler.samples.filter before.gains

theorem gains_eq (linked : before.sampler.Linked) {old new : Sample}
    (member : old ∈ before.sampler.samples) (id : new.id = old.id) :
    before.gains new = (new.typeSet.isSome && old.typeSet.isNone) := by
  rw [gains]
  congr 1
  rw [Bool.eq_iff_iff, List.any_eq_true]
  simp only [Bool.and_eq_true, decide_eq_true_eq]
  constructor
  · rintro ⟨other, inside, same, bare⟩
    rw [linked.eq_of_id member inside (id.symm.trans same.symm)]
    exact bare
  · intro bare
    exact ⟨old, member, id.symm, bare⟩

/-- A sample that was there before has received nothing. -/
theorem not_gains (linked : before.sampler.Linked) {sample : Sample}
    (member : sample ∈ before.sampler.samples) : ¬ before.gains sample = true := by
  rw [gains_eq linked member rfl]
  cases sample.typeSet <;> simp

theorem received_of_samples (linked : before.sampler.Linked)
    (samples : after.sampler.samples = before.sampler.samples) : before.received after = [] := by
  rw [received, samples]
  exact List.filter_eq_nil_iff.mpr fun sample member => not_gains linked member

/-- A sample in front of the boundary receives the type set unless it has one. -/
theorem gains_attach (linked : before.sampler.Linked) {sample : Sample}
    (member : sample ∈ before.sampler.unresolved) (blob : BlobId) :
    before.gains (sample.attach .typeSet blob) = sample.typeSet.isNone := by
  have inside := linked.unresolved_isPrefix.subset member
  rw [gains_eq linked inside (sample.id_attach .typeSet blob), Sample.typeSet_attach]
  cases sample.typeSet <;> rfl

theorem received_freshWith (linked : before.sampler.Linked) (blob : BlobId)
    (samples : after.sampler.samples =
      (before.sampler.replaceFront (before.freshWith (some blob))).samples) :
    before.received after =
      (before.sampler.unresolved.filter (·.typeSet.isNone)).map (·.attach .typeSet blob) := by
  obtain ⟨rest, chain⟩ := linked.unresolved_isPrefix
  have front : (before.freshWith (some blob)).filter before.gains =
      (before.sampler.unresolved.filter (·.typeSet.isNone)).map (·.attach .typeSet blob) := by
    rw [freshWith, List.filter_map]
    congr 1
    exact List.filter_congr fun sample member => gains_attach linked member blob
  have back : rest.filter before.gains = [] := by
    apply List.filter_eq_nil_iff.mpr
    intro sample member
    apply not_gains linked
    rw [← chain]
    exact List.mem_append_right _ member
  rw [received, samples, Sampler.replaceFront, freshWith, List.length_map, ← chain, List.drop_left,
    List.filter_append, back, List.append_nil]
  exact front

/-- A type-set pass returns how many samples have received the type set. -/
theorem received_installTypeSet (linked : before.sampler.Linked) {typeSet : Option BlobId}
    {count : Nat} (done : before.installTypeSet typeSet = (after, .ok count)) :
    count = (before.received after).length ∧
      ∀ sample ∈ before.received after, sample.typeSet = typeSet := by
  rcases installTypeSet_cases typeSet linked with
    ⟨-, refused⟩ | ⟨-, -, nothing⟩ | ⟨-, -, installed⟩
  · rw [refused] at done
    cases done
  · rw [nothing] at done
    cases done
    rw [received_of_samples linked rfl]
    exact ⟨rfl, by simp⟩
  · rw [installed] at done
    cases typeSet with
    | none =>
        cases done
        have samples : (before.sampler.replaceFront (before.freshWith none)).samples =
            before.sampler.samples := by
          rw [freshWith, linked.replaceFront_unresolved]
        rw [received_of_samples linked samples]
        exact ⟨rfl, by simp⟩
    | some blob =>
        cases done
        rw [received_freshWith linked blob rfl]
        constructor
        · rw [List.length_map, ← List.countP_eq_length_filter]
          rfl
        · intro sample member
          obtain ⟨old, inside, rfl⟩ := List.mem_map.mp member
          have bare := Option.isNone_iff_eq_none.mp (List.mem_filter.mp inside).2
          rw [Sample.typeSet_attach, bare, Option.none_or]

end Profiler

/-- As long as no sample is taken, the boundary stays the newest sample. -/
theorem drive_newest (host : Host σ ρ) (operations : List (Operation ρ))
    (linked : before.sampler.Linked)
    (newest : before.sampler.boundary = before.sampler.newest?)
    (idle : ∀ draft, .push draft ∉ operations) :
    (drive host operations before).sampler.boundary =
      (drive host operations before).sampler.newest? := by
  induction operations generalizing before with
  | nil => exact newest
  | cons operation rest ih =>
      have evolved := operation.evolved host linked
      apply ih evolved.linked
      · obtain ⟨aged, samples, each⟩ := evolved.samples
        have none : operation.taken before = [] := by
          cases operation with
          | push draft => exact absurd List.mem_cons_self (idle draft)
          | _ => rfl
        rw [none, List.nil_append] at samples
        rw [evolved.boundary, newest, ite_self, Sampler.newest?, Sampler.newest?, samples,
          ← List.head?_map, ← List.head?_map, Sampler.ids_of_forall₂ each fun _ _ ages => ages.id]
      · intro draft member
        exact idle draft (List.mem_cons_of_mem _ member)

end Dated

/-- **Each sample gets the type set of its own period, once.** Whatever a run does, the type set of
a sample is that of the first type-set pass that has succeeded since the sample was taken; none if
that pass brought none, or if there was none yet. Whatever is done next, a type set is never
replaced. A type-set pass that succeeds returns the number of samples that have received the type
set, and the boundary is then the newest sample; until another sample is taken, a type-set pass
changes nothing and returns 0, or is refused because the profiler is stopped. -/
theorem type_sets_by_period (host : Host σ ρ) (options : Options) (sink : σ) (traces : ρ)
    (operations : List (Operation ρ)) {now : Profiler σ ρ}
    (done : drive host operations (.create options sink traces) = now) :
    (∀ sample ∈ now.sampler.samples, ∃ earlier draft later,
      operations = earlier ++ .push draft :: later ∧
      sample.id = ⟨(drive host earlier (.create options sink traces)).sampler.births⟩ ∧
      sample.typeSet = firstTypeSet host later
        (drive host (earlier ++ [.push draft]) (.create options sink traces))) ∧
    (∀ sample ∈ now.sampler.samples, ∀ blob, sample.typeSet = some blob → ∀ more,
      ∃ same ∈ (drive host more now).sampler.samples,
        same.id = sample.id ∧ same.typeSet = some blob) ∧
    ∀ typeSet after count, now.installTypeSet typeSet = (after, .ok count) →
      count = (now.received after).length ∧
      (∀ sample ∈ now.received after, sample.typeSet = typeSet) ∧
      after.sampler.boundary = after.sampler.newest? ∧
      ∀ more, (∀ draft, .push draft ∉ more) → ∀ other,
        (drive host more after).installTypeSet other =
          (drive host more after,
            if (drive host more after).running then .ok 0
            else .error (Profiler.stoppedDuring .typeSet)) := by
  have start : (Profiler.create options sink traces).sampler.Bounded := Sampler.bounded_empty
  have bounded : now.sampler.Bounded := by
    rw [← done]
    exact drive_bounded host operations start
  refine ⟨?_, ?_, ?_⟩
  · intro sample member
    rw [← done] at member
    rcases drive_taken operations start.linked member with
      ⟨old, inside, -⟩ | ⟨earlier, draft, later, rfl, taken⟩
    · cases inside
    · have typeSet := typeSet_taken earlier later draft start member taken
      exact ⟨earlier, draft, later, rfl, taken, typeSet⟩
  · intro sample member blob carries more
    exact drive_typeSet host more bounded.linked member carries
  · intro typeSet after count installed
    obtain ⟨number, each⟩ := Profiler.received_installTypeSet bounded.linked installed
    have newest := newest_installTypeSet bounded installed
    refine ⟨number, each, newest, ?_⟩
    intro more idle other
    have ends := Operation.evolved host (.installTypeSet typeSet) bounded.linked
    have linked : after.sampler.Linked := by
      have state : (Operation.step host (.installTypeSet typeSet) now).1 = after :=
        congrArg Prod.fst installed
      rw [← state]
      exact ends.linked
    have resolved := Sampler.hasUnresolved_of_newest (drive_newest host more linked newest idle)
    cases running : (drive host more after).running with
    | false => exact Profiler.installTypeSet_of_stopped other running
    | true => exact Profiler.installTypeSet_of_resolved other running resolved

/-- Four samples of three periods. The pass for the second one is refused first, and brings no type
set when it succeeds. -/
def interruptedRun : List (Operation TraceLog) :=
  let draft : Sample.Draft :=
    { key := ⟨0, ⟨0⟩⟩, thread := ⟨0⟩, isVirtual := false, allocatedAt := 1
      object := some { address := 16, classId := ⟨1⟩ }, threadBlob := none }
  [.start, .addBlob .typeSet [1], .addBlob .typeSet [2], .push draft,
    .installTypeSet (some ⟨0⟩), .push draft, .rotate, .stop, .installTypeSet (some ⟨1⟩), .start,
    .clearObject ⟨0⟩, .installTypeSet none, .push draft, .push draft]

/-- The third period ends with its type set; ending it again does nothing. -/
theorem type_sets_by_period_interrupted :
    ∃ now after : Profiler MemorySink TraceLog,
      drive ⟨.memory, .log, Retention.unwritten⟩ interruptedRun
        (.create { Options.standard with queueSize := 1 } (.ofLimit none) .empty) = now ∧
      now.sampler.samples.map (·.typeSet) = [none, none, none, some ⟨0⟩] ∧
      now.installTypeSet (some ⟨1⟩) = (after, .ok 2) ∧
      (now.received after).length = 2 ∧
      (∀ sample ∈ now.received after, sample.typeSet = some ⟨1⟩) ∧
      after.sampler.samples.map (·.typeSet) = [some ⟨1⟩, some ⟨1⟩, none, some ⟨0⟩] ∧
      after.installTypeSet (some ⟨0⟩) = (after, .ok 0) := by
  obtain ⟨-, -, ends⟩ := @type_sets_by_period MemorySink TraceLog
    ⟨.memory, .log, Retention.unwritten⟩ { Options.standard with queueSize := 1 } (.ofLimit none)
    .empty interruptedRun _ rfl
  obtain ⟨count, each, -, idle⟩ := ends (some ⟨1⟩) _ 2 rfl
  exact ⟨_, _, rfl, by decide, rfl, count.symm, each, by decide, idle [] (by simp) (some ⟨0⟩)⟩

end LeakRecorder
