/-
# LeakRecorder.Proofs.SafepointScopes — how long the world stays stopped

Stopping the world gives a scope, and the world is to stay stopped until the scope has
been dropped. Scopes are told apart here by numbers, in the order in which they began, so
that they can be dropped in any order (`Scoping`); only a scope that is alive can be
dropped (`WellScoped`). Which ones are alive is said from the history alone (`alive`).

The runtime counts the scopes (`scopes_drive`), but whether the world is stopped is a
flag of its own, which the last begin or drop decides, whatever other scopes there are
(`atSafepoint_drive`). Rotations are refused and exits can be cleared by this flag. So the
flag says throughout a run whether a scope is alive exactly if no scope is dropped while
another one is alive (`safepoint_tells_scopes_iff`).
-/
import LeakRecorder.Proofs.ExitHistory
import LeakRecorder.Proofs.RotationOutcome
import Mathlib.Data.List.Induction

set_option autoImplicit false

namespace LeakRecorder

variable {σ ρ : Type}

/-! ## Scopes by their numbers -/

/-- What is done with a profiler and the scopes of its runtime. -/
inductive Scoping (ρ : Type) where
  | begins
  | drops (scope : Nat)
  /-- Any operation that neither begins nor drops a scope. -/
  | does (operation : Operation ρ)

namespace Scoping

def isBegin : Scoping ρ → Bool
  | .begins => true
  | _ => false

def dropped? : Scoping ρ → Option Nat
  | .drops scope => some scope
  | _ => none

/-- To the runtime one scope is like the other. -/
def operation : Scoping ρ → Operation ρ
  | .begins => .beginSafepoint
  | .drops _ => .endSafepoint
  | .does operation => operation

end Scoping

/-- How many scopes have begun. -/
def begun (history : List (Scoping ρ)) : Nat := history.countP Scoping.isBegin

/-- The scopes that have been dropped, in order. -/
def dropped (history : List (Scoping ρ)) : List Nat := history.filterMap Scoping.dropped?

/-- The scopes that have begun and have not been dropped, oldest first. -/
def alive (history : List (Scoping ρ)) : List Nat :=
  (List.range (begun history)).filter fun scope => decide (scope ∉ dropped history)

/-- Only scopes that are alive are dropped, and nothing else begins or drops one. -/
structure WellScoped (history : List (Scoping ρ)) : Prop where
  drops : ∀ front scope back, history = front ++ .drops scope :: back → scope ∈ alive front
  does : ∀ operation, .does operation ∈ history → operation.worldStopped? = none

section Alive

variable {history front back : List (Scoping ρ)} {scope : Nat}

/-- What is done first is well scoped by itself. -/
theorem WellScoped.of_append (owned : WellScoped (front ++ back)) : WellScoped front where
  drops earlier scope later split := by
    refine owned.drops earlier scope (later ++ back) ?_
    rw [split, List.append_assoc, List.cons_append]
  does operation member := owned.does operation (List.mem_append_left back member)

/-- The turn may follow a history. -/
def Scoping.Fits (history : List (Scoping ρ)) : Scoping ρ → Prop
  | .begins => True
  | .drops scope => scope ∈ alive history
  | .does operation => operation.worldStopped? = none

instance (history : List (Scoping ρ)) (turn : Scoping ρ) : Decidable (turn.Fits history) :=
  match turn with
  | .begins => .isTrue trivial
  | .drops scope => inferInstanceAs (Decidable (scope ∈ alive history))
  | .does operation => inferInstanceAs (Decidable (operation.worldStopped? = none))

/-- A history is well scoped if every turn fits what comes before it. -/
theorem wellScoped_of_fits
    (fits : ∀ index (inside : index < history.length), history[index].Fits (history.take index)) :
    WellScoped history where
  drops front scope back split := by
    subst split
    simpa [Scoping.Fits] using fits front.length (by simp)
  does operation member := by
    obtain ⟨index, inside, same⟩ := List.getElem_of_mem member
    have fit := fits index inside
    rw [same] at fit
    exact fit

theorem begun_append (history more : List (Scoping ρ)) :
    begun (history ++ more) = begun history + begun more := List.countP_append

theorem dropped_append (history more : List (Scoping ρ)) :
    dropped (history ++ more) = dropped history ++ dropped more := List.filterMap_append

theorem lt_of_mem_alive (member : scope ∈ alive history) : scope < begun history :=
  List.mem_range.mp (List.mem_filter.mp member).1

/-- A scope that has been dropped had begun. -/
theorem WellScoped.lt_of_dropped (owned : WellScoped history) (gone : scope ∈ dropped history) :
    scope < begun history := by
  obtain ⟨turn, member, drops⟩ := List.mem_filterMap.mp gone
  cases turn with
  | drops other =>
      cases drops
      obtain ⟨front, back, rfl⟩ := List.append_of_mem member
      have before := lt_of_mem_alive (owned.drops front scope back rfl)
      rw [begun_append]
      omega
  | _ => cases drops

/-- A scope that begins is alive from then on. -/
theorem alive_begins (owned : WellScoped history) :
    alive (history ++ [.begins]) = alive history ++ [begun history] := by
  have new : begun history ∉ dropped history := fun gone =>
    Nat.lt_irrefl _ (owned.lt_of_dropped gone)
  have one : begun ([.begins] : List (Scoping ρ)) = 1 := rfl
  have none : dropped ([.begins] : List (Scoping ρ)) = [] := rfl
  rw [alive, begun_append, dropped_append, one, none, List.append_nil, List.range_succ,
    List.filter_append, alive]
  simp [new]

/-- A scope that is dropped is the only one that is not alive any more. -/
theorem alive_drops (history : List (Scoping ρ)) (scope : Nat) :
    alive (history ++ [.drops scope]) = (alive history).erase scope := by
  have nodup : (alive history).Nodup := List.nodup_range.filter _
  have none : begun ([.drops scope] : List (Scoping ρ)) = 0 := rfl
  have one : dropped ([.drops scope] : List (Scoping ρ)) = [scope] := rfl
  rw [nodup.erase_eq_filter, alive, begun_append, dropped_append, one, none, Nat.add_zero, alive,
    List.filter_filter]
  apply List.filter_congr
  intro other _
  rw [Bool.eq_iff_iff]
  simp [not_or, and_comm]

theorem alive_does (history : List (Scoping ρ)) (operation : Operation ρ) :
    alive (history ++ [.does operation]) = alive history := by
  have none : begun [Scoping.does operation] = 0 := rfl
  have nothing : dropped [Scoping.does operation] = [] := rfl
  rw [alive, begun_append, dropped_append, none, nothing, List.append_nil, Nat.add_zero, alive]

end Alive

/-! ## The runtime -/

/-- Nothing but begins and drops reaches the scopes or the flag. -/
theorem Operation.scopes_step {operation : Operation ρ} (calm : operation.worldStopped? = none)
    (host : Host σ ρ) (profiler : Profiler σ ρ) :
    (operation.step host profiler).1.runtime.scopes = profiler.runtime.scopes ∧
      (operation.step host profiler).1.runtime.atSafepoint = profiler.runtime.atSafepoint := by
  cases reaches : operation.reachesExits with
  | false =>
      have aside := Operation.aside_step host profiler reaches
      exact ⟨aside.scopes, aside.atSafepoint⟩
  | true =>
      cases operation with
      | start | stop => exact ⟨rfl, rfl⟩
      | threadExit tid =>
          obtain ⟨exited, same⟩ := profiler.threadExit_eq tid
          dsimp only [Operation.step]
          rw [same]
          exact ⟨rfl, rfl⟩
      | clearExits => exact ⟨rfl, rfl⟩
      | beginSafepoint | endSafepoint => cases calm
      | _ => cases reaches

/-- The profiler after a history. -/
def scopedRun (host : Host σ ρ) (history : List (Scoping ρ)) (start : Profiler σ ρ) :
    Profiler σ ρ :=
  drive host (history.map Scoping.operation) start

theorem scopedRun_concat (host : Host σ ρ) (history : List (Scoping ρ)) (turn : Scoping ρ)
    (start : Profiler σ ρ) :
    scopedRun host (history ++ [turn]) start =
      (turn.operation.step host (scopedRun host history start)).1 := by
  rw [scopedRun, List.map_append, drive_append]
  rfl

/-- The last begin or drop stops the world or lets it run. -/
def lastStops (history : List (Scoping ρ)) : Bool := worldStopped (history.map Scoping.operation)

theorem lastStops_concat (history : List (Scoping ρ)) (turn : Scoping ρ) :
    lastStops (history ++ [turn]) =
      turn.operation.worldStopped?.getD (lastStops history) := by
  rw [lastStops, List.map_append]
  exact lastSaid_concat _ _ _

section Drive

variable {start : Profiler σ ρ} {history : List (Scoping ρ)}

/-- The runtime counts the scopes that are alive. -/
theorem scopes_drive (host : Host σ ρ) (none : start.runtime.scopes = 0)
    (owned : WellScoped history) :
    (scopedRun host history start).runtime.scopes = (alive history).length := by
  induction history using List.reverseRecOn with
  | nil => exact none
  | append_singleton history turn ih =>
      have before := ih owned.of_append
      rw [scopedRun_concat]
      cases turn with
      | begins =>
          rw [alive_begins owned.of_append, List.length_append, ← before]
          rfl
      | drops scope =>
          have member := owned.drops history scope [] rfl
          have some := List.length_pos_of_mem member
          rw [alive_drops, List.length_erase_of_mem member, ← before]
          show ((scopedRun host history start).runtime.endSafepoint?.getD _).scopes = _
          rw [Runtime.endSafepoint?, if_neg (by omega)]
          rfl
      | does operation =>
          have calm := owned.does operation (by simp)
          rw [alive_does, ← before]
          exact (Operation.scopes_step calm host _).1

/-- The flag is what the last begin or drop has made it. -/
theorem atSafepoint_drive (host : Host σ ρ) (none : start.runtime.scopes = 0)
    (runs : start.runtime.atSafepoint = false) (owned : WellScoped history) :
    (scopedRun host history start).runtime.atSafepoint = lastStops history := by
  induction history using List.reverseRecOn with
  | nil => exact runs
  | append_singleton history turn ih =>
      have before := ih owned.of_append
      rw [scopedRun_concat, lastStops_concat]
      cases turn with
      | begins => rfl
      | drops scope =>
          have some := List.length_pos_of_mem (owned.drops history scope [] rfl)
          have count := scopes_drive host none owned.of_append
          show ((scopedRun host history start).runtime.endSafepoint?.getD _).atSafepoint = false
          rw [Runtime.endSafepoint?, if_neg (by omega)]
          rfl
      | does operation =>
          have calm := owned.does operation (by simp)
          show ((operation.step host _).1).runtime.atSafepoint = operation.worldStopped?.getD _
          rw [calm, (Operation.scopes_step calm host _).2, before]
          rfl

end Drive

/-! ## What the flag decides -/

namespace Profiler

/-- A rotation is refused for the flag exactly while the profiler runs and the flag is up. It then
changes nothing. -/
theorem rotate_atSafepoint_iff (host : Host σ ρ) (profiler : Profiler σ ρ) :
    rotate host profiler = (profiler, .error (.violation .rotationAtSafepoint)) ↔
      profiler.running = true ∧ profiler.runtime.atSafepoint = true := by
  constructor
  · intro refused
    by_cases admits : profiler.Admits
    · -- A rotation that is admitted fails for other causes only.
      have failed : (rotate host profiler).2 = .error (.violation .rotationAtSafepoint) := by
        rw [refused]
      cases fresh : profiler.sampler.hasUnresolved with
      | false =>
          rw [rotate_of_admits host admits, fresh, if_neg Bool.false_ne_true] at failed
          cases failed
      | true =>
          by_cases roomy : profiler.options.Roomy
          · obtain ⟨_, _, _, _, -, ends⟩ := rotate_outcome admits roomy fresh refused
            rcases ends with ⟨_, impossible, -⟩ | ⟨sample, _, -, -, -, cause, -⟩
            · cases impossible
            · rw [Resolution.refusal] at cause
              split at cause
              · cases cause
              · split at cause <;> cases cause
          · have full : profiler.renewed.options = profiler.options := rfl
            rw [rotate_of_admits host admits, if_pos fresh, resolveFresh] at failed
            dsimp only at failed
            rw [full, Resolution.ofOptions_of_not_roomy roomy] at failed
            cases failed
    · rw [rotate_of_refused host admits, refusal] at refused
      cases running : profiler.running with
      | false => simp [running, stoppedDuring] at refused
      | true => simpa [Admits, running] using admits
  · rintro ⟨running, stopped⟩
    have refused : ¬ profiler.Admits := by simp [Admits, stopped]
    rw [rotate_of_refused host refused, refusal, if_pos running]

/-- Exits can be cleared exactly while the flag is up. -/
theorem clearExits_ok_iff (profiler : Profiler σ ρ) :
    profiler.clearExits.2 = .ok () ↔ profiler.runtime.atSafepoint = true := by
  cases stopped : profiler.runtime.atSafepoint with
  | false => simp [clearExits_of_moving stopped]
  | true => simp [clearExits_of_stopped stopped]

end Profiler

/-- What a profiler answers about the world after a history. -/
structure AnswersWorld (host : Host σ ρ) (history : List (Scoping ρ)) (now : Profiler σ ρ) :
    Prop where
  scopes : now.runtime.scopes = (alive history).length
  atSafepoint : now.runtime.atSafepoint = lastStops history
  rotation : now.running = true →
    (now.rotate host = (now, .error (.violation .rotationAtSafepoint)) ↔ lastStops history = true)
  clear : now.clearExits.2 = .ok () ↔ lastStops history = true

/-- **What the flag says of the scopes.** Whatever else is done with a profiler, its runtime has as
many scopes as are alive, and it is at a safepoint exactly if the last begin or drop was a begin; a
rotation is refused and a clear of the exits accepted in exactly these states. Throughout a run this
is the same as that some scope is alive exactly if a scope is only ever dropped when it is the last
one alive. -/
theorem safepoint_tells_scopes_iff (host : Host σ ρ) (options : Options) (sink : σ) (traces : ρ)
    {history : List (Scoping ρ)} (owned : WellScoped history) :
    let after (history : List (Scoping ρ)) : Profiler σ ρ :=
      scopedRun host history (.create options sink traces)
    AnswersWorld host history (after history) ∧
      ((∀ front back, history = front ++ back →
          ((after front).runtime.atSafepoint = true ↔ alive front ≠ [])) ↔
        ∀ front scope back, history = front ++ .drops scope :: back → alive front = [scope]) := by
  intro after
  have flag {front : List (Scoping ρ)} (owned : WellScoped front) :
      (after front).runtime.atSafepoint = lastStops front := atSafepoint_drive host rfl rfl owned
  refine ⟨⟨scopes_drive host rfl owned, flag owned, fun running => ?_, ?_⟩, ?_, ?_⟩
  · rw [Profiler.rotate_atSafepoint_iff, and_iff_right running, flag owned]
  · rw [Profiler.clearExits_ok_iff, flag owned]
  · intro tells front scope back split
    have whole : history = (front ++ [.drops scope]) ++ back := by simp [split]
    have tellsThen := tells (front ++ [.drops scope]) back whole
    rw [flag (whole ▸ owned).of_append, lastStops_concat, alive_drops] at tellsThen
    have alone : alive front ≠ [] → alive front = [scope] := by
      simpa [Scoping.operation, Operation.worldStopped?] using tellsThen
    exact alone (List.ne_nil_of_mem (owned.drops front scope back split))
  · intro last front back split
    rw [flag (split ▸ owned).of_append]
    induction front using List.reverseRecOn generalizing back with
    | nil => simp [lastStops, worldStopped, lastSaid, alive, begun]
    | append_singleton front turn ih =>
        have ownedFront : WellScoped (front ++ [turn]) := (split ▸ owned).of_append
        rw [List.append_assoc] at split
        have before := ih _ split
        rw [lastStops_concat]
        cases turn with
        | begins =>
            rw [alive_begins ownedFront.of_append]
            simp [Scoping.operation, Operation.worldStopped?]
        | drops scope =>
            rw [alive_drops, last front scope back split, List.erase_cons_head]
            simp [Scoping.operation, Operation.worldStopped?]
        | does operation =>
            rw [alive_does, Scoping.operation, ownedFront.does operation (by simp)]
            exact before

/-- Three scopes, of which the first two are dropped while a later one is alive. -/
def crossedScopes : List (Scoping TraceLog) :=
  [.does .start, .begins, .does (.push (tracedDraft rootTrace.key)), .begins, .drops 0, .begins,
    .does (.threadExit ⟨5⟩), .drops 1]

/-- One scope is left, and the world runs. -/
theorem safepoint_tells_scopes_iff_crossed :
    let host : Host MemorySink TraceLog := ⟨.memory, .log, Retention.unwritten⟩
    let after (history : List (Scoping TraceLog)) : Profiler MemorySink TraceLog :=
      scopedRun host history (.create Options.standard (.ofLimit none) .empty)
    alive crossedScopes = [2] ∧ (after crossedScopes).runtime.scopes = 1 ∧
      (after crossedScopes).runtime.atSafepoint = false ∧
      (after crossedScopes).rotate host ≠
        (after crossedScopes, .error (.violation .rotationAtSafepoint)) ∧
      ¬ ∀ front back, crossedScopes = front ++ back →
        ((after front).runtime.atSafepoint = true ↔ alive front ≠ []) := by
  intro host after
  obtain ⟨answers, throughout⟩ := safepoint_tells_scopes_iff host Options.standard (.ofLimit none)
    .empty (wellScoped_of_fits (show ∀ index (inside : index < crossedScopes.length),
      crossedScopes[index].Fits (crossedScopes.take index) by decide))
  refine ⟨by decide, answers.scopes, answers.atSafepoint, ?_, ?_⟩
  · rw [Ne, answers.rotation rfl]
    decide
  · rw [throughout]
    intro last
    exact absurd (last (crossedScopes.take 4) 0 (crossedScopes.drop 5) rfl) (by decide)

/-- A scope is dropped while another one is alive, and the world runs: a rotation is accepted, and
clearing the exits is refused. -/
theorem drop_restarts_world :
    let host : Host MemorySink TraceLog := ⟨.memory, .log, Retention.unwritten⟩
    let history : List (Scoping TraceLog) := [.does .start, .begins, .begins, .drops 0]
    let now := scopedRun host history (.create Options.standard (.ofLimit none) .empty)
    WellScoped history ∧ alive history = [1] ∧ now.runtime.scopes = 1 ∧
      now.runtime.atSafepoint = false ∧
      (now.rotate host).2 = .ok { samplesReset := 0, resolved := none } ∧
      now.clearExits.2 = .error (.violation .clearOutsideSafepoint) := by
  intro host history now
  exact ⟨wellScoped_of_fits (by decide), by decide, by decide, by decide, by decide, by decide⟩

end LeakRecorder
