/-
# LeakRecorder.Proofs.Serving — what a sink is asked for, request by request

Whoever holds a sink writes, flushes and rotates in any order and may go on after a
request has failed (`Sink.serveAll`). Chunks are about what lies between two
rotations, so every payload that a rotating sink takes is noted with the number of
rotations before it (`accepted`). Both are read from either end: a run is a run
followed by one more request (`serveAll_concat`, `accepted_concat`).
-/
import LeakRecorder.Proofs.ChunkFiles
import Mathlib.Data.List.Induction

set_option autoImplicit false

namespace LeakRecorder

/-- What a sink can be asked for. -/
inductive Request where
  | write (payload : Bytes)
  | flush
  | rotate
  deriving DecidableEq

namespace Sink

variable {σ : Type} (sink : Sink σ) (state : σ)

def serve : Request → σ × Except IoError Unit
  | .write payload => sink.write state payload
  | .flush => sink.flush state
  | .rotate => sink.rotate state

/-- The state after requests, whether they succeed or not. -/
def serveAll (requests : List Request) : σ :=
  requests.foldl (fun state request => (sink.serve state request).1) state

/-- Every one of some requests succeeds in its turn. -/
def Serves : σ → List Request → Prop
  | _, [] => True
  | state, request :: rest =>
      (sink.serve state request).2 = .ok () ∧ Serves (sink.serve state request).1 rest

theorem serveAll_concat (requests : List Request) (request : Request) :
    sink.serveAll state (requests ++ [request]) =
      (sink.serve (sink.serveAll state requests) request).1 := by
  simp [serveAll]

variable {sink state}

theorem serves_append {earlier later : List Request} :
    sink.Serves state (earlier ++ later) ↔
      sink.Serves state earlier ∧ sink.Serves (sink.serveAll state earlier) later := by
  induction earlier generalizing state with
  | nil => simp [Serves, serveAll]
  | cons request rest ih =>
      rw [List.cons_append, Serves, ih, Serves, and_assoc]
      rfl

end Sink

namespace RotatingSink

theorem serve_write_of_not_accepts {sink : RotatingSink} {payload : Bytes}
    (refused : ¬ sink.Accepts payload) (dir : Directory) :
    (Sink.rotating.serve (sink, dir) (.write payload)).1 = (sink, dir) := by
  show ((sink.write dir payload).1, (sink.write dir payload).2.1) = (sink, dir)
  rw [write_of_not_accepts refused]

/-- The payload that a sink takes on a request. -/
def accepted? (sink : RotatingSink) : Request → Option Bytes
  | .write payload => if sink.Accepts payload then some payload else none
  | .flush | .rotate => none

/-- The payloads that are taken, each with the number of rotations before it, of which there have
been some already. -/
def accepted (rotations : Nat) (state : RotatingSink × Directory) :
    List Request → List (Nat × Bytes)
  | [] => []
  | request :: rest =>
      ((state.1.accepted? request).map (rotations, ·)).toList ++
        accepted (if request = .rotate then rotations + 1 else rotations)
          (Sink.rotating.serve state request).1 rest

/-- The payloads that are taken between two rotations, by the number of the first. -/
def acceptedIn (index : Nat) (start : RotatingSink × Directory) (requests : List Request) :
    List Bytes :=
  ((accepted 0 start requests).filter (·.1 = index)).map (·.2)

variable {start : RotatingSink × Directory} {requests : List Request}

theorem accepted_concat (rotations : Nat) (state : RotatingSink × Directory)
    (requests : List Request) (request : Request) :
    accepted rotations state (requests ++ [request]) =
      accepted rotations state requests ++
        (((Sink.rotating.serveAll state requests).1.accepted? request).map
          (rotations + requests.count .rotate, ·)).toList := by
  induction requests generalizing rotations state with
  | nil => simp [accepted, Sink.serveAll]
  | cons first rest ih =>
      have count : (if first = .rotate then rotations + 1 else rotations) + rest.count .rotate =
          rotations + (first :: rest).count .rotate := by
        by_cases isRotate : first = .rotate <;> simp [isRotate, Nat.add_comm, Nat.add_left_comm]
      rw [List.cons_append, accepted, ih, accepted, List.append_assoc, count]
      rfl

/-- No more rotations are noted than there have been. -/
theorem accepted_le (rotations : Nat) (state : RotatingSink × Directory)
    (requests : List Request) :
    ∀ entry ∈ accepted rotations state requests,
      entry.1 ≤ rotations + requests.count .rotate := by
  induction requests using List.reverseRecOn with
  | nil => simp [accepted]
  | append_singleton requests request ih =>
      rw [accepted_concat, List.forall_mem_append, List.count_append]
      refine ⟨fun entry member => ?_, fun entry member => ?_⟩
      · have := ih entry member
        omega
      · simp only [Option.mem_toList, Option.map_eq_some_iff] at member
        obtain ⟨_, -, rfl⟩ := member
        show _ + _ ≤ _
        omega

theorem acceptedIn_concat (index : Nat) (start : RotatingSink × Directory)
    (requests : List Request) (request : Request) :
    acceptedIn index start (requests ++ [request]) =
      acceptedIn index start requests ++
        if requests.count .rotate = index then
          ((Sink.rotating.serveAll start requests).1.accepted? request).toList
        else [] := by
  rw [acceptedIn, accepted_concat, List.filter_append, List.map_append, Nat.zero_add]
  congr 1
  cases (Sink.rotating.serveAll start requests).1.accepted? request with
  | none => simp
  | some payload => by_cases here : requests.count .rotate = index <;> simp [here]

/-- Nothing is taken behind a rotation that there has not been. -/
theorem acceptedIn_of_lt {index : Nat} (start : RotatingSink × Directory)
    (later : requests.count .rotate < index) : acceptedIn index start requests = [] := by
  rw [acceptedIn, List.map_eq_nil_iff, List.filter_eq_nil_iff]
  intro entry member
  have := accepted_le 0 start requests entry member
  simp only [decide_eq_true_eq]
  omega

end RotatingSink

end LeakRecorder
