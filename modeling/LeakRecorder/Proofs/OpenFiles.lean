/-
# LeakRecorder.Proofs.OpenFiles — what an open file has been given

An open file is judged by what it was given, not by what has reached the file
(`OpenFile.Holds`). Each portion is added at the end, whether it is held back or not
(`Holds.write`), and a flush makes the file hold exactly what was given
(`Holds.content_flush`). No other file is touched on the way (`Passes`).
-/
import LeakRecorder.OpenFile
import LeakRecorder.Proofs.Files

set_option autoImplicit false

namespace LeakRecorder

namespace OpenFile

/-- The same file later on: no other file has been touched. -/
structure Passes (before after : OpenFile × Directory) : Prop where
  number : after.1.number = before.1.number
  alters : Directory.Alters before.1.number before.2 after.2

namespace Passes

variable {before mid after : OpenFile × Directory}

theorem refl (state : OpenFile × Directory) : Passes state state := ⟨rfl, .refl state.2⟩

theorem trans (first : Passes before mid) (second : Passes mid after) : Passes before after where
  number := second.number.trans first.number
  alters := first.alters.trans (first.number ▸ second.alters)

end Passes

theorem passes_pass (file : OpenFile) (dir : Directory) (bytes : Bytes) :
    Passes (file, dir) (file.pass dir bytes) :=
  ⟨rfl, Directory.alters_writeAt dir file.number file.offset bytes⟩

theorem passes_flush (file : OpenFile) (dir : Directory) :
    Passes (file, dir) (file.flush dir) :=
  ⟨rfl, Directory.alters_writeAt dir file.number file.offset file.pending.toBytes⟩

/-- A file that holds back a portion too many is flushed before it takes the portion. -/
theorem write_eq (file : OpenFile) (dir : Directory) (portion : Bytes) :
    file.write dir portion =
      let ready := if capacity < file.pending.size + portion.length then file.flush dir
        else (file, dir)
      if capacity ≤ portion.length then ready.1.pass ready.2 portion
      else ({ ready.1 with pending := ready.1.pending.append portion }, ready.2) := rfl

theorem passes_write (file : OpenFile) (dir : Directory) (portion : Bytes) :
    Passes (file, dir) (file.write dir portion) := by
  have ready : Passes (file, dir)
      (if capacity < file.pending.size + portion.length then file.flush dir else (file, dir)) := by
    split
    · exact passes_flush file dir
    · exact .refl _
  rw [write_eq]
  dsimp only
  split
  · exact ready.trans (passes_pass _ _ portion)
  · exact ⟨ready.number, ready.alters⟩

/-- A portion that fits behind what is held back is held back itself. -/
theorem write_of_fits {file : OpenFile} {portion : Bytes} (dir : Directory)
    (fits : file.pending.size + portion.length ≤ capacity) (small : portion.length < capacity) :
    (file.write dir portion).2 = dir := by
  rw [write_eq]
  dsimp only
  rw [if_neg (by omega), if_neg (by omega)]

theorem passes_writeAll (file : OpenFile) (dir : Directory) (portions : List Bytes) :
    Passes (file, dir) (file.writeAll dir portions) := by
  induction portions generalizing file dir with
  | nil => exact .refl _
  | cons portion rest ih => exact (passes_write file dir portion).trans (ih _ _)

/-- What an open file has been given: what has reached it, and behind that what is held back. -/
def Holds (file : OpenFile) (dir : Directory) (given : Bytes) : Prop :=
  ∃ reached, dir.content file.number = some reached ∧ reached.length = file.offset ∧
    reached ++ file.pending.toBytes = given

section Holds

variable {file : OpenFile} {dir : Directory} {given : Bytes}

/-- What is passed on goes behind what has reached the file, so nothing may be held back. -/
theorem Holds.pass (holds : file.Holds dir given) (nothing : file.pending.toBytes = [])
    (bytes : Bytes) : (file.pass dir bytes).1.Holds (file.pass dir bytes).2 (given ++ bytes) := by
  obtain ⟨reached, held, length, rfl⟩ := holds
  refine ⟨reached ++ bytes, ?_, ?_, ?_⟩
  · show (dir.writeAt file.number file.offset bytes).content file.number = _
    rw [← length, Directory.content_writeAt held]
  · show _ = file.offset + bytes.length
    rw [List.length_append, length]
  · show reached ++ bytes ++ file.pending.toBytes = _
    simp [nothing]

/-- After a flush the file has everything that it was given. -/
theorem Holds.content_flush (holds : file.Holds dir given) :
    (file.flush dir).2.content file.number = some given := by
  obtain ⟨reached, held, length, rfl⟩ := holds
  show (dir.writeAt file.number file.offset file.pending.toBytes).content file.number = _
  rw [← length, Directory.content_writeAt held]

theorem Holds.flush (holds : file.Holds dir given) :
    (file.flush dir).1.Holds (file.flush dir).2 given := by
  refine ⟨given, holds.content_flush, ?_, List.append_nil given⟩
  obtain ⟨reached, -, length, rfl⟩ := holds
  show _ = file.offset + file.pending.toBytes.length
  rw [List.length_append, length]

theorem toBytes_flush (file : OpenFile) (dir : Directory) :
    (file.flush dir).1.pending.toBytes = [] := rfl

theorem Holds.nothing (holds : file.Holds dir []) : file.pending.size = 0 := by
  obtain ⟨reached, -, -, none⟩ := holds
  rw [← Buffer.length_toBytes, (List.append_eq_nil_iff.mp none).2]
  rfl

/-- A portion is added to what the file has been given, whether it is held back or not. -/
theorem Holds.write (holds : file.Holds dir given) (portion : Bytes) :
    (file.write dir portion).1.Holds (file.write dir portion).2 (given ++ portion) := by
  rw [write_eq]
  generalize ready' : (if capacity < file.pending.size + portion.length then file.flush dir
    else (file, dir)) = ready
  have holds : ready.1.Holds ready.2 given := by
    rw [← ready']
    split
    · exact holds.flush
    · exact holds
  dsimp only
  split
  next large =>
    -- A portion as large as this one leaves nothing held back unless nothing was.
    have nothing : ready.1.pending.toBytes = [] := by
      rw [← ready']
      split
      · exact toBytes_flush file dir
      next fits =>
        rw [← List.length_eq_zero_iff, Buffer.length_toBytes]
        show file.pending.size = 0
        omega
    exact holds.pass nothing portion
  next =>
    obtain ⟨reached, held, length, rfl⟩ := holds
    exact ⟨reached, held, length, by simp⟩

theorem Holds.writeAll (holds : file.Holds dir given) (portions : List Bytes) :
    (file.writeAll dir portions).1.Holds (file.writeAll dir portions).2
      (given ++ portions.flatten) := by
  induction portions generalizing file dir given with
  | nil =>
      rw [List.flatten_nil, List.append_nil]
      exact holds
  | cons portion rest ih =>
      have later := ih (holds.write portion)
      rw [List.append_assoc] at later
      exact later

end Holds

/-- A file that has just been opened has been given nothing. -/
theorem create_ok {dir after : Directory} {path : Path} {file : OpenFile} (sound : dir.Sound)
    (made : create dir path = .ok (file, after)) :
    ∃ location, dir.locate? path = some location ∧
      Directory.Creates location file.number dir after ∧ file.Holds after [] := by
  rw [create] at made
  cases opened : dir.createFile path with
  | error cause =>
      rw [opened] at made
      cases made
  | ok result =>
      obtain ⟨number, created⟩ := result
      rw [opened] at made
      cases made
      obtain ⟨location, located, creates⟩ := Directory.createFile_ok sound opened
      exact ⟨location, located, creates, [], creates.empty, rfl, rfl⟩

end OpenFile

end LeakRecorder
