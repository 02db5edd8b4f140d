/-
# LeakRecorder.Proofs.History — steps and what came before them

A history is a list of steps, oldest first. Two things are said of histories in
general: that every step fits what came before it (`Throughout`), and what the last
step that tells something has told (`lastOf`). Both are read off the history alone, and
a run is followed through them by taking its last step off.
-/
import Mathlib.Data.List.Induction

set_option autoImplicit false

namespace LeakRecorder

variable {α β : Type}

/-- Every step of the history fits the steps before it. -/
def Throughout (Fits : List α → α → Prop) (history : List α) : Prop :=
  ∀ front step back, history = front ++ step :: back → Fits front step

section Throughout

variable {Fits : List α → α → Prop} {history : List α} {step : α}

/-- What comes first fits by itself. -/
theorem Throughout.front {more : List α} (fits : Throughout Fits (history ++ more)) :
    Throughout Fits history := by
  intro front step back split
  exact fits front step (back ++ more) (by simp [split])

theorem Throughout.last (fits : Throughout Fits (history ++ [step])) : Fits history step :=
  fits history step [] rfl

/-- It is enough to look at the steps place by place. -/
theorem throughout_iff_getElem :
    Throughout Fits history ↔
      ∀ index : Fin history.length, Fits (history.take index) history[index] := by
  constructor
  · intro fits index
    exact fits _ _ (history.drop (index + 1)) (by simp)
  · intro each front step back split
    subst split
    simpa using each ⟨front.length, by simp⟩

instance [∀ front step, Decidable (Fits front step)] : Decidable (Throughout Fits history) :=
  decidable_of_iff _ throughout_iff_getElem.symm

end Throughout

/-- What the last step that tells something has told; `otherwise` if none has. -/
def lastOf (tells : α → Option β) (otherwise : β) (history : List α) : β :=
  (history.filterMap tells).getLast?.getD otherwise

theorem lastOf_concat (tells : α → Option β) (otherwise : β) (history : List α) (step : α) :
    lastOf tells otherwise (history ++ [step]) =
      (tells step).getD (lastOf tells otherwise history) := by
  rw [lastOf, List.filterMap_append]
  cases told : tells step with
  | none => simp [told, lastOf]
  | some value => simp [told]

end LeakRecorder
