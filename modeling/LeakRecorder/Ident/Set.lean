/-
# LeakRecorder.Ident.Set — sets of identifiers that only grow

A pass keeps the identifiers it has met in such a set, and the profiler keeps
the threads that have exited. A set is made for an expected number of members,
which decides only whether it can be made at all; it grows past that number.
-/
import LeakRecorder.Failure
import Std.Data.TreeSet

set_option autoImplicit false

namespace LeakRecorder

/-- A set of identifiers. -/
structure IdSet (kind : IdentKind) where
  members : Std.TreeSet (Ident kind)

namespace IdSet

variable {kind : IdentKind}

def empty : IdSet kind := ⟨∅⟩

instance : Inhabited (IdSet kind) := ⟨empty⟩

/-- An empty set, if a set of that size can exist. -/
def withCapacity (capacity : UInt64) : Except Failure (IdSet kind) := do
  reserve capacity
  return empty

def contains (set : IdSet kind) (id : Ident kind) : Bool := set.members.contains id

def size (set : IdSet kind) : Nat := set.members.size

def isEmpty (set : IdSet kind) : Bool := set.members.isEmpty

/-- Adds an identifier; says whether it is new. -/
def add (set : IdSet kind) (id : Ident kind) : Bool × IdSet kind :=
  (!set.contains id, ⟨set.members.insert id⟩)

/-- The members in rising order. -/
def toList (set : IdSet kind) : List (Ident kind) := set.members.toList

@[simp] theorem contains_empty (id : Ident kind) : (empty : IdSet kind).contains id = false :=
  Std.TreeSet.contains_emptyc

theorem contains_add (set : IdSet kind) (id other : Ident kind) :
    (set.add id).2.contains other = (decide (id = other) || set.contains other) := by
  have same : (compare id other == .eq) = decide (id = other) := by
    by_cases h : id = other
    · subst h
      simp
    · simp [h, Std.LawfulEqCmp.compare_eq_iff_eq]
  simp only [add, contains, Std.TreeSet.contains_insert, same]

theorem size_add (set : IdSet kind) (id : Ident kind) :
    (set.add id).2.size = if set.contains id then set.size else set.size + 1 :=
  Std.TreeSet.size_insert

end IdSet

end LeakRecorder
