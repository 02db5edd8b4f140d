/-
# LeakRecorder.Runtime — the managed runtime around the profiler

The passes ask the runtime whether the world is stopped, move the calling thread
into a state in which the runtime may stop it, hold the lock that keeps classes
from being unloaded, and tag the metadata that a report refers to. This runtime
is driven from outside: safepoints begin and end on request, and classes are
unloaded on request.

Everything that a pass asks for is entered in a journal, in order. The counts of
tags, the number of transitions and whether a thread is in the VM state are read
off the journal; tagging a method also tags its holder.
-/
import LeakRecorder.Ident.Set

set_option autoImplicit false

namespace LeakRecorder

/-- What a pass asked of the runtime. -/
inductive RuntimeCall where
  /-- The thread became stoppable; `locked` says whether the class lock was held then. -/
  | enterVm (locked : Bool)
  | leaveVm (locked : Bool)
  | tagClass (classId : ClassId)
  | checkUnloaded (classId : ClassId) (answer : Bool)
  | tagMethod (method : MethodId)
  deriving DecidableEq

structure Runtime where
  /-- Safepoint scopes that are alive. -/
  scopes : Nat
  atSafepoint : Bool
  /-- The class-data-graph lock is held. -/
  locked : Bool
  unloaded : IdSet .loadedClass
  journal : Array RuntimeCall

namespace Runtime

def idle : Runtime :=
  { scopes := 0, atSafepoint := false, locked := false, unloaded := .empty, journal := #[] }

instance : Inhabited Runtime := ⟨idle⟩

/-- Stops the world; the new scope has to be ended. -/
def beginSafepoint (runtime : Runtime) : Runtime :=
  { runtime with scopes := runtime.scopes + 1, atSafepoint := true }

/-- Ends one scope, if one is alive. The world runs again as soon as any scope ends. -/
def endSafepoint? (runtime : Runtime) : Option Runtime :=
  if runtime.scopes = 0 then none
  else some { runtime with scopes := runtime.scopes - 1, atSafepoint := false }

def unloadClass (runtime : Runtime) (classId : ClassId) : Runtime :=
  { runtime with unloaded := (runtime.unloaded.add classId).2 }

def log (runtime : Runtime) (call : RuntimeCall) : Runtime :=
  { runtime with journal := runtime.journal.push call }

/-- Lets the runtime stop the calling thread. -/
def enterVm (runtime : Runtime) : Runtime := runtime.log (.enterVm runtime.locked)

def leaveVm (runtime : Runtime) : Runtime := runtime.log (.leaveVm runtime.locked)

def lock (runtime : Runtime) : Runtime := { runtime with locked := true }

def unlock (runtime : Runtime) : Runtime := { runtime with locked := false }

def tagClass (runtime : Runtime) (classId : ClassId) : Runtime := runtime.log (.tagClass classId)

/-- Tags a method together with its holder. -/
def tagMethod (runtime : Runtime) (method : MethodId) : Runtime := runtime.log (.tagMethod method)

def isUnloaded (runtime : Runtime) (classId : ClassId) : Bool := runtime.unloaded.contains classId

/-- Asks whether a class is unloaded. -/
def checkUnloaded (runtime : Runtime) (classId : ClassId) : Bool × Runtime :=
  let answer := runtime.isUnloaded classId
  (answer, runtime.log (.checkUnloaded classId answer))

/-! ## What the journal says -/

/-- The call tags this class, by itself or as the holder of a method. -/
def RuntimeCall.tagsClass (classId : ClassId) : RuntimeCall → Bool
  | .tagClass tagged => tagged == classId
  | .tagMethod method => method.holder == classId
  | _ => false

def RuntimeCall.tagged? : RuntimeCall → Option MethodId
  | .tagMethod method => some method
  | _ => none

/-- How often a class was tagged. -/
def classTags (runtime : Runtime) (classId : ClassId) : Nat :=
  runtime.journal.toList.countP (RuntimeCall.tagsClass classId)

/-- How often a method was tagged. -/
def methodTags (runtime : Runtime) (method : MethodId) : Nat :=
  runtime.journal.toList.countP (· == .tagMethod method)

/-- The methods that were tagged. -/
def taggedMethods (runtime : Runtime) : IdSet .method :=
  (runtime.journal.toList.filterMap RuntimeCall.tagged?).foldl (fun set m => (set.add m).2) .empty

def entries (runtime : Runtime) : Nat :=
  runtime.journal.toList.countP fun call => match call with
    | .enterVm _ => true
    | _ => false

def exits (runtime : Runtime) : Nat :=
  runtime.journal.toList.countP fun call => match call with
    | .leaveVm _ => true
    | _ => false

/-- A thread has entered the VM state and not left it. -/
def inVm (runtime : Runtime) : Bool := runtime.exits < runtime.entries

end Runtime

end LeakRecorder
