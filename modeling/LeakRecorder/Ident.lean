/-
# LeakRecorder.Ident — identifiers

Every entity that the stream mentions is named by a 64-bit identifier. The kind
is part of the type, so a class is never looked up under a trace's number. Zero
names nothing (`Ident.isNone`).

A method's identifier carries the class that holds it in its upper 48 bits and
the method's index within that class in the lower 16. `MethodId.holder_pack`
says that packing loses nothing, and `MethodId.pack` refuses exactly the holders
that do not fit.
-/
import LeakRecorder.Fault

set_option autoImplicit false

namespace LeakRecorder

/-- What an identifier names. -/
inductive IdentKind where
  | constant
  | loadedClass
  | method

/-- A 64-bit identifier of one kind. -/
structure Ident (kind : IdentKind) where
  val : UInt64
  deriving DecidableEq

/-- Identifier of a stack trace, a thread or another serialized constant. -/
abbrev TraceId := Ident .constant

/-- Identifier of a loaded class. -/
abbrev ClassId := Ident .loadedClass

/-- Identifier of a method, with its holder in the upper bits. -/
abbrev MethodId := Ident .method

namespace Ident

variable {kind : IdentKind}

instance : Inhabited (Ident kind) := ⟨⟨0⟩⟩

/-- Identifiers are ordered by their number. -/
instance : Ord (Ident kind) := ⟨fun a b => compare a.val b.val⟩

instance : Std.TransOrd (Ident kind) := inferInstanceAs (Std.TransCmp (compareOn Ident.val))

instance : Std.LawfulEqOrd (Ident kind) where
  eq_of_compare {a b} same := by
    cases a
    cases b
    exact congrArg _ (Std.compare_eq_iff_eq.mp same)

/-- Zero names nothing. -/
def isNone (id : Ident kind) : Bool := id.val == 0

@[simp] theorem isNone_iff (id : Ident kind) : id.isNone = true ↔ id.val = 0 := by
  simp [isNone]

end Ident

namespace MethodId

/-- Number of low bits that hold the method's index within its holder. -/
def indexBits : UInt64 := 16

/-- The largest holder that survives the packing. -/
def maxHolder : ClassId := ⟨0xFFFFFFFFFFFFFFFF >>> indexBits⟩

/-- The class that holds the method. -/
def holder (method : MethodId) : ClassId := ⟨method.val >>> indexBits⟩

/-- The method's index within its holder. -/
def index (method : MethodId) : UInt16 := method.val.toUInt16

/-- The identifier of method `index` of `holder`. -/
def pack (holder : ClassId) (index : UInt16) : Except Fault MethodId :=
  if holder.val ≤ maxHolder.val then
    .ok ⟨(holder.val <<< indexBits) ||| index.toUInt64⟩
  else
    .error .holderTooLarge

/-- A packed method reads as holder times 2^16 plus index. -/
theorem val_of_pack {holder : ClassId} {index : UInt16} {method : MethodId}
    (packed : pack holder index = .ok method) :
    method.val.toNat = holder.val.toNat * 65536 + index.toNat := by
  unfold pack at packed
  split at packed
  next fits =>
    cases packed
    have small : holder.val.toNat ≤ 0xFFFFFFFFFFFF := fits
    have shifted : holder.val.toNat <<< 16 = holder.val.toNat * 65536 := Nat.shiftLeft_eq ..
    have := Nat.shiftLeft_add_eq_or_of_lt index.toNat_lt holder.val.toNat
    simp only [indexBits, UInt64.toNat_or, UInt64.toNat_shiftLeft, UInt16.toNat_toUInt64]
    change holder.val.toNat <<< 16 % 2 ^ 64 ||| index.toNat = _
    rw [Nat.mod_eq_of_lt (by omega), ← this, shifted]
  next => cases packed

/-- Packing loses neither the holder nor the index. -/
theorem holder_pack {holder : ClassId} {index : UInt16} {method : MethodId}
    (packed : pack holder index = .ok method) :
    method.holder = holder ∧ method.index = index := by
  have value := val_of_pack packed
  have bound := index.toNat_lt
  constructor
  · apply congrArg Ident.mk
    apply UInt64.toNat_inj.mp
    simp only [indexBits, UInt64.toNat_shiftRight]
    change method.val.toNat >>> 16 = _
    rw [Nat.shiftRight_eq_div_pow]
    omega
  · apply UInt16.toNat_inj.mp
    simp only [MethodId.index, UInt64.toNat_toUInt16]
    omega

end MethodId

/-- What a captured trace is asked for by: the hash of its frames and its identifier. -/
structure TraceKey where
  hash : UInt64
  id : TraceId
  deriving DecidableEq

end LeakRecorder
