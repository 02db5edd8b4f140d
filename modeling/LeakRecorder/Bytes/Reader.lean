/-
# LeakRecorder.Bytes.Reader — reading fields off the front of bytes

A reader takes what it needs off the front and hands back the rest, or says why
the bytes are no checkpoint. It never looks behind what it takes, and what it
hands back is a suffix of what it was given (`Splits`, kept by every way of
putting readers together): so a loop of readers that take something ends.
-/
import LeakRecorder.Bytes.Text
import LeakRecorder.Failure

set_option autoImplicit false

namespace LeakRecorder

/-- Reads a value off the front of bytes. -/
abbrev Reader (α : Type) := StateT Bytes (Except FormatError) α

namespace Reader

variable {α β : Type}

/-- Exactly `count` bytes. -/
def take (count : Nat) : Reader Bytes := fun bytes =>
  let front := bytes.take count
  if front.length = count then .ok (front, bytes.drop count) else .error .short

/-- A number of `width` bytes. -/
def word (width : Nat) : Reader Nat := do
  let bytes ← take width
  return Word.toNat bytes

def u8 : Reader UInt8 := do
  let n ← word 1
  return UInt8.ofNat n

def u64 : Reader UInt64 := do
  let n ← word 8
  return UInt64.ofNat n

/-- A signed number in two's complement. -/
def i32 : Reader Int32 := do
  let n ← word 4
  return (UInt32.ofNat n).toInt32

def ident {kind : IdentKind} : Reader (Ident kind) := do
  let val ← u64
  return ⟨val⟩

/-- A string: its length, then its bytes, which have to be UTF-8. -/
def text : Reader String := do
  let length ← word 2
  let bytes ← take length
  match Text.ofUtf8? bytes with
  | some text => return text
  | none => throw .invalidText

/-- `count` items, after the ones that `done` holds newest first. -/
def manyAfter (item : Reader α) (done : List α) : Nat → Reader (List α)
  | 0, bytes => .ok (done.reverse, bytes)
  | count + 1, bytes =>
      match item bytes with
      | .ok (a, rest) => manyAfter item (a :: done) count rest
      | .error cause => .error cause

/-- `count` items, one after the other. -/
def many (item : Reader α) (count : Nat) : Reader (List α) := manyAfter item [] count

/-! ## What a reader leaves -/

/-- What the reader hands back is a suffix of what it was given. -/
def Splits (reader : Reader α) : Prop :=
  ∀ bytes a rest, reader bytes = .ok (a, rest) → rest <:+ bytes

theorem splits_pure (a : α) : Splits (pure a : Reader α) := by
  intro bytes b rest read
  cases read
  exact List.suffix_refl _

theorem splits_throw (cause : FormatError) : Splits (throw cause : Reader α) := by
  intro bytes a rest read
  cases read

/-- Two readers in a row succeed exactly when the second succeeds on what the first left. -/
theorem bind_eq_ok {first : Reader α} {next : α → Reader β} {bytes rest : Bytes} {b : β} :
    (first >>= next) bytes = .ok (b, rest) ↔
      ∃ a mid, first bytes = .ok (a, mid) ∧ next a mid = .ok (b, rest) := by
  cases taken : first bytes with
  | error cause => simp [bind, StateT.bind, Except.bind, taken]
  | ok front =>
    cases front with | mk a mid
    simp only [bind, StateT.bind, Except.bind, taken, Except.ok.injEq, Prod.mk.injEq]
    constructor
    · exact fun read => ⟨a, mid, ⟨rfl, rfl⟩, read⟩
    · rintro ⟨_, _, ⟨rfl, rfl⟩, read⟩
      exact read

theorem splits_bind {first : Reader α} {next : α → Reader β} (whole : Splits first)
    (parts : ∀ a, Splits (next a)) : Splits (first >>= next) := by
  intro bytes b rest read
  obtain ⟨a, mid, taken, read⟩ := bind_eq_ok.mp read
  exact (parts a mid b rest read).trans (whole bytes a mid taken)

theorem take_ok {count : Nat} {bytes front rest : Bytes}
    (read : take count bytes = .ok (front, rest)) :
    bytes = front ++ rest ∧ front.length = count := by
  simp only [take] at read
  split at read
  next full =>
    cases read
    exact ⟨(List.take_append_drop count bytes).symm, full⟩
  next => cases read

theorem splits_take (count : Nat) : Splits (take count) := by
  intro bytes front rest read
  exact ⟨front, (take_ok read).1.symm⟩

/-- A word takes its width off the front. -/
theorem length_word {width n : Nat} {bytes rest : Bytes}
    (read : word width bytes = .ok (n, rest)) : bytes.length = width + rest.length := by
  obtain ⟨front, mid, taken, read⟩ := bind_eq_ok.mp read
  cases read
  obtain ⟨whole, full⟩ := take_ok taken
  rw [whole, List.length_append, full]

theorem splits_word (width : Nat) : Splits (word width) :=
  splits_bind (splits_take width) fun _ => splits_pure _

theorem splits_u8 : Splits u8 := splits_bind (splits_word 1) fun _ => splits_pure _

theorem splits_u64 : Splits u64 := splits_bind (splits_word 8) fun _ => splits_pure _

theorem splits_i32 : Splits i32 := splits_bind (splits_word 4) fun _ => splits_pure _

theorem splits_ident {kind : IdentKind} : Splits (@ident kind) :=
  splits_bind splits_u64 fun _ => splits_pure _

theorem splits_text : Splits text :=
  splits_bind (splits_word 2) fun length => splits_bind (splits_take length) fun bytes => by
    cases Text.ofUtf8? bytes with
    | none => exact splits_throw _
    | some text => exact splits_pure _

theorem splits_manyAfter {item : Reader α} (whole : Splits item) (done : List α) (count : Nat) :
    Splits (manyAfter item done count) := by
  induction count generalizing done with
  | zero =>
    intro bytes items rest read
    cases read
    exact List.suffix_refl _
  | succ count ih =>
    intro bytes items rest read
    unfold manyAfter at read
    split at read
    · next a mid taken => exact (ih (a :: done) mid items rest read).trans (whole bytes a mid taken)
    · cases read

theorem splits_many {item : Reader α} (whole : Splits item) (count : Nat) :
    Splits (many item count) := splits_manyAfter whole [] count

end Reader

end LeakRecorder
