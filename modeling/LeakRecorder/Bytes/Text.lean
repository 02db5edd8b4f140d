/-
# LeakRecorder.Bytes.Text — strings of the stream

A string is written as a two-byte length and that many bytes of UTF-8. A text
that is longer than the length can say is cut after the last whole character
that fits: `fitting` is that cut, the longest leading run of whole characters
within the room (`fitting_isPrefix`, `size_fitting_le`, `fitting_of_size_le`).
-/
import LeakRecorder.Bytes.Word

set_option autoImplicit false

namespace LeakRecorder

namespace Text

/-- How many bytes of UTF-8 the characters take. -/
def size : List Char → Nat
  | [] => 0
  | c :: rest => c.utf8Size + size rest

/-- The longest leading run of whole characters that takes at most `room` bytes. -/
def fitting : Nat → List Char → List Char
  | _, [] => []
  | room, c :: rest =>
      if c.utf8Size ≤ room then c :: fitting (room - c.utf8Size) rest else []

/-- `fitCount room chars n` is `n` more than the number of characters in the fitting run. -/
def fitCount : Nat → List Char → Nat → Nat
  | _, [], n => n
  | room, c :: rest, n =>
      if c.utf8Size ≤ room then fitCount (room - c.utf8Size) rest (n + 1) else n

theorem fitCount_eq (room : Nat) (chars : List Char) (n : Nat) :
    fitCount room chars n = n + (fitting room chars).length := by
  induction chars generalizing room n with
  | nil => simp [fitCount, fitting]
  | cons c rest ih =>
    by_cases fits : c.utf8Size ≤ room
    · simp only [fitCount, fitting, fits, if_true, ih, List.length_cons]
      omega
    · simp [fitCount, fitting, fits]

theorem fitting_isPrefix (room : Nat) (chars : List Char) : fitting room chars <+: chars := by
  induction chars generalizing room with
  | nil => simp [fitting]
  | cons c rest ih =>
    by_cases fits : c.utf8Size ≤ room
    · simpa [fitting, fits] using ih (room - c.utf8Size)
    · simp [fitting, fits]

/-- Cutting by count is cutting by room. -/
theorem take_fitCount (room : Nat) (chars : List Char) :
    chars.take (fitCount room chars 0) = fitting room chars := by
  rw [fitCount_eq, Nat.zero_add]
  exact (List.prefix_iff_eq_take.mp (fitting_isPrefix room chars)).symm

theorem size_fitting_le (room : Nat) (chars : List Char) : size (fitting room chars) ≤ room := by
  induction chars generalizing room with
  | nil => simp [fitting, size]
  | cons c rest ih =>
    by_cases fits : c.utf8Size ≤ room
    · have := ih (room - c.utf8Size)
      simp only [fitting, fits, if_true, size]
      omega
    · simp [fitting, fits, size]

/-- A text that fits is kept whole. -/
theorem fitting_of_size_le {room : Nat} {chars : List Char} (fits : size chars ≤ room) :
    fitting room chars = chars := by
  induction chars generalizing room with
  | nil => simp [fitting]
  | cons c rest ih =>
    simp only [size] at fits
    have head : c.utf8Size ≤ room := by omega
    simp [fitting, head, @ih (room - c.utf8Size) (by omega)]

/-- The longest string a two-byte length can announce. -/
def limit : Nat := 65535

/-- What is kept of a text: all of it, or the longest run of whole characters that fits. -/
def kept (text : String) : String :=
  if text.utf8ByteSize ≤ limit then text
  else String.ofList (text.toList.take (fitCount limit text.toList 0))

/-- The UTF-8 bytes of a text. -/
def utf8 (text : String) : Bytes := text.toUTF8.data.toList

/-- The text that UTF-8 bytes spell, if they are UTF-8. -/
def ofUtf8? (bytes : Bytes) : Option String := String.fromUTF8? ⟨bytes.toArray⟩

/-- A text as the stream holds it: its length, then its bytes. -/
def encode (text : String) : Bytes :=
  let bytes := utf8 (kept text)
  Word.ofNat 2 bytes.length ++ bytes

theorem length_utf8 (text : String) : (utf8 text).length = text.utf8ByteSize := by
  simp [utf8]

theorem length_utf8_ofList (chars : List Char) :
    (utf8 (String.ofList chars)).length = size chars := by
  have encoded : (chars.flatMap String.utf8EncodeChar).length = size chars := by
    induction chars with
    | nil => rfl
    | cons c rest ih =>
      rw [List.flatMap_cons, List.length_append, ih, String.length_utf8EncodeChar, size]
  rw [← encoded]
  simp [utf8, List.utf8Encode]

/-- What is kept of a text fits. -/
theorem length_utf8_kept (text : String) : (utf8 (kept text)).length ≤ limit := by
  rw [kept]
  split
  next fits =>
    rw [length_utf8]
    exact fits
  next =>
    rw [length_utf8_ofList, take_fitCount]
    exact size_fitting_le _ _

@[simp] theorem ofUtf8?_utf8 (text : String) : ofUtf8? (utf8 text) = some text := by
  have valid : text.toUTF8.IsValidUTF8 := text.isValidUTF8
  have same : (⟨(utf8 text).toArray⟩ : ByteArray) = text.toUTF8 := by
    simp only [utf8, Array.toArray_toList]
  rw [ofUtf8?, same, String.fromUTF8?, dif_pos valid]
  rfl

theorem utf8_of_ofUtf8? {bytes : Bytes} {text : String} (read : ofUtf8? bytes = some text) :
    utf8 text = bytes := by
  simp only [ofUtf8?, String.fromUTF8?] at read
  split at read
  · cases read
    simp [utf8, String.fromUTF8, String.toUTF8]
  · cases read

end Text

end LeakRecorder
