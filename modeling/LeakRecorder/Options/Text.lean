/-
# LeakRecorder.Options.Text — options as text

Options are given as a JSON object with any of the four fields, or as a JSON
array of values for the fields in their order; fields that are not given keep
their standard values. A field has to be a whole number of 64 bits.

The text is read once from the front and the first fault wins: a field of the
wrong type is reported even when the text behind it is no JSON. A key is judged
as soon as it has been read, before its value. A number with a fraction or an
exponent, one of more than 64 bits, and minus zero are numbers with a point.
-/
import LeakRecorder.Decimal.Shortest
import LeakRecorder.Options
import LeakRecorder.Text.Quoted

set_option autoImplicit false

namespace LeakRecorder

namespace Options

/-- What was found where something else was expected. -/
inductive Found where
  | null
  | boolean (value : Bool)
  | integer (value : Int)
  | point (value : Float)
  | string (value : String)
  | sequence
  | map

/-- Numbers with a point are written out up to sixteen digits before and five places behind it. -/
def pointFormat : PointFormat := { leastPlain := -5, greatestPlain := 15 }

def Found.text : Found → String
  | .null => "null"
  | .boolean value => "boolean `" ++ toString value ++ "`"
  | .integer value => "integer `" ++ toString value ++ "`"
  | .point value => "floating point `" ++ pointFormat.ofFloat value ++ "`"
  | .string value => "string " ++ Quoted.shown value
  | .sequence => "sequence"
  | .map => "map"

/-- Why a text gives no options. -/
inductive TextError where
  /-- The text is no JSON. -/
  | malformed
  /-- The text ends before it is complete. -/
  | unfinished
  | wrongType (found : Found) (expected : String)
  | wrongValue (value : Int) (expected : String)
  | unknownField (name : String)
  | duplicateField (field : Field)

namespace TextError

/-- The text of a fault of the data; a fault of the JSON has none. -/
def message? : TextError → Option String
  | .malformed | .unfinished => none
  | .wrongType found expected =>
      some ("invalid leak profiler options: invalid type: " ++ found.text ++ ", expected " ++
        expected)
  | .wrongValue value expected =>
      some ("invalid leak profiler options: invalid value: integer `" ++ toString value ++
        "`, expected " ++ expected)
  | .unknownField name =>
      some ("invalid leak profiler options: unknown field `" ++ name ++ "`, expected one of " ++
        String.intercalate ", " (Field.all.map fun field => "`" ++ field.name ++ "`"))
  | .duplicateField field =>
      some ("invalid leak profiler options: duplicate field `" ++ field.name ++ "`")

end TextError

/-- Reads a value off the front of a text. -/
abbrev Scan (α : Type) := List Char → Except TextError (α × List Char)

namespace Scan

def isBlank (c : Char) : Bool := c == ' ' || c == '\n' || c == '\t' || c == '\r'

def skipBlanks (text : List Char) : List Char := text.dropWhile isBlank

/-- Takes the rest of a word whose first letter has been read. -/
def word : List Char → List Char → Except TextError (List Char)
  | [], rest => .ok rest
  | _ :: _, [] => .error .unfinished
  | expected :: more, c :: rest => if c = expected then word more rest else .error .malformed

/-! ## Numbers -/

/-- A number as its digits give it. -/
inductive Number where
  | natural (value : UInt64)
  | negative (value : Int)
  | point (value : Float)

def digitValue (c : Char) : Nat := c.toNat - '0'.toNat

/-- Appends digits to a number as long as it fits into 64 bits; the digits behind stay. -/
def accumulate (n : Nat) : List Char → Nat × List Char
  | [] => (n, [])
  | digit :: rest =>
      let next := n * 10 + digitValue digit
      if next < 0x10000000000000000 then accumulate next rest else (n, digit :: rest)

/-- Ten to a power up to 308, correctly rounded. -/
def powerOfTen (exponent : Nat) : Float := Float.ofScientific 1 false exponent

/-- `significand * 10 ^ exponent`, rounded at each step. -/
def scale (significand : Nat) (exponent : Int) : Except TextError Float :=
  let f := (UInt64.ofNat significand).toFloat
  if 0 ≤ exponent then
    if 308 < exponent then
      if significand = 0 then .ok f else .error .malformed
    else
      let scaled := f * powerOfTen exponent.toNat
      if scaled.isInf then .error .malformed else .ok scaled
  else if -308 ≤ exponent then .ok (f / powerOfTen (-exponent).toNat)
  else if -616 ≤ exponent then .ok (f / powerOfTen 308 / powerOfTen (-exponent - 308).toNat)
  else .ok 0

def signed (negative : Bool) (f : Float) : Float := if negative then -f else f

/-- The largest exponent that is read exactly. -/
def maxExponent : Nat := 2147483647

/-- Reads digits into an exponent; nothing when it grows too large to be read exactly. -/
def exponentOf : Nat → List Char → Option Nat
  | n, [] => some n
  | n, digit :: rest =>
      let next := n * 10 + digitValue digit
      if next ≤ maxExponent then exponentOf next rest else none

/-- The number behind an `e`. -/
def exponent (negative : Bool) (significand : Nat) (start : Int) (text : List Char) :
    Except TextError (Number × List Char) := do
  let (down, text) := match text with
    | '+' :: rest => (false, rest)
    | '-' :: rest => (true, rest)
    | text => (false, text)
  match text with
  | [] => throw .unfinished
  | first :: _ =>
      if !first.isDigit then throw .malformed
      let digits := text.takeWhile Char.isDigit
      let rest := text.dropWhile Char.isDigit
      match exponentOf 0 digits with
      | none =>
          if significand ≠ 0 && !down then throw .malformed
          return (.point (signed negative 0), rest)
      | some e =>
          let value ← scale significand (if down then start - e else start + e)
          return (.point (signed negative value), rest)

/-- The number behind its whole part, of which the last `extra` digits did not fit. -/
def fraction (negative : Bool) (significand : Nat) (extra : Nat) (text : List Char) :
    Except TextError (Number × List Char) := do
  match text with
  | '.' :: text =>
      let digits := text.takeWhile Char.isDigit
      let rest := text.dropWhile Char.isDigit
      if digits.isEmpty then
        if rest.isEmpty then throw .unfinished else throw .malformed
      let (significand, ignored) := accumulate significand digits
      let power : Int := (extra : Int) - (digits.length - ignored.length : Nat)
      match rest with
      | 'e' :: rest | 'E' :: rest => exponent negative significand power rest
      | rest =>
          let value ← scale significand power
          return (.point (signed negative value), rest)
  | 'e' :: rest | 'E' :: rest => exponent negative significand extra rest
  | rest =>
      if 0 < extra then
        let value ← scale significand extra
        return (.point (signed negative value), rest)
      else if !negative then return (.natural (UInt64.ofNat significand), rest)
      else if significand = 0 || 0x8000000000000000 < significand then
        return (.point (-(UInt64.ofNat significand).toFloat), rest)
      else return (.negative (-(significand : Int)), rest)

/-- A number without its sign. -/
def unsigned (negative : Bool) (text : List Char) : Except TextError (Number × List Char) :=
  match text with
  | [] => .error .unfinished
  | '0' :: rest =>
      match rest with
      | next :: _ => if next.isDigit then .error .malformed else fraction negative 0 0 rest
      | [] => fraction negative 0 0 rest
  | first :: _ =>
      if first.isDigit then
        let (significand, extra) := accumulate 0 (text.takeWhile Char.isDigit)
        fraction negative significand extra.length (text.dropWhile Char.isDigit)
      else .error .malformed

/-! ## Strings -/

def hexValue? (c : Char) : Option Nat :=
  if c.isDigit then some (c.toNat - '0'.toNat)
  else if 'a' ≤ c ∧ c ≤ 'f' then some (c.toNat - 'a'.toNat + 10)
  else if 'A' ≤ c ∧ c ≤ 'F' then some (c.toNat - 'A'.toNat + 10)
  else none

/-- Four digits in base sixteen. The text has to go on for four bytes at least. -/
def codeUnit (text : List Char) : Except TextError (Nat × List Char) :=
  let size := (text.take 4).foldl (fun size c => size + c.utf8Size) 0
  if size < 4 then .error .unfinished
  else
    match text with
    | a :: b :: c :: d :: rest =>
        match hexValue? a, hexValue? b, hexValue? c, hexValue? d with
        | some a, some b, some c, some d => .ok (((a * 16 + b) * 16 + c) * 16 + d, rest)
        | _, _, _, _ => .error .malformed
    | _ => .error .malformed

/-- The character of a `u` escape; one beyond 16 bits takes two escapes. -/
def unicode (text : List Char) : Except TextError (Char × List Char) := do
  let (high, text) ← codeUnit text
  if 0xDC00 ≤ high ∧ high ≤ 0xDFFF then throw .malformed
  if high < 0xD800 ∨ 0xDBFF < high then return (Char.ofNat high, text)
  match text with
  | [] => throw .unfinished
  | '\\' :: [] => throw .unfinished
  | '\\' :: 'u' :: text =>
      let (low, text) ← codeUnit text
      if low < 0xDC00 ∨ 0xDFFF < low then throw .malformed
      return (Char.ofNat ((high - 0xD800) * 0x400 + (low - 0xDC00) + 0x10000), text)
  | _ => throw .malformed

/-- What an escape stands for, after its backslash. -/
def escape (text : List Char) : Except TextError (Char × List Char) :=
  match text with
  | [] => .error .unfinished
  | 'u' :: rest => unicode rest
  | c :: rest =>
      match c with
      | '"' => .ok ('"', rest)
      | '\\' => .ok ('\\', rest)
      | '/' => .ok ('/', rest)
      | 'b' => .ok ('\x08', rest)
      | 'f' => .ok ('\x0c', rest)
      | 'n' => .ok ('\n', rest)
      | 'r' => .ok ('\r', rest)
      | 't' => .ok ('\t', rest)
      | _ => .error .malformed

/-- The characters of a string up to its closing quote, after the ones that `done` holds newest
first. Each round takes a character at least, so `fuel` is the length of the text. -/
def stringAfter (done : List Char) : Nat → List Char → Except TextError (String × List Char)
  | _, [] => .error .unfinished
  | 0, _ => .error .unfinished
  | _ + 1, '"' :: rest => .ok (String.ofList done.reverse, rest)
  | fuel + 1, '\\' :: rest =>
      match escape rest with
      | .ok (c, rest) => stringAfter (c :: done) fuel rest
      | .error fault => .error fault
  | fuel + 1, c :: rest =>
      if c.toNat < 0x20 then .error .malformed else stringAfter (c :: done) fuel rest

/-- A string, after its opening quote. -/
def string (text : List Char) : Except TextError (String × List Char) :=
  stringAfter [] text.length text

/-! ## Values -/

/-- What stands at the front of a text, where something else was expected. A number, a word and a
string are read whole. -/
def found (text : List Char) : Except TextError Found := do
  match text with
  | 'n' :: rest => let _ ← word ['u', 'l', 'l'] rest; return .null
  | 't' :: rest => let _ ← word ['r', 'u', 'e'] rest; return .boolean true
  | 'f' :: rest => let _ ← word ['a', 'l', 's', 'e'] rest; return .boolean false
  | '"' :: rest => let (value, _) ← string rest; return .string value
  | '[' :: _ => return .sequence
  | '\x7b' :: _ => return .map
  | '-' :: rest => let (number, _) ← unsigned true rest; return ofNumber number
  | c :: _ =>
      if c.isDigit then let (number, _) ← unsigned false text; return ofNumber number
      else throw .malformed
  | [] => throw .malformed
where
  /-- A number as something found. -/
  ofNumber : Number → Found
    | .natural value => .integer value.toNat
    | .negative value => .integer value
    | .point value => .point value

/-- The value of a field. -/
def value (field : Field) (text : List Char) : Except TextError (UInt64 × List Char) := do
  let judge (number : Number × List Char) : Except TextError (UInt64 × List Char) :=
    match number with
    | (.natural value, rest) => .ok (value, rest)
    | (.negative value, _) => .error (.wrongValue value field.typeName)
    | (.point value, _) => .error (.wrongType (.point value) field.typeName)
  match skipBlanks text with
  | [] => throw .unfinished
  | '-' :: rest => judge (← unsigned true rest)
  | c :: rest =>
      if c.isDigit then judge (← unsigned false (c :: rest))
      else throw (.wrongType (← found (c :: rest)) field.typeName)

/-- The values of an array for the given fields, and its end. -/
def elements (options : Options) (isFirst : Bool) :
    List Field → List Char → Except TextError (Options × List Char)
  | [], text =>
      match skipBlanks text with
      | ']' :: rest => .ok (options, rest)
      | [] => .error .unfinished
      | _ => .error .malformed
  | field :: fields, text =>
      match skipBlanks text with
      | [] => .error .unfinished
      | ']' :: rest => .ok (options, rest)
      | c :: rest =>
          if isFirst then next options field fields (c :: rest)
          else if c = ',' then
            match skipBlanks rest with
            | ']' :: _ => .error .malformed
            | [] => .error .unfinished
            | text => next options field fields text
          else .error .malformed
where
  /-- One value of the array and the rest of it. -/
  next (options : Options) (field : Field) (fields : List Field) (text : List Char) :
      Except TextError (Options × List Char) :=
    match value field text with
    | .ok (given, rest) => elements (options.set field given) false fields rest
    | .error fault => .error fault

/-- The key of a member, after its opening quote, and the colon behind it. -/
def key (given : List Field) (text : List Char) : Except TextError (Field × List Char) := do
  let (name, rest) ← string text
  match Field.ofName? name with
  | none => throw (.unknownField name)
  | some field =>
      if given.contains field then throw (.duplicateField field)
      match skipBlanks rest with
      | ':' :: rest => return (field, rest)
      | [] => throw .unfinished
      | _ => throw .malformed

/-- The members of an object, after the fields already given, and its end. A field is given once,
so `fuel` is more than the number of fields. -/
def members (options : Options) (given : List Field) :
    Nat → List Char → Except TextError (Options × List Char)
  | 0, _ => .error .malformed
  | fuel + 1, text =>
      let member (text : List Char) : Except TextError (Options × List Char) := do
        let (field, rest) ← key given text
        let (number, rest) ← value field rest
        members (options.set field number) (field :: given) fuel rest
      match skipBlanks text with
      | [] => .error .unfinished
      | '\x7d' :: rest => .ok (options, rest)
      | c :: rest =>
          if given.isEmpty then
            if c = '"' then member rest else .error .malformed
          else if c = ',' then
            match skipBlanks rest with
            | '"' :: rest => member rest
            | [] => .error .unfinished
            | _ => .error .malformed
          else .error .malformed

end Scan

/-- The options that a text gives. -/
def ofText (text : String) : Except TextError Options := do
  let (options, rest) ← match Scan.skipBlanks text.toList with
    | [] => throw .unfinished
    | '[' :: rest => Scan.elements standard true Field.all rest
    | '\x7b' :: rest => Scan.members standard [] (Field.all.length + 1) rest
    | other => throw (.wrongType (← Scan.found other) "struct LeakProfilerOptions")
  if (Scan.skipBlanks rest).isEmpty then return options else throw .malformed

end Options

end LeakRecorder
