/-
# LeakRecorder.Text.Quoted — strings in quotes

Two ways of putting a text between quotes. `Quoted.shown` is for readers of a
message: quotes, backslashes and the common control characters are escaped, and
so is every character that would not be seen by itself. `Quoted.json` is the
JSON string of a text: only what JSON requires is escaped.
-/
import LeakRecorder.Text.Printable

set_option autoImplicit false

namespace LeakRecorder

namespace Quoted

/-- The digits of a number in base sixteen, with at least `width` of them. -/
def hex (width n : Nat) : List Char :=
  let digits := Nat.toDigits 16 n
  List.replicate (width - digits.length) '0' ++ digits

/-- A character between the quotes of a message. -/
def shownChar (c : Char) : List Char :=
  match c with
  | '"' => ['\\', '"']
  | '\\' => ['\\', '\\']
  | '\n' => ['\\', 'n']
  | '\r' => ['\\', 'r']
  | '\t' => ['\\', 't']
  | '\x00' => ['\\', '0']
  | c =>
      if Printable.standsAlone c then [c]
      else ['\\', 'u', '\x7b'] ++ hex 1 c.toNat ++ ['\x7d']

/-- A text in quotes for a message. -/
def shown (text : String) : String :=
  String.ofList ('"' :: text.toList.flatMap shownChar ++ ['"'])

/-- A character between the quotes of a JSON string. -/
def jsonChar (c : Char) : List Char :=
  match c with
  | '"' => ['\\', '"']
  | '\\' => ['\\', '\\']
  | '\n' => ['\\', 'n']
  | '\r' => ['\\', 'r']
  | '\t' => ['\\', 't']
  | '\x08' => ['\\', 'b']
  | '\x0c' => ['\\', 'f']
  | c => if c.toNat < 0x20 then ['\\', 'u'] ++ hex 4 c.toNat else [c]

/-- A text as a JSON string. -/
def json (text : String) : String :=
  String.ofList ('"' :: text.toList.flatMap jsonChar ++ ['"'])

end Quoted

end LeakRecorder
