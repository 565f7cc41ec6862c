import FramedSerial.Text.Unicode.Ranges

/-!
# Quoted text

A text is quoted between double quotes so that a reader of a message sees exactly what it
holds: a quote and a backslash get a backslash before them, the usual control characters get
their letters, and any other character that would not be seen by itself is given by its code
point.
-/

namespace FramedSerial

/-- A character given by its code point, as in `\u{301}`. -/
def codePointEscape (c : Char) : List Char :=
  "\\u\x7b".toList ++ Nat.toDigits 16 c.toNat ++ ['}']

/-- A character as it stands between quotes. -/
def quotedChar (c : Char) : List Char :=
  match c with
  | '\x00' => ['\\', '0']
  | '\t' => ['\\', 't']
  | '\r' => ['\\', 'r']
  | '\n' => ['\\', 'n']
  | '"' => ['\\', '"']
  | '\\' => ['\\', '\\']
  | _ => if Unicode.isCombining c || Unicode.isUnprintable c then codePointEscape c else [c]

/-- A text between quotes. -/
def quoted (s : String) : String :=
  String.ofList ('"' :: s.toList.flatMap quotedChar ++ ['"'])

end FramedSerial
