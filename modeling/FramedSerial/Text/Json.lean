/-!
# JSON objects

Output for other programs is one flat object per line: fields in a fixed order whose values
are numbers, texts or null, without any space between them.
-/

namespace FramedSerial

/-- The value of a field. -/
inductive JsonScalar where
  | null
  | number (n : Nat)
  | text (s : String)

/-- A small hexadecimal escape of a character below U+0020. -/
def controlEscape (c : Char) : List Char :=
  "\\u00".toList ++ [Nat.digitChar (c.toNat / 16), Nat.digitChar (c.toNat % 16)]

/-- A character as it stands in a JSON string. -/
def jsonChar (c : Char) : List Char :=
  match c with
  | '"' => ['\\', '"']
  | '\\' => ['\\', '\\']
  | '\n' => ['\\', 'n']
  | '\r' => ['\\', 'r']
  | '\t' => ['\\', 't']
  | '\x08' => ['\\', 'b']
  | '\x0c' => ['\\', 'f']
  | _ => if c.toNat < 0x20 then controlEscape c else [c]

/-- A JSON string. -/
def jsonText (s : String) : String :=
  String.ofList ('"' :: s.toList.flatMap jsonChar ++ ['"'])

/-- The text of a value. -/
def JsonScalar.render : JsonScalar → String
  | .null => "null"
  | .number n => toString n
  | .text s => jsonText s

/-- The text of an object. -/
def jsonObject (fields : List (String × JsonScalar)) : String :=
  let field := fun (name, value) => jsonText name ++ ":" ++ JsonScalar.render value
  "\x7b" ++ String.intercalate "," (fields.map field) ++ "\x7d"

end FramedSerial
