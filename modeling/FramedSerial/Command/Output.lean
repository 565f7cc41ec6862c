import FramedSerial.Error
import FramedSerial.Command.Value

/-!
# Standard output

A command prints texts and raw bytes. A text has to go out: if standard output does not take
it, the program crashes, because nobody would notice otherwise. Raw bytes are meant for
another program, which may close its end when it has seen enough, so it does not matter
whether they go out.

Standard output either takes everything or fails at every write.
-/

namespace FramedSerial

/-- One thing to print. -/
inductive Output where
  /-- A text that has to go out. -/
  | text (text : String)
  /-- Bytes that may be lost. -/
  | bytes (bytes : Bytes)

namespace Output

/-- A text and a line feed. -/
def line (s : String) : Output := .text (s ++ "\n")

/-- The bytes to print. -/
def content : Output → Bytes
  | .text s => textBytes s
  | .bytes bs => bs

/-- Print to a standard output that fails at every write if there is a fault: the bytes that
came out. -/
def print (fault : Option IoError) (o : Output) : Except Crash Bytes :=
  match fault with
  | none => .ok o.content
  | some cause =>
    match o with
    | .text s => if s.isEmpty then .ok [] else .error (.printFailed cause)
    | .bytes _ => .ok []

/-- Print one thing after the other. -/
def printAll (fault : Option IoError) : List Output → Except Crash Bytes
  | [] => .ok []
  | o :: os => do
    let first ← o.print fault
    let rest ← printAll fault os
    return first ++ rest

end Output

end FramedSerial
