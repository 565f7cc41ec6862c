import FramedSerial.Link.Intake

/-!
# Scripts for a line's reader

A script lists what a line does, without regard to the size of the reader's buffer.
`LineScript.turns` cuts it into the turns of a reader that takes at most `limit` bytes at a
time, and says for each turn what is left of the script after it. The list ends with the end
of the line.
-/

namespace FramedSerial

/-- Cut bytes into pieces of `limit` bytes, the last one perhaps shorter, each with the bytes
after it. -/
def cuts (limit : Nat) (bs : Bytes) : List (Bytes × Bytes) :=
  if _h : limit = 0 ∨ bs = [] then []
  else (bs.take limit, bs.drop limit) :: cuts limit (bs.drop limit)
termination_by bs.length
decreasing_by
  have := List.length_pos_iff.2 fun e => _h (.inr e)
  have : limit ≠ 0 := fun e => _h (.inl e)
  simp only [List.length_drop]
  omega

/-- Cut bytes into pieces of `limit` bytes, the last one perhaps shorter. -/
def pieces (limit : Nat) (bs : Bytes) : List Bytes := (cuts limit bs).map (·.1)

/-- One thing that a line does. -/
inductive LineEvent where
  /-- Bytes arrive. -/
  | data (bytes : Bytes)
  /-- The reader's call fails. -/
  | fails (cause : IoError)
  /-- The line reports its end. -/
  | ends
  /-- The pump is told to stop, during the reader's call. -/
  | stops

/-- Bytes that arrived and were not read yet, and what the line does after that. -/
structure LineScript where
  unread : Bytes
  events : List LineEvent

namespace LineScript

/-- The turns that read these bytes, `stops` applying to the first of them. -/
def dataTurns (limit : Nat) (stops : Bool) (bytes : Bytes) (later : List LineEvent) :
    List (LineTurn × LineScript) :=
  match cuts limit bytes with
  | [] => []
  | (first, unread) :: others =>
    (⟨stops, .ok first⟩, ⟨unread, later⟩) ::
      others.map fun (piece, unread) => (⟨false, .ok piece⟩, ⟨unread, later⟩)

/-- The turns of a reader that takes at most `limit` bytes at a time; `stops` says that the
pump was told to stop since the last turn. -/
def turns (limit : Nat) (stops : Bool) : List LineEvent → List (LineTurn × LineScript)
  | [] => [(⟨stops, .ok []⟩, ⟨[], []⟩)]
  | .stops :: later => turns limit true later
  | .ends :: later => (⟨stops, .ok []⟩, ⟨[], later⟩) :: turns limit false later
  | .fails cause :: later => (⟨stops, .error cause⟩, ⟨[], later⟩) :: turns limit false later
  | .data [] :: later => turns limit stops later
  | .data bytes :: later => dataTurns limit stops bytes later ++ turns limit false later

end LineScript

end FramedSerial
