import FramedSerial.Ring.Cells

/-!
# A byte ring that drops its oldest bytes

A ring is a set of sound cells. Since soundness is part of the type, the operations here are
total where those on bare cells can crash: each runs the operation on the cells with its sums
checked, and the crash has been proved away.

The bytes waiting in a ring are read off by `toList`, the oldest first.
-/

namespace FramedSerial

/-- Cells whose indices are in range. -/
structure Ring where
  cells : Cells
  sound : cells.Sound

namespace Ring

/-- An empty ring for this many bytes. -/
def allocate (capacity : UInt64) : Except Crash Ring :=
  match h : Cells.allocate .checked capacity with
  | .error e => .error e
  | .ok cells => .ok ⟨cells, Cells.sound_of_allocate h⟩

/-- An empty ring for a number of bytes that is known to be small enough. -/
def ofCapacity (capacity : Nat) (h : capacity < maxAllocation) : Ring where
  cells := .fresh (capacity + 1)
  sound := Cells.sound_fresh (Nat.succ_pos capacity) h

/-- The number of bytes a ring holds at most. -/
def capacity (r : Ring) : Nat := r.cells.slots.size - 1

/-- The number of bytes waiting. -/
def length (r : Ring) : Nat := ((r.cells.head + r.cells.size - r.cells.tail) % r.cells.size).toNat

/-- No byte is waiting. -/
def isEmpty (r : Ring) : Bool := r.cells.isEmpty

/-- The bytes waiting, the oldest first. -/
def toList (r : Ring) : Bytes :=
  (List.range r.length).map fun i =>
    r.cells.slots.getD ((r.cells.tail.toNat + i) % r.cells.slots.size) 0

/-- Append a byte, and say whether the oldest one had to go for it. -/
def push (r : Ring) (b : UInt8) : Ring × Bool :=
  match h : r.cells.push .checked b with
  | .ok (cells, evicted) =>
    have sound : cells.Sound := by
      obtain ⟨_, _, h', hsound, -⟩ := r.sound.push .checked b
      cases h.symm.trans h'
      exact hsound
    (⟨cells, sound⟩, evicted)
  | .error e => absurd h (by obtain ⟨_, _, h', -⟩ := r.sound.push .checked b; simp [h'])

/-- Take the oldest byte. -/
def pop (r : Ring) : Option UInt8 × Ring :=
  match h : r.cells.pop .checked with
  | .ok (b, cells) =>
    have sound : cells.Sound := by
      obtain ⟨_, _, h', hsound, -⟩ := r.sound.pop .checked
      cases h.symm.trans h'
      exact hsound
    (b, ⟨cells, sound⟩)
  | .error e => absurd h (by obtain ⟨_, _, h', -⟩ := r.sound.pop .checked; simp [h'])

/-- Take up to `n` of the oldest bytes. -/
def popUpTo (n : Nat) (r : Ring) : Bytes × Ring :=
  match h : r.cells.popUpTo .checked n with
  | .ok (bs, cells) =>
    have sound : cells.Sound := by
      obtain ⟨_, _, h', hsound, -⟩ := r.sound.popUpTo .checked n
      cases h.symm.trans h'
      exact hsound
    (bs, ⟨cells, sound⟩)
  | .error e => absurd h (by obtain ⟨_, _, h', -⟩ := r.sound.popUpTo .checked n; simp [h'])

/-- Move as many of the oldest bytes as fit to the front of a buffer, and count them. The rest
of the buffer stays as it is. -/
def popInto (buffer : Bytes) (r : Ring) : Nat × Bytes × Ring :=
  let (bs, r) := r.popUpTo buffer.length
  (bs.length, bs ++ buffer.drop bs.length, r)

/-- Drop every waiting byte. -/
def clear (r : Ring) : Ring := ⟨r.cells.clear, r.sound.clear⟩

/-- Append bytes in order, and count the bytes that had to go. -/
def pushAll (r : Ring) (bs : Bytes) : Ring × Nat :=
  bs.foldl (fun (r, gone) b =>
    let (r, evicted) := r.push b
    (r, gone + evicted.toNat)) (r, 0)

end Ring

end FramedSerial
