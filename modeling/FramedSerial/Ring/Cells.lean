import FramedSerial.Error

/-!
# The cells of a byte ring

A ring is an array of slots and two indices, the next slot to write and the oldest slot to
read. One slot always stays free, so equal indices mean an empty ring, and a ring that is to
hold `c` bytes has `c + 1` slots.

The indices are 64-bit words and every operation below is the one that the machine performs
on them: an index at the end of the array is refused and a remainder by zero is too. What
becomes of a sum that no word holds depends on how the program was built, so the operations
take its `Arithmetic`. The program as a whole is taken as it is built with overflow checks,
which is what `Ring` and everything above it use.

None of this happens in a ring whose indices lie inside its array. `Cells.Sound` says when
that is, and every operation keeps it, in either arithmetic. What it excludes is real,
though: a ring of `2 ^ 64 - 1` bytes is a crash if sums are checked, and otherwise an array
of no slots at all.
-/

namespace FramedSerial

/-- What is done about a sum or a difference that no word holds. -/
inductive Arithmetic where
  /-- The program crashes. -/
  | checked
  /-- The word goes round. -/
  | wrapping
deriving DecidableEq

namespace Arithmetic

def add (arith : Arithmetic) (a b : UInt64) : Except Crash UInt64 :=
  match arith with
  | .checked => if a.toNat + b.toNat < UInt64.size then .ok (a + b) else .error .additionOverflow
  | .wrapping => .ok (a + b)

def sub (arith : Arithmetic) (a b : UInt64) : Except Crash UInt64 :=
  match arith with
  | .checked => if b ≤ a then .ok (a - b) else .error .subtractionOverflow
  | .wrapping => .ok (a - b)

variable {arith : Arithmetic} {a b : UInt64}

/-- A sum that a word holds is the same in either arithmetic. -/
theorem add_of_lt (h : a.toNat + b.toNat < UInt64.size) : arith.add a b = .ok (a + b) := by
  cases arith with
  | checked => exact if_pos h
  | wrapping => rfl

theorem sub_of_le (h : b ≤ a) : arith.sub a b = .ok (a - b) := by
  cases arith with
  | checked => exact if_pos h
  | wrapping => rfl

theorem checked_add_of_le (h : UInt64.size ≤ a.toNat + b.toNat) :
    checked.add a b = .error .additionOverflow :=
  if_neg (Nat.not_lt_of_le h)

/-- The sum of two words is a word that stands for it. -/
theorem toNat_add_of_lt (h : a.toNat + b.toNat < UInt64.size) :
    (a + b).toNat = a.toNat + b.toNat := by
  rw [UInt64.toNat_add, Nat.mod_eq_of_lt h]

end Arithmetic

/-- The slots of a ring and its indices. -/
structure Cells where
  slots : Array UInt8
  /-- The slot that the next byte goes to. -/
  head : UInt64
  /-- The slot of the oldest byte. -/
  tail : UInt64

namespace Cells

/-- The remainder of a division, which has no value by zero. -/
def remainder (a b : UInt64) : Except Crash UInt64 :=
  if b = 0 then .error .remainderByZero else .ok (a % b)

/-- The number of slots. -/
def size (c : Cells) : UInt64 := UInt64.ofNat c.slots.size

/-- So many empty slots. -/
def fresh (count : Nat) : Cells := ⟨Array.replicate count 0, 0, 0⟩

/-- The cells of an empty ring for this many bytes. -/
def allocate (arith : Arithmetic) (capacity : UInt64) : Except Crash Cells := do
  let count ← arith.add capacity 1
  if count.toNat ≤ maxAllocation then return fresh count.toNat
  else throw .capacityOverflow

/-- The number of bytes a ring holds at most. -/
def capacity (arith : Arithmetic) (c : Cells) : Except Crash UInt64 := arith.sub c.size 1

/-- The number of bytes waiting. -/
def length (arith : Arithmetic) (c : Cells) : Except Crash UInt64 := do
  let round ← arith.add c.head c.size
  let distance ← arith.sub round c.tail
  remainder distance c.size

/-- No byte is waiting. -/
def isEmpty (c : Cells) : Bool := c.head == c.tail

/-- The slot after this one. -/
def next (arith : Arithmetic) (c : Cells) (i : UInt64) : Except Crash UInt64 := do
  remainder (← arith.add i 1) c.size

/-- Append a byte, and say whether the oldest one had to go for it. -/
def push (arith : Arithmetic) (c : Cells) (b : UInt8) : Except Crash (Cells × Bool) :=
  if h : c.head.toNat < c.slots.size then do
    let head ← c.next arith c.head
    if head == c.tail then
      let tail ← c.next arith c.tail
      return (⟨c.slots.set c.head.toNat b h, head, tail⟩, true)
    else return (⟨c.slots.set c.head.toNat b h, head, c.tail⟩, false)
  else .error (.indexOutOfBounds c.slots.size c.head.toNat)

/-- Take the oldest byte. -/
def pop (arith : Arithmetic) (c : Cells) : Except Crash (Option UInt8 × Cells) :=
  if c.isEmpty then return (none, c)
  else if h : c.tail.toNat < c.slots.size then do
    let tail ← c.next arith c.tail
    return (some c.slots[c.tail.toNat], { c with tail })
  else .error (.indexOutOfBounds c.slots.size c.tail.toNat)

/-- Take up to `n` of the oldest bytes. -/
def popUpTo (arith : Arithmetic) : Nat → Cells → Except Crash (Bytes × Cells)
  | 0, c => return ([], c)
  | n + 1, c => do
    match ← c.pop arith with
    | (none, c) => return ([], c)
    | (some b, c) =>
      let (bs, c) ← popUpTo arith n c
      return (b :: bs, c)

/-- Move as many of the oldest bytes as fit to the front of a buffer, and count them. The rest
of the buffer stays as it is. -/
def popInto (arith : Arithmetic) (buffer : Bytes) (c : Cells) :
    Except Crash (Nat × Bytes × Cells) := do
  let (bs, c) ← c.popUpTo arith buffer.length
  return (bs.length, bs ++ buffer.drop bs.length, c)

/-- Drop every waiting byte. -/
def clear (c : Cells) : Cells := { c with tail := c.head }

/-! ## Soundness -/

/-- The indices lie inside the array, and the array is one that can be allocated. -/
structure Sound (c : Cells) : Prop where
  size_le : c.slots.size ≤ maxAllocation
  head_lt : c.head.toNat < c.slots.size
  tail_lt : c.tail.toNat < c.slots.size

theorem toNat_size {c : Cells} (h : c.slots.size ≤ maxAllocation) :
    c.size.toNat = c.slots.size := by
  simp only [size, maxAllocation] at *
  rw [UInt64.toNat_ofNat']
  omega

variable {arith : Arithmetic} {c : Cells}

theorem Sound.size_ne_zero (h : c.Sound) : c.size ≠ 0 := by
  intro h0
  have h1 := toNat_size h.size_le
  rw [h0] at h1
  have h2 := h.head_lt
  rw [← h1] at h2
  simp at h2

/-- Fresh slots are sound: there is one, and few enough to be allocated. -/
theorem sound_fresh {count : Nat} (hpos : 0 < count) (hle : count ≤ maxAllocation) :
    (fresh count).Sound :=
  ⟨by simpa [fresh] using hle, by simpa [fresh] using hpos, by simpa [fresh] using hpos⟩

/-- Any number of bytes can be had whose slots can be allocated. -/
theorem allocate_of_le {capacity : UInt64} (h : capacity.toNat + 1 ≤ maxAllocation) :
    allocate arith capacity = .ok (fresh (capacity.toNat + 1)) := by
  have hlt : capacity.toNat + (1 : UInt64).toNat < UInt64.size := by
    simp only [maxAllocation] at h
    simp only [UInt64.toNat_one, UInt64.size]
    omega
  rw [allocate, Arithmetic.add_of_lt hlt]
  show (if (capacity + 1).toNat ≤ maxAllocation then _ else _) = _
  rw [Arithmetic.toNat_add_of_lt hlt, UInt64.toNat_one, if_pos h]
  rfl

/-- If sums are checked, no other number can. -/
theorem checked_allocate_eq_ok {capacity : UInt64} (h : allocate .checked capacity = .ok c) :
    capacity.toNat + 1 ≤ maxAllocation ∧ c = fresh (capacity.toNat + 1) := by
  by_cases hlt : capacity.toNat + (1 : UInt64).toNat < UInt64.size
  · rw [allocate, Arithmetic.add_of_lt hlt] at h
    change (if (capacity + 1).toNat ≤ maxAllocation then _ else _) = _ at h
    rw [Arithmetic.toNat_add_of_lt hlt, UInt64.toNat_one] at h
    split at h
    · next hle =>
        cases h
        exact ⟨hle, rfl⟩
    · cases h
  · rw [allocate, Arithmetic.checked_add_of_le (Nat.le_of_not_lt hlt)] at h
    cases h

theorem sound_of_allocate {capacity : UInt64} (h : allocate .checked capacity = .ok c) :
    c.Sound := by
  obtain ⟨hle, rfl⟩ := checked_allocate_eq_ok h
  exact sound_fresh (Nat.succ_pos _) hle

/-- No index is large enough for the next one to be no word. -/
theorem Sound.succ_lt (h : c.Sound) {i : UInt64} (hi : i.toNat < c.slots.size) :
    i.toNat + (1 : UInt64).toNat < UInt64.size := by
  have hle := h.size_le
  simp only [maxAllocation] at hle
  simp only [UInt64.toNat_one, UInt64.size]
  omega

theorem Sound.toNat_succ (h : c.Sound) {i : UInt64} (hi : i.toNat < c.slots.size) :
    (i + 1).toNat = i.toNat + 1 := by
  rw [Arithmetic.toNat_add_of_lt (h.succ_lt hi), UInt64.toNat_one]

/-- Nor is a head that is a whole round further on. -/
theorem Sound.round_lt (h : c.Sound) : c.head.toNat + c.size.toNat < UInt64.size := by
  have hle := h.size_le
  have hhead := h.head_lt
  rw [toNat_size hle]
  simp only [maxAllocation] at hle
  simp only [UInt64.size]
  omega

theorem Sound.toNat_round (h : c.Sound) :
    (c.head + c.size).toNat = c.head.toNat + c.slots.size := by
  rw [Arithmetic.toNat_add_of_lt h.round_lt, toNat_size h.size_le]

/-- The tail can be taken away from such a head. -/
theorem Sound.tail_le_round (h : c.Sound) : c.tail ≤ c.head + c.size := by
  have htail := h.tail_lt
  rw [UInt64.le_iff_toNat_le, h.toNat_round]
  omega

theorem Sound.one_le_size (h : c.Sound) : 1 ≤ c.size := by
  have hhead := h.head_lt
  rw [UInt64.le_iff_toNat_le, toNat_size h.size_le, UInt64.toNat_one]
  omega

theorem Sound.capacity (h : c.Sound) : c.capacity arith = .ok (c.size - 1) :=
  Arithmetic.sub_of_le h.one_le_size

theorem Sound.length (h : c.Sound) :
    c.length arith = .ok ((c.head + c.size - c.tail) % c.size) := by
  rw [Cells.length, Arithmetic.add_of_lt h.round_lt]
  show (do remainder (← arith.sub (c.head + c.size) c.tail) c.size) = _
  rw [Arithmetic.sub_of_le h.tail_le_round]
  exact if_neg h.size_ne_zero

theorem Sound.next (h : c.Sound) {i : UInt64} (hi : i.toNat < c.slots.size) :
    c.next arith i = .ok ((i + 1) % c.size) := by
  rw [Cells.next, Arithmetic.add_of_lt (h.succ_lt hi)]
  exact if_neg h.size_ne_zero

theorem toNat_mod_size_lt (h : c.Sound) (a : UInt64) : (a % c.size).toNat < c.slots.size := by
  rw [UInt64.toNat_mod, toNat_size h.size_le]
  exact Nat.mod_lt _ (Nat.lt_of_le_of_lt (Nat.zero_le _) h.head_lt)

/-- Pushing into sound cells gives sound cells of the same size. -/
theorem Sound.push (h : c.Sound) (arith : Arithmetic) (b : UInt8) :
    ∃ c' e, c.push arith b = .ok (c', e) ∧ c'.Sound ∧ c'.slots.size = c.slots.size := by
  have hm := toNat_mod_size_lt h
  unfold Cells.push
  rw [dif_pos h.head_lt, h.next h.head_lt, h.next h.tail_lt]
  by_cases he : (c.head + 1) % c.size == c.tail
  · refine ⟨_, true, if_pos he, ⟨?_, ?_, ?_⟩, Array.size_set h.head_lt⟩
    · simpa only [Array.size_set] using h.size_le
    · simpa only [Array.size_set] using hm _
    · simpa only [Array.size_set] using hm _
  · refine ⟨_, false, if_neg he, ⟨?_, ?_, ?_⟩, Array.size_set h.head_lt⟩
    · simpa only [Array.size_set] using h.size_le
    · simpa only [Array.size_set] using hm _
    · simpa only [Array.size_set] using h.tail_lt

/-- Taking from sound cells gives sound cells of the same size. -/
theorem Sound.pop (h : c.Sound) (arith : Arithmetic) :
    ∃ b c', c.pop arith = .ok (b, c') ∧ c'.Sound ∧ c'.slots.size = c.slots.size := by
  unfold Cells.pop
  split
  · exact ⟨none, c, rfl, h, rfl⟩
  · rw [dif_pos h.tail_lt, h.next h.tail_lt]
    exact ⟨_, _, rfl, ⟨h.size_le, h.head_lt, toNat_mod_size_lt h _⟩, rfl⟩

theorem Sound.popUpTo (h : c.Sound) (arith : Arithmetic) (n : Nat) :
    ∃ bs c', c.popUpTo arith n = .ok (bs, c') ∧ c'.Sound ∧ c'.slots.size = c.slots.size := by
  induction n generalizing c with
  | zero => exact ⟨[], c, rfl, h, rfl⟩
  | succ n ih =>
    obtain ⟨b, c₁, h₁, hs₁, hz₁⟩ := h.pop arith
    unfold Cells.popUpTo
    rw [h₁]
    cases b with
    | none => exact ⟨[], c₁, rfl, hs₁, hz₁⟩
    | some b =>
      obtain ⟨bs, c₂, h₂, hs₂, hz₂⟩ := ih hs₁
      refine ⟨b :: bs, c₂, ?_, hs₂, hz₂.trans hz₁⟩
      simp only [bind, Except.bind, h₂]
      rfl

theorem Sound.clear (h : c.Sound) : c.clear.Sound :=
  ⟨h.size_le, h.head_lt, h.head_lt⟩

end Cells

end FramedSerial
