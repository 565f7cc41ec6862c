import FramedSerial.Proofs.Window
import Mathlib.Data.List.DropRight

/-!
# A ring refines a sliding window

The cells of a ring can crash in several ways, and their indices go round. A
sliding window can do neither: it is a list with a bound, and its operations
are those of lists. Whoever uses a ring sees the window and nothing else. The
answers to any sequence of operations are the window's, no operation crashes,
and whatever can be asked of the cells afterwards is what the window shows.

The two machines take the same operations and give the same kind of answers,
so the refinement is an equation between their runs and one relation between
their states. Soundness is what the relation hides: it is kept beside it by
every step and given up only at the end.
-/

namespace FramedSerial

/-- What can be asked of a ring. -/
inductive RingCall where
  | push (b : UInt8)
  | pop
  | popInto (buffer : Bytes)
  | clear

inductive RingReply where
  | pushed (evicted : Bool)
  | popped (b : Option UInt8)
  /-- The count, and the buffer with the bytes at its front. -/
  | moved (count : Nat) (buffer : Bytes)
  | cleared
deriving DecidableEq

namespace Cells

def perform (arith : Arithmetic) (c : Cells) : RingCall → Except Crash (RingReply × Cells)
  | .push b => do
    let (c, evicted) ← c.push arith b
    return (.pushed evicted, c)
  | .pop => do
    let (b, c) ← c.pop arith
    return (.popped b, c)
  | .popInto buffer => do
    let (count, buffer, c) ← c.popInto arith buffer
    return (.moved count buffer, c)
  | .clear => return (.cleared, c.clear)

def performAll (arith : Arithmetic) (c : Cells) :
    List RingCall → Except Crash (List RingReply × Cells)
  | [] => return ([], c)
  | call :: later => do
    let (reply, c) ← c.perform arith call
    let (replies, c) ← c.performAll arith later
    return (reply :: replies, c)

end Cells

/-! ## The window -/

namespace SlidingWindow

/-- One call on the last bytes that went in, at most `capacity` of them. -/
def perform (capacity : Nat) (bs : Bytes) : RingCall → RingReply × Bytes
  | .push b => (.pushed (bs.length = capacity), (bs ++ [b]).rtake capacity)
  | .pop => (.popped bs.head?, bs.tail)
  | .popInto buffer =>
    let count := min buffer.length bs.length
    (.moved count (bs.take count ++ buffer.drop count), bs.drop count)
  | .clear => (.cleared, [])

def performAll (capacity : Nat) (bs : Bytes) : List RingCall → List RingReply × Bytes
  | [] => ([], bs)
  | call :: later =>
    let r := perform capacity bs call
    let more := performAll capacity r.2 later
    (r.1 :: more.1, more.2)

end SlidingWindow

/-- All that can be seen of cells agrees with a window. -/
structure Cells.Shows (arith : Arithmetic) (capacity : Nat) (c : Cells) (bs : Bytes) : Prop where
  bounded : bs.length ≤ capacity
  head_lt : c.head.toNat < capacity + 1
  tail_lt : c.tail.toNat < capacity + 1
  length : (c.length arith).map UInt64.toNat = .ok bs.length
  isEmpty : c.isEmpty = true ↔ bs = []
  capacity : (c.capacity arith).map UInt64.toNat = .ok capacity
  shown : c.shown = bs

/-! ## One call -/

namespace Cells

/-- Sound cells with one slot more than the window has places, and its bytes
in them. -/
structure Refines (capacity : Nat) (c : Cells) (bs : Bytes) : Prop where
  sound : c.Sound
  size : c.slots.size = capacity + 1
  shown : c.shown = bs

variable {capacity : Nat} {c : Cells} {bs : Bytes}

theorem Refines.length_le (h : c.Refines capacity bs) : bs.length ≤ capacity := by
  have hlt := h.sound.count_lt
  rw [← h.shown, length_shown]
  have hsize := h.size
  omega

theorem Refines.shows (h : c.Refines capacity bs) (arith : Arithmetic) :
    c.Shows arith capacity bs := by
  obtain ⟨hsound, hsize, hshown⟩ := h
  have hcount : c.count = bs.length := by rw [← hshown, length_shown]
  constructor
  · exact Refines.length_le ⟨hsound, hsize, hshown⟩
  · rw [← hsize]
    exact hsound.head_lt
  · rw [← hsize]
    exact hsound.tail_lt
  · rw [hsound.length, ← hcount, ← hsound.toNat_length]
    rfl
  · rw [hsound.isEmpty_iff, hshown]
  · rw [hsound.capacity, Except.map, UInt64.toNat_sub_of_le _ _ hsound.one_le_size,
      toNat_size hsound.size_le, UInt64.toNat_one, hsize, Nat.add_sub_cancel]
  · exact hshown

theorem Refines.push (h : c.Refines capacity bs) (arith : Arithmetic) (b : UInt8) :
    ∃ c', c.push arith b = .ok (c', decide (bs.length = capacity)) ∧
      c'.Refines capacity ((bs ++ [b]).rtake capacity) := by
  obtain ⟨c', evicted, hpush, hsound, hsize⟩ := h.sound.push arith b
  obtain ⟨c'', evicted', hpush', hevicted, hshown, -⟩ := h.sound.shown_push arith b
  rw [hpush, Except.ok.injEq, Prod.mk.injEq] at hpush'
  obtain ⟨rfl, rfl⟩ := hpush'
  rw [h.shown, h.size, Nat.add_sub_cancel] at hevicted
  rw [h.shown] at hshown
  refine ⟨c', by rw [hpush, hevicted], hsound, hsize.trans h.size, ?_⟩
  -- a full window is one byte too long now, any other is not
  have hle := h.length_le
  have hover : evicted.toNat = (bs ++ [b]).length - capacity := by
    rw [hevicted, List.length_append, List.length_singleton]
    by_cases hfull : bs.length = capacity
    · rw [decide_eq_true hfull, Bool.toNat_true]
      omega
    · rw [decide_eq_false hfull, Bool.toNat_false]
      omega
  rw [hshown, hover, List.rtake]

theorem Refines.pop (h : c.Refines capacity bs) (arith : Arithmetic) :
    ∃ c', c.pop arith = .ok (bs.head?, c') ∧ c'.Refines capacity bs.tail := by
  obtain ⟨c', hpop, hsound, hshown, hsize⟩ := h.sound.shown_pop arith
  rw [h.shown] at hpop hshown
  exact ⟨c', hpop, hsound, hsize.trans h.size, hshown⟩

theorem Refines.popInto (h : c.Refines capacity bs) (arith : Arithmetic) (buffer : Bytes) :
    ∃ c', c.popInto arith buffer = .ok (min buffer.length bs.length,
        bs.take (min buffer.length bs.length) ++ buffer.drop (min buffer.length bs.length), c') ∧
      c'.Refines capacity (bs.drop (min buffer.length bs.length)) := by
  obtain ⟨_, c', hpop, hsound, hsize⟩ := h.sound.popUpTo arith buffer.length
  obtain ⟨_, hpop', hshown, -⟩ := h.sound.shown_popUpTo arith buffer.length
  rw [hpop, Except.ok.injEq, Prod.mk.injEq] at hpop'
  obtain ⟨rfl, rfl⟩ := hpop'
  rw [h.shown] at hpop hshown
  have htake : bs.take buffer.length = bs.take (min buffer.length bs.length) :=
    List.take_eq_take_iff.2 (by omega)
  have hdrop : bs.drop buffer.length = bs.drop (min buffer.length bs.length) :=
    List.drop_eq_drop_iff.2 (by omega)
  refine ⟨c', ?_, hsound, hsize.trans h.size, by rw [hshown, hdrop]⟩
  rw [Cells.popInto, hpop]
  show Except.ok ((bs.take buffer.length).length,
    bs.take buffer.length ++ buffer.drop (bs.take buffer.length).length, c') = _
  rw [List.length_take, htake]

theorem Refines.clear (h : c.Refines capacity bs) : c.clear.Refines capacity [] :=
  ⟨h.sound.clear, h.size, shown_clear c⟩

/-- One call keeps the two machines together. -/
theorem Refines.perform (h : c.Refines capacity bs) (arith : Arithmetic) (call : RingCall) :
    ∃ c', c.perform arith call = .ok ((SlidingWindow.perform capacity bs call).1, c') ∧
      c'.Refines capacity (SlidingWindow.perform capacity bs call).2 := by
  cases call with
  | push b =>
      obtain ⟨c', hpush, hrefines⟩ := h.push arith b
      refine ⟨c', ?_, hrefines⟩
      rw [Cells.perform, hpush]
      rfl
  | pop =>
      obtain ⟨c', hpop, hrefines⟩ := h.pop arith
      refine ⟨c', ?_, hrefines⟩
      rw [Cells.perform, hpop]
      rfl
  | popInto buffer =>
      obtain ⟨c', hpop, hrefines⟩ := h.popInto arith buffer
      refine ⟨c', ?_, hrefines⟩
      rw [Cells.perform, hpop]
      rfl
  | clear => exact ⟨c.clear, rfl, h.clear⟩

/-! ## Any sequence of calls -/

theorem Refines.performAll (arith : Arithmetic) (calls : List RingCall) :
    ∀ {c : Cells} {bs : Bytes}, c.Refines capacity bs →
      ∃ c', c.performAll arith calls = .ok ((SlidingWindow.performAll capacity bs calls).1, c') ∧
        c'.Refines capacity (SlidingWindow.performAll capacity bs calls).2 := by
  induction calls with
  | nil =>
      intro c bs h
      exact ⟨c, rfl, h⟩
  | cons call later ih =>
      intro c bs h
      obtain ⟨c₁, hcall, h₁⟩ := h.perform arith call
      obtain ⟨c₂, hlater, h₂⟩ := ih h₁
      refine ⟨c₂, ?_, h₂⟩
      rw [Cells.performAll, hcall]
      simp only [bind, Except.bind, hlater]
      rfl

/-- New cells are an empty window. -/
theorem refines_of_allocate (arith : Arithmetic) {capacity : UInt64}
    (h : capacity.toNat + 1 ≤ maxAllocation) :
    ∃ c, allocate arith capacity = .ok c ∧ c.Refines capacity.toNat [] := by
  refine ⟨_, allocate_of_le h, sound_fresh (Nat.succ_pos _) h, ?_, ?_⟩
  · rw [fresh, Array.size_replicate]
  · rw [shown, count]
    simp [fresh, window_zero]

/-- A ring is a window on the last bytes that went in. Of whatever size it
was asked for, and whatever is done to it after that, it answers as the window
does, never crashes, and shows the bytes of the window and their number. It is
all the same to it whether its sums are checked. -/
theorem performAll_refines (arith : Arithmetic) {capacity : UInt64}
    (h : capacity.toNat + 1 ≤ maxAllocation) :
    ∃ new, allocate arith capacity = .ok new ∧ ∀ calls : List RingCall,
      ∃ c, new.performAll arith calls =
          .ok ((SlidingWindow.performAll capacity.toNat [] calls).1, c) ∧
        c.Shows arith capacity.toNat (SlidingWindow.performAll capacity.toNat [] calls).2 := by
  obtain ⟨new, hnew, hrefines⟩ := refines_of_allocate arith h
  refine ⟨new, hnew, ?_⟩
  intro calls
  obtain ⟨c, hcalls, hc⟩ := hrefines.performAll arith calls
  exact ⟨c, hcalls, hc.shows arith⟩

/-- Two places: a push that evicts, a pop, a push that goes round, a read into
a buffer that is too long and one that is too short, and a clear. -/
theorem performAll_refines_two :
    (2 : UInt64).toNat + 1 ≤ maxAllocation ∧
      ∃ new, allocate .checked 2 = .ok new ∧
        ∃ c, new.performAll .checked [.pop, .push 1, .push 2, .push 3, .pop, .push 4, .push 5,
            .popInto [9, 9, 9], .push 6, .push 7, .popInto [9], .clear, .push 8] =
          .ok ([.popped none, .pushed false, .pushed false, .pushed true, .popped (some 2),
            .pushed false, .pushed true, .moved 2 [4, 5, 9], .pushed false, .pushed false,
            .moved 1 [6], .cleared, .pushed false], c) ∧
        c.Shows .checked 2 [8] := by
  have hfits : (2 : UInt64).toNat + 1 ≤ maxAllocation := by decide
  obtain ⟨new, hnew, hcalls⟩ := performAll_refines .checked hfits
  exact ⟨hfits, new, hnew, hcalls _⟩

end Cells

end FramedSerial
