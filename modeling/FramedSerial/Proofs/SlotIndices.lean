import FramedSerial.Proofs.Sliding

/-!
# The words that a ring counts in

A ring counts its slots in machine words. In a ring that could be allocated
there is room to spare: its slots are at most half of what a word counts, so
that even a head and a whole round beyond it are still a number, and one from
which any tail can be taken away. So every word on the way to an index is the
number that it stands for, whether sums are checked or go round, and no
operation crashes.

There is one capacity that this does not reach. The free slot is added before
anything is asked for, and the greatest word cannot be added to. A program that
checks its sums crashes there. One that does not gets zero, and is given a ring
of no slots without complaint: nothing can be put into it, and to ask for its
length is to divide by zero.
-/

namespace FramedSerial

namespace Cells

/-- The cells of a ring that was asked for this capacity, after any operations. -/
inductive Reachable (arith : Arithmetic) (capacity : UInt64) : Cells → Prop where
  | allocated {c : Cells} (new : allocate arith capacity = .ok c) : Reachable arith capacity c
  | called {c c' : Cells} {call : RingCall} {reply : RingReply}
      (before : Reachable arith capacity c) (goes : c.perform arith call = .ok (reply, c')) :
      Reachable arith capacity c'

/-- Every word that an operation computes is the number that it stands for, and
both indices are places of the array. -/
structure Exact (capacity : UInt64) (c : Cells) : Prop where
  size : c.slots.size = capacity.toNat + 1
  toNat_size : c.size.toNat = c.slots.size
  size_ne_zero : c.size ≠ 0
  head_lt : c.head.toNat < c.slots.size
  tail_lt : c.tail.toNat < c.slots.size
  next_head : (c.head + 1).toNat = c.head.toNat + 1
  next_tail : (c.tail + 1).toNat = c.tail.toNat + 1
  round : (c.head + c.size).toNat = c.head.toNat + c.slots.size
  /-- The tail is no further than the end of that round. -/
  tail_le : c.tail ≤ c.head + c.size
  distance : (c.head + c.size - c.tail).toNat = c.head.toNat + c.slots.size - c.tail.toNat

/-- No operation crashes. -/
structure Serves (arith : Arithmetic) (capacity : UInt64) (c : Cells) : Prop where
  perform : ∀ call : RingCall, ∃ reply c', c.perform arith call = .ok (reply, c')
  length : ∃ n, c.length arith = .ok n
  capacity : c.capacity arith = .ok capacity

/-- The cells of a ring without slots. -/
def void : Cells := fresh 0

variable {arith : Arithmetic} {capacity : UInt64} {c : Cells}

/-! ## Rings with slots -/

theorem Refines.exact {bs : Bytes} (h : c.Refines capacity.toNat bs) : c.Exact capacity := by
  have hsound := h.sound
  constructor
  case size => exact h.size
  case toNat_size => exact Cells.toNat_size hsound.size_le
  case size_ne_zero => exact hsound.size_ne_zero
  case head_lt => exact hsound.head_lt
  case tail_lt => exact hsound.tail_lt
  case next_head => exact hsound.toNat_succ hsound.head_lt
  case next_tail => exact hsound.toNat_succ hsound.tail_lt
  case round => exact hsound.toNat_round
  case tail_le => exact hsound.tail_le_round
  case distance => rw [UInt64.toNat_sub_of_le _ _ hsound.tail_le_round, hsound.toNat_round]

theorem Refines.serves {bs : Bytes} (h : c.Refines capacity.toNat bs) (arith : Arithmetic) :
    c.Serves arith capacity := by
  have hsound := h.sound
  constructor
  case perform =>
    intro call
    obtain ⟨c', hcall, -⟩ := h.perform arith call
    exact ⟨_, c', hcall⟩
  case length => exact ⟨_, hsound.length⟩
  case capacity =>
    rw [hsound.capacity, Except.ok.injEq, ← UInt64.toNat_inj,
      UInt64.toNat_sub_of_le _ _ hsound.one_le_size, Cells.toNat_size hsound.size_le, h.size]
    rfl

/-- Whatever is done to a ring, it goes on being a window. -/
theorem Reachable.refines (h : Reachable arith capacity c)
    (hfits : capacity.toNat + 1 ≤ maxAllocation) : ∃ bs, c.Refines capacity.toNat bs := by
  induction h with
  | allocated new =>
      obtain ⟨c', hnew, hrefines⟩ := refines_of_allocate arith hfits
      rw [new, Except.ok.injEq] at hnew
      subst hnew
      exact ⟨[], hrefines⟩
  | @called c c' call reply _ goes ih =>
      -- the one answer that the window has is the one that was given
      obtain ⟨bs, hrefines⟩ := ih
      obtain ⟨c'', hcall, hrefines'⟩ := hrefines.perform arith call
      rw [goes, Except.ok.injEq, Prod.mk.injEq] at hcall
      obtain ⟨-, rfl⟩ := hcall
      exact ⟨_, hrefines'⟩

/-! ## The greatest capacity -/

theorem lt_size_of_ne (h : capacity ≠ 18446744073709551615) :
    capacity.toNat + (1 : UInt64).toNat < UInt64.size := by
  have hlt := capacity.toNat_lt
  rw [ne_eq, ← UInt64.toNat_inj] at h
  simp only [UInt64.reduceToNat] at h
  simp only [UInt64.toNat_one, UInt64.size]
  omega

theorem allocate_greatest :
    allocate .checked 18446744073709551615 = .error .additionOverflow ∧
      allocate .wrapping 18446744073709551615 = .ok void :=
  ⟨rfl, rfl⟩

theorem push_void (b : UInt8) :
    void.push .wrapping b = .error (.indexOutOfBounds 0 0) := rfl

theorem popUpTo_void (n : Nat) : void.popUpTo .wrapping n = .ok ([], void) := by
  cases n with
  | zero => rfl
  | succ n => rfl

/-- Nothing changes a ring without slots. -/
theorem perform_void {call : RingCall} {reply : RingReply}
    (h : void.perform .wrapping call = .ok (reply, c)) : c = void := by
  cases call with
  | push b => cases h
  | pop =>
      cases h
      rfl
  | popInto buffer =>
      rw [perform, popInto, popUpTo_void] at h
      cases h
      rfl
  | clear =>
      cases h
      rfl

theorem Reachable.eq_void (h : Reachable .wrapping 18446744073709551615 c) : c = void := by
  induction h with
  | allocated new =>
      rw [allocate_greatest.2, Except.ok.injEq] at new
      exact new.symm
  | called _ goes ih =>
      rw [ih] at goes
      exact perform_void goes

/-! ## Every capacity -/

theorem exists_allocate_iff :
    (∃ c, allocate arith capacity = .ok c) ↔
      capacity.toNat + 1 ≤ maxAllocation ∨
        arith = .wrapping ∧ capacity = 18446744073709551615 := by
  constructor
  · rintro ⟨c, hnew⟩
    by_cases hgreatest : capacity = 18446744073709551615
    · subst hgreatest
      cases arith with
      | checked => cases hnew
      | wrapping => exact .inr ⟨rfl, rfl⟩
    · -- the sum is a word, so what was asked for is what is needed
      have hlt := lt_size_of_ne hgreatest
      have hchecked : allocate .checked capacity = .ok c := by
        rw [allocate, Arithmetic.add_of_lt hlt] at hnew ⊢
        exact hnew
      exact .inl (checked_allocate_eq_ok hchecked).1
  · rintro (hfits | ⟨rfl, rfl⟩)
    · exact ⟨_, allocate_of_le hfits⟩
    · exact ⟨void, allocate_greatest.2⟩

theorem Reachable.exists_allocate (h : Reachable arith capacity c) :
    ∃ c, allocate arith capacity = .ok c := by
  induction h with
  | allocated new => exact ⟨_, new⟩
  | called _ _ ih => exact ih

/-- A ring can be had if its slots can be allocated, and otherwise only if the word
that counts them has gone round. In the first case no word ever does, no index
leaves the array and no operation crashes, whatever is done to the ring and for
how long. In the second case nothing can be done to the ring, and it crashes. -/
theorem indices_of_reachable (arith : Arithmetic) (capacity : UInt64) :
    ((∃ c, allocate arith capacity = .ok c) ↔
      capacity.toNat + 1 ≤ maxAllocation ∨
        arith = .wrapping ∧ capacity = 18446744073709551615) ∧
    ∀ c : Cells, Reachable arith capacity c →
      (capacity.toNat + 1 ≤ maxAllocation ∧ c.Exact capacity ∧ c.Serves arith capacity) ∨
        (arith = .wrapping ∧ capacity = 18446744073709551615 ∧ c.slots.size = 0 ∧
          (∀ b : UInt8, c.push arith b = .error (.indexOutOfBounds 0 0)) ∧
          c.length arith = .error .remainderByZero) := by
  refine ⟨exists_allocate_iff, fun c h => ?_⟩
  rcases exists_allocate_iff.1 h.exists_allocate with hfits | ⟨rfl, rfl⟩
  · obtain ⟨bs, hrefines⟩ := h.refines hfits
    exact .inl ⟨hfits, hrefines.exact, hrefines.serves arith⟩
  · rw [h.eq_void]
    exact .inr ⟨rfl, rfl, rfl, push_void, rfl⟩

/-- The largest ring that can be had: its head is put one slot on by a push, and
its words are still exact. -/
theorem indices_of_the_largest_ring :
    ∃ new c, allocate .wrapping 9223372036854775806 = .ok new ∧
      new.perform .wrapping (.push 7) = .ok (.pushed false, c) ∧
      Reachable .wrapping 9223372036854775806 c ∧ c.Exact 9223372036854775806 ∧
      c.Serves .wrapping 9223372036854775806 := by
  have hfits : (9223372036854775806 : UInt64).toNat + 1 ≤ maxAllocation := by decide
  obtain ⟨new, hnew, hrefines⟩ := refines_of_allocate .wrapping hfits
  obtain ⟨c, hpush, -⟩ := hrefines.perform .wrapping (.push 7)
  have hreachable := (Reachable.allocated hnew).called hpush
  refine ⟨new, c, hnew, hpush, hreachable, ?_⟩
  rcases (indices_of_reachable _ _).2 c hreachable with ⟨-, hexact, hserves⟩ | ⟨-, hgreatest, -⟩
  · exact ⟨hexact, hserves⟩
  · exact absurd hgreatest (by decide)

/-- The greatest word is refused as a capacity if sums are checked. If they are not,
it gives a ring that no byte can be put into and whose length crashes. -/
theorem ring_without_slots :
    allocate .checked 18446744073709551615 = .error .additionOverflow ∧
      ∃ new, allocate .wrapping 18446744073709551615 = .ok new ∧ new.slots.size = 0 ∧
        ¬ new.head.toNat < new.slots.size ∧
        new.perform .wrapping (.push 7) = .error (.indexOutOfBounds 0 0) ∧
        new.length .wrapping = .error .remainderByZero ∧
        new.capacity .wrapping = .ok 18446744073709551615 :=
  ⟨rfl, void, rfl, rfl, by decide, rfl, rfl, rfl⟩

end Cells

end FramedSerial
