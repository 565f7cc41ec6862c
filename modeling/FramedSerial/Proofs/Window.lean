import FramedSerial.Ring

/-!
# A ring shows the newest bytes

The slots of a ring go round, and the bytes waiting in it are those from the
tail on up to the head. Read off in that order they form a list, and every
operation is an operation on that list: a push appends and, when the ring was
full, takes the first byte away, a pop takes the first byte, a clear takes all.
A ring of capacity `c` is thus a window on the last `c` bytes that went in.

Only the first two sections know about indices. They work with bare cells and
natural numbers, where going round is one remainder and `omega` decides
everything once it is replaced by a case distinction.
-/

namespace FramedSerial

/-! ## Going round -/

/-- So many slots from one on, round and round. -/
def window (slots : Array UInt8) (start count : Nat) : Bytes :=
  (List.range count).map fun i => slots.getD ((start + i) % slots.size) 0

@[simp] theorem length_window (slots : Array UInt8) (start count : Nat) :
    (window slots start count).length = count := by
  rw [window, List.length_map, List.length_range]

/-- Where a step past the end arrives, for sums that go round once at most. -/
theorem mod_cases {n a : Nat} (h : a < 2 * n) :
    a < n ∧ a % n = a ∨ n ≤ a ∧ a % n = a - n := by
  by_cases hlt : a < n
  · exact .inl ⟨hlt, Nat.mod_eq_of_lt hlt⟩
  · have hle : n ≤ a := Nat.le_of_not_lt hlt
    refine .inr ⟨hle, ?_⟩
    rw [Nat.mod_eq_sub_mod hle, Nat.mod_eq_of_lt (by omega)]

/-- The distance from the tail to the head is the one count of slots that
leads there. -/
theorem distance_eq {n head tail count : Nat} (htail : tail < n) (hcount : count < n)
    (hhead : (tail + count) % n = head) : (head + n - tail) % n = count := by
  rcases mod_cases (n := n) (a := tail + count) (by omega) with h | h <;>
    rcases mod_cases (n := n) (a := head + n - tail) (by omega) with h' | h' <;> omega

theorem tail_add_distance {n head tail : Nat} (hhead : head < n) (htail : tail < n) :
    (tail + (head + n - tail) % n) % n = head := by
  have hlt : (head + n - tail) % n < n := Nat.mod_lt _ (by omega)
  -- the distance goes round once at most, and so does the way back
  rcases mod_cases (n := n) (a := head + n - tail) (by omega) with h | h <;>
    rcases mod_cases (n := n) (a := tail + (head + n - tail) % n) (by omega) with h' | h' <;>
    omega

/-- Slots less than a round apart are different. -/
theorem add_mod_ne {n tail i j : Nat} (htail : tail < n) (hij : i < j) (hj : j < n) :
    (tail + i) % n ≠ (tail + j) % n := by
  rcases mod_cases (n := n) (a := tail + i) (by omega) with h | h <;>
    rcases mod_cases (n := n) (a := tail + j) (by omega) with h' | h' <;> omega

theorem window_zero (slots : Array UInt8) (start : Nat) : window slots start 0 = [] := rfl

theorem window_succ (slots : Array UInt8) (start count : Nat) :
    window slots start (count + 1) =
      window slots start count ++ [slots.getD ((start + count) % slots.size) 0] := by
  simp only [window, List.range_succ, List.map_append, List.map_cons, List.map_nil]

theorem window_eq_cons (slots : Array UInt8) (start count : Nat) :
    window slots start (count + 1) =
      slots.getD (start % slots.size) 0 ::
        window slots ((start + 1) % slots.size) count := by
  simp only [window, List.range_succ_eq_map, List.map_cons, List.map_map, Nat.add_zero]
  congr 1
  apply List.map_congr_left
  intro i _
  rw [Function.comp_apply, Nat.mod_add_mod, Nat.succ_eq_add_one, Nat.add_comm i 1,
    Nat.add_assoc]

/-- Writing the slot behind a window makes it longer by what was written. -/
theorem window_set {slots : Array UInt8} {tail count head : Nat} (b : UInt8)
    (htail : tail < slots.size) (hcount : count < slots.size)
    (hhead : (tail + count) % slots.size = head) (hlt : head < slots.size) :
    window (slots.set head b hlt) tail (count + 1) = window slots tail count ++ [b] := by
  rw [window_succ]
  congr 1
  · simp only [window, Array.size_set]
    apply List.map_congr_left
    intro i hi
    have hne := add_mod_ne htail (List.mem_range.1 hi) hcount
    rw [hhead] at hne
    simp [Array.getD_eq_getD_getElem?, hne.symm]
  · rw [Array.size_set, hhead]
    simp [Array.getD_eq_getD_getElem?, hlt]

/-! ## What the cells show -/

namespace Cells

/-- The number of slots from the tail to the head. -/
def count (c : Cells) : Nat := (c.head.toNat + c.slots.size - c.tail.toNat) % c.slots.size

/-- The bytes waiting, the oldest first. -/
def shown (c : Cells) : Bytes := window c.slots c.tail.toNat c.count

theorem length_shown (c : Cells) : c.shown.length = c.count := length_window _ _ _

variable {c : Cells}

theorem Sound.size_pos (h : c.Sound) : 0 < c.slots.size :=
  Nat.lt_of_le_of_lt (Nat.zero_le _) h.head_lt

theorem Sound.count_lt (h : c.Sound) : c.count < c.slots.size :=
  Nat.mod_lt _ h.size_pos

theorem Sound.tail_add_count (h : c.Sound) :
    (c.tail.toNat + c.count) % c.slots.size = c.head.toNat :=
  tail_add_distance h.head_lt h.tail_lt

theorem count_eq {k : Nat} (htail : c.tail.toNat < c.slots.size) (hk : k < c.slots.size)
    (hhead : (c.tail.toNat + k) % c.slots.size = c.head.toNat) : c.count = k :=
  distance_eq htail hk hhead

theorem Sound.toNat_next (h : c.Sound) {i : UInt64} (hi : i.toNat < c.slots.size) :
    ((i + 1) % c.size).toNat = (i.toNat + 1) % c.slots.size := by
  rw [UInt64.toNat_mod, toNat_size h.size_le, h.toNat_succ hi]

theorem Sound.toNat_length (h : c.Sound) :
    ((c.head + c.size - c.tail) % c.size).toNat = c.count := by
  rw [UInt64.toNat_mod, toNat_size h.size_le, UInt64.toNat_sub_of_le _ _ h.tail_le_round,
    h.toNat_round, count]

theorem Sound.isEmpty_iff (h : c.Sound) : c.isEmpty = true ↔ c.shown = [] := by
  have hback := h.tail_add_count
  rw [isEmpty, beq_iff_eq, ← List.length_eq_zero_iff, length_shown, ← UInt64.toNat_inj]
  constructor
  · intro heq
    rw [count, heq, Nat.add_sub_cancel_left, Nat.mod_self]
  · intro hzero
    rw [hzero, Nat.add_zero, Nat.mod_eq_of_lt h.tail_lt] at hback
    exact hback.symm

/-- A push appends, and a full ring lets the first byte go for it. -/
theorem Sound.shown_push (h : c.Sound) (arith : Arithmetic) (b : UInt8) :
    ∃ c' evicted, c.push arith b = .ok (c', evicted) ∧
      evicted = decide (c.shown.length = c.slots.size - 1) ∧
      c'.shown = (c.shown ++ [b]).drop evicted.toNat ∧ c'.slots.size = c.slots.size := by
  have hcount := h.count_lt
  have htail := h.tail_lt
  have hback := h.tail_add_count
  have hnext := h.toNat_next h.head_lt
  have hwritten := window_set b htail hcount hback h.head_lt
  have hround : (c.head.toNat + 1) % c.slots.size =
      (c.tail.toNat + (c.count + 1)) % c.slots.size := by
    rw [← hback, Nat.mod_add_mod, Nat.add_assoc]
  rw [length_shown]
  unfold Cells.push
  rw [dif_pos h.head_lt, h.next h.head_lt, h.next h.tail_lt]
  by_cases hfull : c.count = c.slots.size - 1
  · -- the step of the head comes round to the tail, which has to move on
    have hhead : (c.head + 1) % c.size = c.tail := by
      rw [← UInt64.toNat_inj, hnext, hround, hfull, Nat.sub_add_cancel h.size_pos,
        Nat.add_mod_right, Nat.mod_eq_of_lt htail]
    refine ⟨_, true, if_pos (beq_iff_eq.2 hhead), (decide_eq_true hfull).symm, ?_, by simp⟩
    have hmoved := h.toNat_next htail
    have hcount' : count ⟨c.slots.set c.head.toNat b h.head_lt, (c.head + 1) % c.size,
        (c.tail + 1) % c.size⟩ = c.count := by
      apply count_eq <;> simp only [Array.size_set, hmoved, hnext]
      · exact Nat.mod_lt _ h.size_pos
      · exact hcount
      · rw [hround, Nat.mod_add_mod, Nat.add_assoc, Nat.add_comm 1]
    show window _ _ (count _) = _
    rw [shown, ← hwritten, window_eq_cons, Array.size_set, hcount', hmoved]
    rfl
  · -- there is room, so the head stops short of the tail
    have hhead : (c.head + 1) % c.size ≠ c.tail := by
      intro heq
      rw [← UInt64.toNat_inj, hnext, hround] at heq
      have hne := add_mod_ne (n := c.slots.size) (i := 0) (j := c.count + 1) htail
        (by omega) (by omega)
      rw [Nat.add_zero, Nat.mod_eq_of_lt htail] at hne
      exact hne heq.symm
    refine ⟨_, false, if_neg (by rwa [beq_iff_eq]), (decide_eq_false hfull).symm, ?_, by simp⟩
    have hcount' : count ⟨c.slots.set c.head.toNat b h.head_lt, (c.head + 1) % c.size,
        c.tail⟩ = c.count + 1 := by
      apply count_eq <;> simp only [Array.size_set, hnext]
      · exact htail
      · omega
      · exact hround.symm
    show window _ _ (count _) = _
    rw [shown, ← hwritten, hcount']
    rfl

/-- A pop takes the first byte. -/
theorem Sound.shown_pop (h : c.Sound) (arith : Arithmetic) :
    ∃ c', c.pop arith = .ok (c.shown.head?, c') ∧ c'.Sound ∧ c'.shown = c.shown.tail ∧
      c'.slots.size = c.slots.size := by
  have htail := h.tail_lt
  have hcount := h.count_lt
  unfold Cells.pop
  by_cases hempty : c.isEmpty = true
  · have hnone := h.isEmpty_iff.1 hempty
    rw [if_pos hempty, hnone]
    exact ⟨c, rfl, h, hnone, rfl⟩
  · rw [if_neg hempty, dif_pos htail, h.next htail]
    obtain ⟨k, hk⟩ : ∃ k, c.count = k + 1 := by
      rw [h.isEmpty_iff, ← List.length_eq_zero_iff, length_shown] at hempty
      exact Nat.exists_eq_succ_of_ne_zero hempty
    have hmoved := h.toNat_next htail
    have hshown : c.shown = c.slots[c.tail.toNat] ::
        window c.slots ((c.tail.toNat + 1) % c.slots.size) k := by
      rw [shown, hk, window_eq_cons, Nat.mod_eq_of_lt htail]
      congr 1
      simp [Array.getD_eq_getD_getElem?, htail]
    have hcount' : count { c with tail := (c.tail + 1) % c.size } = k := by
      apply count_eq <;> simp only [hmoved]
      · exact Nat.mod_lt _ h.size_pos
      · omega
      · rw [Nat.mod_add_mod, Nat.add_assoc, Nat.add_comm 1, ← hk]
        exact h.tail_add_count
    refine ⟨{ c with tail := (c.tail + 1) % c.size }, ?_, ?_, ?_, rfl⟩
    · rw [hshown]
      rfl
    · exact ⟨h.size_le, h.head_lt, toNat_mod_size_lt h _⟩
    · rw [hshown, shown, hcount', hmoved]
      rfl

/-- Popping `n` times takes the first `n` bytes, or all there are. -/
theorem Sound.shown_popUpTo (h : c.Sound) (arith : Arithmetic) (n : Nat) :
    ∃ c', c.popUpTo arith n = .ok (c.shown.take n, c') ∧ c'.shown = c.shown.drop n ∧
      c'.slots.size = c.slots.size := by
  induction n generalizing c with
  | zero => exact ⟨c, rfl, rfl, rfl⟩
  | succ n ih =>
      obtain ⟨c₁, hpop, hsound, hshown, hsize⟩ := h.shown_pop arith
      unfold Cells.popUpTo
      rw [hpop]
      cases hs : c.shown with
      | nil =>
          rw [hs] at hshown
          exact ⟨c₁, rfl, hshown, hsize⟩
      | cons b bs =>
          rw [hs] at hshown
          obtain ⟨c₂, hmore, hrest, hsize₂⟩ := ih hsound
          rw [hshown] at hmore hrest
          refine ⟨c₂, ?_, hrest, hsize₂.trans hsize⟩
          simp only [bind, Except.bind, List.head?_cons, hmore]
          rfl

theorem shown_clear (c : Cells) : c.clear.shown = [] := by
  simp only [shown, count, clear, Nat.add_sub_cancel_left, Nat.mod_self, window_zero]

end Cells

/-! ## What a ring shows -/

namespace Ring

theorem toList_eq_shown (r : Ring) : r.toList = r.cells.shown := by
  rw [toList, length, r.sound.toNat_length]
  rfl

theorem length_toList (r : Ring) : r.toList.length = r.length := by
  rw [toList, List.length_map, List.length_range]

theorem length_toList_le (r : Ring) : r.toList.length ≤ r.capacity := by
  rw [toList_eq_shown, Cells.length_shown, capacity]
  have hlt := r.sound.count_lt
  omega

theorem isEmpty_iff (r : Ring) : r.isEmpty = true ↔ r.toList = [] := by
  rw [toList_eq_shown]
  exact r.sound.isEmpty_iff

/-- A new ring has one slot more than it has places, and both indices at the
first. -/
theorem cells_allocate {capacity : UInt64} {r : Ring} (h : allocate capacity = .ok r) :
    r.cells = .fresh (capacity.toNat + 1) := by
  unfold allocate at h
  split at h
  · cases h
  · next cells hcells =>
      cases h
      exact (Cells.checked_allocate_eq_ok hcells).2

theorem toList_allocate {capacity : UInt64} {r : Ring} (h : allocate capacity = .ok r) :
    r.toList = [] := by
  rw [← isEmpty_iff, isEmpty, cells_allocate h]
  rfl

theorem capacity_allocate {capacity : UInt64} {r : Ring} (h : allocate capacity = .ok r) :
    r.capacity = capacity.toNat := by
  rw [Ring.capacity, cells_allocate h, Cells.fresh, Array.size_replicate, Nat.add_sub_cancel]

theorem cells_push (r : Ring) (b : UInt8) :
    r.cells.push .checked b = .ok ((r.push b).1.cells, (r.push b).2) := by
  unfold push
  split
  · next h => exact h
  · next h =>
      obtain ⟨c', e', h', _⟩ := r.sound.push .checked b
      rw [h'] at h
      cases h

theorem cells_pop (r : Ring) : r.cells.pop .checked = .ok (r.pop.1, r.pop.2.cells) := by
  unfold pop
  split
  · next h => exact h
  · next h =>
      obtain ⟨b', c', h', _⟩ := r.sound.pop .checked
      rw [h'] at h
      cases h

theorem cells_popUpTo (r : Ring) (n : Nat) :
    r.cells.popUpTo .checked n = .ok ((r.popUpTo n).1, (r.popUpTo n).2.cells) := by
  unfold popUpTo
  split
  · next h => exact h
  · next h =>
      obtain ⟨b', c', h', _⟩ := r.sound.popUpTo .checked n
      rw [h'] at h
      cases h

theorem push_spec (r : Ring) (b : UInt8) :
    (r.push b).2 = decide (r.toList.length = r.capacity) ∧
      (r.push b).1.toList = (r.toList ++ [b]).drop (r.push b).2.toNat ∧
      (r.push b).1.capacity = r.capacity := by
  obtain ⟨c', e, hpush, hevicts, hshown, hsize⟩ := r.sound.shown_push .checked b
  rw [cells_push, Except.ok.injEq, Prod.mk.injEq] at hpush
  obtain ⟨rfl, rfl⟩ := hpush
  rw [toList_eq_shown, toList_eq_shown]
  exact ⟨hevicts, hshown, congrArg (· - 1) hsize⟩

theorem pop_spec (r : Ring) :
    r.pop.1 = r.toList.head? ∧ r.pop.2.toList = r.toList.tail ∧
      r.pop.2.capacity = r.capacity := by
  obtain ⟨c', hpop, _, hshown, hsize⟩ := r.sound.shown_pop .checked
  rw [cells_pop, Except.ok.injEq, Prod.mk.injEq] at hpop
  obtain ⟨hb, rfl⟩ := hpop
  rw [toList_eq_shown, toList_eq_shown]
  exact ⟨hb, hshown, congrArg (· - 1) hsize⟩

theorem popUpTo_spec (r : Ring) (n : Nat) :
    (r.popUpTo n).1 = r.toList.take n ∧ (r.popUpTo n).2.toList = r.toList.drop n ∧
      (r.popUpTo n).2.capacity = r.capacity := by
  obtain ⟨c', hpop, hshown, hsize⟩ := r.sound.shown_popUpTo .checked n
  rw [cells_popUpTo, Except.ok.injEq, Prod.mk.injEq] at hpop
  obtain ⟨hbs, rfl⟩ := hpop
  rw [toList_eq_shown, toList_eq_shown]
  exact ⟨hbs, hshown, congrArg (· - 1) hsize⟩

@[simp] theorem toList_clear (r : Ring) : r.clear.toList = [] := by
  rw [toList_eq_shown]
  exact Cells.shown_clear _

@[simp] theorem capacity_clear (r : Ring) : r.clear.capacity = r.capacity := rfl

/-! ### Many pushes -/

@[simp] theorem pushAll_nil (r : Ring) : r.pushAll [] = (r, 0) := rfl

/-- The count of what had to go only adds up. -/
theorem foldl_push (bs : Bytes) : ∀ (r : Ring) (gone : Nat),
    bs.foldl (fun (r, gone) b =>
      let (r, evicted) := r.push b
      (r, gone + evicted.toNat)) (r, gone) = ((r.pushAll bs).1, gone + (r.pushAll bs).2) := by
  induction bs with
  | nil => intro r gone; rfl
  | cons b bs ih =>
      intro r gone
      simp only [pushAll, List.foldl_cons]
      rw [ih, ih, Nat.zero_add, Nat.add_assoc]

theorem pushAll_cons (r : Ring) (b : UInt8) (bs : Bytes) :
    r.pushAll (b :: bs) =
      (((r.push b).1.pushAll bs).1, (r.push b).2.toNat + ((r.push b).1.pushAll bs).2) := by
  rw [pushAll, List.foldl_cons, foldl_push, Nat.zero_add]

theorem pushAll_append (as bs : Bytes) :
    ∀ r : Ring, (r.pushAll (as ++ bs)).1 = ((r.pushAll as).1.pushAll bs).1 := by
  induction as with
  | nil => intro r; rfl
  | cons a as ih =>
      intro r
      rw [List.cons_append, pushAll_cons, pushAll_cons, ih]

@[simp] theorem capacity_pushAll (r : Ring) (bs : Bytes) :
    (r.pushAll bs).1.capacity = r.capacity := by
  induction bs generalizing r with
  | nil => rfl
  | cons b bs ih => rw [pushAll_cons, ih, (r.push_spec b).2.2]

/-- As many bytes have to go as do not fit. -/
theorem pushAll_gone (r : Ring) (bs : Bytes) :
    (r.pushAll bs).2 = r.toList.length + bs.length - r.capacity := by
  induction bs generalizing r with
  | nil =>
      have hle := r.length_toList_le
      rw [pushAll_nil, List.length_nil]
      omega
  | cons b bs ih =>
      have hle := r.length_toList_le
      obtain ⟨hevicts, hpushed, hcapacity⟩ := r.push_spec b
      rw [pushAll_cons, ih, hpushed, hcapacity, hevicts]
      by_cases hfull : r.toList.length = r.capacity
      · simp [hfull]
        omega
      · simp [hfull]
        omega

/-- For one byte at most one has to go. -/
theorem pushAll_gone_singleton (r : Ring) (b : UInt8) :
    (decide (0 < (r.pushAll [b]).2)).toNat = (r.pushAll [b]).2 := by
  have hle := r.length_toList_le
  rw [r.pushAll_gone, List.length_singleton]
  by_cases hfull : r.toList.length = r.capacity
  · rw [hfull, Nat.add_sub_cancel_left]
    rfl
  · rw [show r.toList.length + 1 - r.capacity = 0 by omega]
    rfl

/-- The bytes that had to go are the oldest ones. -/
theorem toList_pushAll (r : Ring) (bs : Bytes) :
    (r.pushAll bs).1.toList = (r.toList ++ bs).drop (r.pushAll bs).2 := by
  induction bs generalizing r with
  | nil => rw [pushAll_nil, List.append_nil, List.drop_zero]
  | cons b bs ih =>
      have hone : (r.push b).2.toNat ≤ (r.toList ++ [b]).length := by
        rw [List.length_append]
        cases (r.push b).2 <;> simp
      rw [pushAll_cons, ih, (r.push_spec b).2.1, ← List.drop_append_of_le_length hone,
        List.append_assoc, List.drop_drop]
      rfl

end Ring

end FramedSerial
