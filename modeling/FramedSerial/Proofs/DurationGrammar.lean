import FramedSerial.Proofs.Deadline
import Mathlib.Data.List.DropRight

/-!
# Which texts are durations

A duration is a decimal number and a unit with nothing between them, and blanks
around the two that do not count. One unit ends like the other, so the longer
one is looked for first; and what is left in front of a unit ends in a digit, so
that no letter of a unit can be left over there unnoticed.

The number is one that a word holds. It is read digit by digit, and the first
digit that would be too much is an error at once. A number never gets smaller by
a further digit, so this refuses the same texts as a comparison at the end.
-/

namespace FramedSerial

/-- Decimal digits and the number they come to. -/
structure Digits (cs : List Char) (n : Nat) : Prop where
  ne_nil : cs ≠ []
  isDigit : ∀ c ∈ cs, c.isDigit = true
  value : Nat.ofDigitChars 10 cs 0 = n

/-- Digits, with a plus sign before them or without. -/
inductive WrittenNat : List Char → Nat → Prop where
  | plain {cs : List Char} {n : Nat} (digits : Digits cs n) : WrittenNat cs n
  | signed {cs : List Char} {n : Nat} (digits : Digits cs n) : WrittenNat ('+' :: cs) n

/-- How a unit is written. Seconds may be left unsaid. -/
inductive WrittenUnit : List Char → TimeUnit → Prop where
  | millis : WrittenUnit ['m', 's'] .millis
  | seconds : WrittenUnit ['s'] .seconds
  | unsaid : WrittenUnit [] .seconds

/-- A number with its unit right after it, and blanks around them. -/
inductive WrittenSpan : List Char → Nat → TimeUnit → Prop where
  | intro {before number letters after : List Char} {n : Nat} {unit : TimeUnit}
      (blank : ∀ c ∈ before ++ after, isBlank c = true) (numeral : WrittenNat number n)
      (abbreviation : WrittenUnit letters unit) :
      WrittenSpan (before ++ (number ++ letters) ++ after) n unit

/-- The nanoseconds in a unit. -/
def TimeUnit.nanos : TimeUnit → Int
  | .seconds => 1000000000
  | .millis => 1000000

/-! ## Numbers -/

theorem toNat_of_isDigit {c : Char} (h : c.isDigit = true) : 48 ≤ c.toNat ∧ c.toNat ≤ 57 := by
  simp only [Char.isDigit, Bool.and_eq_true, decide_eq_true_eq, ge_iff_le,
    UInt32.le_iff_toNat_le] at h
  exact h

theorem ne_of_isDigit {c d : Char} (h : c.isDigit = true) (hd : d.isDigit = false) : c ≠ d := by
  rintro rfl
  rw [h] at hd
  cases hd

namespace Numeral

theorem digit?_ten (c : Char) :
    digit? 10 c = if c.isDigit then some (c.toNat - '0'.toNat) else none := by
  have hiff : ('0' ≤ c ∧ c ≤ '9') ↔ c.isDigit = true := by
    simp only [Char.isDigit, Bool.and_eq_true, decide_eq_true_eq, Char.le_def, ge_iff_le]
  unfold digit?
  by_cases hdigit : c.isDigit = true
  · have hbounds := toNat_of_isDigit hdigit
    have hlt : c.toNat - '0'.toNat < 10 := by
      show c.toNat - 48 < 10
      omega
    rw [if_pos (hiff.2 hdigit), if_pos hdigit, Option.filter_some, decide_eq_true hlt, if_pos rfl]
  · -- a letter counts from ten on, which is too much
    rw [if_neg (mt hiff.1 hdigit), if_neg hdigit]
    split
    · simp
    · split
      · simp
      · rfl

theorem le_ofDigitChars (cs : List Char) (acc : Nat) : acc ≤ Nat.ofDigitChars 10 cs acc := by
  rw [Nat.ofDigitChars_eq_ofDigitChars_zero]
  have hpos : 0 < 10 ^ cs.length := Nat.pow_pos (by decide)
  have hmul := Nat.le_mul_of_pos_left acc hpos
  omega

/-- More digits only make a number greater, so one that is too large at some digit
is too large at the end. -/
theorem readFrom_eq_ok_iff {limit n : Nat} {beyond : NumeralFault} (cs : List Char) :
    ∀ {acc : Nat}, acc ≤ limit →
      (readFrom 10 limit beyond acc cs = .ok n ↔
        (∀ c ∈ cs, c.isDigit = true) ∧ Nat.ofDigitChars 10 cs acc = n ∧ n ≤ limit) := by
  induction cs with
  | nil =>
      intro acc hacc
      rw [readFrom, Nat.ofDigitChars_nil, Except.ok.injEq]
      constructor
      · rintro rfl
        exact ⟨by simp, rfl, hacc⟩
      · exact fun h => h.2.1
  | cons c cs ih =>
      intro acc hacc
      rw [readFrom, digit?_ten, Nat.ofDigitChars_cons, List.forall_mem_cons]
      by_cases hdigit : c.isDigit = true
      · rw [if_pos hdigit, Nat.mul_comm 10 acc]
        dsimp only
        split
        · -- the digits to come cannot make up for it
          next hbeyond =>
            have hle := le_ofDigitChars cs (acc * 10 + (c.toNat - '0'.toNat))
            refine iff_of_false nofun ?_
            rintro ⟨-, rfl, hfits⟩
            omega
        · next hfits =>
            rw [ih (Nat.not_lt.1 hfits)]
            exact ⟨fun h => ⟨⟨hdigit, h.1⟩, h.2⟩, fun h => ⟨h.1.2, h.2⟩⟩
      · rw [if_neg hdigit]
        exact iff_of_false nofun fun h => hdigit h.1.1

theorem readDigits_eq_ok_iff {limit n : Nat} {beyond : NumeralFault} {cs : List Char} :
    readDigits 10 limit beyond cs = .ok n ↔ Digits cs n ∧ n ≤ limit := by
  cases cs with
  | nil => exact iff_of_false nofun fun h => h.1.ne_nil rfl
  | cons c cs =>
      rw [readDigits_cons, readFrom_eq_ok_iff _ (Nat.zero_le limit)]
      constructor
      · rintro ⟨hdigits, hvalue, hfits⟩
        exact ⟨⟨List.cons_ne_nil _ _, hdigits, hvalue⟩, hfits⟩
      · rintro ⟨hdigits, hfits⟩
        exact ⟨hdigits.isDigit, hdigits.value, hfits⟩

theorem readNat_eq_ok_iff {limit n : Nat} (cs : List Char) :
    readNat 10 limit cs = .ok n ↔ WrittenNat cs n ∧ n ≤ limit := by
  match cs with
  | [] =>
      refine iff_of_false nofun ?_
      rintro ⟨⟨hdigits⟩, -⟩
      exact hdigits.ne_nil rfl
  | c :: cs =>
      by_cases hplus : c = '+'
      · subst hplus
        rw [readNat, readDigits_eq_ok_iff]
        constructor
        · rintro ⟨hdigits, hfits⟩
          exact ⟨.signed hdigits, hfits⟩
        · rintro ⟨hdigits | hdigits, hfits⟩
          · exact absurd (hdigits.isDigit '+' List.mem_cons_self) (by decide)
          · exact ⟨hdigits, hfits⟩
      · rw [readNat_of_ne hplus, readDigits_eq_ok_iff]
        constructor
        · rintro ⟨hdigits, hfits⟩
          exact ⟨.plain hdigits, hfits⟩
        · rintro ⟨hdigits | hdigits, hfits⟩
          · exact ⟨hdigits, hfits⟩
          · exact absurd rfl hplus

end Numeral

theorem Digits.exists_last {cs : List Char} {n : Nat} (h : Digits cs n) :
    ∃ front d, cs = front ++ [d] ∧ d.isDigit = true :=
  ⟨cs.dropLast, cs.getLast h.ne_nil, (List.dropLast_concat_getLast h.ne_nil).symm,
    h.isDigit _ (List.getLast_mem h.ne_nil)⟩

theorem WrittenNat.exists_last {cs : List Char} {n : Nat} (h : WrittenNat cs n) :
    ∃ front d, cs = front ++ [d] ∧ d.isDigit = true := by
  cases h with
  | plain digits => exact digits.exists_last
  | signed digits =>
      obtain ⟨front, d, rfl, hd⟩ := digits.exists_last
      exact ⟨'+' :: front, d, rfl, hd⟩

/-! ## Units -/

/-- What stands in front of a unit is told apart from it by its last digit. -/
theorem splitUnit_append {front letters : List Char} {d : Char} {unit : TimeUnit}
    (hd : d.isDigit = true) (h : WrittenUnit letters unit) :
    splitUnit (front ++ [d] ++ letters) = (front ++ [d], unit) := by
  have hm : d ≠ 'm' := ne_of_isDigit hd rfl
  have hs : d ≠ 's' := ne_of_isDigit hd rfl
  cases h with
  | millis => simp [splitUnit]
  | seconds => simp [splitUnit, hm]
  | unsaid => simp [splitUnit, hs]

theorem exists_splitUnit (cs : List Char) :
    ∃ letters, WrittenUnit letters (splitUnit cs).2 ∧ cs = (splitUnit cs).1 ++ letters := by
  unfold splitUnit
  split
  · next number hreverse =>
      refine ⟨['m', 's'], .millis, ?_⟩
      rw [← List.reverse_reverse cs, hreverse]
      simp
  · next number hreverse =>
      refine ⟨['s'], .seconds, ?_⟩
      rw [← List.reverse_reverse cs, hreverse]
      simp
  · exact ⟨[], .unsaid, by simp⟩

/-! ## Blanks -/

theorem trimBlanks_eq (cs : List Char) :
    trimBlanks cs = (cs.dropWhile isBlank).rdropWhile isBlank := rfl

/-- Only blanks are trimmed. -/
theorem exists_trimBlanks (cs : List Char) :
    ∃ before after, cs = before ++ trimBlanks cs ++ after ∧
      ∀ c ∈ before ++ after, isBlank c = true := by
  refine ⟨cs.takeWhile isBlank, (cs.dropWhile isBlank).rtakeWhile isBlank, ?_, ?_⟩
  · rw [trimBlanks_eq, List.append_assoc, List.rdropWhile_append_rtakeWhile,
      List.takeWhile_append_dropWhile]
  · intro c hc
    rcases List.mem_append.1 hc with hbefore | hafter
    · exact List.mem_takeWhile_imp hbefore
    · exact List.mem_rtakeWhile_imp hafter

/-- All blanks around a text that neither begins nor ends in one are trimmed. -/
theorem trimBlanks_padded {before core after : List Char}
    (hblank : ∀ c ∈ before ++ after, isBlank c = true) (hne : core ≠ [])
    (hhead : isBlank (core.head hne) = false) (hlast : isBlank (core.getLast hne) = false) :
    trimBlanks (before ++ core ++ after) = core := by
  have hbefore : ∀ c ∈ before, isBlank c = true := fun c hc =>
    hblank c (List.mem_append_left _ hc)
  have hafter : ∀ c ∈ after.reverse, isBlank c = true := fun c hc =>
    hblank c (List.mem_append_right _ (List.mem_reverse.1 hc))
  have hfront : (core ++ after).dropWhile isBlank = core ++ after := by
    obtain ⟨c, cs, rfl⟩ := List.exists_cons_of_ne_nil hne
    rw [List.cons_append, List.dropWhile_cons_of_neg (by simpa using hhead)]
  have hback : core.rdropWhile isBlank = core :=
    List.rdropWhile_eq_self_iff.2 fun _ => by simpa using hlast
  rw [trimBlanks_eq, List.append_assoc, List.dropWhile_append_of_pos hbefore, hfront,
    List.rdropWhile, List.reverse_append, List.dropWhile_append_of_pos hafter]
  exact hback

/-! ## Spans -/

theorem isBlank_of_isDigit {c : Char} (h : c.isDigit = true) : isBlank c = false := by
  have hbounds := toNat_of_isDigit h
  simp only [isBlank, Bool.or_eq_false_iff, Bool.and_eq_false_iff, decide_eq_false_iff_not,
    beq_eq_false_iff_ne]
  omega

theorem WrittenNat.isBlank_head {cs : List Char} {n : Nat} (h : WrittenNat cs n) (hne : cs ≠ []) :
    isBlank (cs.head hne) = false := by
  cases h with
  | plain digits => exact isBlank_of_isDigit (digits.isDigit _ (List.head_mem hne))
  | signed digits => rfl

theorem WrittenUnit.isBlank_getLast {letters : List Char} {unit : TimeUnit} {d : Char}
    (h : WrittenUnit letters unit) (hd : d.isDigit = true) :
    isBlank ((d :: letters).getLast (List.cons_ne_nil _ _)) = false := by
  cases h with
  | millis => rfl
  | seconds => rfl
  | unsaid => exact isBlank_of_isDigit hd

/-- Trimming and splitting undo what was written. -/
theorem writtenSpan_iff {cs : List Char} {n : Nat} {unit : TimeUnit} :
    WrittenSpan cs n unit ↔
      WrittenNat (splitUnit (trimBlanks cs)).1 n ∧ (splitUnit (trimBlanks cs)).2 = unit := by
  constructor
  · rintro @⟨before, _, letters, after, _, _, hblank, hnumber, hletters⟩
    obtain ⟨front, d, rfl, hd⟩ := hnumber.exists_last
    have hne : front ++ [d] ++ letters ≠ [] := by simp
    have hhead : isBlank ((front ++ [d] ++ letters).head hne) = false := by
      rw [List.head_append_of_ne_nil (by simp)]
      exact hnumber.isBlank_head _
    have hlast : isBlank ((front ++ [d] ++ letters).getLast hne) = false := by
      have hassoc : front ++ [d] ++ letters = front ++ d :: letters := by simp
      simp only [hassoc, List.getLast_append_of_ne_nil _ (List.cons_ne_nil d letters)]
      exact hletters.isBlank_getLast hd
    -- the last digit keeps the trimming of blanks and of the unit away from the number
    rw [trimBlanks_padded hblank hne hhead hlast, splitUnit_append hd hletters]
    exact ⟨hnumber, rfl⟩
  · rintro ⟨hnumber, rfl⟩
    obtain ⟨before, after, hcs, hblank⟩ := exists_trimBlanks cs
    obtain ⟨letters, hletters, hcore⟩ := exists_splitUnit (trimBlanks cs)
    have hspan := WrittenSpan.intro hblank hnumber hletters
    rwa [← hcore, ← hcs] at hspan

/-! ## Durations -/

namespace Duration

theorem total_injective {d e : Duration} (h : d.total = e.total) : d = e := by
  obtain ⟨seconds, nanos, hnanos⟩ := d
  obtain ⟨seconds', nanos', hnanos'⟩ := e
  simp only [total] at h
  rw [Duration.mk.injEq, ← UInt64.toNat_inj]
  omega

end Duration

/-- No part of a number of units is lost, however large it is. -/
theorem TimeUnit.total_times (unit : TimeUnit) {n : Nat} (h : n ≤ maxWord) :
    (unit.times (UInt64.ofNat n)).total = n * unit.nanos := by
  have hn : (UInt64.ofNat n).toNat = n := UInt64.toNat_ofNat_of_lt' (Nat.lt_succ_of_le h)
  cases unit with
  | seconds =>
      simp only [times, Duration.ofSeconds, Duration.total, nanos, hn]
      omega
  | millis =>
      simp only [times, Duration.ofMillis, Duration.total, nanos, UInt64.toNat_div, hn,
        UInt64.reduceToNat]
      omega

theorem readDuration_eq_ok_iff {text : String} {d : Duration} :
    readDuration text = .ok d ↔
      ∃ n, Numeral.readNat 10 maxWord (splitUnit (trimBlanks text.toList)).1 = .ok n ∧ n ≠ 0 ∧
        d = (splitUnit (trimBlanks text.toList)).2.times (UInt64.ofNat n) := by
  unfold readDuration
  generalize trimBlanks text.toList = cs
  cases cs with
  | nil =>
      refine iff_of_false nofun ?_
      rintro ⟨n, ⟨⟩, -⟩
  | cons c cs =>
      dsimp only [List.isEmpty_cons]
      rw [if_neg (by decide)]
      cases hread : Numeral.readNat 10 maxWord (splitUnit (c :: cs)).1 with
      | error e =>
          refine iff_of_false nofun ?_
          rintro ⟨n, ⟨⟩, -⟩
      | ok n =>
          cases n with
          | zero =>
              refine iff_of_false nofun ?_
              rintro ⟨n, ⟨⟩, hne, -⟩
              exact hne rfl
          | succ n =>
              constructor
              · rintro ⟨⟩
                exact ⟨n + 1, rfl, Nat.succ_ne_zero n, rfl⟩
              · rintro ⟨m, ⟨⟩, -, rfl⟩
                rfl

theorem readDuration_eq_ok_iff_writtenSpan {text : String} {d : Duration} :
    readDuration text = .ok d ↔
      ∃ n unit, WrittenSpan text.toList n unit ∧ 1 ≤ n ∧ n < UInt64.size ∧
        d.total = n * unit.nanos := by
  rw [readDuration_eq_ok_iff]
  constructor
  · rintro ⟨n, hread, hne, rfl⟩
    obtain ⟨hnumber, hfits⟩ := (Numeral.readNat_eq_ok_iff _).1 hread
    exact ⟨n, _, writtenSpan_iff.2 ⟨hnumber, rfl⟩, Nat.pos_of_ne_zero hne,
      Nat.lt_succ_of_le hfits, TimeUnit.total_times _ hfits⟩
  · rintro ⟨n, unit, hspan, hpos, hlt, htotal⟩
    obtain ⟨hnumber, rfl⟩ := writtenSpan_iff.1 hspan
    have hfits : n ≤ maxWord := Nat.le_of_lt_succ hlt
    refine ⟨n, (Numeral.readNat_eq_ok_iff _).2 ⟨hnumber, hfits⟩, Nat.ne_of_gt hpos, ?_⟩
    apply Duration.total_injective
    rw [htotal, TimeUnit.total_times _ hfits]

namespace Status

theorem run_of_refused {s : Surroundings} {format : OutputFormat} {job : StatusJob}
    {fault : DurationFault} (h : readDuration job.timeout = .error fault) :
    run s format job = ⟨[], .failed (.duration fault), none, s.device.transport⟩ := by
  unfold run
  rw [h]
  rfl

end Status

/-- A text is taken for a duration if it is a number between one and the greatest
word with a unit right after it, blanks around them aside, and it is taken for
exactly so many of that unit. Any other text is an error of usage, and whoever
gave it as a timeout is told so before any device is opened. -/
theorem readDuration_iff_written (text : String) :
    (∀ d : Duration, readDuration text = .ok d ↔
      ∃ n unit, WrittenSpan text.toList n unit ∧ 1 ≤ n ∧ n < UInt64.size ∧
        d.total = n * unit.nanos) ∧
    ((¬ ∃ n unit, WrittenSpan text.toList n unit ∧ 1 ≤ n ∧ n < UInt64.size) →
      ∃ fault : DurationFault, readDuration text = .error fault ∧
        (Failure.duration fault).code = .usage ∧
        ∀ (s : Surroundings) (format : OutputFormat) (line : LineChoice)
          (selected : Option Attribute), Status.run s format ⟨line, text, selected⟩ =
            ⟨[], .failed (.duration fault), none, s.device.transport⟩) := by
  refine ⟨fun d => readDuration_eq_ok_iff_writtenSpan, fun hnone => ?_⟩
  cases hread : readDuration text with
  | ok d =>
      obtain ⟨n, unit, hspan, hpos, hlt, -⟩ := readDuration_eq_ok_iff_writtenSpan.1 hread
      exact absurd ⟨n, unit, hspan, hpos, hlt⟩ hnone
  | error fault =>
      exact ⟨fault, rfl, rfl, fun s format line selected => Status.run_of_refused hread⟩

/-- The greatest word, in milliseconds, with a sign and a zero before it and blanks
around it; and a number that is parted from its unit. -/
theorem readDuration_of_longest_millis :
    (∃ d, readDuration "\n +018446744073709551615ms " = .ok d ∧
      d.total = 18446744073709551615 * 1000000) ∧
    (¬ ∃ n unit, WrittenSpan "5 s".toList n unit ∧ 1 ≤ n ∧ n < UInt64.size) ∧
    ∃ fault : DurationFault, readDuration "5 s" = .error fault ∧
      (Failure.duration fault).code = .usage := by
  have hall : "018446744073709551615".toList.all Char.isDigit = true := rfl
  have hlongest : Digits "018446744073709551615".toList 18446744073709551615 :=
    ⟨nofun, List.all_eq_true.1 hall, rfl⟩
  have hspan : WrittenSpan "\n +018446744073709551615ms ".toList 18446744073709551615 .millis :=
    writtenSpan_iff.2 ⟨.signed hlongest, rfl⟩
  have hparted : ¬ ∃ n unit, WrittenSpan "5 s".toList n unit ∧ 1 ≤ n ∧ n < UInt64.size := by
    rintro ⟨n, unit, hspan, -⟩
    have hnumber : WrittenNat ['5', ' '] n := (writtenSpan_iff.1 hspan).1
    obtain ⟨hdigits⟩ := hnumber
    exact absurd (hdigits.isDigit ' ' (by decide)) (by decide)
  have htotal := TimeUnit.total_times .millis (Nat.le_refl maxWord)
  obtain ⟨haccepted, -⟩ := readDuration_iff_written "\n +018446744073709551615ms "
  obtain ⟨-, hrefused⟩ := readDuration_iff_written "5 s"
  obtain ⟨fault, hread, hcode, -⟩ := hrefused hparted
  exact ⟨⟨_, (haccepted _).2 ⟨_, _, hspan, by decide, by decide, htotal⟩, htotal⟩, hparted,
    fault, hread, hcode⟩

end FramedSerial
