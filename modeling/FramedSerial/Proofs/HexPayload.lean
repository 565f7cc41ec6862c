import FramedSerial.Command.Send

/-!
# Which texts spell a payload

A payload is written as pairs of hexadecimal digits, and separators may stand
between any two of them. A pair is read as a numeral of base sixteen, and a
numeral may begin with a plus sign. So the first place of a pair has one letter
more than the second: a plus sign stands there for nothing, and `+5` is a byte.
In all else a text is what it ought to be, two digits to a byte.

The reader goes from bytes to characters and from there to a numeral, and both
steps are narrower than they look. Two bytes may be one character, or a part of
one; neither is a digit. And two digits never come to more than a byte holds, so
that a numeral of two places is never too large.
-/

namespace FramedSerial

/-- The value of a byte that is a hexadecimal digit. -/
def hexValue? (b : UInt8) : Option Nat :=
  if 0x30 ≤ b ∧ b ≤ 0x39 then some (b.toNat - 0x30)
  else if 0x41 ≤ b ∧ b ≤ 0x46 then some (b.toNat - 0x37)
  else if 0x61 ≤ b ∧ b ≤ 0x66 then some (b.toNat - 0x57)
  else none

/-- The value of a byte in the first place of a pair, where a plus sign may stand. -/
def leadingValue? (b : UInt8) : Option Nat :=
  if b = 0x2B then some 0 else hexValue? b

/-- The value of a pair. -/
def pairValue? (a b : UInt8) : Option Nat :=
  (leadingValue? a).bind fun hi => (hexValue? b).map fun lo => 16 * hi + lo

/-- The bytes of a text that are no separators. -/
def hexBytes (text : String) : Bytes := (textBytes text).filter fun b => !isHexSeparator b

/-! ## Digits -/

theorem hexValue?_of_le {b : UInt8} (h : 0x80 ≤ b) : hexValue? b = none := by
  rw [UInt8.le_iff_toNat_le] at h
  simp only [hexValue?, UInt8.le_iff_toNat_le, UInt8.reduceToNat] at h ⊢
  rw [if_neg (by omega), if_neg (by omega), if_neg (by omega)]

theorem leadingValue?_of_le {b : UInt8} (h : 0x80 ≤ b) : leadingValue? b = none := by
  have hplus : b ≠ 0x2B := by
    rintro rfl
    exact absurd h (by decide)
  rw [leadingValue?, if_neg hplus, hexValue?_of_le h]

namespace Numeral

theorem lt_of_digit? {base d : Nat} {c : Char} (h : digit? base c = some d) : d < base := by
  simpa using (Option.filter_eq_some_iff.1 h).2

theorem digit?_of_ascii {b : UInt8} (h : b < 0x80) :
    digit? 16 (Char.ofNat b.toNat) = hexValue? b := by
  have hall : ∀ k < 128, digit? 16 (Char.ofNat k) = hexValue? (UInt8.ofNat k) := by decide
  have hb := hall b.toNat h
  rwa [UInt8.ofNat_toNat] at hb

/-- A character beyond ASCII is no digit of any base. -/
theorem digit?_of_le {c : Char} (h : 0x80 ≤ c.toNat) (base : Nat) : digit? base c = none := by
  have hbeyond : ∀ d : Char, d.toNat < 0x80 → ¬ c ≤ d := by
    intro d hd hle
    rw [Char.le_def, UInt32.le_iff_toNat_le] at hle
    exact absurd (Nat.le_trans h hle) (Nat.not_le.2 hd)
  have h9 := hbeyond '9' (by decide)
  have hz := hbeyond 'z' (by decide)
  have hZ := hbeyond 'Z' (by decide)
  simp [digit?, h9, hz, hZ]

/-- Two digits never come to more than a byte holds. -/
theorem readFrom_single {acc : Nat} (h : acc < 16) (y : Char) :
    (readFrom 16 255 .tooLarge acc [y]).toOption =
      (digit? 16 y).map fun lo => 16 * acc + lo := by
  rw [readFrom]
  cases hy : digit? 16 y with
  | none => rfl
  | some lo =>
      have hlo := lt_of_digit? hy
      have hfits : ¬ 255 < acc * 16 + lo := by omega
      dsimp only
      rw [if_neg hfits, readFrom, Nat.mul_comm acc 16]
      rfl

/-- A numeral of two places is a sign and a digit, or two digits. -/
theorem readNat_pair (x y : Char) :
    (readNat 16 255 [x, y]).toOption =
      (if x = '+' then some 0 else digit? 16 x).bind fun hi =>
        (digit? 16 y).map fun lo => 16 * hi + lo := by
  by_cases hx : x = '+'
  · subst hx
    exact readFrom_single (by decide) y
  · rw [readNat_of_ne hx, readDigits_cons, if_neg hx, readFrom]
    cases hd : digit? 16 x with
    | none => rfl
    | some hi =>
        have hhi := lt_of_digit? hd
        dsimp only
        rw [if_neg (by omega), Nat.zero_mul, Nat.zero_add]
        exact readFrom_single hhi y

/-- One character beyond ASCII is no numeral. -/
theorem readNat_single {c : Char} (h : 0x80 ≤ c.toNat) :
    (readNat 16 255 [c]).toOption = none := by
  have hplus : c ≠ '+' := by
    rintro rfl
    exact absurd h (by decide)
  rw [readNat_of_ne hplus, readDigits_cons, readFrom_single (by decide), digit?_of_le h]
  rfl

end Numeral

/-! ## Pairs -/

theorem pairValue?_of_le {a b : UInt8} (h : ¬ (a < 0x80 ∧ b < 0x80)) : pairValue? a b = none := by
  rw [pairValue?]
  by_cases ha : a < 0x80
  · have hb : 0x80 ≤ b := UInt8.not_lt.1 fun hb => h ⟨ha, hb⟩
    rw [hexValue?_of_le hb]
    cases leadingValue? a <;> rfl
  · rw [leadingValue?_of_le (UInt8.not_lt.1 ha)]
    rfl

theorem ofNat_eq_plus_iff (a : UInt8) (h : a < 0x80) : Char.ofNat a.toNat = '+' ↔ a = 0x2B := by
  have hall : ∀ k < 128, Char.ofNat k = '+' ↔ UInt8.ofNat k = 0x2B := by decide
  have ha := hall a.toNat h
  rwa [UInt8.ofNat_toNat] at ha

/-- A pair is read as its value, and refused if it has none, whatever characters
its bytes are or belong to. -/
theorem toOption_readNat_pairText (a b : UInt8) :
    (Numeral.readNat 16 255 (pairText a b)).toOption = pairValue? a b := by
  rw [pairText]
  split
  · next h =>
      rw [Numeral.readNat_pair, Numeral.digit?_of_ascii h.1, Numeral.digit?_of_ascii h.2,
        pairValue?, leadingValue?]
      simp only [ofNat_eq_plus_iff a h.1]
  · next h =>
      rw [pairValue?_of_le h]
      split
      · next hchar =>
          simp only [UInt8.le_iff_toNat_le, UInt8.reduceToNat] at hchar
          have hvalid : Nat.isValidChar ((a.toNat - 0xC0) * 64 + (b.toNat - 0x80)) :=
            Or.inl (by omega)
          apply Numeral.readNat_single
          rw [Char.ofNat, dif_pos hvalid]
          show 0x80 ≤ (a.toNat - 0xC0) * 64 + (b.toNat - 0x80)
          omega
      · rfl

/-! ## Texts -/

/-- Pairs and the bytes they stand for. -/
inductive Spells : Bytes → Bytes → Prop where
  | nil : Spells [] []
  | pair {a b c : UInt8} {digits bytes : Bytes} (value : pairValue? a b = some c.toNat)
      (more : Spells digits bytes) : Spells (a :: b :: digits) (c :: bytes)

theorem hexValue?_lt {b : UInt8} {n : Nat} (h : hexValue? b = some n) : n < 16 := by
  simp only [hexValue?, UInt8.le_iff_toNat_le, UInt8.reduceToNat] at h
  split at h
  · cases h
    omega
  · split at h
    · cases h
      omega
    · split at h
      · cases h
        omega
      · cases h

theorem leadingValue?_lt {b : UInt8} {n : Nat} (h : leadingValue? b = some n) : n < 16 := by
  unfold leadingValue? at h
  split at h
  · cases h
    decide
  · exact hexValue?_lt h

theorem pairValue?_eq_some_iff {a b : UInt8} {n : Nat} :
    pairValue? a b = some n ↔
      ∃ hi lo, leadingValue? a = some hi ∧ hexValue? b = some lo ∧ n = 16 * hi + lo := by
  simp only [pairValue?, Option.bind_eq_some_iff, Option.map_eq_some_iff]
  constructor
  · rintro ⟨hi, hhi, lo, hlo, rfl⟩
    exact ⟨hi, lo, hhi, hlo, rfl⟩
  · rintro ⟨hi, lo, hhi, hlo, rfl⟩
    exact ⟨hi, hhi, lo, hlo, rfl⟩

theorem toNat_of_pairValue? {a b : UInt8} {n : Nat} (h : pairValue? a b = some n) :
    (UInt8.ofNat n).toNat = n := by
  obtain ⟨hi, lo, hhi, hlo, rfl⟩ := pairValue?_eq_some_iff.1 h
  have hhigh := leadingValue?_lt hhi
  have hlow := hexValue?_lt hlo
  have hfits : 16 * hi + lo < 256 := by omega
  exact UInt8.toNat_ofNat_of_lt' hfits

theorem readHexPairs_cons (a b : UInt8) (digits : Bytes) :
    readHexPairs (a :: b :: digits) =
      match pairValue? a b with
      | some n => (readHexPairs digits).map (UInt8.ofNat n :: ·)
      | none => .error (.invalidDigits (String.ofList (pairText a b))) := by
  rw [readHexPairs, ← toOption_readNat_pairText]
  rcases Numeral.readNat 16 255 (pairText a b) with fault | n
  · rfl
  · rfl

/-- Reading pairs finds the bytes they spell, and finds none if there are none. -/
theorem readHexPairs_eq_ok_iff :
    ∀ digits bytes : Bytes, readHexPairs digits = .ok bytes ↔ Spells digits bytes
  | [], bytes => by
      constructor
      · rintro ⟨⟩
        exact .nil
      · rintro ⟨⟩
        rfl
  | [b], bytes => by
      constructor
      · rintro ⟨⟩
      · rintro ⟨⟩
  | a :: b :: digits, bytes => by
      have ih := readHexPairs_eq_ok_iff digits
      rw [readHexPairs_cons]
      cases hvalue : pairValue? a b with
      | none =>
          constructor
          · rintro ⟨⟩
          · rintro (_ | ⟨value, _⟩)
            rw [hvalue] at value
            cases value
      | some n =>
          constructor
          · intro h
            cases hmore : readHexPairs digits with
            | error fault =>
                rw [hmore] at h
                cases h
            | ok more =>
                rw [hmore] at h
                cases h
                refine .pair ?_ ((ih more).1 hmore)
                rw [hvalue, toNat_of_pairValue? hvalue]
          · rintro (_ | ⟨value, hmore⟩)
            rw [hvalue, Option.some.injEq] at value
            show (readHexPairs digits).map _ = _
            rw [(ih _).2 hmore, value, UInt8.ofNat_toNat]
            rfl

/-! ### Digits by their places -/

theorem Spells.length {digits bytes : Bytes} (h : Spells digits bytes) :
    digits.length = 2 * bytes.length := by
  induction h with
  | nil => rfl
  | pair _ _ ih =>
      rw [List.length_cons, List.length_cons, ih, List.length_cons]
      omega

theorem Spells.value {digits bytes : Bytes} (h : Spells digits bytes) :
    ∀ i (hi : i < bytes.length), ∃ a b, digits[2 * i]? = some a ∧ digits[2 * i + 1]? = some b ∧
      pairValue? a b = some bytes[i].toNat := by
  induction h with
  | nil =>
      intro i hi
      cases hi
  | pair value more ih =>
      intro i hi
      cases i with
      | zero => exact ⟨_, _, rfl, rfl, value⟩
      | succ i => exact ih i (Nat.lt_of_succ_lt_succ hi)

/-- A digit, or a plus sign in the first place of a pair. -/
def IsPlaced (digits : Bytes) : Prop :=
  ∀ i (h : i < digits.length), (hexValue? digits[i]).isSome ∨ i % 2 = 0 ∧ digits[i] = 0x2B

theorem leadingValue?_isSome_iff (b : UInt8) :
    (leadingValue? b).isSome ↔ (hexValue? b).isSome ∨ b = 0x2B := by
  unfold leadingValue?
  split
  · next hplus => simp [hplus]
  · next hplus => simp [hplus]

theorem isPlaced_cons_cons {a b : UInt8} {digits : Bytes} :
    IsPlaced (a :: b :: digits) ↔
      (leadingValue? a).isSome ∧ (hexValue? b).isSome ∧ IsPlaced digits := by
  rw [leadingValue?_isSome_iff]
  constructor
  · intro h
    refine ⟨?_, ?_, fun i hi => ?_⟩
    · simpa using h 0 (Nat.succ_pos _)
    · simpa using h 1 (Nat.succ_lt_succ (Nat.succ_pos _))
    · have hlater := h (i + 2) (by simpa using hi)
      rwa [Nat.add_mod_right] at hlater
  · rintro ⟨hlead, hdigit, hlater⟩ i hi
    match i, hi with
    | 0, _ => simpa using hlead
    | 1, _ => simpa using hdigit
    | i + 2, hi =>
        rw [Nat.add_mod_right]
        exact hlater i (by simpa using hi)

/-- Digits spell bytes if they come in pairs and nothing stands in a place where
it may not. -/
theorem exists_spells_iff :
    ∀ digits : Bytes, (∃ bytes, Spells digits bytes) ↔ digits.length % 2 = 0 ∧ IsPlaced digits
  | [] => by
      refine ⟨fun _ => ⟨rfl, ?_⟩, fun _ => ⟨[], .nil⟩⟩
      intro i h
      cases h
  | [b] => by
      constructor
      · rintro ⟨_, ⟨⟩⟩
      · rintro ⟨⟨⟩, _⟩
  | a :: b :: digits => by
      have ih := exists_spells_iff digits
      rw [isPlaced_cons_cons, List.length_cons, List.length_cons, Nat.add_assoc,
        Nat.add_mod_right]
      constructor
      · rintro ⟨_, _ | ⟨value, more⟩⟩
        obtain ⟨heven, hplaced⟩ := ih.1 ⟨_, more⟩
        obtain ⟨hi, lo, hhi, hlo, -⟩ := pairValue?_eq_some_iff.1 value
        exact ⟨heven, by simp [hhi], by simp [hlo], hplaced⟩
      · rintro ⟨heven, hlead, hdigit, hplaced⟩
        obtain ⟨bytes, more⟩ := ih.2 ⟨heven, hplaced⟩
        obtain ⟨hi, hhi⟩ := Option.isSome_iff_exists.1 hlead
        obtain ⟨lo, hlo⟩ := Option.isSome_iff_exists.1 hdigit
        have hvalue := pairValue?_eq_some_iff.2 ⟨hi, lo, hhi, hlo, rfl⟩
        have hbyte := hvalue.trans (congrArg some (toNat_of_pairValue? hvalue).symm)
        exact ⟨_, .pair hbyte more⟩

/-! ## Payloads -/

theorem readHex_eq_ok_iff (text : String) (bytes : Bytes) :
    readHex text = .ok bytes ↔ Spells (hexBytes text) bytes := by
  have hread : readHex text =
      if (hexBytes text).length % 2 = 0 then readHexPairs (hexBytes text)
      else .error .oddLength := rfl
  rw [hread, ← readHexPairs_eq_ok_iff]
  split
  · exact Iff.rfl
  · next hodd =>
      rw [readHexPairs_eq_ok_iff]
      constructor
      · rintro ⟨⟩
      · intro hspells
        exact absurd ((exists_spells_iff _).1 ⟨bytes, hspells⟩).1 hodd

namespace Send

/-- With nothing to send there is nothing to open a device for. -/
theorem run_of_unprepared {s : Surroundings} {format : OutputFormat} {job : SendJob}
    {cause : Failure} (h : prepared s.files job = .error cause) :
    run s format job = ⟨[], .failed cause, none, s.device.transport⟩ := by
  unfold run
  rw [h]
  rfl

/-- A text is taken for a payload if, separators aside, it is made of pairs of
hexadecimal digits, where a plus sign counts for a zero in the first place of a
pair; and it is taken for what the pairs spell. Any other text is an error of
usage, and the device is neither opened nor written. -/
theorem payload_of_hex (text : String) :
    let digits := hexBytes text
    ((∃ bytes, readHex text = .ok bytes) ↔ digits.length % 2 = 0 ∧ IsPlaced digits) ∧
      (∀ bytes : Bytes, readHex text = .ok bytes → digits.length = 2 * bytes.length ∧
        ∀ i (h : i < bytes.length), ∃ a b hi lo, digits[2 * i]? = some a ∧
          digits[2 * i + 1]? = some b ∧ leadingValue? a = some hi ∧ hexValue? b = some lo ∧
          bytes[i].toNat = 16 * hi + lo) ∧
      ∀ fault : HexFault, readHex text = .error fault →
        (Failure.hex fault).code = .usage ∧
        ∀ (s : Surroundings) (format : OutputFormat) (line : LineChoice)
          (type : Option FrameType), run s format ⟨line, type, .hex text⟩ =
            ⟨[], .failed (.hex fault), none, s.device.transport⟩ := by
  intro digits
  refine ⟨?_, ?_, ?_⟩
  · simp only [readHex_eq_ok_iff]
    exact exists_spells_iff digits
  · intro bytes h
    have hspells := (readHex_eq_ok_iff text bytes).1 h
    refine ⟨hspells.length, fun i hi => ?_⟩
    obtain ⟨a, b, ha, hb, hvalue⟩ := hspells.value i hi
    obtain ⟨high, low, hhigh, hlow, heq⟩ := pairValue?_eq_some_iff.1 hvalue
    exact ⟨a, b, high, low, ha, hb, hhigh, hlow, heq⟩
  · intro fault h
    refine ⟨rfl, fun s format line type => run_of_unprepared ?_⟩
    rw [prepared, payload, h]
    rfl

/-- Of two texts, one is digits of both cases with separators between them, and the
other ends in the middle of a pair. -/
theorem payload_of_hex_with_separators :
    readHex "0D F0:aD 0b" = .ok [0x0D, 0xF0, 0xAD, 0x0B] ∧
      IsPlaced (hexBytes "0D F0:aD 0b") ∧ (hexBytes "0D F0:aD 0b").length = 8 ∧
      readHex "0D F" = .error .oddLength ∧
      ∀ (s : Surroundings) (format : OutputFormat) (line : LineChoice),
        run s format ⟨line, none, .hex "0D F"⟩ =
          ⟨[], .failed (.hex .oddLength), none, s.device.transport⟩ := by
  have hok : readHex "0D F0:aD 0b" = .ok [0x0D, 0xF0, 0xAD, 0x0B] := by
    rw [readHex]
    rfl
  have hodd : readHex "0D F" = .error .oddLength := rfl
  obtain ⟨haccepted, hvalue, -⟩ := payload_of_hex "0D F0:aD 0b"
  obtain ⟨-, -, hrefused⟩ := payload_of_hex "0D F"
  exact ⟨hok, (haccepted.1 ⟨_, hok⟩).2, (hvalue _ hok).1, hodd,
    fun s format line => (hrefused _ hodd).2 s format line none⟩

/-- A plus sign is no hexadecimal digit, and `+5` is sent all the same. -/
theorem plus_sign_is_sent :
    let s : Surroundings := {
      files := fun _ => .ok .terminal, device := ⟨[], .ofScript []⟩, input := [],
      outputFault := none, now := ⟨0, 0⟩, stamp := "", calledOff := false }
    let sent := run s .raw ⟨⟨"tty", 9600⟩, none, .hex "+5"⟩
    hexBytes "+5" = [0x2B, 0x35] ∧ hexValue? 0x2B = none ∧ readHex "+5" = .ok [0x05] ∧
      sent.conclusion = .exited .success ∧ sent.transport.accepted = [0x05] := by
  exact ⟨rfl, rfl, rfl, rfl, rfl⟩

end Send

end FramedSerial
