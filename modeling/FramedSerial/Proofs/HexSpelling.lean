import FramedSerial.Proofs.HexPayload

/-!
# Hexadecimal text and its other spellings

Bytes are written in one way, two small digits each, and read back from many:
every digit may be a capital, and separators may stand anywhere, also between
the two digits of a byte. The texts that arise so are all that is read as the
same bytes, but for those with a plus sign in them.

Digits are compared by their values. The values of the halves of some bytes are
the middle term: a text is a spelling of the bytes if its characters have these
values, separators aside, and it is read as the bytes if its own bytes have
them. That the two agree is a matter of single characters, of which those beyond
ASCII have neither.
-/

namespace FramedSerial

/-- A blank of ASCII or a colon. -/
def isSeparator (c : Char) : Bool :=
  c == ' ' || c == '\t' || c == '\n' || c == '\x0c' || c == '\r' || c == ':'

/-- A text spells digits: each in either case, and separators anywhere. -/
inductive Respells : List Char → List Char → Prop where
  | done : Respells [] []
  | digit {c d : Char} {digits text : List Char} (same : c = d ∨ c = d.toUpper)
      (more : Respells digits text) : Respells (d :: digits) (c :: text)
  | separator {c : Char} {digits text : List Char} (parts : isSeparator c = true)
      (more : Respells digits text) : Respells digits (c :: text)

theorem Respells.refl (digits : List Char) : Respells digits digits := by
  induction digits with
  | nil => exact .done
  | cons d digits ih => exact .digit (.inl rfl) ih

/-- The values of the two digits of a byte. -/
def halves (b : UInt8) : List Nat := [b.toNat / 16, b.toNat % 16]

theorem hexChars_eq (bs : Bytes) : hexChars bs = (bs.flatMap halves).map hexDigit := by
  rw [List.map_flatMap]
  rfl

theorem lt_of_mem_halves {bs : Bytes} : ∀ n ∈ bs.flatMap halves, n < 16 := by
  intro n hn
  obtain ⟨b, -, hb⟩ := List.mem_flatMap.1 hn
  have hlt := b.toNat_lt
  simp only [halves, List.mem_cons, List.not_mem_nil, or_false] at hb
  omega

/-! ## Characters and their bytes -/

theorem textBytes_eq (text : String) :
    textBytes text = text.toList.flatMap String.utf8EncodeChar := by
  have htext : text.toByteArray = text.toList.utf8Encode := by
    rw [← String.toByteArray_ofList, String.ofList_toList]
  rw [textBytes, htext, List.utf8Encode, List.toList_data_toByteArray]

theorem utf8EncodeChar_of_lt {c : Char} (h : c.toNat < 0x80) :
    String.utf8EncodeChar c = [UInt8.ofNat c.toNat] :=
  if_pos (Nat.le_of_lt_succ h)

theorem le_of_mem_utf8EncodeChar {c : Char} (h : 0x80 ≤ c.toNat) :
    ∀ b ∈ String.utf8EncodeChar c, 0x80 ≤ b := by
  intro b hb
  have hc : 0x80 ≤ c.val.toNat := h
  rw [UInt8.le_iff_toNat_le]
  simp only [String.utf8EncodeChar] at hb
  split at hb
  · omega
  · split at hb
    · simp only [List.mem_cons, List.not_mem_nil, or_false] at hb
      rcases hb with rfl | rfl <;> simp only [UInt8.toNat_ofNat', UInt8.reduceToNat] <;> omega
    · split at hb
      · simp only [List.mem_cons, List.not_mem_nil, or_false] at hb
        rcases hb with rfl | rfl | rfl <;>
          simp only [UInt8.toNat_ofNat', UInt8.reduceToNat] <;> omega
      · simp only [List.mem_cons, List.not_mem_nil, or_false] at hb
        rcases hb with rfl | rfl | rfl | rfl <;>
          simp only [UInt8.toNat_ofNat', UInt8.reduceToNat] <;> omega

/-- A property of the characters of ASCII, seen one by one. -/
theorem forall_ascii {P : Char → Prop} (h : ∀ k < 128, P (Char.ofNat k)) {c : Char}
    (hc : c.toNat < 0x80) : P c := by
  have hk := h c.toNat hc
  rwa [Char.ofNat_toNat] at hk

theorem isHexSeparator_of_lt {c : Char} (h : c.toNat < 0x80) :
    isHexSeparator (UInt8.ofNat c.toNat) = isSeparator c :=
  forall_ascii (P := fun c => isHexSeparator (UInt8.ofNat c.toNat) = isSeparator c)
    (by decide) h

/-- A digit of either case has the value of its small form, and no other character
has one. -/
theorem hexValue?_eq_some_iff {c : Char} {n : Nat} (h : c.toNat < 0x80) (hn : n < 16) :
    hexValue? (UInt8.ofNat c.toNat) = some n ↔ c = hexDigit n ∨ c = (hexDigit n).toUpper := by
  have hdigits : ∀ n < 16, hexValue? (UInt8.ofNat (hexDigit n).toNat) = some n ∧
      hexValue? (UInt8.ofNat (hexDigit n).toUpper.toNat) = some n := by decide
  have hvalues : ∀ k < 128, ∀ n ∈ hexValue? (UInt8.ofNat (Char.ofNat k).toNat),
      Char.ofNat k = hexDigit n ∨ Char.ofNat k = (hexDigit n).toUpper := by decide
  constructor
  · intro hvalue
    exact forall_ascii (P := fun c => ∀ n ∈ hexValue? (UInt8.ofNat c.toNat),
      c = hexDigit n ∨ c = (hexDigit n).toUpper) hvalues h n hvalue
  · rintro (rfl | rfl)
    · exact (hdigits n hn).1
    · exact (hdigits n hn).2

/-! ## Values -/

theorem hexDigit_lt {n : Nat} (hn : n < 16) :
    (hexDigit n).toNat < 0x80 ∧ (hexDigit n).toUpper.toNat < 0x80 := by
  have hall : ∀ n < 16, (hexDigit n).toNat < 0x80 ∧ (hexDigit n).toUpper.toNat < 0x80 := by
    decide
  exact hall n hn

theorem isSeparator_hexDigit {n : Nat} (hn : n < 16) :
    isSeparator (hexDigit n) = false ∧ isSeparator (hexDigit n).toUpper = false := by
  have hall : ∀ n < 16,
      isSeparator (hexDigit n) = false ∧ isSeparator (hexDigit n).toUpper = false := by
    decide
  exact hall n hn

theorem lt_of_isSeparator {c : Char} (h : isSeparator c = true) : c.toNat < 0x80 := by
  simp only [isSeparator, Bool.or_eq_true, beq_iff_eq] at h
  rcases h with ((((rfl | rfl) | rfl) | rfl) | rfl) | rfl <;> decide

/-- A separator is no digit in either case. -/
theorem respells_separator_iff {c : Char} {ns : List Nat} {text : List Char}
    (hns : ∀ n ∈ ns, n < 16) (h : isSeparator c = true) :
    Respells (ns.map hexDigit) (c :: text) ↔ Respells (ns.map hexDigit) text := by
  constructor
  · intro hspells
    generalize hdigits : ns.map hexDigit = digits at hspells ⊢
    cases hspells with
    | digit same more =>
        obtain ⟨n, ns', rfl, rfl, rfl⟩ := List.map_eq_cons_iff.1 hdigits
        obtain ⟨hsmall, hcapital⟩ := isSeparator_hexDigit (hns n List.mem_cons_self)
        rcases same with rfl | rfl
        · rw [hsmall] at h
          cases h
        · rw [hcapital] at h
          cases h
    | separator _ more => exact more
  · exact .separator h

theorem respells_cons_iff {c d : Char} {digits text : List Char} (h : isSeparator c = false) :
    Respells (d :: digits) (c :: text) ↔ (c = d ∨ c = d.toUpper) ∧ Respells digits text := by
  constructor
  · rintro (_ | ⟨same, more⟩ | ⟨parts, -⟩)
    · exact ⟨same, more⟩
    · rw [h] at parts
      cases parts
  · rintro ⟨same, more⟩
    exact .digit same more

theorem not_respells_nil {c : Char} {text : List Char} (h : isSeparator c = false) :
    ¬ Respells [] (c :: text) := by
  rintro (_ | _ | ⟨parts, -⟩)
  rw [h] at parts
  cases parts

/-- The values of the bytes of some characters that are no separators. -/
def bytesValues (text : List Char) : List (Option Nat) :=
  ((text.flatMap String.utf8EncodeChar).filter fun b => !isHexSeparator b).map hexValue?

theorem bytesValues_separator {c : Char} (h : isSeparator c = true) (text : List Char) :
    bytesValues (c :: text) = bytesValues text := by
  have hc := lt_of_isSeparator h
  rw [bytesValues, List.flatMap_cons, utf8EncodeChar_of_lt hc, List.singleton_append,
    List.filter_cons_of_neg (by rw [isHexSeparator_of_lt hc, h]; decide)]
  rfl

theorem bytesValues_cons {c : Char} (hc : c.toNat < 0x80) (h : isSeparator c = false)
    (text : List Char) :
    bytesValues (c :: text) = hexValue? (UInt8.ofNat c.toNat) :: bytesValues text := by
  rw [bytesValues, List.flatMap_cons, utf8EncodeChar_of_lt hc, List.singleton_append,
    List.filter_cons_of_pos (by rw [isHexSeparator_of_lt hc, h]; decide), List.map_cons]
  rfl

theorem exists_bytesValues {c : Char} (h : 0x80 ≤ c.toNat) (text : List Char) :
    ∃ values, bytesValues (c :: text) = none :: values := by
  obtain ⟨b, bs, hbytes⟩ := List.exists_cons_of_ne_nil (String.utf8EncodeChar_ne_nil (c := c))
  have hb : 0x80 ≤ b := le_of_mem_utf8EncodeChar h b (hbytes ▸ List.mem_cons_self)
  have hparts : isHexSeparator b = false := by
    have hne : ∀ s : UInt8, s < 0x80 → b ≠ s := by
      rintro s hs rfl
      exact absurd hb (UInt8.not_le.2 hs)
    simp [isHexSeparator, hne]
  rw [bytesValues, List.flatMap_cons, hbytes, List.cons_append,
    List.filter_cons_of_pos (by rw [hparts]; decide), List.map_cons, hexValue?_of_le hb]
  exact ⟨_, rfl⟩

/-- A text spells some digits if its bytes have their values, separators aside. -/
theorem respells_iff_bytesValues (text : List Char) :
    ∀ {ns : List Nat}, (∀ n ∈ ns, n < 16) →
      (Respells (ns.map hexDigit) text ↔ bytesValues text = ns.map some) := by
  induction text with
  | nil =>
      intro ns hns
      cases ns with
      | nil => exact iff_of_true .done rfl
      | cons n ns => exact iff_of_false nofun nofun
  | cons c text ih =>
      intro ns hns
      by_cases hparts : isSeparator c = true
      · rw [respells_separator_iff hns hparts, bytesValues_separator hparts, ih hns]
      · rw [Bool.not_eq_true] at hparts
        cases ns with
        | nil =>
            refine iff_of_false (not_respells_nil hparts) ?_
            intro hvalues
            rcases Nat.lt_or_ge c.toNat 0x80 with hascii | hbeyond
            · rw [bytesValues_cons hascii hparts] at hvalues
              cases hvalues
            · obtain ⟨values, hnone⟩ := exists_bytesValues hbeyond text
              rw [hnone] at hvalues
              cases hvalues
        | cons n ns =>
            obtain ⟨hn, hns⟩ := List.forall_mem_cons.1 hns
            obtain ⟨hsmall, hcapital⟩ := hexDigit_lt hn
            rw [List.map_cons, List.map_cons, respells_cons_iff hparts, ih hns]
            rcases Nat.lt_or_ge c.toNat 0x80 with hascii | hbeyond
            · rw [bytesValues_cons hascii hparts, List.cons.injEq, hexValue?_eq_some_iff hascii hn]
            · -- neither a digit nor the bytes of one
              obtain ⟨values, hnone⟩ := exists_bytesValues hbeyond text
              rw [hnone]
              refine iff_of_false ?_ nofun
              rintro ⟨rfl | rfl, -⟩ <;> omega

/-! ## Texts and the bytes they are read as -/

theorem ne_plus_of_hexValue? {b : UInt8} {n : Nat} (h : hexValue? b = some n) : b ≠ 0x2B := by
  rintro rfl
  cases h

/-- Without a plus sign, a pair of bytes has the value of a byte if the two have
those of its halves. -/
theorem pairValue?_eq_halves_iff {a b byte : UInt8} :
    pairValue? a b = some byte.toNat ∧ a ≠ 0x2B ↔
      hexValue? a = some (byte.toNat / 16) ∧ hexValue? b = some (byte.toNat % 16) := by
  rw [pairValue?_eq_some_iff]
  constructor
  · rintro ⟨⟨hi, lo, hhi, hlo, hsum⟩, hplus⟩
    rw [leadingValue?, if_neg hplus] at hhi
    have hlow := hexValue?_lt hlo
    have hhi' : hi = byte.toNat / 16 := by omega
    have hlo' : lo = byte.toNat % 16 := by omega
    rw [← hhi', ← hlo']
    exact ⟨hhi, hlo⟩
  · rintro ⟨hhi, hlo⟩
    have hplus := ne_plus_of_hexValue? hhi
    have hlead : leadingValue? a = some (byte.toNat / 16) := by
      rw [leadingValue?, if_neg hplus, hhi]
    exact ⟨⟨_, _, hlead, hlo, by omega⟩, hplus⟩

/-- Pairs without a plus sign spell bytes if they have the values of their halves. -/
theorem spells_iff_values {bytes : Bytes} :
    ∀ {digits : Bytes}, (Spells digits bytes ∧ 0x2B ∉ digits ↔
      digits.map hexValue? = (bytes.flatMap halves).map some) := by
  induction bytes with
  | nil =>
      intro digits
      constructor
      · rintro ⟨⟨⟩, -⟩
        rfl
      · intro hvalues
        rw [List.map_eq_nil_iff.1 hvalues]
        exact ⟨.nil, List.not_mem_nil⟩
  | cons byte bytes ih =>
      intro digits
      constructor
      · rintro ⟨hspells, hplus⟩
        cases hspells with
        | @pair a b _ digits _ value more =>
            simp only [List.mem_cons, not_or] at hplus
            obtain ⟨hhi, hlo⟩ := pairValue?_eq_halves_iff.1 ⟨value, Ne.symm hplus.1⟩
            simp only [List.map_cons, List.flatMap_cons, halves, List.cons_append,
              List.nil_append, hhi, hlo, ih.1 ⟨more, hplus.2.2⟩]
      · intro hvalues
        -- there are two values, so there are two bytes to a pair
        match digits, hvalues with
        | [a], hvalues => simp [halves] at hvalues
        | a :: b :: digits, hvalues =>
            simp only [List.map_cons, List.flatMap_cons, halves, List.cons_append,
              List.nil_append, List.cons.injEq] at hvalues
            obtain ⟨hhi, hlo, hrest⟩ := hvalues
            obtain ⟨hspells, hmore⟩ := ih.2 hrest
            obtain ⟨hvalue, hplus⟩ := pairValue?_eq_halves_iff.2 ⟨hhi, hlo⟩
            refine ⟨.pair hvalue hspells, ?_⟩
            simp only [List.mem_cons, not_or]
            exact ⟨hplus.symm, (ne_plus_of_hexValue? hlo).symm, hmore⟩

theorem plus_mem_hexBytes_iff (text : String) : 0x2B ∈ hexBytes text ↔ '+' ∈ text.toList := by
  rw [hexBytes, textBytes_eq, List.mem_filter, List.mem_flatMap]
  constructor
  · rintro ⟨⟨c, hc, hplus⟩, -⟩
    rcases Nat.lt_or_ge c.toNat 0x80 with hascii | hbeyond
    · rw [utf8EncodeChar_of_lt hascii, List.mem_singleton] at hplus
      obtain rfl : c = '+' := forall_ascii (P := fun c => 0x2B = UInt8.ofNat c.toNat → c = '+')
        (by decide) hascii hplus
      exact hc
    · exact absurd (le_of_mem_utf8EncodeChar hbeyond _ hplus) (by decide)
  · intro hplus
    exact ⟨⟨'+', hplus, by decide⟩, by decide⟩

theorem readHex_of_respells {text : String} {bytes : Bytes}
    (h : Respells (hexText bytes).toList text.toList) :
    readHex text = .ok bytes ∧ '+' ∉ text.toList := by
  rw [hexText, String.toList_ofList, hexChars_eq, respells_iff_bytesValues _ lt_of_mem_halves,
    bytesValues, ← textBytes_eq] at h
  obtain ⟨hspells, hplus⟩ := spells_iff_values.2 h
  exact ⟨(readHex_eq_ok_iff text bytes).2 hspells, mt (plus_mem_hexBytes_iff text).2 hplus⟩

theorem respells_of_readHex {text : String} {bytes : Bytes} (h : readHex text = .ok bytes)
    (hplus : '+' ∉ text.toList) : Respells (hexText bytes).toList text.toList := by
  rw [hexText, String.toList_ofList, hexChars_eq, respells_iff_bytesValues _ lt_of_mem_halves,
    bytesValues, ← textBytes_eq]
  exact spells_iff_values.1
    ⟨(readHex_eq_ok_iff text bytes).1 h, mt (plus_mem_hexBytes_iff text).1 hplus⟩

/-- What is printed for bytes is read as these bytes, and so is whatever it becomes
when digits are written as capitals and separators put anywhere. Of the texts
without a plus sign these are all that are read as the bytes. -/
theorem respells_hexText_iff (bytes : Bytes) (text : String) :
    Respells (hexText bytes).toList text.toList ↔
      readHex text = .ok bytes ∧ '+' ∉ text.toList :=
  ⟨readHex_of_respells, fun h => respells_of_readHex h.1 h.2⟩

example : readHex ":0\td F\n0:a: D 0b" = .ok [0x0D, 0xF0, 0xAD, 0x0B] := rfl

end FramedSerial
