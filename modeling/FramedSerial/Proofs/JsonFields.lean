import FramedSerial.Text.Json
import FramedSerial.Text.Numeral
import Mathlib.Data.List.Basic

/-!
# A line of JSON tells its fields apart

What is written for a character of a string is never the beginning of what is
written for another, and the quote that ends a string begins neither. Numbers
are digits and end where there is no digit. So a value can be cut off the front
of what follows it, and an object is its fields: two lines are equal only if all
names and values in them are.
-/

namespace FramedSerial

/-! ## Strings -/

/-- Read one character of a string, if the string is not over. -/
def readJsonChar : List Char → Option (Char × List Char)
  | '\\' :: 'u' :: '0' :: '0' :: high :: low :: rest =>
    (Numeral.digit? 16 high).bind fun hi =>
      (Numeral.digit? 16 low).map fun lo => (Char.ofNat (16 * hi + lo), rest)
  | '\\' :: 'n' :: rest => some ('\n', rest)
  | '\\' :: 'r' :: rest => some ('\r', rest)
  | '\\' :: 't' :: rest => some ('\t', rest)
  | '\\' :: 'b' :: rest => some ('\x08', rest)
  | '\\' :: 'f' :: rest => some ('\x0c', rest)
  | '\\' :: c :: rest => some (c, rest)
  | '"' :: _ => none
  | c :: rest => some (c, rest)
  | [] => none

theorem digit?_digitChar {n : Nat} (h : n < 16) :
    Numeral.digit? 16 (Nat.digitChar n) = some n := by
  have hall : ∀ n < 16, Numeral.digit? 16 (Nat.digitChar n) = some n := by decide
  exact hall n h

theorem readJsonChar_of_ne {c : Char} (hquote : c ≠ '"') (hslash : c ≠ '\\') (rest : List Char) :
    readJsonChar (c :: rest) = some (c, rest) := by
  unfold readJsonChar
  split <;> simp_all

theorem readJsonChar_controlEscape {c : Char} (h : c.toNat < 0x20) (rest : List Char) :
    readJsonChar (controlEscape c ++ rest) = some (c, rest) := by
  have hread : readJsonChar (controlEscape c ++ rest) =
      (Numeral.digit? 16 (Nat.digitChar (c.toNat / 16))).bind fun hi =>
        (Numeral.digit? 16 (Nat.digitChar (c.toNat % 16))).map fun lo =>
          (Char.ofNat (16 * hi + lo), rest) := rfl
  rw [hread, digit?_digitChar (by omega), digit?_digitChar (by omega), Option.bind_some,
    Option.map_some, Nat.div_add_mod, Char.ofNat_toNat]

/-- A character of a string is read as it was meant, whatever follows. -/
theorem readJsonChar_jsonChar (c : Char) (rest : List Char) :
    readJsonChar (jsonChar c ++ rest) = some (c, rest) := by
  unfold jsonChar
  split
  case h_8 hquote hslash _ _ _ _ _ =>
    split
    · next hcontrol => exact readJsonChar_controlEscape hcontrol rest
    · exact readJsonChar_of_ne hquote hslash rest
  all_goals rfl

theorem jsonChars_cancel (s : List Char) :
    ∀ {t r r' : List Char}, s.flatMap jsonChar ++ '"' :: r = t.flatMap jsonChar ++ '"' :: r' →
      s = t ∧ r = r' := by
  -- on the first string: the reader takes one character off both sides, or stops at both quotes
  induction s with
  | nil =>
      intro t r r' h
      cases t with
      | nil => exact ⟨rfl, List.tail_eq_of_cons_eq h⟩
      | cons d t =>
          rw [List.flatMap_cons, List.append_assoc] at h
          have hread := congrArg readJsonChar h
          rw [readJsonChar_jsonChar] at hread
          cases hread
  | cons c s ih =>
      intro t r r' h
      rw [List.flatMap_cons, List.append_assoc] at h
      have hread := congrArg readJsonChar h
      rw [readJsonChar_jsonChar] at hread
      cases t with
      | nil => cases hread
      | cons d t =>
          rw [List.flatMap_cons, List.append_assoc, readJsonChar_jsonChar, Option.some.injEq,
            Prod.mk.injEq] at hread
          obtain ⟨hs, hr⟩ := ih hread.2
          exact ⟨by rw [hread.1, hs], hr⟩

theorem toList_jsonText (s : String) :
    (jsonText s).toList = '"' :: (s.toList.flatMap jsonChar ++ ['"']) := by
  rw [jsonText, String.toList_ofList]
  rfl

theorem jsonText_cancel {s t : String} {r r' : List Char}
    (h : (jsonText s).toList ++ r = (jsonText t).toList ++ r') : s = t ∧ r = r' := by
  rw [toList_jsonText, toList_jsonText] at h
  simp only [List.cons_append, List.append_assoc, List.nil_append, List.cons.injEq,
    true_and] at h
  obtain ⟨hs, hr⟩ := jsonChars_cancel _ h
  exact ⟨String.toList_inj.1 hs, hr⟩

/-! ## Values -/

/-- What can follow a value: something that is no part of a number. -/
def Parted (r : List Char) : Prop := ∃ c rest, r = c :: rest ∧ c.isDigit = false

theorem digits_cancel {m n : Nat} {r r' : List Char} (hr : Parted r) (hr' : Parted r')
    (h : (toString m).toList ++ r = (toString n).toList ++ r') : m = n ∧ r = r' := by
  have hcut : ∀ {n : Nat} {r : List Char}, Parted r →
      ((toString n).toList ++ r).takeWhile Char.isDigit = Nat.toDigits 10 n := by
    rintro n _ ⟨c, rest, rfl, hc⟩
    rw [Nat.toString_eq_repr, Nat.toList_repr, List.takeWhile_append_of_pos
      (fun a ha => Nat.isDigit_of_mem_toDigits (by decide) (by decide) ha),
      List.takeWhile_cons_of_neg (by rw [hc]; decide), List.append_nil]
  have hdigits := congrArg (List.takeWhile Char.isDigit) h
  rw [hcut hr, hcut hr'] at hdigits
  have hvalue : m = n := by
    rw [← Nat.ofDigitChars_ten_toDigits (n := m), hdigits, Nat.ofDigitChars_ten_toDigits]
  subst hvalue
  exact ⟨rfl, List.append_cancel_left h⟩

/-- A number begins with a digit. -/
theorem digits_ne {c : Char} (hc : c.isDigit = false) (n : Nat) (r r' : List Char) :
    (toString n).toList ++ r ≠ c :: r' := by
  intro h
  rw [Nat.toString_eq_repr, Nat.toList_repr] at h
  obtain ⟨d, ds, hdigits⟩ := List.exists_cons_of_ne_nil (Nat.toDigits_ne_nil (n := n) (b := 10))
  have hd := Nat.isDigit_of_mem_toDigits (n := n) (by decide) (Nat.le_refl 10)
    (hdigits ▸ List.mem_cons_self)
  rw [hdigits, List.cons_append, List.cons.injEq] at h
  rw [h.1, hc] at hd
  cases hd

/-- A value is told from any other by its text and its end. -/
theorem render_cancel {v w : JsonScalar} {r r' : List Char} (hr : Parted r) (hr' : Parted r')
    (h : v.render.toList ++ r = w.render.toList ++ r') : v = w ∧ r = r' := by
  cases v with
  | null =>
      cases w with
      | null => exact ⟨rfl, List.append_cancel_left h⟩
      | number n => exact absurd h.symm (digits_ne rfl n _ _)
      | text t =>
          rw [JsonScalar.render, JsonScalar.render, toList_jsonText] at h
          cases h
  | number m =>
      cases w with
      | null => exact absurd h (digits_ne rfl m _ _)
      | number n =>
          obtain ⟨rfl, hrest⟩ := digits_cancel hr hr' h
          exact ⟨rfl, hrest⟩
      | text t =>
          rw [JsonScalar.render, JsonScalar.render, toList_jsonText] at h
          exact absurd h (digits_ne rfl m _ _)
  | text s =>
      cases w with
      | null =>
          rw [JsonScalar.render, JsonScalar.render, toList_jsonText] at h
          cases h
      | number n =>
          rw [JsonScalar.render, JsonScalar.render, toList_jsonText] at h
          exact absurd h.symm (digits_ne rfl n _ _)
      | text t =>
          obtain ⟨rfl, hrest⟩ := jsonText_cancel h
          exact ⟨rfl, hrest⟩

/-! ## Objects -/

/-- The characters of a field. -/
def jsonField (field : String × JsonScalar) : List Char :=
  (jsonText field.1).toList ++ ':' :: field.2.render.toList

/-- The characters of the fields after the first one, and of the end of the object. -/
def laterFields (fields : List (String × JsonScalar)) : List Char :=
  fields.flatMap (fun field => ',' :: jsonField field) ++ ['\x7d']

theorem parted_laterFields (fields : List (String × JsonScalar)) :
    Parted (laterFields fields) := by
  cases fields with
  | nil => exact ⟨'\x7d', [], rfl, rfl⟩
  | cons field fields => exact ⟨',', _, rfl, rfl⟩

theorem laterFields_cons (field : String × JsonScalar) (fields : List (String × JsonScalar)) :
    laterFields (field :: fields) = ',' :: (jsonField field ++ laterFields fields) := by
  rw [laterFields, List.flatMap_cons, List.cons_append, List.cons_append, List.append_assoc]
  rfl

theorem intercalate_fields (fields : List (String × JsonScalar)) :
    ∀ field : String × JsonScalar,
      [','].intercalate ((field :: fields).map jsonField) ++ ['\x7d'] =
        jsonField field ++ laterFields fields := by
  induction fields with
  | nil =>
      intro field
      rw [List.map_singleton, List.intercalate_singleton, laterFields, List.flatMap_nil,
        List.nil_append]
  | cons next fields ih =>
      intro field
      rw [List.map_cons, List.map_cons, List.intercalate_cons_cons, ← List.map_cons,
        List.append_assoc, ih, laterFields_cons, List.append_assoc, List.singleton_append]

theorem toList_jsonObject_cons (field : String × JsonScalar)
    (fields : List (String × JsonScalar)) :
    (jsonObject (field :: fields)).toList = '\x7b' :: (jsonField field ++ laterFields fields) := by
  have hfield : ∀ field : String × JsonScalar,
      (jsonText field.1 ++ ":" ++ field.2.render).toList = jsonField field := by
    intro field
    rw [String.toList_append, String.toList_append, List.append_assoc]
    rfl
  rw [jsonObject, String.toList_append, String.toList_append, String.toList_intercalate,
    List.map_map, ← intercalate_fields]
  exact congrArg (fun rows => '\x7b' :: ([','].intercalate rows ++ ['\x7d']))
    (List.map_congr_left fun field _ => hfield field)

theorem jsonField_cancel {f g : String × JsonScalar} {r r' : List Char} (hr : Parted r)
    (hr' : Parted r') (h : jsonField f ++ r = jsonField g ++ r') : f = g ∧ r = r' := by
  rw [jsonField, jsonField, List.append_assoc, List.append_assoc] at h
  obtain ⟨hname, hvalue⟩ := jsonText_cancel h
  rw [List.cons_append, List.cons_append, List.cons.injEq] at hvalue
  obtain ⟨hvalue, hrest⟩ := render_cancel hr hr' hvalue.2
  exact ⟨Prod.ext hname hvalue, hrest⟩

theorem laterFields_injective (fields : List (String × JsonScalar)) :
    ∀ {fields' : List (String × JsonScalar)}, laterFields fields = laterFields fields' →
      fields = fields' := by
  induction fields with
  | nil =>
      intro fields' h
      cases fields' with
      | nil => rfl
      | cons g fields' => cases h
  | cons f fields ih =>
      intro fields' h
      cases fields' with
      | nil => cases h
      | cons g fields' =>
          rw [laterFields_cons, laterFields_cons, List.cons.injEq] at h
          obtain ⟨rfl, hrest⟩ :=
            jsonField_cancel (parted_laterFields _) (parted_laterFields _) h.2
          rw [ih hrest]

/-- An object determines its fields, their order and their values. -/
theorem jsonObject_injective {fields fields' : List (String × JsonScalar)}
    (h : jsonObject fields = jsonObject fields') : fields = fields' := by
  have hchars := congrArg String.toList h
  cases fields with
  | nil =>
      cases fields' with
      | nil => rfl
      | cons g fields' =>
          rw [toList_jsonObject_cons, jsonField, toList_jsonText] at hchars
          cases hchars
  | cons f fields =>
      cases fields' with
      | nil =>
          rw [toList_jsonObject_cons, jsonField, toList_jsonText] at hchars
          cases hchars
      | cons g fields' =>
          rw [toList_jsonObject_cons, toList_jsonObject_cons, List.cons.injEq] at hchars
          obtain ⟨rfl, hrest⟩ :=
            jsonField_cancel (parted_laterFields _) (parted_laterFields _) hchars.2
          rw [laterFields_injective _ hrest]

end FramedSerial
