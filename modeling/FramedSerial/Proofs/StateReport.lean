import FramedSerial.Proofs.DurationGrammar
import FramedSerial.Proofs.JsonFields

/-!
# A state in print

A state is printed from a view of the queue that holds it, in one of four forms
or as the one attribute that was asked for. Here each form is written down to
the letter, beside the two bytes that it shows, and printing is shown to give
nothing else. The table takes some work, because a table measures its cells: a
number takes a place for each digit, and no byte has more digits than the head
of its column has letters.

Whatever the form, the two bytes can be told from it.
-/

namespace FramedSerial

theorem textBytes_append (s t : String) : textBytes (s ++ t) = textBytes s ++ textBytes t := by
  rw [textBytes, String.toByteArray_append, ByteArray.data_append, Array.toList_append]
  rfl

/-! ## Measuring numbers -/

/-- A character that stands for itself takes a place, and is no part of what comes
before it. -/
theorem Sequel.place_of_plain {c : Char} (hne : c ≠ '\n') (hle : c.toNat ≤ 0xA0) :
    (of .plain).place c = (1, of .plain) := by
  have hkind : SequelKind.ofChar c = .plain := by
    rw [SequelKind.ofChar, if_neg (by simpa using hne), if_pos hle]
  simp [place, of, withoutPicture, hle, hkind]

/-- A sum to which each element adds one is the number of the elements. -/
theorem foldr_of_one {α σ : Type} {f : α → Int × σ → Int × σ} {s : σ} {as : List α}
    (h : ∀ a ∈ as, ∀ sum, f a (sum, s) = (sum + 1, s)) :
    as.foldr f (0, s) = ((as.length : Int), s) := by
  induction as with
  | nil => rfl
  | cons a as ih =>
      obtain ⟨ha, has⟩ := List.forall_mem_cons.1 h
      rw [List.foldr_cons, ih has, ha, List.length_cons, Int.natCast_succ]

theorem columnsOf_of_plain {s : String} (h : ∀ c ∈ s.toList, c ≠ '\n' ∧ c.toNat ≤ 0xA0) :
    columnsOf s = s.toList.length := by
  rw [columnsOf, foldr_of_one]
  · exact Int.toNat_natCast _
  · intro c hc sum
    obtain ⟨hne, hle⟩ := h c hc
    simp only [Sequel.place_of_plain hne hle]

theorem isDigit_of_mem_toString {n : Nat} {c : Char} (h : c ∈ (toString n).toList) :
    c.isDigit = true := by
  rw [Nat.toString_eq_repr, Nat.toList_repr] at h
  exact Nat.isDigit_of_mem_toDigits (by decide) (by decide) h

theorem toString_ne_nil (n : Nat) : (toString n).toList ≠ [] := by
  rw [Nat.toString_eq_repr, Nat.toList_repr]
  exact Nat.toDigits_ne_nil

theorem columnsOf_toString (n : Nat) : columnsOf (toString n) = (toString n).length := by
  refine columnsOf_of_plain fun c hc => ?_
  have hdigit := isDigit_of_mem_toString hc
  have hbounds := toNat_of_isDigit hdigit
  exact ⟨ne_of_isDigit hdigit rfl, by omega⟩

theorem length_toString_le (b : UInt8) : (toString b.toNat).length ≤ 3 := by
  have hlt := b.toNat_lt
  rw [← String.length_toList, Nat.toString_eq_repr, Nat.toList_repr,
    Nat.length_toDigits_le_iff (by decide) (by decide)]
  omega

/-- A number with the line feed behind it trimmed off. -/
theorem trimmed_render (a : Attribute) (s : Snapshot) :
    trimmed (a.render s) = toString (a.value s).toNat := by
  rw [trimmed, Attribute.render]
  generalize (a.value s).toNat = n
  have hhead : isBlank ((toString n).toList.head (toString_ne_nil n)) = false :=
    isBlank_of_isDigit (isDigit_of_mem_toString (List.head_mem _))
  have hlast : isBlank ((toString n).toList.getLast (toString_ne_nil n)) = false :=
    isBlank_of_isDigit (isDigit_of_mem_toString (List.getLast_mem _))
  have hfeed : ∀ c ∈ [] ++ ['\n'], isBlank c = true := List.forall_mem_singleton.2 rfl
  have htrim : trimBlanks ([] ++ (toString n).toList ++ ['\n']) = (toString n).toList :=
    trimBlanks_padded hfeed (toString_ne_nil n) hhead hlast
  rw [String.toList_append]
  exact (congrArg String.ofList htrim).trans (String.ofList_toList)

/-! ## Reading numbers back -/

/-- A number is told from what stands before and after it, if no digit does. -/
theorem number_cancel {lead r r' : String} {m n : Nat} (hr : Parted r.toList)
    (hr' : Parted r'.toList)
    (h : lead ++ (toString m ++ r) = lead ++ (toString n ++ r')) : m = n ∧ r = r' := by
  rw [← String.toList_inj] at h
  simp only [String.toList_append, List.append_cancel_left_eq] at h
  obtain ⟨hnumber, hrest⟩ := digits_cancel hr hr' h
  exact ⟨hnumber, String.toList_inj.1 hrest⟩

theorem Parted.append {s : String} (h : Parted s.toList) (t : String) :
    Parted (s ++ t).toList := by
  obtain ⟨c, cs, hs, hc⟩ := h
  exact ⟨c, cs ++ t.toList, by rw [String.toList_append, hs, List.cons_append], hc⟩

/-! ## Tables of two columns -/

namespace Table

/-- Two cells that need not be cut stand on one line. -/
theorem rowLines_pair {w w' : Nat} {cell cell' : String} (h : columnsOf cell ≤ maxWidth)
    (h' : columnsOf cell' ≤ maxWidth) :
    rowLines [w, w'] [cell, cell'] =
      ["│" ++ (padded w (some cell) ++ "┆" ++ padded w' (some cell')) ++ "│"] := by
  simp only [rowLines, List.map_cons, List.map_nil, cellLines, if_pos h, if_pos h']
  rfl

/-- The room behind a number, with the end of its row. -/
theorem parted_stretch (k : Nat) (t : String) :
    Parted (stretch ' ' k ++ (" │" ++ t)).toList := by
  have hend : Parted " │".toList := ⟨' ', _, rfl, rfl⟩
  rw [String.toList_append, stretch, String.toList_ofList]
  cases k with
  | zero => exact hend.append t
  | succ k => exact ⟨' ', _, rfl, rfl⟩

end Table

namespace Report

/-- A number at the left of a column of so many places. -/
def inColumn (width n : Nat) : String :=
  toString n ++ Table.stretch ' ' (width - (toString n).length)

/-- A state of these two bytes in print. -/
def stateText (stamp : String) (rootState version : UInt8) : OutputFormat → String
  | .json => "\x7b\"root_state\":" ++ toString rootState.toNat ++ ",\"version\":"
      ++ toString version.toNat ++ ",\"timestamp\":" ++ jsonText stamp ++ "\x7d" ++ "\n"
  | .table => String.intercalate "\n" [
      "┌────────────┬───────┐",
      "│ ATTRIBUTE  ┆ VALUE │",
      "╞════════════╪═══════╡",
      "│ root_state ┆ " ++ inColumn 5 rootState.toNat ++ " │",
      "├╌╌╌╌╌╌╌╌╌╌╌╌┼╌╌╌╌╌╌╌┤",
      "│ version    ┆ " ++ inColumn 5 version.toNat ++ " │",
      "└────────────┴───────┘"] ++ "\n"
  | .pretty => "root_state=" ++ toString rootState.toNat ++ " version="
      ++ toString version.toNat ++ "\n"
  | .raw => toString rootState.toNat ++ "\n" ++ (toString version.toNat ++ "\n")

theorem cellWidth_toString_le (b : UInt8) : Table.cellWidth (toString b.toNat) ≤ 3 := by
  rw [Table.cellWidth, columnsOf_toString]
  exact Nat.le_trans (Nat.min_le_left _ _) (length_toString_le b)

theorem columnsOf_toString_le (b : UInt8) : columnsOf (toString b.toNat) ≤ Table.maxWidth := by
  have hle := length_toString_le b
  rw [columnsOf_toString, Table.maxWidth]
  omega

/-- The head of a column is wider than the bytes in it. -/
theorem widths_state (rootState version : UInt8) :
    Table.widths ⟨["ATTRIBUTE", "VALUE"],
      [["root_state", toString rootState.toNat], ["version", toString version.toNat]]⟩ =
      [10, 5] := by
  have hroot := cellWidth_toString_le rootState
  have hversion := cellWidth_toString_le version
  show [max (max 9 10) 7, max (max 5 (Table.cellWidth (toString rootState.toNat)))
    (Table.cellWidth (toString version.toNat))] = _
  have hfirst : max 5 (Table.cellWidth (toString rootState.toNat)) = 5 :=
    Nat.max_eq_left (by omega)
  have hsecond : max 5 (Table.cellWidth (toString version.toNat)) = 5 :=
    Nat.max_eq_left (by omega)
  rw [hfirst, hsecond]
  rfl

/-- A row of the table. -/
theorem rowLines_state {name : String} (hname : columnsOf name ≤ Table.maxWidth) (b : UInt8) :
    Table.rowLines [10, 5] [name, toString b.toNat] =
      ["│" ++ Table.padded 10 (some name) ++ "┆ " ++ inColumn 5 b.toNat ++ " │"] := by
  have hpadded : Table.padded 5 (some (toString b.toNat)) =
      " " ++ inColumn 5 b.toNat ++ " " := by
    simp only [Table.padded, columnsOf_toString, inColumn, String.append_assoc]
  rw [Table.rowLines_pair hname (columnsOf_toString_le b), hpadded]
  have hleft : "┆ " = "┆" ++ " " := rfl
  have hright : " │" = " " ++ "│" := rfl
  simp only [hleft, hright, String.append_assoc]

theorem render_state (rootState version : UInt8) :
    Table.render ⟨["ATTRIBUTE", "VALUE"],
      [["root_state", toString rootState.toNat], ["version", toString version.toNat]]⟩ =
      String.intercalate "\n" [
        "┌────────────┬───────┐",
        "│ ATTRIBUTE  ┆ VALUE │",
        "╞════════════╪═══════╡",
        "│ root_state ┆ " ++ inColumn 5 rootState.toNat ++ " │",
        "├╌╌╌╌╌╌╌╌╌╌╌╌┼╌╌╌╌╌╌╌┤",
        "│ version    ┆ " ++ inColumn 5 version.toNat ++ " │",
        "└────────────┴───────┘"] := by
  have hroot := rowLines_state (show columnsOf "root_state" ≤ Table.maxWidth by decide) rootState
  have hversion := rowLines_state (show columnsOf "version" ≤ Table.maxWidth by decide) version
  rw [Table.render, widths_state]
  simp only [List.map_cons, List.map_nil, List.intersperse, hroot, hversion]
  rfl

theorem jsonObject_state (stamp : String) (rootState version : UInt8) :
    jsonObject [("root_state", .number rootState.toNat), ("version", .number version.toNat),
      ("timestamp", .text stamp)] =
      "\x7b\"root_state\":" ++ toString rootState.toNat ++ ",\"version\":"
        ++ toString version.toNat ++ ",\"timestamp\":" ++ jsonText stamp ++ "\x7d" := by
  have hfields : jsonObject [("root_state", .number rootState.toNat),
      ("version", .number version.toNat), ("timestamp", .text stamp)] =
      "\x7b" ++ (jsonText "root_state" ++ ":" ++ toString rootState.toNat ++ ","
        ++ (jsonText "version" ++ ":" ++ toString version.toNat) ++ ","
        ++ (jsonText "timestamp" ++ ":" ++ jsonText stamp)) ++ "\x7d" := rfl
  have hroot : "\x7b\"root_state\":" = "\x7b" ++ jsonText "root_state" ++ ":" := rfl
  have hversion : ",\"version\":" = "," ++ jsonText "version" ++ ":" := rfl
  have hstamp : ",\"timestamp\":" = "," ++ jsonText "timestamp" ++ ":" := rfl
  rw [hfields, hroot, hversion, hstamp]
  simp only [String.append_assoc]

theorem status_table (stamp : String) (view : StatusView) :
    status .table stamp view = [.line (Table.render ⟨["ATTRIBUTE", "VALUE"],
      [["root_state", toString view.rootState.toNat],
        ["version", toString view.version.toNat]]⟩)] := by
  simp only [status, Attribute.all, List.map_cons, List.map_nil, StatusView.render,
    trimmed_render, Attribute.name, Attribute.value, StatusView.rootState, StatusView.version]

theorem status_raw (stamp : String) (view : StatusView) :
    status .raw stamp view = [.text (view.render .rootState), .text (view.render .version)] := rfl

theorem content_line (s : String) :
    [Output.line s].flatMap Output.content = textBytes (s ++ "\n") := by
  rw [List.flatMap_singleton, Output.line, Output.content]

/-- Whatever the format, a state is printed as its two bytes, and nothing else is. -/
theorem content_status (format : OutputFormat) (stamp : String) (view : StatusView) :
    (status format stamp view).flatMap Output.content =
      textBytes (stateText stamp view.rootState view.version format) := by
  cases format with
  | json =>
      refine (content_line _).trans ?_
      rw [jsonObject_state]
      rfl
  | table =>
      rw [status_table, content_line, render_state]
      rfl
  | pretty => exact content_line _
  | raw =>
      rw [status_raw, List.flatMap_cons, List.flatMap_singleton, Output.content, Output.content,
        ← textBytes_append]
      rfl

/-! ## Reading a state back -/

/-- In every format the root state comes first and then the version, and neither
stands next to another digit. -/
theorem exists_stateText (format : OutputFormat) :
    ∃ (lead : String) (between : UInt8 → String), ∀ (stamp : String) (rootState version : UInt8),
      ∃ after : String, Parted after.toList ∧ (∀ t, Parted (between rootState ++ t).toList) ∧
        stateText stamp rootState version format = lead ++ (toString rootState.toNat ++
          (between rootState ++ (toString version.toNat ++ after))) := by
  cases format with
  | json =>
      have hversion : Parted ",\"version\":".toList := ⟨_, _, rfl, rfl⟩
      have hstamp : Parted ",\"timestamp\":".toList := ⟨_, _, rfl, rfl⟩
      refine ⟨"\x7b\"root_state\":", fun _ => ",\"version\":", fun stamp rootState version =>
        ⟨",\"timestamp\":" ++ (jsonText stamp ++ ("\x7d" ++ "\n")), hstamp.append _,
          hversion.append, ?_⟩⟩
      show "\x7b\"root_state\":" ++ _ ++ ",\"version\":" ++ _ ++ ",\"timestamp\":" ++ _ ++ _ ++ _ =
        _
      simp only [String.append_assoc]
  | table =>
      have hlines : ∀ a b c d e f g : String, String.intercalate "\n" [a, b, c, d, e, f, g] =
          a ++ "\n" ++ b ++ "\n" ++ c ++ "\n" ++ d ++ "\n" ++ e ++ "\n" ++ f ++ "\n" ++ g :=
        fun _ _ _ _ _ _ _ => rfl
      refine ⟨"┌────────────┬───────┐" ++ "\n" ++ "│ ATTRIBUTE  ┆ VALUE │" ++ "\n"
          ++ "╞════════════╪═══════╡" ++ "\n" ++ "│ root_state ┆ ",
        fun rootState => Table.stretch ' ' (5 - (toString rootState.toNat).length) ++ (" │"
          ++ ("\n" ++ "├╌╌╌╌╌╌╌╌╌╌╌╌┼╌╌╌╌╌╌╌┤" ++ "\n" ++ "│ version    ┆ ")),
        fun _ rootState version =>
          ⟨Table.stretch ' ' (5 - (toString version.toNat).length) ++ (" │"
            ++ ("\n" ++ "└────────────┴───────┘" ++ "\n")), Table.parted_stretch _ _,
            (Table.parted_stretch _ _).append, ?_⟩⟩
      show String.intercalate "\n" [_, _, _, _, _, _, _] ++ "\n" = _
      rw [hlines]
      simp only [inColumn, String.append_assoc]
  | pretty =>
      have hversion : Parted " version=".toList := ⟨_, _, rfl, rfl⟩
      refine ⟨"root_state=", fun _ => " version=", fun _ rootState version =>
        ⟨"\n", ⟨_, _, rfl, rfl⟩, hversion.append, ?_⟩⟩
      show "root_state=" ++ _ ++ " version=" ++ _ ++ "\n" = _
      simp only [String.append_assoc]
  | raw =>
      have hline : Parted "\n".toList := ⟨_, _, rfl, rfl⟩
      refine ⟨"", fun _ => "\n", fun _ rootState version => ⟨"\n", hline, hline.append, ?_⟩⟩
      show toString rootState.toNat ++ "\n" ++ (_ ++ "\n") = _
      rw [String.empty_append, String.append_assoc]

/-- Whatever the format, a state in print tells both bytes. -/
theorem stateText_injective {format : OutputFormat} {stamp stamp' : String}
    {rootState rootState' version version' : UInt8}
    (h : stateText stamp rootState version format =
      stateText stamp' rootState' version' format) :
    rootState = rootState' ∧ version = version' := by
  obtain ⟨lead, between, hshape⟩ := exists_stateText format
  obtain ⟨after, hafter, hbetween, htext⟩ := hshape stamp rootState version
  obtain ⟨after', hafter', hbetween', htext'⟩ := hshape stamp' rootState' version'
  rw [htext, htext'] at h
  obtain ⟨hroot, hrest⟩ := number_cancel (hbetween _) (hbetween' _) h
  obtain rfl := UInt8.toNat_inj.1 hroot
  exact ⟨rfl, UInt8.toNat_inj.1 (number_cancel hafter hafter' hrest).1⟩

end Report

end FramedSerial
