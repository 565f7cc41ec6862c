import FramedSerial.LittleEndian

/-!
# The state snapshot and its attributes

The peer reports its state as two bytes: the root state and the version of the report.
Both are always stored together, so a snapshot never mixes two reports. Each is also
published as a named attribute whose text is the decimal number and a line feed.
-/

namespace FramedSerial

/-- The latest state report of the peer. -/
structure Snapshot where
  rootState : UInt8
  version : UInt8
deriving DecidableEq

namespace Snapshot

/-- What is known before any report arrives. -/
def initial : Snapshot := ⟨0, 0⟩

/-- The fewest bytes a report can have. -/
def minPayload : Nat := 2

/-- The report a payload holds: its first two bytes. Anything after them is ignored. -/
def ofPayload? : Bytes → Option Snapshot
  | rootState :: version :: _ => some ⟨rootState, version⟩
  | _ => none

theorem ofPayload?_eq_none_iff (p : Bytes) : ofPayload? p = none ↔ p.length < minPayload := by
  match p with
  | [] => simp [ofPayload?, minPayload]
  | [_] => simp [ofPayload?, minPayload]
  | _ :: _ :: _ => simp [ofPayload?, minPayload]

end Snapshot

/-- A published part of the snapshot. -/
inductive Attribute where
  | rootState
  | version
deriving DecidableEq

namespace Attribute

/-- Every attribute, in the order of publication. -/
def all : List Attribute := [.rootState, .version]

/-- The published name. -/
def name : Attribute → String
  | .rootState => "root_state"
  | .version => "version"

/-- The attribute of this name. -/
def ofName? (s : String) : Option Attribute :=
  all.find? fun a => a.name == s

/-- The attribute's part of a snapshot. -/
def value (a : Attribute) (s : Snapshot) : UInt8 :=
  match a with
  | .rootState => s.rootState
  | .version => s.version

/-- The text published for an attribute. -/
def render (a : Attribute) (s : Snapshot) : String :=
  toString (a.value s).toNat ++ "\n"

end Attribute

end FramedSerial
