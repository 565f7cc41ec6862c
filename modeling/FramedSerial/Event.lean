import FramedSerial.Error
import FramedSerial.Snapshot

/-!
# Diagnostics

Everything that the library would tell an operator is a value of type `Event`, and an
operation that has something to tell returns it beside its result in a `Logged`. The
counters of a decoder or a queue can then be compared with the events, because both come
from the same run.
-/

namespace FramedSerial

/-- How urgent an event is. -/
inductive Level where
  | error
  | warn
  | info
  | debug
  | trace
deriving DecidableEq

/-- Something that happened. -/
inductive Event where
  /-- A chunk was staged; so many bytes are staged now. -/
  | chunkStaged (staged : Nat)
  /-- A chunk did not fit and everything staged was dropped with it. -/
  | stagingReset (cause : FrameError)
  /-- One byte was dropped because no frame can start at it. -/
  | byteDiscarded (cause : Corruption)
  /-- A stream ended with bytes of an incomplete frame. -/
  | streamCutShort (discarded : Nat)
  /-- A push drove so many bytes out of the queue. -/
  | bytesEvicted (evicted : Nat)
  /-- A frame goes to the reader as it is. -/
  | frameForwarded (type : UInt16) (size : Nat)
  /-- A state report was stored. -/
  | stateStored (snapshot : Snapshot)
  /-- A state report was too short to hold a snapshot. -/
  | stateTooShort (length : Nat)
  /-- A receiver was handed no bytes. -/
  | emptyReceive
  /-- A message went out. -/
  | transmitted (requested written : Nat)
  /-- The line reached its end after so many bytes. -/
  | lineClosed (total : Nat)
  /-- A link was set up. -/
  | linkCreated (stagingCapacity queueCapacity : Nat)
deriving DecidableEq

namespace Event

/-- How urgent an event is. -/
def level : Event → Level
  | .chunkStaged _ => .trace
  | .stagingReset _ => .error
  | .byteDiscarded _ => .warn
  | .streamCutShort _ => .debug
  | .bytesEvicted _ => .warn
  | .frameForwarded _ _ => .debug
  | .stateStored _ => .info
  | .stateTooShort _ => .error
  | .emptyReceive => .error
  | .transmitted _ _ => .debug
  | .lineClosed _ => .debug
  | .linkCreated _ _ => .debug

/-- The wording of an event. -/
def message : Event → String
  | .chunkStaged _ => "chunk staged"
  | .stagingReset _ => "receive buffer overflow, resetting"
  | .byteDiscarded (.badSignature _) =>
    "invalid packet signature, discarding byte to resynchronize"
  | .byteDiscarded (.oversized _ _) =>
    "announced frame exceeds staging capacity, discarding byte to resynchronize"
  | .streamCutShort _ => "stream ended mid-frame"
  | .bytesEvicted _ => "UART buffer overflow, dropping oldest data"
  | .frameForwarded _ _ => "unhandled packet type, forwarding to reader"
  | .stateStored _ => "state update packet received"
  | .stateTooShort _ => "state update packet payload too small"
  | .emptyReceive => "invalid receive parameters: empty chunk"
  | .transmitted _ _ => "transmitted to serial line"
  | .lineClosed _ => "serial stream closed"
  | .linkCreated _ _ => "bridge created"

/-- The named details of an event. -/
def fields : Event → List (String × String)
  | .chunkStaged staged => [("staged", toString staged)]
  | .stagingReset cause => [("error", cause.message)]
  | .byteDiscarded cause => [("error", cause.message)]
  | .streamCutShort discarded => [("discarded", toString discarded)]
  | .bytesEvicted evicted => [("evicted", toString evicted)]
  | .frameForwarded type size =>
    [("frame_type", toString type.toNat), ("size", toString size)]
  | .stateStored s =>
    [("root_state", toString s.rootState.toNat), ("version", toString s.version.toNat)]
  | .stateTooShort length => [("len", toString length)]
  | .emptyReceive => []
  | .transmitted requested written =>
    [("requested", toString requested), ("written", toString written)]
  | .lineClosed total => [("total", toString total)]
  | .linkCreated staging queue =>
    [("staging_capacity", toString staging), ("queue_capacity", toString queue)]

end Event

/-- A value and the events on the way to it, the earliest first. -/
structure Logged (α : Type) where
  value : α
  events : List Event

namespace Logged

variable {α β γ : Type}

/-- Nothing to tell. -/
protected def pure (a : α) : Logged α := ⟨a, []⟩

/-- One thing after another. -/
protected def bind (x : Logged α) (f : α → Logged β) : Logged β :=
  ⟨(f x.value).value, x.events ++ (f x.value).events⟩

instance : Monad Logged where
  pure := Logged.pure
  bind := Logged.bind

/-- Tell one event. -/
def tell (e : Event) : Logged Unit := ⟨(), [e]⟩

/-- Tell several events. -/
def tellAll (es : List Event) : Logged Unit := ⟨(), es⟩

@[simp] theorem value_pure (a : α) : (pure a : Logged α).value = a := rfl

@[simp] theorem events_pure (a : α) : (pure a : Logged α).events = [] := rfl

@[simp] theorem value_bind (x : Logged α) (f : α → Logged β) :
    (x >>= f).value = (f x.value).value := rfl

@[simp] theorem events_bind (x : Logged α) (f : α → Logged β) :
    (x >>= f).events = x.events ++ (f x.value).events := rfl

@[simp] theorem events_tell (e : Event) : (tell e).events = [e] := rfl

@[simp] theorem events_tellAll (es : List Event) : (tellAll es).events = es := rfl

end Logged

end FramedSerial
