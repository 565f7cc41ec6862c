import FramedSerial.Error

/-!
# A pair of connected sockets

Two ends, each with the bytes that wait for it. Neither end waits: a read with nothing there
fails unless the other end is closed, which is the end of the stream. Closing an end that has
unread bytes breaks the connection, and the other end learns of it on its next empty read.
-/

namespace FramedSerial

/-- One end of a pair. -/
structure Socket where
  inbox : Bytes
  isOpen : Bool
  /-- The other end closed on bytes it had not read. -/
  broken : Bool

/-- Two connected ends, `false` the first and `true` the second. -/
structure SocketPair where
  first : Socket
  second : Socket

namespace SocketPair

/-- The name by which a stream over a socket goes. -/
def transportName : String := "unix-socket"

/-- How such a stream describes itself. -/
def description : String := "SerialStream \x7b type: \"" ++ transportName ++ "\" \x7d"

/-- A new pair. -/
def fresh : SocketPair := ⟨⟨[], true, false⟩, ⟨[], true, false⟩⟩

/-- One end. -/
def socket (p : SocketPair) (end₂ : Bool) : Socket := if end₂ then p.second else p.first

/-- The pair with another state of one end. -/
def withSocket (p : SocketPair) (end₂ : Bool) (s : Socket) : SocketPair :=
  if end₂ then { p with second := s } else { p with first := s }

/-- Write bytes at one end. -/
def write (p : SocketPair) (end₂ : Bool) (data : Bytes) : Except IoError Nat × SocketPair :=
  let peer := p.socket (!end₂)
  if peer.isOpen then
    (.ok data.length, p.withSocket (!end₂) { peer with inbox := peer.inbox ++ data })
  else (.error (.system Errno.brokenPipe), p)

/-- Read up to `n` bytes at one end. -/
def read (p : SocketPair) (end₂ : Bool) (n : Nat) : Except IoError Bytes × SocketPair :=
  let s := p.socket end₂
  if s.inbox ≠ [] then
    (.ok (s.inbox.take n), p.withSocket end₂ { s with inbox := s.inbox.drop n })
  else if s.broken then
    (.error (.system Errno.connectionReset), p.withSocket end₂ { s with broken := false })
  else if (p.socket (!end₂)).isOpen then (.error (.system Errno.unavailable), p)
  else (.ok [], p)

/-- Close one end. -/
def close (p : SocketPair) (end₂ : Bool) : SocketPair :=
  let s := p.socket end₂
  let peer := p.socket (!end₂)
  (p.withSocket end₂ { s with isOpen := false, inbox := [] }).withSocket (!end₂)
    { peer with broken := peer.broken || s.inbox ≠ [] }

end SocketPair

end FramedSerial
