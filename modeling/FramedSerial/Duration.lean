/-!
# Durations, instants and their text

A span of time counts whole seconds in an unsigned 64-bit word, and a reading of the
monotonic clock counts them in a signed one. The difference is visible: the sum of a
reading and a long span may not be a reading any more, and `Instant.add?` says so.

A span prints in the largest unit of seconds, milliseconds, microseconds and nanoseconds
that has a nonzero whole part, with as many decimals as it needs and no trailing zeros.
-/

namespace FramedSerial

/-- A span of time: whole seconds and the nanoseconds beyond them. -/
structure Duration where
  seconds : UInt64
  nanos : Nat
  nanos_lt : nanos < 1000000000
deriving DecidableEq

namespace Duration

/-- A span of so many nanoseconds; whole seconds past 64 bits are cut off. -/
def ofNanos (n : Nat) : Duration :=
  ⟨UInt64.ofNat (n / 1000000000), n % 1000000000, Nat.mod_lt _ (by decide)⟩

/-- A span of whole milliseconds. -/
def ofMillis (v : UInt64) : Duration :=
  ⟨v / 1000, v.toNat % 1000 * 1000000, by omega⟩

/-- A span of whole seconds. -/
def ofSeconds (v : UInt64) : Duration :=
  ⟨v, 0, by decide⟩

/-- Drop the zeros a decimal fraction ends with. -/
def dropTrailingZeros (digits : List Char) : List Char :=
  (digits.reverse.dropWhile (· == '0')).reverse

/-- `fraction` parts of `10 ^ places`, as decimals after a point, or nothing if there are none. -/
def decimals (fraction places : Nat) : String :=
  if fraction = 0 then ""
  else
    let digits := (toString fraction).toList
    let padded := List.replicate (places - digits.length) '0' ++ digits
    "." ++ String.ofList (dropTrailingZeros padded)

/-- The text of a span, such as `1.5µs` or `60s`. -/
def text (d : Duration) : String :=
  if d.seconds ≠ 0 then toString d.seconds.toNat ++ decimals d.nanos 9 ++ "s"
  else if 1000000 ≤ d.nanos then
    toString (d.nanos / 1000000) ++ decimals (d.nanos % 1000000) 6 ++ "ms"
  else if 1000 ≤ d.nanos then
    toString (d.nanos / 1000) ++ decimals (d.nanos % 1000) 3 ++ "µs"
  else toString d.nanos ++ "ns"

end Duration

/-- A reading of the monotonic clock. -/
structure Instant where
  seconds : Int
  nanos : Nat
deriving DecidableEq

namespace Instant

/-- The greatest number of seconds a reading can hold. -/
def maxSeconds : Int := 9223372036854775807

/-- One reading is no later than another. -/
def le (s t : Instant) : Bool :=
  s.seconds < t.seconds || (s.seconds == t.seconds && s.nanos ≤ t.nanos)

/-- The reading a span after this one, if a reading can hold it. -/
def add? (t : Instant) (d : Duration) : Option Instant :=
  let nanos := t.nanos + d.nanos
  let seconds := t.seconds + (d.seconds.toNat : Int) + (nanos / 1000000000 : Nat)
  if seconds ≤ maxSeconds then some ⟨seconds, nanos % 1000000000⟩ else none

end Instant

end FramedSerial
