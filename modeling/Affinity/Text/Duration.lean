/-!
Durations and their text.

A `Duration` counts nanoseconds. Its text uses the largest unit among seconds, milliseconds,
microseconds and nanoseconds in which the whole part is not zero (nanoseconds for zero), writes
the whole part in decimal and, if the remainder is not zero, a point and the remainder's digits
without trailing zeros: `0ns`, `250ms`, `10s`, `90061.001s`.
-/

namespace Affinity.Text

/-- A span of time in nanoseconds. -/
structure Duration where
  nanos : Nat
  deriving DecidableEq, Repr

namespace Duration

/-- A duration of whole milliseconds. -/
def ofMillis (ms : Nat) : Duration := ⟨ms * 1000000⟩

/-- Whole milliseconds of a duration, rounded down. -/
def toMillis (d : Duration) : Nat := d.nanos / 1000000

/-- Digits of `r` as a fraction of `unit` (a power of ten), without trailing zeros. -/
def fractionDigits (r unit : Nat) : String :=
  let width := (Nat.toDigits 10 unit).length - 1
  let ds := Nat.toDigits 10 r
  let padded := List.replicate (width - ds.length) '0' ++ ds
  String.ofList (padded.reverse.dropWhile (· = '0')).reverse

/-- The whole part, and the point and fraction if any. -/
def decimal (whole r unit : Nat) (suffix : String) : String :=
  if r = 0 then toString whole ++ suffix
  else toString whole ++ "." ++ fractionDigits r unit ++ suffix

/-- The text of a duration. -/
def render (d : Duration) : String :=
  let n := d.nanos
  if n ≥ 1000000000 then decimal (n / 1000000000) (n % 1000000000) 1000000000 "s"
  else if n ≥ 1000000 then decimal (n / 1000000) (n % 1000000) 1000000 "ms"
  else if n ≥ 1000 then decimal (n / 1000) (n % 1000) 1000 "µs"
  else toString n ++ "ns"

end Duration

end Affinity.Text
