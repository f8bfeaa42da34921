import VirtualTables.Calendar.Date
import VirtualTables.Text.Ascii

/-!
Instants of universal time to the nanosecond, from the year -262143 to the year 262142.

A leap second is the second 60 of a minute: its instant keeps the second 59 and counts its
nanoseconds on from 1000000000.
-/

namespace VirtualTables

structure Instant where
  /-- Whole seconds since the beginning of 1970. -/
  seconds : Int
  /-- Nanoseconds within the second; from 1000000000 on they are those of a leap second. -/
  nanos : Nat
  inYears : -8334601228800 ≤ seconds ∧ seconds < 8210266876800
  /-- Only the last second of a minute is followed by a leap second. -/
  nanos_lt : nanos < 1000000000 ∨ (nanos < 2000000000 ∧ seconds % 60 = 59)
deriving DecidableEq

namespace Instant

def ofUnix? (seconds : Int) (nanos : Nat) : Option Instant :=
  if inYears : -8334601228800 ≤ seconds ∧ seconds < 8210266876800 then
    if nanos_lt : nanos < 1000000000 ∨ (nanos < 2000000000 ∧ seconds % 60 = 59) then
      some ⟨seconds, nanos, inYears, nanos_lt⟩
    else none
  else none

def ofMillis? (millis : Int) : Option Instant :=
  ofUnix? (millis / 1000) (millis % 1000 * 1000000).toNat

/-- Whole milliseconds since 1970, rounded down. -/
def millis (instant : Instant) : Int :=
  instant.seconds * 1000 + instant.nanos / 1000000

def date (instant : Instant) : Date :=
  Date.ofDays (instant.seconds / 86400)

/-- Hour, minute and second; the second is 60 in a leap second. -/
def clock (instant : Instant) : Nat × Nat × Nat :=
  let second := (instant.seconds % 86400).toNat
  (second / 3600, second / 60 % 60, second % 60 + instant.nanos / 1000000000)

/-- A year of at least four digits, with its sign outside the years 0 to 9999. -/
def yearText (year : Int) : List Char :=
  if 0 ≤ year ∧ year ≤ 9999 then Text.paddedNat 4 year.toNat
  else (if year < 0 then '-' else '+') :: Text.paddedNat 4 year.natAbs

def text (separator mark : Char) (instant : Instant) : List Char :=
  let date := instant.date
  let (hour, minute, second) := instant.clock
  yearText date.year ++ separator :: Text.paddedNat 2 date.month ++
    separator :: Text.paddedNat 2 date.day ++
    mark :: Text.paddedNat 2 hour ++ ':' :: Text.paddedNat 2 minute ++
    ':' :: Text.paddedNat 2 second

/-- The nanoseconds within the second, also of a leap second. -/
def fraction (instant : Instant) : Nat :=
  instant.nanos % 1000000000

def millisText (instant : Instant) : String :=
  String.ofList (instant.text '/' ' ' ++ '.' :: Text.paddedNat 3 (instant.fraction / 1000000))

def nanosText (instant : Instant) : String :=
  String.ofList (instant.text '/' ' ' ++ '.' :: Text.paddedNat 9 instant.fraction)

/-- The fraction of a second in the fewest of zero, three, six or nine digits. -/
def fractionText (instant : Instant) : List Char :=
  let nanos := instant.fraction
  if nanos = 0 then []
  else if nanos % 1000000 = 0 then '.' :: Text.paddedNat 3 (nanos / 1000000)
  else if nanos % 1000 = 0 then '.' :: Text.paddedNat 6 (nanos / 1000)
  else '.' :: Text.paddedNat 9 nanos

/-- The text with the letters `T` and `Z`, which sorts within four-digit years. -/
def isoText (instant : Instant) : String :=
  String.ofList (instant.text '-' 'T' ++ instant.fractionText ++ ['Z'])

end Instant

end VirtualTables
