import Barrage.Calendar
import Barrage.Text.Decimal

/-! Points in time, in UTC, to the nanosecond.
A leap second is the second 59 of its minute with a thousand million nanoseconds or more, so the
order of instants is that of seconds and then of nanoseconds. -/

namespace Barrage

structure Instant where
  /-- Seconds since 1970-01-01T00:00:00Z. -/
  seconds : Int
  nanos : Nat
  deriving DecidableEq, Repr, Inhabited

namespace Instant

def ofNanos (n : Int) : Instant := ⟨n.fdiv 1000000000, (n.fmod 1000000000).toNat⟩

def le (a b : Instant) : Bool :=
  a.seconds < b.seconds || (a.seconds = b.seconds && a.nanos ≤ b.nanos)

def date (t : Instant) : Date := Date.ofDays (t.seconds.fdiv 86400)

def secondOfDay (t : Instant) : Nat := (t.seconds.fmod 86400).toNat

def hour (t : Instant) : Nat := t.secondOfDay / 3600

def minute (t : Instant) : Nat := t.secondOfDay / 60 % 60

def second (t : Instant) : Nat := t.secondOfDay % 60 + t.nanos / 1000000000

def fraction (t : Instant) : Nat := t.nanos % 1000000000

def yearText (year : Int) : List Char :=
  if 0 ≤ year ∧ year ≤ 9999 then Decimal.padded 4 year.toNat
  else (if year < 0 then '-' else '+') :: Decimal.padded 4 year.natAbs

def dateText (separator : List Char) (t : Instant) : List Char :=
  yearText t.date.year ++ separator ++ Decimal.padded 2 t.date.month ++ separator ++
    Decimal.padded 2 t.date.day

def clockText (separator : List Char) (t : Instant) : List Char :=
  Decimal.padded 2 t.hour ++ separator ++ Decimal.padded 2 t.minute ++ separator ++
    Decimal.padded 2 t.second

/-- A point and three, six or nine digits, the fewest that lose nothing; nothing for a whole second. -/
def fractionText (nanos : Nat) : List Char :=
  if nanos = 0 then []
  else if nanos % 1000000 = 0 then '.' :: Decimal.padded 3 (nanos / 1000000)
  else if nanos % 1000 = 0 then '.' :: Decimal.padded 6 (nanos / 1000)
  else '.' :: Decimal.padded 9 nanos

def text (t : Instant) : List Char :=
  dateText ['-'] t ++ 'T' :: clockText [':'] t ++ fractionText t.fraction ++ ['Z']

def runId (t : Instant) : String := String.ofList (dateText [] t ++ clockText [] t)

def stamp (t : Instant) : List Char := dateText [] t ++ '-' :: clockText [] t

end Instant
end Barrage
