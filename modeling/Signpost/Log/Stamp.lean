import Signpost.Text.Basic
set_option autoImplicit false

/-!
# Time stamps

The moment that a record bears, as a date and a time of day without time zone.  A moment is given as
the number of seconds since the start of 1970.
-/

namespace Signpost.Log

open Text

/-- A day of the calendar. -/
structure Date where
  year : Nat
  month : Nat
  day : Nat
  deriving DecidableEq, Repr, Inhabited

/-- The days from 1 March of year zero to the start of 1970. -/
def daysTo1970 : Nat := 719468

/-- The date a number of days after the start of 1970.  Years are counted from March, so that the
day a leap year adds is the last one of its year; four hundred years have a fixed number of days. -/
def Date.ofDays (days : Nat) : Date :=
  let n := days + daysTo1970
  let inCycle := n % 146097
  let year := (inCycle - inCycle / 1460 + inCycle / 36524 - inCycle / 146096) / 365
  let inYear := inCycle - (365 * year + year / 4 - year / 100)
  let fromMarch := (5 * inYear + 2) / 153
  let month := if fromMarch < 10 then fromMarch + 3 else fromMarch - 9
  { year := year + n / 146097 * 400 + if month ≤ 2 then 1 else 0
    month
    day := inYear - (153 * fromMarch + 2) / 5 + 1 }

/-- A number in decimal form, padded with zeros to a width. -/
def padded (width n : Nat) : Text :=
  let digits := ofNat n
  List.replicate (width - digits.length) '0' ++ digits

/-- The stamp of a moment. -/
def stampOf (seconds : Nat) : Text :=
  let date := Date.ofDays (seconds / 86400)
  let time := seconds % 86400
  padded 4 date.year ++ '-' :: (padded 2 date.month ++ '-' :: (padded 2 date.day ++ ' ' ::
    (padded 2 (time / 3600) ++ ':' :: (padded 2 (time / 60 % 60) ++ ':' :: padded 2 (time % 60)))))

end Signpost.Log
