/-!
# Clocks

A clock tells seconds since some fixed moment, with a fraction, and the date and time of day. The
timer's count and the ticks since midnight are read off it in floating point and cut to whole
numbers; what is not a number or lies below zero counts as zero.
-/

namespace RealMode

/-- A date of the Gregorian calendar, extended to all years, and a time of day. -/
structure Moment where
  year : Int := 2000
  month : Nat := 1
  day : Nat := 1
  hour : Nat := 0
  minute : Nat := 0
  second : Nat := 0
  nanosecond : Nat := 0
deriving DecidableEq, Inhabited

namespace Moment

/-- Days before the month, in a year that begins in March. -/
def daysBeforeMonth (month : Nat) : Nat := (153 * ((month + 9) % 12) + 2) / 5

/-- Days since the first of March of the year zero. -/
def dayNumber (m : Moment) : Int :=
  let year := if m.month ≤ 2 then m.year - 1 else m.year
  365 * year + year / 4 - year / 100 + year / 400 + daysBeforeMonth m.month + (m.day - 1 : Int)

/-- Days since Sunday. -/
def weekday (m : Moment) : Nat := ((m.dayNumber + 3) % 7).toNat

/-- Ticks of the timer interrupt since midnight. -/
def ticks (m : Moment) : UInt32 :=
  let seconds := m.hour.toFloat * 3600.0 + m.minute.toFloat * 60.0 + m.second.toFloat
    + m.nanosecond.toFloat / 1000000000.0
  (seconds * 18.2065).toUInt32

end Moment

structure Clock where
  seconds : Float := 0
  now : Moment := {}

namespace Clock

/-- What is left of a number when its whole part is taken away. -/
def fraction (x : Float) : Float := x - (if x < 0 then x.ceil else x.floor)

/-- Counts of the timer in a second: a third of the colour burst frequency. -/
def timerFrequency : Float := 3579545.0 / 3.0

/-- The timer's count. It falls through each second. -/
def timerCount (c : Clock) : UInt16 :=
  (timerFrequency * (1.0 - fraction c.seconds)).toUInt32.toUInt16

end Clock

end RealMode
