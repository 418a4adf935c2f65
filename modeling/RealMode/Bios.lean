import RealMode.Clock
import RealMode.Fault
import RealMode.Registers

/-!
# Clock services

Interrupt 1A tells the time: ticks since midnight, the time of day and the date. Time and date are
in packed decimal digits.
-/

namespace RealMode.Bios

def clockVector : UInt8 := 0x1a

/-- Two decimal digits in one byte. -/
def packed (n : Nat) : UInt8 := UInt8.ofNat (n / 10 * 16 + n % 10)

def ticks (now : Moment) (r : Registers) : Registers :=
  { r with cx := highWord now.ticks, dx := lowWord now.ticks }.withAl 0

/-- There is no daylight saving. -/
def timeOfDay (now : Moment) (r : Registers) : Registers :=
  { r with
    cx := wordOfBytes (packed now.minute) (packed now.hour)
    dx := wordOfBytes 0 (packed now.second) }.withCarry false

/-- Years outside 0 to 9999 show as the nearest of them. -/
def date (now : Moment) (r : Registers) : Registers :=
  let year := min now.year.toNat 9999
  { r with
    cx := wordOfBytes (packed (year % 100)) (packed (year / 100))
    dx := wordOfBytes (packed now.day) (packed now.month) }.withCarry false

/-- The function is in AH. -/
def serve (now : Moment) (r : Registers) : Except Fault Registers :=
  match r.ah.toNat with
  | 0x00 => .ok (ticks now r)
  | 0x02 => .ok (timeOfDay now r)
  | 0x04 => .ok (date now r)
  | _ => .error (.unsupportedBiosFunction clockVector r.ah)

end RealMode.Bios
