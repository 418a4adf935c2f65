import RealMode.Fault

/-!
# The interval timer

Three channels that show a free-running count. The count is given from outside, at the moment a
channel is read. A channel shows one half of it, or the low and the high half in turn; a latched
channel keeps the count that its first read after the command saw.
-/

namespace RealMode

namespace Timer

inductive AccessMode where
  | latch
  | lowByte
  | highByte
  | lowThenHigh
deriving DecidableEq, Inhabited

def AccessMode.ofCode : Nat → AccessMode
  | 0 => latch
  | 1 => lowByte
  | 2 => highByte
  | _ => lowThenHigh

/-- Modes 6 and 7 are other names of 2 and 3. -/
def operatingMode (code : Nat) : Nat := if 5 < code then code - 4 else code

/-- At first a square wave that shows the low half and then the high half. -/
structure Channel where
  access : AccessMode := .lowThenHigh
  operating : Nat := 3
  /-- How many halves have been shown in turn, from zero again after the largest double word. -/
  sequence : UInt32 := 0
  latched : Option UInt16 := none
deriving DecidableEq, Inhabited

/-- The half that comes next. -/
def Channel.half (c : Channel) (count : UInt16) : UInt8 :=
  if c.sequence % 2 = 0 then lowByte count else highByte count

/-- The byte that a read shows, and the channel after it. -/
def Channel.read (c : Channel) (count : UInt16) : UInt8 × Channel :=
  match c.access with
  | .lowByte => (RealMode.lowByte count, c)
  | .highByte => (RealMode.highByte count, c)
  | .lowThenHigh => (c.half count, { c with sequence := c.sequence + 1 })
  | .latch =>
    let held := c.latched.getD count
    (c.half held, { c with sequence := c.sequence + 1, latched := some held })

end Timer

open Timer in
structure Timer where
  channel0 : Channel := {}
  channel1 : Channel := {}
  channel2 : Channel := {}
deriving DecidableEq, Inhabited

namespace Timer

/-- The port of channel 0; channels 1 and 2 follow it. -/
def firstPort : UInt16 := 0x40

def controlPort : UInt16 := 0x43

def channel? (t : Timer) : Nat → Option Channel
  | 0 => some t.channel0
  | 1 => some t.channel1
  | 2 => some t.channel2
  | _ => none

def withChannel (t : Timer) (index : Nat) (c : Channel) : Timer :=
  match index with
  | 0 => { t with channel0 := c }
  | 1 => { t with channel1 := c }
  | 2 => { t with channel2 := c }
  | _ => t

def read (t : Timer) (count port : UInt16) : Except Fault (UInt8 × Timer) :=
  let index := port.toNat - firstPort.toNat
  if port < firstPort then .error (.invalidTimerAccess port .unreadable)
  else
    match t.channel? index with
    | none => .error (.invalidTimerAccess port .unreadable)
    | some c =>
      let (byte, c) := c.read count
      .ok (byte, t.withChannel index c)

/-- Sets a channel up anew. The two highest bits select it, the next two the access mode, three
more the operating mode. -/
def control (t : Timer) (value : UInt8) : Except Fault Timer :=
  let code := value.toNat
  if code % 2 = 1 then .error (.invalidTimerAccess controlPort .bcdCounting)
  else if code / 64 = 3 then .error (.invalidTimerAccess controlPort .readBack)
  else
    .ok (t.withChannel (code / 64)
      { access := .ofCode (code / 16 % 4)
        operating := operatingMode (code / 2 % 8) })

def write (t : Timer) (port : UInt16) (value : UInt8) : Except Fault Timer :=
  if port = controlPort then t.control value else .error (.invalidTimerAccess port .unwritable)

end Timer

end RealMode
