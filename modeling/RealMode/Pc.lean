import RealMode.Bios
import RealMode.Dos.Services
import RealMode.Machine.Board
import RealMode.Timer

/-!
# The usual host

A clock, a timer on ports 40 to 43, and DOS. Interrupts 20 and 21 are served by DOS and
interrupt 1A by the clock.
-/

namespace RealMode

structure Pc where
  clock : Clock := {}
  timer : Timer := {}
  dos : Dos

namespace Pc

def readTimer (port : UInt16) : EStateM Fault Pc UInt8 := fun pc =>
  match pc.timer.read pc.clock.timerCount port with
  | .ok (value, timer) => .ok value { pc with timer := timer }
  | .error e => .error e pc

def writeTimer (port : UInt16) (value : UInt8) : EStateM Fault Pc Unit := fun pc =>
  match pc.timer.write port value with
  | .ok timer => .ok () { pc with timer := timer }
  | .error e => .error e pc

def timerDevice : Device Pc := ⟨readTimer, writeTimer⟩

def serveDos : Exec Pc Unit := do
  let m ← get
  Exec.within Pc.dos (fun dos pc => { pc with dos := dos }) (Dos.serve m.host.clock.now)

theorem serveDos_eq (m : Machine Pc) :
    serveDos m = Exec.within Pc.dos (fun dos pc => { pc with dos := dos })
      (Dos.serve m.host.clock.now) m := rfl

def serveClock : Exec Pc Unit := do
  let m ← get
  let r ← Exec.ofExcept (Bios.serve m.host.clock.now m.registers)
  Exec.setRegisters r

theorem serveClock_eq (m : Machine Pc) :
    serveClock m =
      (Exec.ofExcept (Bios.serve m.host.clock.now m.registers) >>= Exec.setRegisters) m := rfl

def board : Board Pc where
  handlers vector :=
    if vector = Dos.exitVector then some Dos.terminate
    else if vector = Dos.vector then some serveDos
    else if vector = Bios.clockVector then some serveClock
    else none
  ports := ⟨[⟨Timer.firstPort, Timer.controlPort, timerDevice⟩]⟩
  imports := []

end Pc

end RealMode
