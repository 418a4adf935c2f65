import RealMode.Fault

/-!
# The port bus

Devices that answer for ranges of ports. No port has two devices, and a port without one is a fault.
A range whose first port is above its last holds no port.
-/

namespace RealMode

universe u

structure PortRange (δ : Type u) where
  first : UInt16
  last : UInt16
  device : δ

/-- Devices in the order in which they were attached. -/
structure PortBus (δ : Type u) where
  ranges : List (PortRange δ)

namespace PortBus

variable {δ : Type u}

def empty : PortBus δ := ⟨[]⟩

def PortRange.meets (r : PortRange δ) (first last : UInt16) : Bool :=
  first ≤ r.last && r.first ≤ last

def PortRange.holds (r : PortRange δ) (port : UInt16) : Bool := r.first ≤ port && port ≤ r.last

/-- Attaches a device to the ports from `first` to `last`. -/
def attach (bus : PortBus δ) (first last : UInt16) (device : δ) : Except Fault (PortBus δ) :=
  if bus.ranges.any (PortRange.meets · first last) then .error (.portConflict first last)
  else .ok ⟨bus.ranges ++ [⟨first, last, device⟩]⟩

def device (bus : PortBus δ) (port : UInt16) : Except Fault δ :=
  match bus.ranges.find? (PortRange.holds · port) with
  | none => .error (.unhandledPort port)
  | some r => .ok r.device

end PortBus

end RealMode
