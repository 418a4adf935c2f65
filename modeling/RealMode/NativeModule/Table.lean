import RealMode.NativeModule

/-!
# The module table

Modules by segment, in rising order. Their segments lie above those that programs are given and
below the halt sentinel's. The first module is the primary one until another is chosen.
-/

namespace RealMode

structure ModuleTable (σ : Type) where
  modules : List (NativeModule σ)
  primarySegment : Option UInt16

namespace ModuleTable

variable {σ : Type}

def empty : ModuleTable σ := ⟨[], none⟩

def get? (t : ModuleTable σ) (segment : UInt16) : Option (NativeModule σ) :=
  t.modules.find? fun m => m.segment == segment

def primary? (t : ModuleTable σ) : Option (NativeModule σ) := t.primarySegment.bind t.get?

def segments (t : ModuleTable σ) : List UInt16 := t.modules.map NativeModule.segment

/-- Before the first module of a higher segment. -/
def insertSorted (new : NativeModule σ) : List (NativeModule σ) → List (NativeModule σ)
  | [] => [new]
  | m :: ms => if new.segment < m.segment then new :: m :: ms else m :: insertSorted new ms

def register (t : ModuleTable σ) (new : NativeModule σ) : Except Fault (ModuleTable σ) :=
  if new.segment.toNat ≤ dynamicLimit then .error (.invalidSegment new.segment .belowModules)
  else if new.segment = FarPtr.haltSentinel.segment then
    .error (.invalidSegment new.segment .reserved)
  else if (t.get? new.segment).isSome then .error (.duplicateModule new.segment)
  else
    .ok
      { modules := insertSorted new t.modules
        primarySegment := some (t.primarySegment.getD new.segment) }

def setPrimary (t : ModuleTable σ) (segment : UInt16) : Except Fault (ModuleTable σ) :=
  if (t.get? segment).isSome then .ok { t with primarySegment := some segment }
  else .error (.unknownModule segment)

end ModuleTable

end RealMode
