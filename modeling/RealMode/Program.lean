import RealMode.Dos.Services
import RealMode.Image
import RealMode.Run

/-!
# Programs

Loading gives an image fresh memory: its segments at the lowest free ordinals, the
relocations, the environment, and the segment prefix with the command tail. A command tail
that is too long is refused before memory is touched. Whatever goes wrong, there is nothing to
run until a load succeeds.
-/

namespace RealMode

structure ProgramConfig where
  /-- Where the program is told that it was loaded from. -/
  path : String := "C:\\BBSV6\\PROGRAM.EXE"
  environment : List (String × String) :=
    [("COMSPEC", "C:\\COMMAND.COM"), ("PATH", "C:\\BBSV6")]
  channel : UInt16 := 0
deriving DecidableEq, Inhabited

namespace Program

/-- Each argument with a space in front. -/
def commandTail (arguments : List String) : List UInt8 :=
  arguments.flatMap fun a => 0x20 :: Text.Utf8.encode a

/-- What the segment prefix has room for before the final carriage return. -/
def maxTail : Nat := 126

/-- The variables as `KEY=VALUE`, each ended by a zero byte, a zero byte, the word 1 and the
program's path. Without variables there are two zero bytes. -/
def environmentBlock (c : ProgramConfig) : List UInt8 :=
  let settings :=
    c.environment.flatMap fun (key, value) => Text.Utf8.encode (key ++ "=" ++ value) ++ [0]
  let missing := if c.environment.isEmpty then [0] else []
  settings ++ missing ++ [0] ++ bytesOfWord 1 ++ Text.Utf8.encode c.path ++ [0]

/-- Steps of a load; what memory holds by the time of a fault stays. -/
abbrev Loading := EStateM Fault Memory

namespace Loading

def changing (f : Memory → Except Fault Memory) : Loading Unit := fun m =>
  match f m with
  | .ok m => .ok () m
  | .error e => .error e m

def allocating {α : Type} (f : Memory → Except Fault (α × Memory)) : Loading α := fun m =>
  match f m with
  | .ok (a, m) => .ok a m
  | .error e => .error e m

end Loading

open Loading

/-- Places the segments and gives their ordinals. -/
def placeSegments : List ImageSegment → Loading (List UInt16)
  | [] => return []
  | s :: rest => do
    let ordinal ← allocating (·.allocateSegment s.kind)
    changing (·.loadSegment ordinal s.kind s.data)
    let ordinals ← placeSegments rest
    return ordinal :: ordinals

def ordinalOf (ordinals : List UInt16) (index : Nat) : Loading UInt16 :=
  match ordinals[index]? with
  | some ordinal => return ordinal
  | none => throw (.invalidImage (.missingSegment index))

def relocate (ordinals : List UInt16) : List Relocation → Loading Unit
  | [] => return ()
  | r :: rest => do
    let segment ← ordinalOf ordinals r.segment
    let target ← ordinalOf ordinals r.target
    changing (·.writeWord ⟨segment, r.offset⟩ target)
    relocate ordinals rest

def placeEnvironment (c : ProgramConfig) : Loading UInt16 := do
  let segment ← allocating (·.allocateSegment .data)
  changing (·.writeBytes ⟨segment, 0⟩ (environmentBlock c))
  return segment

/-- The instruction that ends a program, at the start of the prefix. -/
def exitCall : List UInt8 := [0xcd, Dos.exitVector]

/-- The paragraph after the memory of the program. -/
def memoryTop : UInt16 := 0xa000

/-- The segment prefix. The variable that names it is how DOS finds it. -/
def placePrefix (environment : UInt16) (tail : List UInt8) : Loading UInt16 := do
  let segment ← allocating (·.allocateSegment .data)
  changing (·.writeBytes ⟨segment, 0x00⟩ exitCall)
  changing (·.writeWord ⟨segment, 0x02⟩ memoryTop)
  changing (·.writeWord ⟨segment, 0x2c⟩ environment)
  changing (·.writeByte ⟨segment, 0x80⟩ (UInt8.ofNat tail.length))
  changing (·.writeBytes ⟨segment, 0x81⟩ tail)
  changing (·.writeByte ⟨segment, UInt16.ofNat (0x81 + tail.length)⟩ 0x0d)
  let p ← allocating (·.allocateVariable Dos.prefixVariable 2)
  changing (·.writeWord p segment)
  return segment

/-- Loads an image and gives the registers that it starts with. -/
def load (c : ProgramConfig) (image : Image) (arguments : List String) : Loading Registers := do
  let tail := commandTail arguments
  if maxTail < tail.length then throw (.commandLineTooLong tail.length)
  modify Memory.clear
  let ordinals ← placeSegments image.segments
  relocate ordinals image.relocations
  let environment ← placeEnvironment c
  let segment ← placePrefix environment tail
  let ss ← ordinalOf ordinals image.stack.segment
  let cs ← ordinalOf ordinals image.entry.segment
  return { Registers.reset image.stack.offset with
    ss := ss
    cs := cs
    ip := image.entry.offset
    ds := segment
    es := segment }

end Program

structure Program (σ : Type) where
  config : ProgramConfig
  image : Image
  wiring : Wiring σ
  state : Running σ
  /-- Absent unless the last load succeeded. -/
  initial : Option Registers := none

namespace Program

variable {σ : Type}

def reload (p : Program σ) (arguments : List String) : Except Fault Registers × Program σ :=
  let withMemory (m : Memory) : Running σ :=
    { p.state with machine := { p.state.machine with memory := m } }
  match load p.config p.image arguments p.state.machine.memory with
  | .ok r m => (.ok r, { p with state := withMemory m, initial := some r })
  | .error e m => (.error e, { p with state := withMemory m, initial := none })

/-- The program's state after a run, with its exit code AL. -/
def ended (p : Program σ) : Ending Registers × Running σ → Ending UInt8 × Program σ
  | (.done r, s) => (.done r.al, { p with state := s })
  | (.faulted e, s) => (.faulted e, { p with state := s })
  | (.unfinished, s) => (.unfinished, { p with state := s })

/-- Runs the loaded program from its start. -/
def run (p : Program σ) (ticks : Nat) : Ending UInt8 × Program σ :=
  match p.initial with
  | none => (.faulted .notLoaded, p)
  | some r => p.ended (p.wiring.start ticks r p.config.channel p.state)

/-- Goes on with a run that the ticks did not suffice for. -/
def resume (p : Program σ) (ticks : Nat) : Ending UInt8 × Program σ :=
  p.ended (p.wiring.start ticks p.state.machine.registers p.config.channel p.state)

end Program

end RealMode
