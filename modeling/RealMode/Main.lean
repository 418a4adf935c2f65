import RealMode.CommandLine
import Std.Time.Zoned

/-!
# The program

Reads the executable and the files of the root directory, runs the program slice by slice so that
its clock goes on and its output shows, and writes the files that it has created or changed back.
Directories inside the root are seen, but what they hold is not.
-/

namespace RealMode.CommandLine

/-- Ticks between two looks at the clock. -/
def sliceTicks : Nat := 100000

def momentNow : IO Moment := do
  let t ← Std.Time.PlainDateTime.now
  return {
    year := t.date.year
    month := t.date.month.val.toNat
    day := t.date.day.val.toNat
    hour := t.time.hour.val.toNat
    minute := t.time.minute.val.toNat
    second := t.time.second.val.toNat
    nanosecond := t.time.nanosecond.val.toNat }

/-- `started` is the count of nanoseconds at which the clock's seconds began. -/
def clockNow (started : Nat) : IO Clock := do
  let nanoseconds ← IO.monoNanosNow
  let now ← momentNow
  return { seconds := (nanoseconds - started).toFloat / 1000000000.0, now }

def readExecutable (path : String) : IO (Except String (List UInt8)) := do
  try
    let bytes ← IO.FS.readBinFile path
    return .ok bytes.data.toList
  catch
    | .noFileOrDirectory _ _ _ => return .error (readFailure .notFound)
    | .inappropriateType _ _ _ => return .error isDirectoryReason
    | e => return .error (toString e)

/-- Where the root directory stands on the disk that the program sees. -/
def mountPoint : Dos.Path := ["root"]

def mountName : String := "/root"

def readRoot (root : String) : IO Dos.Disk := do
  try
    let directory ← IO.FS.realPath root
    let entries ← directory.readDir
    let mut disk := Dos.Disk.empty.addDirectories mountPoint
    for entry in entries do
      let path := mountPoint ++ [entry.fileName]
      let info ← entry.path.metadata
      match info.type with
      | .file =>
        let bytes ← IO.FS.readBinFile entry.path
        disk := disk.put path bytes.data.toList
      | .dir => disk := disk.addDirectories path
      | _ => pure ()
    return disk
  catch _ => return .empty

/-- What the file of this name in the root directory holds. -/
def contentIn (disk : Dos.Disk) (name : String) : Option Dos.Content :=
  match disk.entry? (mountPoint ++ [name]) with
  | some (.file number) => some (disk.content number)
  | _ => none

/-- How many bytes of a gap are written at once. -/
def gapBlock : Nat := 65536

def writePiece (file : IO.FS.Handle) : Dos.Piece → IO Unit
  | .written bytes => file.write ⟨bytes.toArray⟩
  | .gap n => do
    let zeros (count : Nat) : ByteArray := ⟨Array.replicate count 0⟩
    let block := zeros gapBlock
    for _ in [0:n / gapBlock] do
      file.write block
    file.write (zeros (n % gapBlock))

/-- Writes the files of `new` that `old` does not hold. -/
def writeRoot (root : String) (old new : Dos.Disk) : IO Unit := do
  for name in new.fileNames mountPoint do
    match contentIn new name with
    | none => pure ()
    | some content =>
      if contentIn old name != some content then
        IO.FS.withFile (root ++ "/" ++ name) .write fun file =>
          content.pieces.forM (writePiece file)

def tell (r : Report) : IO UInt32 := do
  IO.eprint r.message
  return UInt32.ofNat r.status

/-- Shows the output of a slice and goes on until the program has ended. -/
partial def finish (root : String) (old : Dos.Disk) (started : Nat)
    (slice : Ending UInt8 × Program Pc) : IO UInt32 := do
  let (ending, p) := slice
  let output ← IO.getStdout
  output.write ⟨p.output⟩
  output.flush
  match report p ending with
  | some r =>
    writeRoot root old p.state.machine.host.dos.files.disk
    tell r
  | none =>
    let clock ← clockNow started
    finish root old started ((p.withoutOutput.withClock clock).resume sliceTicks)

def perform (i : Invocation) : IO UInt32 := do
  let started ← IO.monoNanosNow
  let file ← readExecutable i.program
  let disk ← readRoot i.root
  let clock ← clockNow started
  match start file (.mount disk [] mountName) clock i with
  | .error r => tell r
  | .ok p => finish i.root disk started (p.run sliceTicks)

end RealMode.CommandLine

def main (arguments : List String) : IO UInt32 :=
  match RealMode.CommandLine.parse arguments with
  | .error r => RealMode.CommandLine.tell r
  | .ok i => RealMode.CommandLine.perform i
