import RealMode.LogFilter
import RealMode.Pc
import RealMode.Program
import RealMode.Text.Capital

/-!
# The command line

`[options] PROGRAM [arguments]` loads and runs a program on the usual host. The options are the
directory that stands in for the program's current directory, the channel, and a log filter,
which is checked first and has no effect. What follows the program's first argument is the
program's, whatever it looks like. The exit status is the program's exit code, or 1 with a
message that names the stage that failed.
-/

namespace RealMode

namespace Program

/-- What the program has written since its output was last taken. -/
def output (p : Program Pc) : Array UInt8 := p.state.machine.host.dos.console.written

def modifyHost (f : Pc → Pc) (p : Program Pc) : Program Pc :=
  let m := p.state.machine
  { p with state := { p.state with machine := { m with host := f m.host } } }

def withClock (p : Program Pc) (clock : Clock) : Program Pc :=
  p.modifyHost fun pc => { pc with clock }

def withoutOutput (p : Program Pc) : Program Pc :=
  p.modifyHost fun pc =>
    { pc with dos := { pc.dos with console := { pc.dos.console with written := #[] } } }

end Program

namespace CommandLine

open Dos (Disk Path)

structure Invocation where
  program : String
  root : String := "."
  channel : UInt16 := 0
  log : String := ""
  arguments : List String := []
deriving DecidableEq, Inhabited

/-- What the options say. -/
structure Options where
  root : Option String := none
  channel : Option UInt16 := none
  log : Option String := none
deriving DecidableEq, Inhabited

/-- The exit status, what was written to the output, and the message. -/
structure Report where
  status : Nat
  output : Array UInt8 := #[]
  message : String := ""

def usageStatus : Nat := 2

def usage (reason : String) : Report :=
  { status := usageStatus
    message := "error: " ++ reason ++ "\n\nUsage: realmode [OPTIONS] <EXE> [PROGRAM_ARGS]...\n" }

/-- A decimal number below 65536, which may have a sign. -/
def channelOf? (text : String) : Option UInt16 :=
  let number (digits : List Char) : Option Nat :=
    if digits.all Char.isDigit then (String.ofList digits).toNat? else none
  match text.toList with
  | '+' :: digits => (number digits).bind ofNat
  | '-' :: digits => if number digits = some 0 then some 0 else none
  | digits => (number digits).bind ofNat
where
  ofNat (n : Nat) : Option UInt16 := if n < 65536 then some (UInt16.ofNat n) else none

/-- Sets an option, which may be given once. -/
def Options.set (o : Options) (name value : String) : Except Report Options :=
  match name with
  | "--root" =>
    if o.root.isSome then .error (usage "--root was given twice")
    else .ok { o with root := some value }
  | "--log" =>
    if o.log.isSome then .error (usage "--log was given twice")
    else .ok { o with log := some value }
  | _ =>
    if o.channel.isSome then .error (usage "--channel was given twice")
    else
      match channelOf? value with
      | some c => .ok { o with channel := some c }
      | none => .error (usage "--channel needs a number below 65536")

def optionNames : List String := ["--root", "--log", "--channel"]

/-- The name of an option and the value that is joined to it. -/
def splitOption (argument : String) : String × Option String :=
  match argument.toList.span (· != '=') with
  | (name, []) => (String.ofList name, none)
  | (name, _ :: value) => (String.ofList name, some (String.ofList value))

def Options.invocation (o : Options) (program : String) (arguments : List String) : Invocation where
  program := program
  root := o.root.getD "."
  channel := o.channel.getD 0
  log := o.log.getD ""
  arguments := arguments

/-- Reads options up to the first argument of the program. -/
def parseFrom (o : Options) (program : Option String) : List String → Except Report Invocation
  | [] =>
    match program with
    | none => .error (usage "no program was given")
    | some p => .ok (o.invocation p [])
  | "--" :: rest =>
    match program, rest with
    | some p, rest => .ok (o.invocation p rest)
    | none, p :: rest => .ok (o.invocation p rest)
    | none, [] => .error (usage "no program was given")
  | argument :: rest =>
    let (name, joined) := splitOption argument
    if optionNames.contains name then
      match joined, rest with
      | some value, rest => do
        let o ← o.set name value
        parseFrom o program rest
      | none, value :: rest => do
        let o ← o.set name value
        parseFrom o program rest
      | none, [] => .error (usage (name ++ " needs a value"))
    else
      match program with
      | some p => .ok (o.invocation p (argument :: rest))
      | none =>
        if argument.startsWith "-" && argument != "-" then
          .error (usage ("unexpected argument " ++ argument))
        else parseFrom o (some argument) rest

def parse (arguments : List String) : Except Report Invocation := parseFrom {} none arguments

/-- Causes below a message; two or more are numbered. -/
def causeLines (causes : List String) : String :=
  match causes with
  | [cause] => "    " ++ cause ++ "\n"
  | causes =>
    String.join (causes.zipIdx.map fun (cause, n) => "    " ++ toString n ++ ": " ++ cause ++ "\n")

/-- The stage that failed and why. -/
def failure (stage : String) (causes : List String) : Report :=
  { status := 1, message := "Error: " ++ stage ++ "\n\nCaused by:\n" ++ causeLines causes }

def isDirectoryReason : String := "Is a directory (os error 21)"

/-- Why a file cannot be read. -/
def readFailure : Disk.Obstacle → String
  | .notFound => "No such file or directory (os error 2)"
  | .notDirectory => "Not a directory (os error 20)"
  | .tooLong => "File name too long (os error 36)"
  | .nul => "file name contained an unexpected NUL byte"

def readProgram (disk : Disk) (cwd : Path) (path : String) : Except String (List UInt8) :=
  match disk.find cwd path with
  | .ok (.file number) => .ok (disk.bytes number)
  | .ok (.directory _) => .error isDirectoryReason
  | .ok (.missing _ _) => .error (readFailure .notFound)
  | .error e => .error (readFailure e)

/-- The path that the program is told, the last name of the one on the command line in capitals. -/
def programPath (path : String) : String :=
  "C:\\BBSV6\\" ++ Text.capitals ((Disk.namesOf path).getLast?.getD "PROGRAM.EXE")

/-- Loads a program on a fresh host. `file` is what reading it gave, or why it cannot be read. -/
def start (file : Except String (List UInt8)) (files : Dos.FileSystem) (clock : Clock)
    (i : Invocation) : Except Report (Program Pc) := do
  match LogFilter.check i.log with
  | .ok _ => pure ()
  | .error defect => throw (failure "invalid --log filter" defect.causes)
  let bytes ←
    match file with
    | .ok bytes => pure bytes
    | .error reason => throw (failure ("failed to read " ++ i.program) [reason])
  let image ←
    match Image.ofBytes bytes with
    | .ok image => pure image
    | .error defect =>
      throw (failure ("failed to parse " ++ i.program) [(Fault.invalidImage defect).message])
  let program : Program Pc :=
    { config := { path := programPath i.program, channel := i.channel }
      image
      wiring := .ofBoard Pc.board .empty
      state := { machine := ⟨{}, .fresh, { clock, dos := { files } }⟩ } }
  match program.reload i.arguments with
  | (.ok _, program) => return program
  | (.error e, _) => throw (failure "failed to load the executable" [e.message])

/-- The exit status of a machine that cannot go on. -/
def brokenStatus : Nat := 101

/-- The report of a run that has come to an end. -/
def report (p : Program Pc) : Ending UInt8 → Option Report
  | .done code => some { status := code.toNat, output := p.output }
  | .faulted (.searchRecordOverflow length) =>
    some { status := brokenStatus
           output := p.output
           message := (Fault.searchRecordOverflow length).message ++ "\n" }
  | .faulted e => some { failure "emulation stopped" [e.message] with output := p.output }
  | .unfinished => none

/-- Everything, for at most so many ticks, on the files of a disk. -/
def run (ticks : Nat) (disk : Disk) (cwd : Path) (clock : Clock) (arguments : List String) :
    Option Report :=
  match parse arguments with
  | .error r => some r
  | .ok i =>
    match start (readProgram disk cwd i.program) (.mount disk cwd i.root) clock i with
    | .error r => some r
    | .ok p =>
      let (ending, p) := p.run ticks
      report p ending

end CommandLine

end RealMode
