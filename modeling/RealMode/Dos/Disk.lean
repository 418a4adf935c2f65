import RealMode.Dos.Content
import RealMode.Dos.Error

/-!
# The host's disk

Directories and files by their absolute paths. What a file holds belongs to its number, so
that a file which is open keeps its bytes when its name goes away. A path is followed name by
name; every name before the last must be a directory, and the first obstacle on the way is
the one that is reported.
-/

namespace RealMode.Dos

/-- The names from the root directory down. -/
abbrev Path := List String

inductive Entry where
  | directory
  | file (number : Nat)
deriving DecidableEq, Inhabited

structure Disk where
  entries : List (Path × Entry)
  /-- What each file holds, by number. -/
  contents : List Content

namespace Disk

/-- Nothing but the root directory. -/
def empty : Disk := ⟨[], []⟩

/-- The root directory is always there. -/
def entry? (d : Disk) (path : Path) : Option Entry :=
  match path with
  | [] => some .directory
  | _ => d.entries.lookup path

def content (d : Disk) (number : Nat) : Content := d.contents.getD number .empty

def bytes (d : Disk) (number : Nat) : List UInt8 := (d.content number).toList

def withContent (d : Disk) (number : Nat) (new : Content) : Disk :=
  { d with contents := d.contents.set number new }

/-- A new file, empty. -/
def addFile (d : Disk) (path : Path) : Nat × Disk :=
  let number := d.contents.length
  (number, ⟨(path, .file number) :: d.entries, d.contents ++ [.empty]⟩)

/-- Creates the file, or overwrites the one that is there. -/
def put (d : Disk) (path : Path) (new : List UInt8) : Disk :=
  match d.entry? path with
  | some (.file number) => d.withContent number (.ofList new)
  | some .directory => d
  | none =>
    let (number, d) := d.addFile path
    d.withContent number (.ofList new)

def remove (d : Disk) (path : Path) : Disk :=
  { d with entries := d.entries.filter fun e => e.1 != path }

/-- A directory at `path` and at everything above it. -/
def addDirectories (d : Disk) (path : Path) : Disk :=
  let above := (List.range (path.length + 1)).map path.take
  let missing := above.filter fun p => (d.entry? p).isNone
  { d with entries := missing.map (fun p => (p, .directory)) ++ d.entries }

/-- The names of the files in a directory, in order. -/
def fileNames (d : Disk) (directory : Path) : List String :=
  let named := d.entries.filterMap fun e =>
    match e with
    | (path, .file _) => if path.dropLast = directory then path.getLast? else none
    | (_, .directory) => none
  named.mergeSort fun a b => decide (a ≤ b)

/-- What a path leads to. -/
inductive Found where
  | directory (path : Path)
  | file (number : Nat)
  /-- Nothing, in a directory that is there. `asDirectory` tells that the path ends in a slash. -/
  | missing (path : Path) (asDirectory : Bool)
deriving DecidableEq, Inhabited

/-- Why a path cannot be followed. -/
inductive Obstacle where
  | notFound
  | notDirectory
  | tooLong
  /-- A NUL ends a path, so none can lie inside it. -/
  | nul
deriving DecidableEq, Inhabited

/-- What DOS makes of it. -/
def Obstacle.error : Obstacle → Error
  | notFound => .fileNotFound
  | _ => .accessDenied

/-- The longest name of one file in bytes. -/
def maxName : Nat := 255

/-- The longest path in bytes. -/
def maxPath : Nat := 4095

/-- From the directory `here` to one inside it. -/
def enter (d : Disk) (here : Path) (name : String) : Except Obstacle Path :=
  if name = "." then .ok here
  else if name = ".." then .ok here.dropLast
  else if maxName < name.utf8ByteSize then .error .tooLong
  else
    match d.entry? (here ++ [name]) with
    | some .directory => .ok (here ++ [name])
    | some (.file _) => .error .notDirectory
    | none => .error .notFound

/-- The last name of a path. -/
def arrive (d : Disk) (here : Path) (name : String) (asDirectory : Bool) : Except Obstacle Found :=
  if name = "." then .ok (.directory here)
  else if name = ".." then .ok (.directory here.dropLast)
  else if maxName < name.utf8ByteSize then .error .tooLong
  else
    match d.entry? (here ++ [name]) with
    | some .directory => .ok (.directory (here ++ [name]))
    | some (.file number) => if asDirectory then .error .notDirectory else .ok (.file number)
    | none => .ok (.missing (here ++ [name]) asDirectory)

def follow (d : Disk) (here : Path) (asDirectory : Bool) : List String → Except Obstacle Found
  | [] => .ok (.directory here)
  | [name] => d.arrive here name asDirectory
  | name :: names => do
    let here ← d.enter here name
    d.follow here asDirectory names

/-- The names between the slashes. -/
def namesOf (path : String) : List String :=
  ((path.toList.splitOn '/').filter (!·.isEmpty)).map String.ofList

/-- Follows a path that starts at the root directory or, without a slash in front, at `here`. -/
def find (d : Disk) (here : Path) (path : String) : Except Obstacle Found :=
  let chars := path.toList
  let asDirectory := chars.getLast? == some '/'
  if chars.contains '\x00' then .error .nul
  else if maxPath < path.utf8ByteSize then .error .tooLong
  else
    match chars with
    | [] => .error .notFound
    | '/' :: _ => d.follow [] asDirectory (namesOf path)
    | _ => d.follow here asDirectory (namesOf path)

/-- The path of `name` as seen from the directory `directory`; one that begins with a
slash stays as it is. -/
def join (directory name : String) : String :=
  if name.startsWith '/' then name
  else if directory.isEmpty || directory.endsWith '/' then directory ++ name
  else directory ++ "/" ++ name

end Disk

end RealMode.Dos
