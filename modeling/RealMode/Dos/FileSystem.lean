import RealMode.Dos.Disk
import RealMode.Dos.NameTable
import RealMode.Dos.Wildcard
import RealMode.LittleEndian

/-!
# DOS files

The files of one host directory, by short name, through at most fifteen handles. A handle has a
position of its own and is open for reading, writing or both. A search keeps the names that it has
still to show. The program's names are resolved through the table of short names, so a path inside a
name reaches as far as the host lets it. The directory is a path that is followed anew each time,
and need not lead anywhere.
-/

namespace RealMode.Dos

inductive AccessMode where
  | readOnly
  | writeOnly
  | readWrite
deriving DecidableEq, Inhabited

/-- The three lowest bits count. -/
def AccessMode.ofCode? (code : UInt8) : Option AccessMode :=
  match code.toNat % 8 with
  | 0 => some readOnly
  | 1 => some writeOnly
  | 2 => some readWrite
  | _ => none

inductive SeekOrigin where
  | start
  | current
  | stop
deriving DecidableEq, Inhabited

def SeekOrigin.ofCode? (code : UInt8) : Option SeekOrigin :=
  match code.toNat with
  | 0 => some start
  | 1 => some current
  | 2 => some stop
  | _ => none

structure OpenFile where
  /-- The number of the file; a directory that has been opened has none. -/
  file : Option Nat
  mode : AccessMode
  position : Nat := 0
deriving DecidableEq, Inhabited

structure FileSystem where
  disk : Disk
  /-- The host's current directory. -/
  here : Path
  root : String
  names : NameTable
  /-- Slot `n` is handle `n + 5`. -/
  slots : List (Option OpenFile)
  /-- What the last search has not shown yet. -/
  found : List FileName

namespace FileSystem

/-- The lower handles belong to devices. -/
def firstHandle : Nat := 5

def maxOpen : Nat := 15

/-- None if the root is no directory. -/
def listing (fs : FileSystem) : List String :=
  match fs.disk.find fs.here fs.root with
  | .ok (.directory path) => fs.disk.fileNames path
  | _ => []

/-- Short names for what is in the directory now. -/
def refresh (fs : FileSystem) : List FileName × FileSystem :=
  let (names, table) := fs.names.list fs.listing
  (names, { fs with names := table })

/-- The files in the directory `root`, as seen from `here`. -/
def mount (disk : Disk) (here : Path) (root : String) : FileSystem :=
  (refresh ⟨disk, here, root, .empty, [], []⟩).2

/-- The host's name for a short name. -/
def hostName (fs : FileSystem) (name : FileName) : String × FileSystem :=
  let (host, table) := fs.names.resolve fs.listing name
  (host, { fs with names := table })

/-- What a host name leads to. -/
def find (fs : FileSystem) (host : String) : Except Disk.Obstacle Disk.Found :=
  fs.disk.find fs.here (Disk.join fs.root host)

/-- The lowest free slot. -/
def freeSlot (slots : List (Option OpenFile)) : Option Nat :=
  let slot := slots.findIdx Option.isNone
  if slot < maxOpen then some slot else none

def withSlot (slots : List (Option OpenFile)) (slot : Nat) (f : OpenFile) :
    List (Option OpenFile) :=
  if slot < slots.length then slots.set slot (some f) else slots ++ [some f]

/-- Gives the file the lowest free handle. -/
def addHandle (fs : FileSystem) (f : OpenFile) : Except Error UInt16 × FileSystem :=
  match freeSlot fs.slots with
  | none => (.error .noFileHandlesLeft, fs)
  | some slot =>
    (.ok (UInt16.ofNat (slot + firstHandle)), { fs with slots := withSlot fs.slots slot f })

def openFile? (fs : FileSystem) (handle : UInt16) : Option OpenFile :=
  if handle.toNat < firstHandle then none
  else (fs.slots[handle.toNat - firstHandle]?).join

def setHandle (fs : FileSystem) (handle : UInt16) (f : Option OpenFile) : FileSystem :=
  { fs with slots := fs.slots.set (handle.toNat - firstHandle) f }

/-- Creates a file or empties the one that is there, before a handle is looked for. -/
def create (fs : FileSystem) (name : List UInt8) : Except Error UInt16 × FileSystem :=
  let (host, fs) := fs.hostName (.parse name)
  match fs.find host with
  | .error e => (.error e.error, fs)
  | .ok (.directory _) => (.error .accessDenied, fs)
  | .ok (.file number) =>
    { fs with disk := fs.disk.withContent number .empty }.addHandle ⟨some number, .readWrite, 0⟩
  | .ok (.missing path asDirectory) =>
    if asDirectory then (.error .accessDenied, fs)
    else
      let (number, disk) := fs.disk.addFile path
      { fs with disk := disk }.addHandle ⟨some number, .readWrite, 0⟩

/-- A directory can be opened for reading only. -/
def openFile (fs : FileSystem) (name : List UInt8) (mode : AccessMode) :
    Except Error UInt16 × FileSystem :=
  let (host, fs) := fs.hostName (.parse name)
  match fs.find host with
  | .error e => (.error e.error, fs)
  | .ok (.directory _) =>
    if mode = .readOnly then fs.addHandle ⟨none, mode, 0⟩ else (.error .accessDenied, fs)
  | .ok (.file number) => fs.addHandle ⟨some number, mode, 0⟩
  | .ok (.missing _ _) => (.error .fileNotFound, fs)

def close (fs : FileSystem) (handle : UInt16) : Except Error Unit × FileSystem :=
  match fs.openFile? handle with
  | none => (.error .invalidFileHandle, fs)
  | some _ => (.ok (), fs.setHandle handle none)

/-- Up to `count` bytes from the handle's position on. Nothing is asked of the file
when `count` is zero. -/
def read (fs : FileSystem) (handle : UInt16) (count : Nat) :
    Except Error (List UInt8) × FileSystem :=
  match fs.openFile? handle with
  | none => (.error .invalidFileHandle, fs)
  | some f =>
    if count = 0 then (.ok [], fs)
    else
      match f.file with
      | none => (.error .accessDenied, fs)
      | some number =>
        if f.mode = .writeOnly then (.error .accessDenied, fs)
        else
          let bytes := (fs.disk.content number).slice f.position count
          (.ok bytes, fs.setHandle handle (some { f with position := f.position + bytes.length }))

/-- Writes all of `data`. Nothing is asked of the file when `data` is empty. -/
def write (fs : FileSystem) (handle : UInt16) (data : List UInt8) :
    Except Error UInt16 × FileSystem :=
  match fs.openFile? handle with
  | none => (.error .invalidFileHandle, fs)
  | some f =>
    if data.isEmpty then (.ok 0, fs)
    else
      match f.file with
      | none => (.error .accessDenied, fs)
      | some number =>
        if f.mode = .readOnly then (.error .accessDenied, fs)
        else
          let disk :=
            fs.disk.withContent number ((fs.disk.content number).overwrite f.position data)
          (.ok (UInt16.ofNat data.length),
            { fs with disk := disk }.setHandle handle
              (some { f with position := f.position + data.length }))

/-- The two's complement reading of an offset. -/
def signedOffset (offset : UInt32) : Int :=
  if offset.toNat < 0x80000000 then offset.toNat else (offset.toNat : Int) - 0x100000000

/-- Where a seek goes. Offsets from the start have no sign. A directory has no end. -/
def seekTarget (fs : FileSystem) (f : OpenFile) (offset : UInt32) : SeekOrigin → Except Error Int
  | .start => .ok offset.toNat
  | .current => .ok (f.position + signedOffset offset)
  | .stop =>
    match f.file with
    | none => .error .accessDenied
    | some number => .ok ((fs.disk.content number).length + signedOffset offset)

/-- The new position, cut to a double word. -/
def seek (fs : FileSystem) (handle : UInt16) (offset : UInt32) (origin : SeekOrigin) :
    Except Error UInt32 × FileSystem :=
  match fs.openFile? handle with
  | none => (.error .invalidFileHandle, fs)
  | some f =>
    match fs.seekTarget f offset origin with
    | .error e => (.error e, fs)
    | .ok target =>
      if target < 0 then (.error .accessDenied, fs)
      else
        (.ok (UInt32.ofNat target.toNat),
         fs.setHandle handle (some { f with position := target.toNat }))

/-- Starts a search. -/
def search (fs : FileSystem) (pattern : List UInt8) : FileSystem :=
  let (names, fs) := fs.refresh
  { fs with found := names.filter (·.answers pattern) }

/-- The size of the file that a host name leads to; zero if there is none. -/
def sizeOf (fs : FileSystem) (host : String) : Nat :=
  match fs.find host with
  | .ok (.file number) => (fs.disk.content number).length
  | _ => 0

/-- The next name that the search shows, with the size of its file. -/
def nextFound (fs : FileSystem) : Except Error (FileName × Nat) × FileSystem :=
  match fs.found with
  | [] => (.error .noMoreFiles, fs)
  | name :: rest =>
    let (host, fs) := { fs with found := rest }.hostName name
    (.ok (name, fs.sizeOf host), fs)

end FileSystem

/-!
The record that a search fills has 128 bytes. The attributes, time, date and size and a name field
of thirteen bytes are cleared first. A name is not cut to its field.
-/

namespace SearchRecord

def size : Nat := 128

def attributesAt : Nat := 0x15

def sizeAt : Nat := 0x1a

def nameAt : Nat := 0x1e

def nameField : Nat := 13

/-- `new` over the bytes from `start` on. -/
def overlay (record : List UInt8) (start : Nat) (new : List UInt8) : List UInt8 :=
  record.take start ++ new ++ record.drop (start + new.length)

/-- The record of a file, if its name ends inside the record. -/
def fill (record : List UInt8) (name : FileName) (fileSize : Nat) : Option (List UInt8) :=
  let bytes := name.toBytes
  if record.length < nameAt + bytes.length then none
  else
    let cleared := overlay record attributesAt
      (List.replicate (nameAt + nameField - attributesAt) 0)
    let sized := overlay cleared sizeAt (bytesOfDword (UInt32.ofNat (min fileSize 0xffffffff)))
    some (overlay sized nameAt bytes)

end SearchRecord

end RealMode.Dos
