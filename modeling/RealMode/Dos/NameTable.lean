import RealMode.Dos.FileName

/-!
# The table of short names

Which short name belongs to which host file. Names are given out when a listing of the directory is
seen, and kept. A program may also ask for a name that no host file has; it is then entered as it
stands. Of two entries for one key the newer counts.
-/

namespace RealMode.Dos

structure NameTable where
  shortNames : List (String × FileName)
  hostNames : List (FileName × String)
deriving DecidableEq

namespace NameTable

def empty : NameTable := ⟨[], []⟩

def shortName? (t : NameTable) (host : String) : Option FileName := t.shortNames.lookup host

def hostName? (t : NameTable) (name : FileName) : Option String := t.hostNames.lookup name

def enter (t : NameTable) (host : String) (name : FileName) : NameTable :=
  ⟨(host, name) :: t.shortNames, (name, host) :: t.hostNames⟩

/-- The candidates for a host file, in the order in which they are tried. -/
def candidate (host : String) : Nat → FileName
  | 0 => .ofHostName host none
  | index + 1 => .ofHostName host (some (index + 1))

/-- The first candidate from number `index` on that is not taken, of `tries` and one more. -/
def firstFree (t : NameTable) (host : String) (index : Nat) : Nat → FileName
  | 0 => candidate host index
  | tries + 1 =>
    if (t.hostName? (candidate host index)).isSome then firstFree t host (index + 1) tries
    else candidate host index

/-- The short name of a host file, which gets one if it has none. One candidate more than there are
names is enough, and the first two can be equal. -/
def assign (t : NameTable) (host : String) : FileName × NameTable :=
  match t.shortName? host with
  | some name => (name, t)
  | none =>
    let name := t.firstFree host 0 (t.hostNames.length + 1)
    (name, t.enter host name)

/-- Short names for a whole listing, in its order. -/
def list (t : NameTable) : List String → List FileName × NameTable
  | [] => ([], t)
  | host :: hosts =>
    let (name, t) := t.assign host
    let (names, t) := t.list hosts
    (name :: names, t)

/-- The host file that a name stands for, after a look at the listing. -/
def resolve (t : NameTable) (listing : List String) (name : FileName) : String × NameTable :=
  let t := (t.list listing).2
  match t.hostName? name with
  | some host => (host, t)
  | none =>
    let host := Text.Utf8.decodeLossy name.toBytes
    (host, t.enter host name)

end NameTable

end RealMode.Dos
