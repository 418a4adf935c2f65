import RealMode.Dos.FileSystem
import RealMode.Proofs.HostPaths

/-!
# Operations on files

The operations that a program can ask for, and the file systems that they lead to while others
change the disk. An operation that fails leaves files and handles alone, with one exception: where
every handle is taken, a file is created or emptied before the operation finds that out.
-/

namespace RealMode.Dos

inductive FileOperation where
  | create (name : List UInt8)
  | openFile (name : List UInt8) (mode : AccessMode)
  | close (handle : UInt16)
  | read (handle : UInt16) (count : Nat)
  | write (handle : UInt16) (data : List UInt8)
  | seek (handle : UInt16) (offset : UInt32) (origin : SeekOrigin)
  | search (pattern : List UInt8)
  | nextFound

/-- What an operation gives is forgotten; whether it succeeds and what it leaves are kept. -/
def FileOperation.outcome {α : Type} (result : Except Error α × FileSystem) :
    Except Error Unit × FileSystem :=
  (result.1.map fun _ => (), result.2)

def FileOperation.perform (op : FileOperation) (fs : FileSystem) :
    Except Error Unit × FileSystem :=
  match op with
  | create name => outcome (fs.create name)
  | openFile name mode => outcome (fs.openFile name mode)
  | close handle => fs.close handle
  | read handle count => outcome (fs.read handle count)
  | write handle data => outcome (fs.write handle data)
  | seek handle offset origin => outcome (fs.seek handle offset origin)
  | search pattern => (.ok (), fs.search pattern)
  | nextFound => outcome fs.nextFound

@[simp] theorem FileOperation.outcome_snd {α : Type} (result : Except Error α × FileSystem) :
    (outcome result).2 = result.2 := rfl

theorem FileOperation.of_outcome_error {α : Type}
    {result : Except Error α × FileSystem} {e : Error} (failed : (outcome result).1 = .error e) :
    result.1 = .error e := by
  rw [outcome] at failed
  cases given : result.1 with
  | error e' =>
    rw [given] at failed
    exact congrArg Except.error (Except.error.inj failed)
  | ok a =>
    rw [given] at failed
    cases failed

/-- The name that a program asks for. -/
def FileOperation.asksFor : FileOperation → Option (List UInt8)
  | .create name => some name
  | .openFile name _ => some name
  | _ => none

namespace FileSystem

/-- The file system after several operations, whatever comes of them. -/
def performAll (fs : FileSystem) (ops : List FileOperation) : FileSystem :=
  ops.foldl (fun fs op => (op.perform fs).2) fs

/-- The file systems that come about when only `allowed` operations are asked for. Between
operations the host can put any other disk in the place of the one that is there. -/
inductive Reachable (allowed : FileOperation → Prop) : FileSystem → Prop where
  | mount {disk : Disk} {here : Path} (root : String) (proper : disk.Proper)
      (plain : Disk.PlainPath here) :
    Reachable allowed (mount disk here root)
  | perform {fs : FileSystem} {op : FileOperation} (reachable : Reachable allowed fs)
      (asked : allowed op) :
    Reachable allowed (op.perform fs).2
  | host {fs : FileSystem} {disk : Disk} (reachable : Reachable allowed fs) (proper : disk.Proper) :
    Reachable allowed { fs with disk := disk }

theorem Reachable.performAll {allowed : FileOperation → Prop} {fs : FileSystem}
    {ops : List FileOperation} (reachable : Reachable allowed fs)
    (asked : ∀ op ∈ ops, allowed op) : Reachable allowed (fs.performAll ops) := by
  induction ops generalizing fs with
  | nil => exact reachable
  | cons op ops ih =>
    have first := reachable.perform (asked op List.mem_cons_self)
    exact ih first fun other inside => asked other (List.mem_cons_of_mem _ inside)

variable {fs fs' : FileSystem} {e : Error}

/-- The host's name for a short name. -/
def hostOf (fs : FileSystem) (name : FileName) : String := (fs.names.resolve fs.listing name).1

/-- The file system once a short name has been looked up. -/
def knowing (fs : FileSystem) (name : FileName) : FileSystem :=
  { fs with names := (fs.names.resolve fs.listing name).2 }

theorem hostName_eq (fs : FileSystem) (name : FileName) :
    fs.hostName name = (fs.hostOf name, fs.knowing name) := by
  unfold hostName hostOf knowing
  generalize fs.names.resolve fs.listing name = resolved
  rfl

/-- What a name that a program gives leads to. -/
def target (fs : FileSystem) (name : List UInt8) : Except Disk.Obstacle Disk.Found :=
  fs.find (fs.hostOf (.parse name))

theorem target_eq (fs : FileSystem) (name : List UInt8) :
    fs.target name = fs.disk.find fs.here (Disk.join fs.root (fs.hostOf (.parse name))) := rfl

theorem find_knowing (fs : FileSystem) (name : List UInt8) :
    (fs.knowing (.parse name)).find (fs.hostOf (.parse name)) = fs.target name := rfl

/-- The disk with the file that the name leads to created or emptied. -/
def blanked (fs : FileSystem) (name : List UInt8) : Disk :=
  match fs.target name with
  | .ok (.file number) => fs.disk.withContent number .empty
  | .ok (.missing path false) => (fs.disk.addFile path).2
  | _ => fs.disk

/-- The same files with the same bytes, and the same handles at the same positions. -/
structure Spared (fs fs' : FileSystem) : Prop where
  disk : fs'.disk = fs.disk
  slots : fs'.slots = fs.slots

theorem addHandle_of_full {f : OpenFile} (full : freeSlot fs.slots = none) :
    fs.addHandle f = (.error .noFileHandlesLeft, fs) := by
  rw [addHandle, full]

/-- Handles run out only when all slots are taken. -/
theorem of_addHandle_error {f : OpenFile} (failed : (fs.addHandle f).1 = .error e) :
    freeSlot fs.slots = none ∧ e = .noFileHandlesLeft := by
  rw [addHandle] at failed
  cases free : freeSlot fs.slots with
  | none =>
    rw [free] at failed
    cases failed
    exact ⟨rfl, rfl⟩
  | some slot =>
    rw [free] at failed
    cases failed

theorem disk_addHandle (fs : FileSystem) (f : OpenFile) : (fs.addHandle f).2.disk = fs.disk := by
  rw [addHandle]
  cases freeSlot fs.slots <;> rfl

/-- A create empties the file, or makes one, before it looks for a handle. -/
theorem create_cases (fs : FileSystem) (name : List UInt8) :
    (∃ e, fs.create name = (.error e, fs.knowing (.parse name)) ∧ fs.blanked name = fs.disk) ∨
      ∃ number, fs.create name =
        { fs.knowing (.parse name) with disk := fs.blanked name }.addHandle
          ⟨some number, .readWrite, 0⟩ ∧
        (fs.target name = .ok (.file number) ∨
          ∃ path, fs.target name = .ok (.missing path false) ∧
            number = fs.disk.contents.length) := by
  unfold create blanked
  rw [hostName_eq]
  dsimp only
  rw [find_knowing]
  cases fs.target name with
  | error e => exact .inl ⟨_, rfl, rfl⟩
  | ok found =>
    cases found with
    | directory path => exact .inl ⟨_, rfl, rfl⟩
    | file number => exact .inr ⟨_, rfl, .inl rfl⟩
    | missing path asDirectory =>
      cases asDirectory with
      | true => exact .inl ⟨_, rfl, rfl⟩
      | false => exact .inr ⟨_, rfl, .inr ⟨_, rfl, rfl⟩⟩

theorem openFile_cases (fs : FileSystem) (name : List UInt8) (mode : AccessMode) :
    (∃ e, fs.openFile name mode = (.error e, fs.knowing (.parse name))) ∨
      ∃ file, fs.openFile name mode = (fs.knowing (.parse name)).addHandle ⟨file, mode, 0⟩ ∧
        (file = none ∨
          ∃ number, file = some number ∧ fs.target name = .ok (.file number)) := by
  unfold openFile
  rw [hostName_eq]
  dsimp only
  rw [find_knowing]
  cases fs.target name with
  | error e => exact .inl ⟨_, rfl⟩
  | ok found =>
    cases found with
    | directory path =>
      dsimp only
      split
      · exact .inr ⟨_, rfl, .inl rfl⟩
      · exact .inl ⟨_, rfl⟩
    | file number => exact .inr ⟨_, rfl, .inr ⟨_, rfl, rfl⟩⟩
    | missing path asDirectory => exact .inl ⟨_, rfl⟩

/-- Whether or not it gets a handle, a create makes its file empty. -/
theorem disk_create (fs : FileSystem) (name : List UInt8) :
    (fs.create name).2.disk = fs.blanked name := by
  rcases fs.create_cases name with ⟨e, failed, same⟩ | ⟨number, added, _⟩
  · rw [failed, same]
    rfl
  · rw [added, disk_addHandle]

section Effects

/-- Some handle belongs to the file with this number. -/
def Opened (fs : FileSystem) (number : Nat) : Prop :=
  ∃ f, some f ∈ fs.slots ∧ f.file = some number

/-- The same directory, names and search; only the disk and the handles can differ. -/
structure SameView (fs fs' : FileSystem) : Prop where
  here : fs'.here = fs.here
  root : fs'.root = fs.root
  names : fs'.names = fs.names
  found : fs'.found = fs.found

theorem sameView_addHandle (fs : FileSystem) (f : OpenFile) : SameView fs (fs.addHandle f).2 := by
  rw [addHandle]
  cases freeSlot fs.slots <;> exact ⟨rfl, rfl, rfl, rfl⟩

theorem sameView_create (fs : FileSystem) (name : List UInt8) :
    SameView (fs.knowing (.parse name)) (fs.create name).2 := by
  rcases fs.create_cases name with ⟨e, refused, _⟩ | ⟨number, added, _⟩
  · rw [refused]
    exact ⟨rfl, rfl, rfl, rfl⟩
  · rw [added]
    obtain ⟨here, root, names, found⟩ := sameView_addHandle
      { fs.knowing (.parse name) with disk := fs.blanked name } ⟨some number, .readWrite, 0⟩
    exact ⟨here, root, names, found⟩

theorem sameView_openFile (fs : FileSystem) (name : List UInt8) (mode : AccessMode) :
    SameView (fs.knowing (.parse name)) (fs.openFile name mode).2 := by
  rcases fs.openFile_cases name mode with ⟨e, refused⟩ | ⟨file, added, _⟩
  · rw [refused]
    exact ⟨rfl, rfl, rfl, rfl⟩
  · rw [added]
    exact sameView_addHandle _ _

theorem disk_openFile (fs : FileSystem) (name : List UInt8) (mode : AccessMode) :
    (fs.openFile name mode).2.disk = fs.disk := by
  rcases fs.openFile_cases name mode with ⟨e, refused⟩ | ⟨file, added, _⟩
  · rw [refused]
    rfl
  · rw [added, disk_addHandle]
    rfl

/-- What an operation on a handle can do: no entry of the disk changes, and no bytes but
those of an open file. -/
structure ByHandle (fs fs' : FileSystem) : Prop extends SameView fs fs' where
  entries : fs'.disk.entries = fs.disk.entries
  bytes : ∀ number, ¬ fs.Opened number → fs'.disk.bytes number = fs.disk.bytes number
  opened : ∀ number, fs'.Opened number → fs.Opened number

theorem ByHandle.refl (fs : FileSystem) : ByHandle fs fs :=
  ⟨⟨rfl, rfl, rfl, rfl⟩, rfl, fun _ _ => rfl, fun _ opened => opened⟩

theorem opened_of_openFile? {handle : UInt16} {f : OpenFile} {number : Nat}
    (known : fs.openFile? handle = some f) (file : f.file = some number) : fs.Opened number := by
  unfold openFile? at known
  split at known
  · cases known
  · exact ⟨f, List.mem_of_getElem? (Option.join_eq_some_iff.1 known), file⟩

theorem opened_setHandle {handle : UInt16} {f : Option OpenFile} {number : Nat}
    (same : ∀ g, f = some g → g.file = some number → fs.Opened number)
    (opened : (fs.setHandle handle f).Opened number) : fs.Opened number := by
  obtain ⟨g, inside, file⟩ := opened
  rcases List.mem_or_eq_of_mem_set inside with inside | rfl
  · exact ⟨g, inside, file⟩
  · exact same g rfl file

/-- A handle that goes on with its own file, or with none. -/
theorem byHandle_setHandle {handle : UInt16} {f : Option OpenFile}
    (same : ∀ g number, f = some g → g.file = some number → fs.Opened number) :
    ByHandle fs (fs.setHandle handle f) where
  here := rfl
  root := rfl
  names := rfl
  found := rfl
  entries := rfl
  bytes _ _ := rfl
  opened number := opened_setHandle fun g => same g number

theorem bytes_withContent (d : Disk) {number other : Nat} (new : Content)
    (apart : other ≠ number) :
    (d.withContent number new).bytes other = d.bytes other := by
  simp only [Disk.bytes, Disk.content, Disk.withContent, List.getD_eq_getElem?_getD]
  rw [List.getElem?_set_ne apart.symm]

/-- An operation on a handle fails and leaves everything as it is, or succeeds. -/
def Handled {α : Type} (fs : FileSystem) (result : Except Error α × FileSystem) : Prop :=
  (∃ e, result = (.error e, fs)) ∨ (∃ a, result.1 = .ok a) ∧ ByHandle fs result.2

theorem Handled.byHandle {α : Type} {result : Except Error α × FileSystem}
    (handled : Handled fs result) : ByHandle fs result.2 := by
  rcases handled with ⟨e, failed⟩ | ⟨_, byHandle⟩
  · rw [failed]
    exact .refl fs
  · exact byHandle

theorem Handled.spared {α : Type} {result : Except Error α × FileSystem}
    (handled : Handled fs result) (failed : result.1 = .error e) : Spared fs result.2 := by
  rcases handled with ⟨e', refused⟩ | ⟨⟨a, given⟩, _⟩
  · rw [refused]
    exact ⟨rfl, rfl⟩
  · rw [given] at failed
    cases failed

theorem handled_close (fs : FileSystem) (handle : UInt16) : Handled fs (fs.close handle) := by
  rw [close]
  cases fs.openFile? handle with
  | none => exact .inl ⟨_, rfl⟩
  | some f => exact .inr ⟨⟨_, rfl⟩, byHandle_setHandle fun g number none => by cases none⟩

theorem handled_read (fs : FileSystem) (handle : UInt16) (count : Nat) :
    Handled fs (fs.read handle count) := by
  rw [read]
  cases known : fs.openFile? handle with
  | none => exact .inl ⟨_, rfl⟩
  | some f =>
    dsimp only
    split
    · exact .inr ⟨⟨_, rfl⟩, .refl fs⟩
    split
    · exact .inl ⟨_, rfl⟩
    split
    · exact .inl ⟨_, rfl⟩
    · refine .inr ⟨⟨_, rfl⟩, byHandle_setHandle fun g number same file => ?_⟩
      cases same
      exact opened_of_openFile? known file

theorem handled_seek (fs : FileSystem) (handle : UInt16) (offset : UInt32) (origin : SeekOrigin) :
    Handled fs (fs.seek handle offset origin) := by
  rw [seek]
  cases known : fs.openFile? handle with
  | none => exact .inl ⟨_, rfl⟩
  | some f =>
    dsimp only
    cases fs.seekTarget f offset origin with
    | error e => exact .inl ⟨_, rfl⟩
    | ok target =>
      dsimp only
      split
      · exact .inl ⟨_, rfl⟩
      · refine .inr ⟨⟨_, rfl⟩, byHandle_setHandle fun g number same file => ?_⟩
        cases same
        exact opened_of_openFile? known file

theorem handled_write (fs : FileSystem) (handle : UInt16) (data : List UInt8) :
    Handled fs (fs.write handle data) := by
  rw [write]
  cases known : fs.openFile? handle with
  | none => exact .inl ⟨_, rfl⟩
  | some f =>
    dsimp only
    split
    · exact .inr ⟨⟨_, rfl⟩, .refl fs⟩
    split
    · exact .inl ⟨_, rfl⟩
    next number file =>
    split
    · exact .inl ⟨_, rfl⟩
    · have here : fs.Opened number := opened_of_openFile? known file
      refine .inr ⟨⟨_, rfl⟩, ⟨rfl, rfl, rfl, rfl⟩, rfl, ?_, ?_⟩
      · intro other shut
        refine bytes_withContent fs.disk _ ?_
        rintro rfl
        exact shut here
      · intro other
        refine opened_setHandle fun g same file' => ?_
        cases same
        exact opened_of_openFile? known file'

theorem refresh_eq (fs : FileSystem) :
    fs.refresh =
      ((fs.names.list fs.listing).1, { fs with names := (fs.names.list fs.listing).2 }) := by
  unfold refresh
  generalize fs.names.list fs.listing = listed
  rfl

theorem search_eq (fs : FileSystem) (pattern : List UInt8) :
    fs.search pattern =
      { fs with
        names := (fs.names.list fs.listing).2
        found := (fs.names.list fs.listing).1.filter (·.answers pattern) } := by
  rw [search, refresh_eq]

theorem nextFound_cases (fs : FileSystem) :
    fs.found = [] ∧ fs.nextFound = (.error .noMoreFiles, fs) ∨
      ∃ name rest size, fs.found = name :: rest ∧
        fs.nextFound = (.ok (name, size), { fs.knowing name with found := rest }) := by
  unfold nextFound
  cases shown : fs.found with
  | nil => exact .inl ⟨rfl, rfl⟩
  | cons name rest =>
    dsimp only
    rw [hostName_eq]
    exact .inr ⟨name, rest, _, rfl, rfl⟩

theorem spared_search (fs : FileSystem) (pattern : List UInt8) : Spared fs (fs.search pattern) := by
  rw [search_eq]
  exact ⟨rfl, rfl⟩

theorem spared_nextFound (fs : FileSystem) : Spared fs fs.nextFound.2 := by
  rcases fs.nextFound_cases with ⟨_, same⟩ | ⟨name, rest, size, _, same⟩
  · rw [same]
    exact ⟨rfl, rfl⟩
  · rw [same]
    exact ⟨rfl, rfl⟩

theorem Spared.opened (spared : Spared fs fs') {number : Nat} (opened : fs'.Opened number) :
    fs.Opened number := by
  rwa [Opened, spared.slots] at opened

/-- What an operation leaves behind. -/
inductive Step (fs : FileSystem) : FileOperation → FileSystem → Prop where
  | create (name : List UInt8) : Step fs (.create name) (fs.create name).2
  | openFile (name : List UInt8) (mode : AccessMode) :
      Step fs (.openFile name mode) (fs.openFile name mode).2
  | handle {op : FileOperation} {fs' : FileSystem} (byHandle : ByHandle fs fs') : Step fs op fs'
  | search (pattern : List UInt8) : Step fs (.search pattern) (fs.search pattern)
  | nextFound : Step fs .nextFound fs.nextFound.2

theorem step_perform (op : FileOperation) (fs : FileSystem) : Step fs op (op.perform fs).2 := by
  cases op with
  | create name =>
    simp only [FileOperation.perform, FileOperation.outcome_snd]
    exact .create name
  | openFile name mode =>
    simp only [FileOperation.perform, FileOperation.outcome_snd]
    exact .openFile name mode
  | close handle => exact .handle (handled_close fs handle).byHandle
  | read handle count => exact .handle (handled_read fs handle count).byHandle
  | write handle data => exact .handle (handled_write fs handle data).byHandle
  | seek handle offset origin => exact .handle (handled_seek fs handle offset origin).byHandle
  | search pattern =>
    simp only [FileOperation.perform]
    exact .search pattern
  | nextFound =>
    simp only [FileOperation.perform, FileOperation.outcome_snd]
    exact .nextFound

/-- The ways in which an operation changes what the table knows and the search shows. -/
theorem Step.names {op : FileOperation} (step : Step fs op fs') :
    SameView fs fs' ∨
      (∃ name, op.asksFor = some name ∧ SameView (fs.knowing (.parse name)) fs') ∨
      (∃ pattern, fs' = fs.search pattern) ∨
      ∃ name rest, fs.found = name :: rest ∧ fs' = { fs.knowing name with found := rest } := by
  cases step with
  | create name => exact .inr (.inl ⟨name, rfl, sameView_create fs name⟩)
  | openFile name mode => exact .inr (.inl ⟨name, rfl, sameView_openFile fs name mode⟩)
  | handle byHandle => exact .inl byHandle.toSameView
  | search pattern => exact .inr (.inr (.inl ⟨pattern, rfl⟩))
  | nextFound =>
    rcases fs.nextFound_cases with ⟨_, same⟩ | ⟨name, rest, size, shown, same⟩
    · rw [same]
      exact .inl ⟨rfl, rfl, rfl, rfl⟩
    · rw [same]
      exact .inr (.inr (.inr ⟨name, rest, shown, rfl⟩))

end Effects

section Failures

theorem spared_of_openFile {name : List UInt8} {mode : AccessMode}
    (failed : (fs.openFile name mode).1 = .error e) : Spared fs (fs.openFile name mode).2 := by
  rcases fs.openFile_cases name mode with ⟨e, refused⟩ | ⟨file, added, _⟩
  · rw [refused]
    exact ⟨rfl, rfl⟩
  · rw [added] at failed ⊢
    rw [addHandle_of_full (of_addHandle_error failed).1]
    exact ⟨rfl, rfl⟩

theorem of_create_error {name : List UInt8} (failed : (fs.create name).1 = .error e) :
    Spared fs (fs.create name).2 ∨
      freeSlot fs.slots = none ∧ e = .noFileHandlesLeft ∧
      (fs.create name).2.slots = fs.slots := by
  rcases fs.create_cases name with ⟨e, refused, _⟩ | ⟨number, added, _⟩
  · rw [refused]
    exact .inl ⟨rfl, rfl⟩
  · rw [added] at failed ⊢
    obtain ⟨full, same⟩ := of_addHandle_error failed
    rw [addHandle_of_full full]
    exact .inr ⟨full, same, rfl⟩

/-- An operation that fails changes neither the files nor the handles, unless it is a create that
finds every handle taken. That one keeps the handles, but its file has been created or emptied. -/
theorem failed_operation_keeps_files (fs : FileSystem) (op : FileOperation) {e : Error}
    (failed : (op.perform fs).1 = .error e) :
    Spared fs (op.perform fs).2 ∨
      ∃ name, op = .create name ∧ freeSlot fs.slots = none ∧ e = .noFileHandlesLeft ∧
        (op.perform fs).2.slots = fs.slots ∧ (op.perform fs).2.disk = fs.blanked name := by
  cases op with
  | create name =>
    simp only [FileOperation.perform, FileOperation.outcome_snd] at failed ⊢
    rcases of_create_error (FileOperation.of_outcome_error failed) with spared |
      ⟨full, same, slots⟩
    · exact .inl spared
    · exact .inr ⟨name, rfl, full, same, slots, fs.disk_create name⟩
  | openFile name mode =>
    simp only [FileOperation.perform, FileOperation.outcome_snd] at failed ⊢
    exact .inl (spared_of_openFile (FileOperation.of_outcome_error failed))
  | close handle => exact .inl ((handled_close fs handle).spared failed)
  | read handle count =>
    exact .inl ((handled_read fs handle count).spared (FileOperation.of_outcome_error failed))
  | write handle data =>
    exact .inl ((handled_write fs handle data).spared (FileOperation.of_outcome_error failed))
  | seek handle offset origin =>
    exact .inl
      ((handled_seek fs handle offset origin).spared (FileOperation.of_outcome_error failed))
  | search pattern =>
    simp only [FileOperation.perform, reduceCtorEq] at failed
  | nextFound =>
    simp only [FileOperation.perform, FileOperation.outcome_snd]
    exact .inl (spared_nextFound fs)

/-- A create that would change the disk finds out too late that there is no handle. -/
theorem create_of_full {name : List UInt8} (full : freeSlot fs.slots = none)
    (changes : fs.blanked name ≠ fs.disk) :
    (fs.create name).1 = .error .noFileHandlesLeft := by
  rcases fs.create_cases name with ⟨e, refused, same⟩ | ⟨number, added, _⟩
  · exact absurd same changes
  · rw [added.trans (addHandle_of_full full)]

/-- An operation that fails is harmless unless it has created or emptied a file that
it got no handle for. -/
theorem failed_operation_spares_iff (fs : FileSystem) (op : FileOperation) {e : Error}
    (failed : (op.perform fs).1 = .error e) :
    Spared fs (op.perform fs).2 ↔
      ∀ name, op = .create name → freeSlot fs.slots = none → fs.blanked name = fs.disk := by
  constructor
  · rintro spared name rfl full
    have same := spared.disk
    simp only [FileOperation.perform, FileOperation.outcome_snd] at same
    rw [← same, disk_create]
  · intro harmless
    rcases failed_operation_keeps_files fs op failed with spared |
      ⟨name, asked, full, _, slots, disk⟩
    · exact spared
    · exact ⟨disk.trans (harmless name asked full), slots⟩

end Failures

section Crowded

/-- The only file. -/
def onlyName : List UInt8 := "A.TXT".toUTF8.data.toList

/-- A root directory with one file of three bytes, which is open as often as there are handles. -/
def crowded : FileSystem :=
  (mount ((Disk.empty.addDirectories ["r"]).put ["r", "A.TXT"] [1, 2, 3]) [] "/r").performAll
    (List.replicate maxOpen (.openFile onlyName .readOnly))

theorem reachable_crowded : Reachable (fun _ => True) crowded :=
  (Reachable.mount "/r" (by decide +kernel) (by decide)).performAll fun _ _ => trivial

theorem crowded_full : freeSlot crowded.slots = none := by decide +kernel

theorem bytes_crowded : crowded.disk.bytes 0 = [1, 2, 3] := by decide +kernel

theorem bytes_blanked_crowded : (crowded.blanked onlyName).bytes 0 = [] := by decide +kernel

theorem blanked_crowded_ne : crowded.blanked onlyName ≠ crowded.disk := by
  intro same
  have none := bytes_blanked_crowded
  rw [same, bytes_crowded] at none
  cases none

theorem refused_crowded : (crowded.create onlyName).1 = .error .noFileHandlesLeft :=
  create_of_full crowded_full blanked_crowded_ne

/-- The create is refused, and the file has lost its bytes. -/
theorem refused_create_empties :
    Reachable (fun _ => True) crowded ∧ crowded.disk.bytes 0 = [1, 2, 3] ∧
      (crowded.create onlyName).1 = .error .noFileHandlesLeft ∧
        (crowded.create onlyName).2.disk.bytes 0 = [] := by
  refine ⟨reachable_crowded, bytes_crowded, refused_crowded, ?_⟩
  rw [disk_create]
  exact bytes_blanked_crowded

theorem refused_create_not_spared :
    ((FileOperation.create onlyName).perform crowded).1 = .error .noFileHandlesLeft ∧
      ¬ Spared crowded ((FileOperation.create onlyName).perform crowded).2 := by
  have failed : ((FileOperation.create onlyName).perform crowded).1 =
      .error .noFileHandlesLeft := by
    simp only [FileOperation.perform, FileOperation.outcome, refused_crowded]
    rfl
  have spared_iff := failed_operation_spares_iff crowded (.create onlyName) failed
  exact ⟨failed,
    fun spared => blanked_crowded_ne (spared_iff.1 spared onlyName rfl crowded_full)⟩

end Crowded

end FileSystem

end RealMode.Dos
