import RealMode.Proofs.FileOperations
import RealMode.Proofs.KnownNames
import RealMode.Proofs.LossyText

/-!
# Names that stay in the root directory

A program's name loses its drive and everything up to the last backslash, but slashes stay, and so
do the names of this directory and of the one above. A name without these is looked up in the root
directory alone: its host name is plain, and programs that use no other names touch nothing but the
entries of that directory.
-/

namespace RealMode.Dos

def FileName.slash : UInt8 := 0x2f

/-- A name that is one component of a path, byte by byte. -/
structure PlainBytes (bytes : List UInt8) : Prop where
  nonempty : bytes ≠ []
  not_here : bytes ≠ [FileName.dot]
  not_above : bytes ≠ [FileName.dot, FileName.dot]
  no_slash : FileName.slash ∉ bytes

instance (bytes : List UInt8) : Decidable (PlainBytes bytes) :=
  decidable_of_iff
    (bytes ≠ [] ∧ bytes ≠ [FileName.dot] ∧ bytes ≠ [FileName.dot, FileName.dot] ∧
      FileName.slash ∉ bytes)
    ⟨fun ⟨a, b, c, d⟩ => ⟨a, b, c, d⟩, fun ⟨a, b, c, d⟩ => ⟨a, b, c, d⟩⟩

open Text.Utf8 in
theorem slash_mem_decodeLossy_iff {bytes : List UInt8} :
    '/' ∈ (decodeLossy bytes).toList ↔ FileName.slash ∈ bytes := by
  rw [mem_decodeLossy_iff (by decide)]
  constructor
  · rintro ⟨b, inside, ascii, same⟩
    have value := congrArg Char.toNat same
    rw [toNat_charOf ascii] at value
    have slash : b = FileName.slash := UInt8.toNat_inj.1 value
    exact slash ▸ inside
  · exact fun inside => ⟨_, inside, by decide, by decide⟩

open Text.Utf8 in
/-- Decoding makes no name plain that was not, and keeps one that was. -/
theorem plain_decodeLossy_iff {bytes : List UInt8} : Disk.Plain (decodeLossy bytes) ↔
    PlainBytes bytes := by
  have none : decodeLossy [] = "" := rfl
  have here : decodeLossy [FileName.dot] = "." := by decide +kernel
  have above : decodeLossy [FileName.dot, FileName.dot] = ".." := by decide +kernel
  constructor
  · rintro ⟨nonempty, notHere, notAbove, noSlash⟩
    refine ⟨?_, ?_, ?_, fun inside => noSlash (slash_mem_decodeLossy_iff.2 inside)⟩
    · rintro rfl
      exact nonempty none
    · rintro rfl
      exact notHere here
    · rintro rfl
      exact notAbove above
  · rintro ⟨nonempty, notHere, notAbove, noSlash⟩
    refine ⟨fun same => ?_, fun same => ?_, fun same => ?_, ?_⟩
    · exact nonempty (decodeLossy_inj (by decide +kernel) (same.trans none.symm))
    · exact notHere (decodeLossy_inj (by decide +kernel) (same.trans here.symm))
    · exact notAbove (decodeLossy_inj (by decide +kernel) (same.trans above.symm))
    · exact fun inside => noSlash (slash_mem_decodeLossy_iff.1 inside)

namespace FileSystem

variable {fs fs' : FileSystem} {name : List UInt8} {allowed : FileOperation → Prop}

section Sound

/-- A host file has a plain name, unless it is one that a program has made up. -/
def PlainOrItself (host : String) (name : FileName) : Prop :=
  Disk.Plain host ∨ host = Text.Utf8.decodeLossy name.toBytes

structure Sound (fs : FileSystem) : Prop where
  proper : fs.disk.Proper
  here : Disk.PlainPath fs.here
  names : fs.names.Holds PlainOrItself

theorem plain_of_mem_listing (proper : fs.disk.Proper) {host : String}
    (listed : host ∈ fs.listing) : Disk.Plain host := by
  rw [listing] at listed
  split at listed
  · exact Disk.plain_of_mem_fileNames proper listed
  · cases listed

theorem Sound.resolve (sound : Sound fs) (name : FileName) :
    PlainOrItself (fs.hostOf name) name ∧ (fs.knowing name).names.Holds PlainOrItself := by
  have listed (host) (inside : host ∈ fs.listing) (k : Nat)
      (_ : k ≤ (fs.knowing name).names.size) :
      PlainOrItself host (NameTable.candidate host k) :=
        .inl (plain_of_mem_listing sound.proper inside)
  have itself : PlainOrItself (Text.Utf8.decodeLossy name.toBytes) name := .inr rfl
  exact sound.names.resolve (Nat.le_refl _) listed itself

theorem Sound.listed (sound : Sound fs) : (fs.names.list fs.listing).2.Holds PlainOrItself :=
  (sound.names.list (Nat.le_refl _) fun _ listed _ _ =>
    .inl (plain_of_mem_listing sound.proper listed)).2

theorem blanked_entries (fs : FileSystem) (name : List UInt8) :
    (fs.blanked name).entries = fs.disk.entries ∨
      ∃ path, fs.target name = .ok (.missing path false) ∧
        (fs.blanked name).entries = (path, .file fs.disk.contents.length) :: fs.disk.entries := by
  unfold blanked
  split
  · exact .inl rfl
  · next path missing => exact .inr ⟨path, missing, rfl⟩
  · exact .inl rfl

theorem Sound.proper_blanked (sound : Sound fs) (name : List UInt8) : (fs.blanked name).Proper := by
  rcases fs.blanked_entries name with same | ⟨path, missing, added⟩
  · intro e inside
    exact sound.proper e (same ▸ inside)
  · intro e inside
    rw [added] at inside
    rw [target_eq] at missing
    rcases List.mem_cons.1 inside with rfl | inside
    · exact Disk.plainPath_of_find sound.here missing
    · exact sound.proper e inside

/-- Only a create changes what entries the disk has. -/
theorem Step.entries {op : FileOperation} (step : Step fs op fs') :
    fs'.disk.entries = fs.disk.entries ∨
    ∃ name, op = .create name ∧ fs'.disk = fs.blanked name := by
  cases step with
  | create name => exact .inr ⟨name, rfl, disk_create fs name⟩
  | openFile name mode => exact .inl (by rw [disk_openFile])
  | handle byHandle => exact .inl byHandle.entries
  | search pattern => exact .inl (by rw [(spared_search fs pattern).disk])
  | nextFound => exact .inl (by rw [(spared_nextFound fs).disk])

theorem Step.place {op : FileOperation} (step : Step fs op fs') :
    fs'.here = fs.here ∧ fs'.root = fs.root := by
  rcases step.names with same | ⟨name, _, same⟩ | ⟨pattern, rfl⟩ | ⟨name, rest, _, rfl⟩
  · exact ⟨same.here, same.root⟩
  · exact ⟨same.here, same.root⟩
  · rw [search_eq]
    exact ⟨rfl, rfl⟩
  · exact ⟨rfl, rfl⟩

theorem Sound.step (sound : Sound fs) {op : FileOperation} (step : Step fs op fs') : Sound fs' where
  proper := by
    rcases step.entries with same | ⟨name, _, disk⟩
    · intro e inside
      exact sound.proper e (same ▸ inside)
    · rw [disk]
      exact sound.proper_blanked name
  here := by
    rw [step.place.1]
    exact sound.here
  names := by
    rcases step.names with same | ⟨name, _, same⟩ | ⟨pattern, rfl⟩ |
      ⟨name, rest, _, rfl⟩
    · rw [same.names]
      exact sound.names
    · rw [same.names]
      exact (sound.resolve _).2
    · rw [search_eq]
      exact sound.listed
    · exact (sound.resolve _).2

theorem Reachable.sound (reachable : Reachable allowed fs) : Sound fs := by
  induction reachable with
  | @mount disk here root proper plain =>
    have fresh : Sound ⟨disk, here, root, .empty, [], []⟩ :=
      ⟨proper, plain, NameTable.holds_empty⟩
    rw [FileSystem.mount, refresh_eq]
    exact ⟨proper, plain, fresh.listed⟩
  | perform _ _ ih => exact ih.step (step_perform _ _)
  | host _ proper ih => exact ⟨proper, ih.here, ih.names⟩

end Sound

section Inside

/-- The directory that the file system shows. -/
def directory? (fs : FileSystem) : Option Path := fs.disk.directory? fs.here fs.root

/-- The host name is plain unless it is the program's own name and that is not. -/
theorem plain_hostOf_iff (reachable : Reachable allowed fs) (name : FileName) :
    Disk.Plain (fs.hostOf name) ↔
      (fs.hostOf name = Text.Utf8.decodeLossy name.toBytes → PlainBytes name.toBytes) := by
  constructor
  · intro plain same
    rw [same] at plain
    exact plain_decodeLossy_iff.1 plain
  · intro plain
    rcases (reachable.sound.resolve name).1 with host | itself
    · exact host
    · rw [itself]
      exact plain_decodeLossy_iff.2 (plain itself)

/-- Nothing but the entry `host` of the directory, or its place. -/
def IsEntry (fs : FileSystem) (host : String) (found : Disk.Found) : Prop :=
  ∃ dir, fs.directory? = some dir ∧
    (found = .directory (dir ++ [host]) ∨
      (∃ number, found = .file number ∧
        fs.disk.entry? (dir ++ [host]) = some (.file number)) ∨
      found = .missing (dir ++ [host]) false ∧ fs.disk.entry? (dir ++ [host]) = none)

/-- A plain name leads to its own entry in the directory, if it leads anywhere. -/
theorem target_of_plain (plain : Disk.Plain (fs.hostOf (.parse name))) {found : Disk.Found}
    (given : fs.target name = .ok found) : fs.IsEntry (fs.hostOf (.parse name)) found := by
  rw [target_eq] at given
  obtain ⟨dir, directory, arrived⟩ := Disk.find_join plain given
  exact ⟨dir, directory, Disk.arrive_plain plain arrived⟩

/-- The path of an entry of the directory. -/
def DirectlyIn (directory : Option Path) (path : Path) : Prop :=
  ∃ dir name, directory = some dir ∧ path = dir ++ [name]

theorem exists_entry_of_target (plain : Disk.Plain (fs.hostOf (.parse name))) {number : Nat}
    (there : fs.target name = .ok (.file number)) :
    ∃ path, DirectlyIn fs.directory? path ∧ fs.disk.entry? path = some (.file number) := by
  obtain ⟨dir, directory, same | ⟨_, same, entry⟩ | ⟨same, _⟩⟩ :=
    target_of_plain plain there
  · cases same
  · cases same
    exact ⟨_, ⟨dir, _, directory, rfl⟩, entry⟩
  · cases same

theorem entry?_of_target (plain : Disk.Plain (fs.hostOf (.parse name))) {path : Path} {b : Bool}
    (missing : fs.target name = .ok (.missing path b)) :
    DirectlyIn fs.directory? path ∧ path ≠ [] ∧ fs.disk.entry? path = none := by
  obtain ⟨dir, directory, same | ⟨_, same, _⟩ | ⟨same, entry⟩⟩ :=
    target_of_plain plain missing
  · cases same
  · cases same
  · cases same
    exact ⟨⟨dir, _, directory, rfl⟩,
      List.append_ne_nil_of_right_ne_nil _ (List.cons_ne_nil _ _), entry⟩

/-- What can have happened to a disk if only files directly in `directory` have
been made and written. -/
structure Inside (directory : Option Path) (before after : Disk) : Prop where
  kept : ∀ path entry, before.entry? path = some entry → after.entry? path = some entry
  directories : Disk.SameDirectories before after
  elsewhere : ∀ path, ¬ DirectlyIn directory path → after.entry? path = before.entry? path
  bytes : ∀ number,
    (∀ path, DirectlyIn directory path → after.entry? path ≠ some (.file number)) →
    after.bytes number = before.bytes number

theorem Inside.refl (directory : Option Path) (d : Disk) : Inside directory d d :=
  ⟨fun _ _ same => same, fun _ => .rfl, fun _ _ => rfl, fun _ _ => rfl⟩

theorem Inside.trans {directory : Option Path} {d d' d'' : Disk} (first : Inside directory d d')
    (second : Inside directory d' d'') : Inside directory d d'' where
  kept path entry same := second.kept path entry (first.kept path entry same)
  directories path := (second.directories path).trans (first.directories path)
  elsewhere path outside := (second.elsewhere path outside).trans (first.elsewhere path outside)
  bytes number outside := by
    rw [second.bytes number outside, first.bytes number]
    intro path inside there
    exact outside path inside (second.kept path _ there)

theorem entry?_congr {d d' : Disk} (same : d'.entries = d.entries) (path : Path) :
    d'.entry? path = d.entry? path := by
  unfold Disk.entry?
  split
  · rfl
  · rw [same]

theorem entry?_addFile (d : Disk) {path : Path} (named : path ≠ []) (other : Path) :
    Disk.entry? (d.addFile path).2 other = if other = path then some (.file d.contents.length)
      else d.entry? other := by
  unfold Disk.entry? Disk.addFile
  split
  · rw [if_neg named.symm]
  · rw [List.lookup_cons]
    split
    · next same => rw [if_pos (beq_iff_eq.1 same)]
    · next other => rw [if_neg (beq_eq_false_iff_ne.1 other)]

theorem bytes_addFile (d : Disk) (path : Path) (number : Nat) :
    (d.addFile path).2.bytes number = d.bytes number := by
  simp only [Disk.addFile, Disk.bytes, Disk.content, List.getD_eq_getElem?_getD,
    List.getElem?_append]
  split
  · rfl
  · next beyond =>
    rw [List.getElem?_eq_none (Nat.le_of_not_lt beyond)]
    cases number - d.contents.length <;> rfl

/-- To create a file with a plain name changes nothing but the entry of that name. -/
theorem inside_blanked (plain : Disk.Plain (fs.hostOf (.parse name))) :
    Inside fs.directory? fs.disk (fs.blanked name) := by
  unfold blanked
  split
  · next number there =>
    obtain ⟨path, within, entry⟩ := exists_entry_of_target plain there
    refine ⟨fun _ _ => id, fun _ => .rfl, fun _ _ => rfl,
      fun other outside => bytes_withContent _ _ ?_⟩
    rintro rfl
    exact outside path within entry
  · next path missing =>
    obtain ⟨within, named, entry⟩ := entry?_of_target plain missing
    have added := entry?_addFile fs.disk named
    refine ⟨fun other entry' same => ?_, fun other => ?_, fun other outside => ?_,
      fun _ _ => bytes_addFile _ _ _⟩
    · rw [added, if_neg]
      · exact same
      · rintro rfl
        rw [entry] at same
        cases same
    · rw [added]
      split
      · next same => simp [same, entry]
      · rfl
    · rw [added, if_neg]
      rintro rfl
      exact outside within
  · exact .refl _ _

theorem opened_addHandle {f : OpenFile} {number : Nat} (opened : (fs'.addHandle f).2.Opened number)
    (same : fs'.slots = fs.slots) : fs.Opened number ∨ f.file = some number := by
  rw [addHandle] at opened
  split at opened
  · obtain ⟨g, inside, file⟩ := opened
    exact .inl ⟨g, same ▸ inside, file⟩
  obtain ⟨g, inside, file⟩ := opened
  dsimp only at inside
  rw [withSlot, same] at inside
  have either : some g ∈ fs.slots ∨ g = f := by
    split at inside
    · exact (List.mem_or_eq_of_mem_set inside).imp_right Option.some.inj
    · exact (List.mem_append.1 inside).imp_right fun last =>
        Option.some.inj (List.mem_singleton.1 last)
  rcases either with there | rfl
  · exact .inl ⟨g, there, file⟩
  · exact .inr file

/-- Every open file is the one of an entry of the directory. -/
def Guarded (fs : FileSystem) : Prop :=
  ∀ number, fs.Opened number →
    ∃ path, DirectlyIn fs.directory? path ∧ fs.disk.entry? path = some (.file number)

theorem guarded_mount (disk : Disk) (here : Path) (root : String) :
    (mount disk here root).Guarded := by
  rintro number ⟨f, inside, _⟩
  rw [mount, refresh_eq] at inside
  cases inside

theorem opened_openFile (plain : Disk.Plain (fs.hostOf (.parse name))) {mode : AccessMode}
    {number : Nat} (opened : (fs.openFile name mode).2.Opened number) : fs.Opened number ∨
      ∃ path, DirectlyIn fs.directory? path ∧ fs.disk.entry? path = some (.file number) := by
  rcases fs.openFile_cases name mode with ⟨e, refused⟩ | ⟨file, added, found⟩
  · rw [refused] at opened
    exact .inl opened
  rw [added] at opened
  have either : fs.Opened number ∨ file = some number := opened_addHandle opened rfl
  rcases either with before | same
  · exact .inl before
  rcases found with none | ⟨number', given, there⟩
  · rw [none] at same
    cases same
  · rw [given] at same
    cases same
    exact .inr (exists_entry_of_target plain there)

theorem opened_create (plain : Disk.Plain (fs.hostOf (.parse name))) {number : Nat}
    (opened : (fs.create name).2.Opened number) :
    fs.Opened number ∨
      ∃ path, DirectlyIn fs.directory? path ∧
        Disk.entry? (fs.blanked name) path = some (.file number) := by
  rcases fs.create_cases name with ⟨e, refused, _⟩ | ⟨number', added, found⟩
  · rw [refused] at opened
    exact .inl opened
  rw [added] at opened
  have either : fs.Opened number ∨ some number' = some number := opened_addHandle opened rfl
  rcases either with before | same
  · exact .inl before
  cases same
  rcases found with there | ⟨path, missing, rfl⟩
  · obtain ⟨path, within, entry⟩ := exists_entry_of_target plain there
    have kept := (inside_blanked plain).kept path (.file number) entry
    exact .inr ⟨path, within, kept⟩
  · obtain ⟨within, named, _⟩ := entry?_of_target plain missing
    refine .inr ⟨path, within, ?_⟩
    unfold blanked
    rw [missing]
    dsimp only
    rw [entry?_addFile _ named, if_pos rfl]

theorem Step.directory? {op : FileOperation} (step : Step fs op fs')
    (inside : Inside fs.directory? fs.disk fs'.disk) : fs'.directory? = fs.directory? := by
  rw [FileSystem.directory?, FileSystem.directory?, step.place.1, step.place.2]
  exact inside.directories.directory?

/-- Through a handle only the bytes of an open file change. -/
theorem ByHandle.inside (byHandle : ByHandle fs fs') (guarded : fs.Guarded) :
    Inside fs.directory? fs.disk fs'.disk := by
  have same := entry?_congr byHandle.entries
  refine ⟨fun path entry there => (same path).trans there,
    fun path => by rw [same], fun path _ => same path, ?_⟩
  -- A file outside has no handle, since every open file is that of an entry inside.
  intro number outside
  refine byHandle.bytes number fun opened => ?_
  obtain ⟨path, within, entry⟩ := guarded number opened
  exact outside path within ((same path).trans entry)

/-- The names that an operation looks up are plain. -/
def AsksPlainly (op : FileOperation) : Prop :=
  ∀ name ∈ op.asksFor, PlainBytes (FileName.parse name).toBytes

instance (op : FileOperation) : Decidable (AsksPlainly op) :=
  inferInstanceAs (Decidable (∀ name ∈ op.asksFor, PlainBytes (FileName.parse name).toBytes))

theorem plain_hostOf (reachable : Reachable allowed fs)
    (plain : PlainBytes (FileName.parse name).toBytes) : Disk.Plain (fs.hostOf (.parse name)) :=
  (plain_hostOf_iff reachable (.parse name)).2 fun _ => plain

theorem Step.inside {op : FileOperation} (step : Step fs op fs') (reachable : Reachable allowed fs)
    (guarded : fs.Guarded) (plain : AsksPlainly op) : Inside fs.directory? fs.disk fs'.disk := by
  cases step with
  | create name =>
    rw [disk_create]
    exact inside_blanked (plain_hostOf reachable (plain name rfl))
  | openFile name mode =>
    rw [disk_openFile]
    exact .refl _ _
  | handle byHandle => exact byHandle.inside guarded
  | search pattern =>
    rw [(spared_search fs pattern).disk]
    exact .refl _ _
  | nextFound =>
    rw [(spared_nextFound fs).disk]
    exact .refl _ _

/-- A file that an operation opens is the one of an entry of the directory. -/
theorem Step.opened {op : FileOperation} (step : Step fs op fs') (reachable : Reachable allowed fs)
    (plain : AsksPlainly op) {number : Nat} (opened : fs'.Opened number) :
    fs.Opened number ∨
    ∃ path, DirectlyIn fs.directory? path ∧ fs'.disk.entry? path = some (.file number) := by
  cases step with
  | create name =>
    rw [disk_create]
    exact opened_create (plain_hostOf reachable (plain name rfl)) opened
  | openFile name mode =>
    rw [disk_openFile]
    exact opened_openFile (plain_hostOf reachable (plain name rfl)) opened
  | handle byHandle => exact .inl (byHandle.opened number opened)
  | search pattern => exact .inl ((spared_search fs pattern).opened opened)
  | nextFound => exact .inl ((spared_nextFound fs).opened opened)

theorem Step.guarded {op : FileOperation} (step : Step fs op fs') (reachable : Reachable allowed fs)
    (guarded : fs.Guarded) (plain : AsksPlainly op) : fs'.Guarded := by
  have inside := step.inside reachable guarded plain
  intro number opened
  rw [step.directory? inside]
  rcases step.opened reachable plain opened with before | there
  · obtain ⟨path, within, entry⟩ := guarded number before
    exact ⟨path, within, inside.kept path _ entry⟩
  · exact there

/-- Programs that use plain names alone make, empty and write nothing but files
directly in the directory. -/
theorem inside_performAll (reachable : Reachable allowed fs) (guarded : fs.Guarded)
    {ops : List FileOperation} (plain : ∀ op ∈ ops, AsksPlainly op)
    (asked : ∀ op ∈ ops, allowed op) :
    Inside fs.directory? fs.disk (fs.performAll ops).disk ∧
      (fs.performAll ops).directory? = fs.directory? ∧
      (fs.performAll ops).Guarded := by
  induction ops generalizing fs with
  | nil => exact ⟨.refl _ _, rfl, guarded⟩
  | cons op ops ih =>
    -- No step moves the directory, so what stays inside it at the end did so all the way.
    have step := step_perform op fs
    have first := step.inside reachable guarded (plain op List.mem_cons_self)
    have directory := step.directory? first
    obtain ⟨rest, directory', guarded'⟩ := ih (reachable.perform (asked op List.mem_cons_self))
      (step.guarded reachable guarded (plain op List.mem_cons_self))
      (fun other inside => plain other (List.mem_cons_of_mem _ inside))
      (fun other inside => asked other (List.mem_cons_of_mem _ inside))
    rw [directory] at rest
    exact ⟨first.trans rest, directory'.trans directory, guarded'⟩

/-- Whatever the host has done and whatever names were used before: after any operations with plain
names, a plain name leads to its own entry of the directory or nowhere, the operations have left
alone all else that the disk has, and no handle belongs to anything else. -/
theorem plain_names_stay_inside (reachable : Reachable (fun _ => True) fs) (guarded : fs.Guarded)
    {ops : List FileOperation} (plain : ∀ op ∈ ops, AsksPlainly op) :
    (∀ name, PlainBytes (FileName.parse name).toBytes →
      Disk.Plain ((fs.performAll ops).hostOf (.parse name)) ∧
        ∀ found, (fs.performAll ops).target name = .ok found →
          (fs.performAll ops).IsEntry ((fs.performAll ops).hostOf (.parse name)) found) ∧
      Inside fs.directory? fs.disk (fs.performAll ops).disk ∧
      (fs.performAll ops).directory? = fs.directory? ∧
      (fs.performAll ops).Guarded := by
  have after : Reachable (fun _ => True) (fs.performAll ops) :=
    reachable.performAll fun _ _ => trivial
  refine ⟨fun name plain => ?_, inside_performAll reachable guarded plain fun _ _ => trivial⟩
  have host := plain_hostOf after plain
  exact ⟨host, fun found given => target_of_plain host given⟩

/-- A root directory with a directory in it, and no handle taken. -/
def nested : FileSystem := mount (Disk.empty.addDirectories ["r", "SUB"]) [] "/r"

theorem reachable_nested : Reachable (fun _ => True) nested :=
  .mount "/r" (by decide +kernel) (by decide)

def plainName : List UInt8 := "c:\\games\\x.y".toUTF8.data.toList

theorem plain_name_stays_inside :
    Inside nested.directory? nested.disk
      (nested.performAll [.create plainName, .write 5 [1, 2, 3]]).disk :=
  (plain_names_stay_inside reachable_nested (guarded_mount _ _ _) (by decide +kernel)).2.1

def slashedName : List UInt8 := "SUB/X.Y".toUTF8.data.toList

/-- Slashes stay, and the name leads out of the root directory. -/
theorem slashed_name_leads_outside :
    Reachable (fun _ => True) nested ∧ nested.directory? = some ["r"] ∧
      nested.hostOf (.parse slashedName) = "SUB/X.Y" ∧
      ¬ Disk.Plain (nested.hostOf (.parse slashedName)) ∧
      nested.disk.entry? ["r", "SUB", "X.Y"] = none ∧
      Disk.entry? (nested.create slashedName).2.disk ["r", "SUB", "X.Y"] = some (.file 0) := by
  refine ⟨reachable_nested, ?_⟩
  rw [disk_create]
  decide +kernel

end Inside

end FileSystem

end RealMode.Dos
