import RealMode.Proofs.HandleTable
import RealMode.Proofs.Lockstep
import RealMode.Proofs.NameMapping

/-!
# File systems that answer alike

Two file systems are alike if they have the same disk, open every handle the same way, show the same
rest of a search and know the same names, however they have come by them. Every operation then
answers the same on both, and they stay alike.
-/

namespace RealMode.Dos

namespace NameTable

variable {t u : NameTable} {host : String} {name : FileName}

/-- The same answers in both directions. The tables can have kept other entries for a
name that do not count. -/
structure Alike (t u : NameTable) : Prop where
  shortName? : ∀ host, t.shortName? host = u.shortName? host
  hostName? : ∀ name, t.hostName? name = u.hostName? name

theorem Alike.enter (alike : t.Alike u) (host : String) (name : FileName) :
    (t.enter host name).Alike (u.enter host name) where
  shortName? other := by rw [shortName?_enter, shortName?_enter, alike.shortName?]
  hostName? other := by rw [hostName?_enter, hostName?_enter, alike.hostName?]

/-- A larger table tries more candidates, but both stop at the first that is free. -/
theorem Alike.firstFree_eq (alike : t.Alike u) (host : String) :
    t.firstFree host 0 (t.hostNames.length + 1) = u.firstFree host 0 (u.hostNames.length + 1) := by
  obtain ⟨j, _, left, before⟩ := t.exists_firstFree_eq host 0 (t.hostNames.length + 1)
  obtain ⟨k, _, right, earlier⟩ := u.exists_firstFree_eq host 0 (u.hostNames.length + 1)
  have free := t.hostName?_firstFree host
  have free' := u.hostName?_firstFree host
  rw [left, alike.hostName?] at free
  rw [right, ← alike.hostName?] at free'
  have above : ¬ j < k := fun below => earlier j (Nat.zero_le _) below free
  have below : ¬ k < j := fun above => before k (Nat.zero_le _) above free'
  have same : j = k := by omega
  rw [left, right, same]

theorem Alike.assign (alike : t.Alike u) (host : String) :
    SameAnswer Alike (t.assign host) (u.assign host) := by
  rw [NameTable.assign, NameTable.assign, alike.shortName?, alike.firstFree_eq]
  cases u.shortName? host with
  | some name => exact ⟨name, alike⟩
  | none => exact ⟨_, alike.enter host _⟩

theorem Alike.list (alike : t.Alike u) (hosts : List String) :
    SameAnswer Alike (t.list hosts) (u.list hosts) := by
  induction hosts generalizing t u with
  | nil => exact ⟨_, alike⟩
  | cons host hosts ih =>
    have first := alike.assign host
    rw [NameTable.list, NameTable.list]
    revert first
    generalize t.assign host = left, u.assign host = right
    rintro @⟨name, t', u', entered⟩
    have rest := ih entered
    dsimp only
    revert rest
    generalize t'.list hosts = left, u'.list hosts = right
    rintro ⟨names, listed⟩
    exact ⟨_, listed⟩

theorem Alike.resolve (alike : t.Alike u) (listing : List String) (name : FileName) :
    SameAnswer Alike (t.resolve listing name) (u.resolve listing name) := by
  have first := alike.list listing
  rw [NameTable.resolve, NameTable.resolve]
  revert first
  generalize t.list listing = left, u.list listing = right
  rintro ⟨names, listed⟩
  dsimp only
  rw [listed.hostName?]
  split
  · exact ⟨_, listed⟩
  · exact ⟨_, listed.enter _ name⟩

end NameTable

namespace FileSystem

variable {a b : FileSystem} {handle : UInt16} {f : OpenFile}

structure Alike (a b : FileSystem) : Prop where
  disk : a.disk = b.disk
  here : a.here = b.here
  root : a.root = b.root
  names : a.names.Alike b.names
  handles : ∀ handle, a.openFile? handle = b.openFile? handle
  found : a.found = b.found

/-- The lowest slot that holds nothing, whether it is there or lies behind the last one. -/
theorem freeSlot_eq_some_iff {slots : List (Option OpenFile)} {slot : Nat} :
    freeSlot slots = some slot ↔
      slot < maxOpen ∧ (slots[slot]?).join = none ∧
      ∀ earlier < slot, (slots[earlier]?).join ≠ none := by
  constructor
  · intro free
    obtain ⟨small, _, empty, taken⟩ := of_freeSlot free
    refine ⟨small, empty, fun earlier before => ?_⟩
    obtain ⟨f, same⟩ := taken earlier before
    rw [same]
    exact Option.some_ne_none f
  · rintro ⟨small, empty, taken⟩
    cases free : freeSlot slots with
    | some found =>
      obtain ⟨_, _, nothing, before⟩ := of_freeSlot free
      have above : ¬ found < slot := fun below => taken found below nothing
      have below : ¬ slot < found := by
        intro above
        obtain ⟨f, same⟩ := before slot above
        rw [same] at empty
        cases empty
      exact congrArg some (by omega)
    | none =>
      rw [freeSlot] at free
      split at free
      · cases free
      · next full =>
        have before : slot < slots.findIdx Option.isNone := by omega
        have inside : slot < slots.length := Nat.lt_of_lt_of_le before List.findIdx_le_length
        obtain ⟨f, same⟩ :=
          Option.isSome_iff_exists.1 (Option.isNone_eq_false_iff.1 (List.not_of_lt_findIdx before))
        rw [List.getElem?_eq_getElem inside, same] at empty
        cases empty

theorem openFile?_handleOf {slot : Nat} (small : slot < maxOpen) (fs : FileSystem) :
    fs.openFile? (handleOf slot) = (fs.slots[slot]?).join := by
  rw [openFile?, toNat_handleOf small, if_neg (by omega), Nat.add_sub_cancel]

theorem openFile?_mount (disk : Disk) (here : Path) (root : String) (handle : UInt16) :
    (mount disk here root).openFile? handle = none := by
  rw [mount, refresh_eq, openFile?]
  split <;> rfl

namespace Alike

theorem freeSlot_eq (alike : a.Alike b) : freeSlot a.slots = freeSlot b.slots := by
  have slots (slot : Nat) (small : slot < maxOpen) : (a.slots[slot]?).join =
      (b.slots[slot]?).join := by
    rw [← openFile?_handleOf small, ← openFile?_handleOf small, alike.handles]
  refine Option.ext fun slot => ?_
  rw [freeSlot_eq_some_iff, freeSlot_eq_some_iff]
  refine and_congr_right fun small => and_congr (by rw [slots slot small]) ?_
  exact forall₂_congr fun earlier before => by rw [slots earlier (Nat.lt_trans before small)]

theorem withDisk (alike : a.Alike b) (disk : Disk) :
    Alike { a with disk := disk } { b with disk := disk } :=
  ⟨rfl, alike.here, alike.root, alike.names, alike.handles, alike.found⟩

theorem withNames (alike : a.Alike b) {t u : NameTable} (names : t.Alike u) :
    Alike { a with names := t } { b with names := u } :=
  ⟨alike.disk, alike.here, alike.root, names, alike.handles, alike.found⟩

theorem withFound (alike : a.Alike b) (found : List FileName) :
    Alike { a with found := found } { b with found := found } :=
  ⟨alike.disk, alike.here, alike.root, alike.names, alike.handles, rfl⟩

theorem listing (alike : a.Alike b) : a.listing = b.listing := by
  rw [FileSystem.listing, FileSystem.listing, alike.disk, alike.here, alike.root]

theorem find (alike : a.Alike b) (host : String) : a.find host = b.find host := by
  rw [FileSystem.find, FileSystem.find, alike.disk, alike.here, alike.root]

theorem refresh (alike : a.Alike b) : SameAnswer Alike a.refresh b.refresh := by
  have listed := alike.names.list a.listing
  rw [FileSystem.refresh, FileSystem.refresh, ← alike.listing]
  revert listed
  generalize a.names.list a.listing = left, b.names.list a.listing = right
  rintro ⟨names, listed⟩
  exact ⟨names, alike.withNames listed⟩

theorem known (alike : a.Alike b) (name : FileName) :
    a.hostOf name = b.hostOf name ∧ (a.knowing name).Alike (b.knowing name) := by
  have resolved := alike.names.resolve a.listing name
  rw [hostOf, hostOf, knowing, knowing, ← alike.listing]
  revert resolved
  generalize a.names.resolve a.listing name = left, b.names.resolve a.listing name = right
  rintro ⟨host, resolved⟩
  exact ⟨rfl, alike.withNames resolved⟩

theorem addHandle (alike : a.Alike b) (f : OpenFile) :
    SameAnswer Alike (a.addHandle f) (b.addHandle f) := by
  rw [FileSystem.addHandle, FileSystem.addHandle, ← alike.freeSlot_eq]
  cases free : freeSlot a.slots with
  | none => exact ⟨_, alike⟩
  | some slot =>
    have free' : freeSlot b.slots = some slot := by rw [← alike.freeSlot_eq, free]
    refine ⟨_, alike.disk, alike.here, alike.root, alike.names, fun handle => ?_, alike.found⟩
    refine (openFile?_withSlot free rfl handle).trans ?_
    rw [alike.handles]
    exact (openFile?_withSlot free' rfl handle).symm

/-- For a handle that is open. -/
theorem setHandle (alike : a.Alike b) (known : a.openFile? handle = some f) (g : Option OpenFile) :
    (a.setHandle handle g).Alike (b.setHandle handle g) where
  disk := alike.disk
  here := alike.here
  root := alike.root
  names := alike.names
  handles other := by
    have known' : b.openFile? handle = some f := by rw [← alike.handles, known]
    refine (openFile?_set known rfl other).trans ?_
    rw [alike.handles]
    exact (openFile?_set known' rfl other).symm
  found := alike.found

theorem create (alike : a.Alike b) (name : List UInt8) :
    SameAnswer Alike (a.create name) (b.create name) := by
  obtain ⟨host, named⟩ := alike.known (.parse name)
  unfold FileSystem.create
  rw [hostName_eq, hostName_eq, host]
  dsimp only
  rw [named.find, named.disk]
  split
  · exact ⟨_, named⟩
  · exact ⟨_, named⟩
  · exact (named.withDisk _).addHandle _
  · split
    · exact ⟨_, named⟩
    · exact (named.withDisk _).addHandle _

theorem openFile (alike : a.Alike b) (name : List UInt8) (mode : AccessMode) :
    SameAnswer Alike (a.openFile name mode) (b.openFile name mode) := by
  obtain ⟨host, named⟩ := alike.known (.parse name)
  unfold FileSystem.openFile
  rw [hostName_eq, hostName_eq, host]
  dsimp only
  rw [named.find]
  split
  · exact ⟨_, named⟩
  · split
    · exact named.addHandle _
    · exact ⟨_, named⟩
  · exact named.addHandle _
  · exact ⟨_, named⟩

theorem close (alike : a.Alike b) (handle : UInt16) :
    SameAnswer Alike (a.close handle) (b.close handle) := by
  rw [FileSystem.close, FileSystem.close, ← alike.handles]
  cases known : a.openFile? handle with
  | none => exact ⟨_, alike⟩
  | some f => exact ⟨_, alike.setHandle known none⟩

theorem read (alike : a.Alike b) (handle : UInt16) (count : Nat) :
    SameAnswer Alike (a.read handle count) (b.read handle count) := by
  rw [FileSystem.read, FileSystem.read, ← alike.handles, alike.disk]
  cases known : a.openFile? handle with
  | none => exact ⟨_, alike⟩
  | some f =>
    dsimp only
    split
    · exact ⟨_, alike⟩
    · cases f.file with
      | none => exact ⟨_, alike⟩
      | some number =>
        dsimp only
        split
        · exact ⟨_, alike⟩
        · exact ⟨_, alike.setHandle known _⟩

theorem write (alike : a.Alike b) (handle : UInt16) (data : List UInt8) :
    SameAnswer Alike (a.write handle data) (b.write handle data) := by
  rw [FileSystem.write, FileSystem.write, ← alike.handles, alike.disk]
  cases known : a.openFile? handle with
  | none => exact ⟨_, alike⟩
  | some f =>
    dsimp only
    split
    · exact ⟨_, alike⟩
    · cases f.file with
      | none => exact ⟨_, alike⟩
      | some number =>
        dsimp only
        split
        · exact ⟨_, alike⟩
        · exact ⟨_, (alike.setHandle known _).withDisk _⟩

theorem seek (alike : a.Alike b) (handle : UInt16) (offset : UInt32) (origin : SeekOrigin) :
    SameAnswer Alike (a.seek handle offset origin) (b.seek handle offset origin) := by
  have target (f : OpenFile) : a.seekTarget f offset origin = b.seekTarget f offset origin := by
    cases origin <;> simp only [seekTarget, alike.disk]
  rw [FileSystem.seek, FileSystem.seek, ← alike.handles]
  cases known : a.openFile? handle with
  | none => exact ⟨_, alike⟩
  | some f =>
    dsimp only
    rw [target f]
    split
    · exact ⟨_, alike⟩
    · split
      · exact ⟨_, alike⟩
      · exact ⟨_, alike.setHandle known _⟩

theorem search (alike : a.Alike b) (pattern : List UInt8) :
    (a.search pattern).Alike (b.search pattern) := by
  have refreshed := alike.refresh
  rw [FileSystem.search, FileSystem.search]
  revert refreshed
  generalize a.refresh = left, b.refresh = right
  rintro ⟨names, refreshed⟩
  exact refreshed.withFound _

theorem sizeOf (alike : a.Alike b) (host : String) : a.sizeOf host = b.sizeOf host := by
  rw [FileSystem.sizeOf, FileSystem.sizeOf, alike.find, alike.disk]

theorem nextFound (alike : a.Alike b) : SameAnswer Alike a.nextFound b.nextFound := by
  rw [FileSystem.nextFound, FileSystem.nextFound, alike.found]
  cases b.found with
  | nil => exact ⟨_, alike⟩
  | cons name rest =>
    obtain ⟨host, named⟩ := (alike.withFound rest).known name
    dsimp only
    rw [hostName_eq, hostName_eq, host]
    dsimp only
    rw [named.sizeOf]
    exact ⟨_, named⟩

end Alike

end FileSystem

end RealMode.Dos
