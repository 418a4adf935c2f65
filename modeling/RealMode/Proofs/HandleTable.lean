import Mathlib.Data.List.Induction
import Mathlib.Data.List.Nodup
import Mathlib.Data.List.Perm.Subperm
import RealMode.Proofs.FileOperations

/-!
# The handles of a file system

A handle is in use from the operation that gives it out until it is closed, whatever else happens in
between. The lowest free one is given out, from 5 on, and at most fifteen are in use at once. What
is done through one handle changes no other.
-/

namespace RealMode.Dos

/-- The handle that an operation works on. -/
def FileOperation.handle? : FileOperation → Option UInt16
  | .close handle => some handle
  | .read handle _ => some handle
  | .write handle _ => some handle
  | .seek handle _ _ => some handle
  | _ => none

/-- The handle that an operation gives out. -/
def FileOperation.given (op : FileOperation) (fs : FileSystem) : Option UInt16 :=
  match op with
  | .create name => (fs.create name).1.toOption
  | .openFile name mode => (fs.openFile name mode).1.toOption
  | _ => none

/-- An operation on a handle gives out none. -/
theorem FileOperation.given_of_handle? {op : FileOperation} {handle : UInt16}
    (uses : op.handle? = some handle) (fs : FileSystem) : op.given fs = none := by
  cases op with
  | create => cases uses
  | openFile => cases uses
  | _ => rfl

/-- What can happen to a file system. -/
inductive FileEvent where
  | operation (op : FileOperation)
  /-- The host puts another disk in the place of the one that is there. -/
  | host (disk : Disk)

namespace FileSystem

def afterEvent (fs : FileSystem) : FileEvent → FileSystem
  | .operation op => (op.perform fs).2
  | .host disk => { fs with disk := disk }

def run (fs : FileSystem) (events : List FileEvent) : FileSystem := events.foldl afterEvent fs

variable {fs fs' : FileSystem} {op : FileOperation} {handle other : UInt16}
  {f : OpenFile} {slot : Nat}

theorem run_concat (fs : FileSystem) (events : List FileEvent) (event : FileEvent) :
    fs.run (events ++ [event]) = (fs.run events).afterEvent event := by
  simp only [run, List.foldl_append, List.foldl_cons, List.foldl_nil]

def IsOpen (fs : FileSystem) (handle : UInt16) : Prop := fs.openFile? handle ≠ none

section Slots

/-- The handle of a slot. -/
def handleOf (slot : Nat) : UInt16 := UInt16.ofNat (slot + firstHandle)

theorem toNat_handleOf (small : slot < maxOpen) : (handleOf slot).toNat = slot + firstHandle := by
  simp only [maxOpen] at small
  rw [handleOf, UInt16.toNat_ofNat']
  exact Nat.mod_eq_of_lt (by simp only [firstHandle]; omega)

theorem openFile?_eq_some_iff :
    fs.openFile? handle = some f ↔
      firstHandle ≤ handle.toNat ∧ fs.slots[handle.toNat - firstHandle]? = some (some f) := by
  rw [openFile?]
  split
  · next low =>
    constructor
    · intro none
      cases none
    · intro high
      omega
  · next high =>
    rw [Option.join_eq_some_iff]
    exact ⟨fun inside => ⟨Nat.le_of_not_lt high, inside⟩, fun both => both.2⟩

theorem openFile?_congr (same : fs'.slots = fs.slots) (handle : UInt16) :
    fs'.openFile? handle = fs.openFile? handle := by
  rw [openFile?, openFile?, same]

/-- The slot that is given out holds nothing, and every slot before it is taken. -/
theorem of_freeSlot {slots : List (Option OpenFile)} (free : freeSlot slots = some slot) :
    slot < maxOpen ∧ slot ≤ slots.length ∧ (slots[slot]?).join = none ∧
      ∀ earlier < slot, ∃ f, slots[earlier]? = some (some f) := by
  rw [freeSlot] at free
  split at free
  next small =>
    cases free
    refine ⟨small, List.findIdx_le_length, ?_, ?_⟩
    · by_cases inside : slots.findIdx Option.isNone < slots.length
      · have empty := List.findIdx_getElem (p := Option.isNone) (w := inside)
        rw [List.getElem?_eq_getElem inside]
        exact Option.isNone_iff_eq_none.1 empty
      · rw [List.getElem?_eq_none (Nat.le_of_not_lt inside)]
        rfl
    · intro earlier before
      have inside : earlier < slots.length := Nat.lt_of_lt_of_le before List.findIdx_le_length
      have taken := List.not_of_lt_findIdx before
      obtain ⟨f, same⟩ := Option.isSome_iff_exists.1 (Option.isNone_eq_false_iff.1 taken)
      exact ⟨f, by rw [List.getElem?_eq_getElem inside, same]⟩
  · cases free

theorem getElem?_withSlot {slots : List (Option OpenFile)} (near : slot ≤ slots.length)
    (f : OpenFile) (i : Nat) :
    (withSlot slots slot f)[i]? = if i = slot then some (some f) else slots[i]? := by
  rw [withSlot]
  split
  · next inside =>
    rw [List.getElem?_set]
    by_cases same : slot = i
    · rw [if_pos same, if_pos (same ▸ inside), if_pos same.symm]
    · rw [if_neg same, if_neg fun back => same back.symm]
  · next outside =>
    have last : slot = slots.length := by omega
    subst last
    by_cases same : i = slots.length
    · rw [if_pos same, same, List.getElem?_concat_length]
    · rw [if_neg same, List.getElem?_append]
      split
      · rfl
      · next beyond =>
        rw [List.getElem?_eq_none (by simp only [List.length_singleton]; omega),
          List.getElem?_eq_none (by omega)]

theorem length_withSlot {slots : List (Option OpenFile)} (small : slot < maxOpen)
    (few : slots.length ≤ maxOpen) (near : slot ≤ slots.length) :
    (withSlot slots slot f).length ≤ maxOpen := by
  rw [withSlot]
  split
  · rwa [List.length_set]
  · rw [List.length_append, List.length_singleton]
    omega

theorem openFile?_withSlot (free : freeSlot fs.slots = some slot)
    (slots : fs'.slots = withSlot fs.slots slot f) (handle : UInt16) :
    fs'.openFile? handle = if handle = handleOf slot then some f else fs.openFile? handle := by
  obtain ⟨small, near, _, _⟩ := of_freeSlot free
  have place := toNat_handleOf small
  rw [openFile?, openFile?, slots, getElem?_withSlot near]
  by_cases low : handle.toNat < firstHandle
  · have apart : handle ≠ handleOf slot := by
      rintro rfl
      omega
    rw [if_pos low, if_neg apart, if_pos low]
  · rw [if_neg low, if_neg low]
    by_cases same : handle = handleOf slot
    · have here : handle.toNat - firstHandle = slot := by
        rw [same, place]
        omega
      rw [if_pos same, if_pos here]
      rfl
    · have apart : handle.toNat - firstHandle ≠ slot := by
        intro here
        apply same
        rw [← UInt16.toNat_inj, place]
        omega
      rw [if_neg same, if_neg apart]

theorem openFile?_set (known : fs.openFile? handle = some f) {g : Option OpenFile}
    (slots : fs'.slots = fs.slots.set (handle.toNat - firstHandle) g) (other : UInt16) :
    fs'.openFile? other = if other = handle then g else fs.openFile? other := by
  obtain ⟨high, inside⟩ := openFile?_eq_some_iff.1 known
  obtain ⟨bound, _⟩ := List.getElem?_eq_some_iff.1 inside
  rw [openFile?, openFile?, slots, List.getElem?_set]
  by_cases low : other.toNat < firstHandle
  · have apart : other ≠ handle := by
      rintro rfl
      omega
    rw [if_pos low, if_neg apart, if_pos low]
  · rw [if_neg low, if_neg low]
    by_cases same : other = handle
    · rw [same, if_pos rfl, if_pos rfl, if_pos bound]
      rfl
    · have apart : handle.toNat - firstHandle ≠ other.toNat - firstHandle := by
        intro here
        apply same
        rw [← UInt16.toNat_inj]
        omega
      rw [if_neg same, if_neg apart]

/-- To put an open file back where it is changes nothing. -/
theorem set_known (known : fs.openFile? handle = some f) :
    fs.slots.set (handle.toNat - firstHandle) (some f) = fs.slots := by
  obtain ⟨_, inside⟩ := openFile?_eq_some_iff.1 known
  obtain ⟨bound, same⟩ := List.getElem?_eq_some_iff.1 inside
  rw [← same, List.set_getElem_self]

end Slots

section Steps

/-- What an operation does to the handles, and what it answers if it works on one. -/
inductive HandleStep (fs : FileSystem) (op : FileOperation) (answer : Except Error Unit)
    (fs' : FileSystem) : Prop where
  | unused (uses : op.handle? = none) (given : op.given fs = none) (slots : fs'.slots = fs.slots)
  | given {slot : Nat} (f : OpenFile) (uses : op.handle? = none)
      (free : freeSlot fs.slots = some slot)
      (given : op.given fs = some (handleOf slot)) (slots : fs'.slots = withSlot fs.slots slot f)
  | shut {handle : UInt16} (uses : op.handle? = some handle) (shut : fs.openFile? handle = none)
      (answer : answer = .error .invalidFileHandle) (slots : fs'.slots = fs.slots)
  | closed {handle : UInt16} {f : OpenFile} (closes : op = .close handle)
      (known : fs.openFile? handle = some f)
      (answer : answer ≠ .error .invalidFileHandle)
      (slots : fs'.slots = fs.slots.set (handle.toNat - firstHandle) none)
  | moved {handle : UInt16} {f : OpenFile} (position : Nat) (uses : op.handle? = some handle)
      (stays : op ≠ .close handle) (known : fs.openFile? handle = some f)
      (answer : answer ≠ .error .invalidFileHandle)
      (slots : fs'.slots =
        fs.slots.set (handle.toNat - firstHandle) (some { f with position := position }))

/-- An operation that leaves an open handle where it is. -/
theorem HandleStep.still {answer : Except Error Unit} (uses : op.handle? = some handle)
    (stays : op ≠ .close handle) (known : fs.openFile? handle = some f)
    (valid : answer ≠ .error .invalidFileHandle) : HandleStep fs op answer fs :=
  .moved f.position uses stays known valid (set_known known).symm

theorem addHandle_cases (fs : FileSystem) (f : OpenFile) :
    fs.addHandle f = (.error .noFileHandlesLeft, fs) ∨
      ∃ slot, freeSlot fs.slots = some slot ∧
        fs.addHandle f = (.ok (handleOf slot), { fs with slots := withSlot fs.slots slot f }) := by
  rw [addHandle]
  cases free : freeSlot fs.slots with
  | none => exact .inl rfl
  | some slot => exact .inr ⟨slot, rfl, rfl⟩

/-- A handle is looked for, and the operation answers what comes of that. -/
theorem handleStep_addHandle {f : OpenFile} (uses : op.handle? = none) (same : fs'.slots = fs.slots)
    (given : op.given fs = (fs'.addHandle f).1.toOption) :
    HandleStep fs op (FileOperation.outcome (fs'.addHandle f)).1 (fs'.addHandle f).2 := by
  rcases fs'.addHandle_cases f with full | ⟨slot, free, added⟩
  · rw [full] at given ⊢
    exact .unused uses given same
  · rw [added] at given ⊢
    rw [same] at free
    exact .given f uses free given (by rw [same])

theorem handleStep_create (fs : FileSystem) (name : List UInt8) :
    HandleStep fs (.create name) (FileOperation.outcome (fs.create name)).1 (fs.create name).2 := by
  have given : (FileOperation.create name).given fs = (fs.create name).1.toOption := rfl
  rcases fs.create_cases name with ⟨e, refused, _⟩ | ⟨number, added, _⟩
  · rw [refused] at given ⊢
    exact .unused rfl given rfl
  · rw [added] at given ⊢
    exact handleStep_addHandle rfl rfl given

theorem handleStep_openFile (fs : FileSystem) (name : List UInt8) (mode : AccessMode) :
    HandleStep fs (.openFile name mode) (FileOperation.outcome (fs.openFile name mode)).1
      (fs.openFile name mode).2 := by
  have given : (FileOperation.openFile name mode).given fs = (fs.openFile name mode).1.toOption :=
    rfl
  rcases fs.openFile_cases name mode with ⟨e, refused⟩ | ⟨file, added, _⟩
  · rw [refused] at given ⊢
    exact .unused rfl given rfl
  · rw [added] at given ⊢
    exact handleStep_addHandle rfl rfl given

theorem handleStep_close (fs : FileSystem) (handle : UInt16) :
    HandleStep fs (.close handle) (fs.close handle).1 (fs.close handle).2 := by
  rw [close]
  cases known : fs.openFile? handle with
  | none => exact .shut rfl known rfl rfl
  | some f => exact .closed rfl known (by simp) rfl

theorem handleStep_read (fs : FileSystem) (handle : UInt16) (count : Nat) :
    HandleStep fs (.read handle count) (FileOperation.outcome (fs.read handle count)).1
      (fs.read handle count).2 := by
  rw [read]
  cases known : fs.openFile? handle with
  | none => exact .shut rfl known rfl rfl
  | some f =>
    dsimp only
    split
    · exact .still rfl (by simp) known (by simp [FileOperation.outcome, Except.map])
    split
    · exact .still rfl (by simp) known (by simp [FileOperation.outcome, Except.map])
    split
    · exact .still rfl (by simp) known (by simp [FileOperation.outcome, Except.map])
    · exact .moved _ rfl (by simp) known (by simp [FileOperation.outcome, Except.map]) rfl

theorem handleStep_write (fs : FileSystem) (handle : UInt16) (data : List UInt8) :
    HandleStep fs (.write handle data) (FileOperation.outcome (fs.write handle data)).1
      (fs.write handle data).2 := by
  rw [write]
  cases known : fs.openFile? handle with
  | none => exact .shut rfl known rfl rfl
  | some f =>
    dsimp only
    split
    · exact .still rfl (by simp) known (by simp [FileOperation.outcome, Except.map])
    split
    · exact .still rfl (by simp) known (by simp [FileOperation.outcome, Except.map])
    split
    · exact .still rfl (by simp) known (by simp [FileOperation.outcome, Except.map])
    · exact .moved _ rfl (by simp) known (by simp [FileOperation.outcome, Except.map]) rfl

/-- A seek fails for other reasons than its handle. -/
theorem seekTarget_ne_invalid (fs : FileSystem) (f : OpenFile) (offset : UInt32)
    (origin : SeekOrigin) : fs.seekTarget f offset origin ≠ .error .invalidFileHandle := by
  cases origin with
  | start => simp [seekTarget]
  | current => simp [seekTarget]
  | stop =>
    rw [seekTarget]
    cases f.file with
    | none => simp
    | some number => simp

theorem handleStep_seek (fs : FileSystem) (handle : UInt16) (offset : UInt32)
    (origin : SeekOrigin) :
    HandleStep fs (.seek handle offset origin)
      (FileOperation.outcome (fs.seek handle offset origin)).1
      (fs.seek handle offset origin).2 := by
  rw [seek]
  cases known : fs.openFile? handle with
  | none => exact .shut rfl known rfl rfl
  | some f =>
    have valid := fs.seekTarget_ne_invalid f offset origin
    dsimp only
    cases target : fs.seekTarget f offset origin with
    | error e =>
      rw [target] at valid
      refine .still rfl (by simp) known ?_
      simpa [FileOperation.outcome, Except.map] using valid
    | ok target =>
      dsimp only
      split
      · exact .still rfl (by simp) known (by simp [FileOperation.outcome, Except.map])
      · exact .moved _ rfl (by simp) known (by simp [FileOperation.outcome, Except.map]) rfl

theorem handleStep_perform (op : FileOperation) (fs : FileSystem) :
    HandleStep fs op (op.perform fs).1 (op.perform fs).2 := by
  cases op with
  | create name =>
    simp only [FileOperation.perform, FileOperation.outcome_snd]
    exact handleStep_create fs name
  | openFile name mode =>
    simp only [FileOperation.perform, FileOperation.outcome_snd]
    exact handleStep_openFile fs name mode
  | close handle => exact handleStep_close fs handle
  | read handle count => exact handleStep_read fs handle count
  | write handle data => exact handleStep_write fs handle data
  | seek handle offset origin => exact handleStep_seek fs handle offset origin
  | search pattern => exact .unused rfl rfl (spared_search fs pattern).slots
  | nextFound => exact .unused rfl rfl (spared_nextFound fs).slots

end Steps

section Counting

theorem HandleStep.length_slots {answer : Except Error Unit} (step : HandleStep fs op answer fs')
    (few : fs.slots.length ≤ maxOpen) : fs'.slots.length ≤ maxOpen := by
  cases step with
  | unused _ _ slots => rwa [slots]
  | given _ _ free _ slots =>
    obtain ⟨small, near, _, _⟩ := of_freeSlot free
    rw [slots]
    exact length_withSlot small few near
  | shut _ _ _ slots => rwa [slots]
  | closed _ _ _ slots => rwa [slots, List.length_set]
  | moved _ _ _ _ _ slots => rwa [slots, List.length_set]

theorem length_slots_run {disk : Disk} {here : Path} {root : String} (events : List FileEvent) :
    ((mount disk here root).run events).slots.length ≤ maxOpen := by
  induction events using List.reverseRecOn with
  | nil =>
    rw [run, List.foldl_nil, mount, refresh_eq]
    exact Nat.zero_le _
  | append_singleton events event ih =>
    rw [run_concat]
    cases event with
    | operation op => exact (handleStep_perform op _).length_slots ih
    | host disk => exact ih

theorem toNat_of_isOpen (few : fs.slots.length ≤ maxOpen) (opened : fs.IsOpen handle) :
    firstHandle ≤ handle.toNat ∧ handle.toNat < firstHandle + maxOpen := by
  obtain ⟨f, known⟩ := Option.ne_none_iff_exists'.1 opened
  obtain ⟨high, inside⟩ := openFile?_eq_some_iff.1 known
  obtain ⟨bound, _⟩ := List.getElem?_eq_some_iff.1 inside
  exact ⟨high, by omega⟩

/-- There are no more than fifteen numbers that a handle can have. -/
theorem length_le_maxOpen {handles : List UInt16} (different : handles.Nodup)
    (range : ∀ handle ∈ handles, firstHandle ≤ handle.toNat ∧
      handle.toNat < firstHandle + maxOpen) :
    handles.length ≤ maxOpen := by
  have numbers : (handles.map UInt16.toNat).Nodup :=
    different.map fun _ _ same => UInt16.toNat_inj.1 same
  have inside : handles.map UInt16.toNat ⊆ List.range' firstHandle maxOpen := by
    intro number image
    obtain ⟨handle, listed, rfl⟩ := List.mem_map.1 image
    exact List.mem_range'_1.2 (range handle listed)
  have count := (numbers.subperm inside).length_le
  rwa [List.length_map, List.length_range'] at count

theorem not_isOpen_of_freeSlot (free : freeSlot fs.slots = some slot) :
    ¬ fs.IsOpen (handleOf slot) := by
  obtain ⟨small, _, empty, _⟩ := of_freeSlot free
  intro opened
  apply opened
  have place : (handleOf slot).toNat - firstHandle = slot := by
    rw [toNat_handleOf small]
    omega
  rw [openFile?, place, empty]
  split <;> rfl

/-- The handle of the free slot is the lowest that is not in use. -/
theorem handleOf_le_of_freeSlot (free : freeSlot fs.slots = some slot)
    (high : firstHandle ≤ handle.toNat) (shut : ¬ fs.IsOpen handle) :
    handleOf slot ≤ handle := by
  obtain ⟨small, _, _, taken⟩ := of_freeSlot free
  rw [UInt16.le_iff_toNat_le, toNat_handleOf small]
  refine Nat.le_of_not_lt fun less => shut ?_
  obtain ⟨f, inside⟩ := taken (handle.toNat - firstHandle) (by omega)
  rw [IsOpen, openFile?_eq_some_iff.2 ⟨high, inside⟩]
  exact Option.some_ne_none f

/-- With fifteen handles in use there is no slot left. -/
theorem freeSlot_of_full (few : fs.slots.length ≤ maxOpen) {handles : List UInt16}
    (different : handles.Nodup) (opened : ∀ handle ∈ handles, fs.IsOpen handle)
    (full : handles.length = maxOpen) :
    freeSlot fs.slots = none := by
  refine Option.eq_none_iff_forall_ne_some.2 fun slot free => ?_
  have shut := not_isOpen_of_freeSlot free
  have fresh : (handleOf slot :: handles).Nodup :=
    List.nodup_cons.2 ⟨fun listed => shut (opened _ listed), different⟩
  -- One more would be in range and make sixteen of fifteen.
  have count := length_le_maxOpen fresh fun handle listed => by
    rcases List.mem_cons.1 listed with rfl | listed
    · rw [toNat_handleOf (of_freeSlot free).1]
      have small := (of_freeSlot free).1
      omega
    · exact toNat_of_isOpen few (opened handle listed)
  rw [List.length_cons, full] at count
  exact absurd count (Nat.not_succ_le_self _)

end Counting

section Rules

/-- The rules that one operation keeps. -/
structure HandleRules (fs : FileSystem) (op : FileOperation) : Prop where
  range : ∀ handle, op.given fs = some handle →
    firstHandle ≤ handle.toNat ∧ handle.toNat < firstHandle + maxOpen
  lowest : ∀ handle, op.given fs = some handle →
    ¬ fs.IsOpen handle ∧ ∀ other, firstHandle ≤ other.toNat → ¬ fs.IsOpen other →
      handle ≤ other
  full : ∀ handles : List UInt16, handles.Nodup → (∀ handle ∈ handles, fs.IsOpen handle) →
    handles.length = maxOpen → op.given fs = none
  /-- An open handle is never said to be invalid, and one that is not open always is. -/
  valid : ∀ handle, op.handle? = some handle →
    ((op.perform fs).1 = .error .invalidFileHandle ↔ ¬ fs.IsOpen handle)
  /-- Until it is closed, a handle stays with its file. -/
  stays : ∀ handle f, fs.openFile? handle = some f → op ≠ .close handle →
    ∃ position, (op.perform fs).2.openFile? handle = some { f with position := position }
  others : ∀ handle, op.handle? ≠ some handle → op.given fs ≠ some handle →
    (op.perform fs).2.openFile? handle = fs.openFile? handle

theorem isOpen_iff_of_openFile? (same : fs'.openFile? handle = fs.openFile? handle) :
    fs'.IsOpen handle ↔ fs.IsOpen handle := by
  rw [IsOpen, IsOpen, same]

/-- A handle is open after an operation if it was before and has not been closed, or if
it has been given out. -/
theorem isOpen_perform (fs : FileSystem) (op : FileOperation) (handle : UInt16) :
    (op.perform fs).2.IsOpen handle ↔
      fs.IsOpen handle ∧ op ≠ .close handle ∨ op.given fs = some handle := by
  cases handleStep_perform op fs with
  | unused uses given slots =>
    have stays : op ≠ .close handle := by
      rintro rfl
      cases uses
    rw [isOpen_iff_of_openFile? (openFile?_congr slots handle)]
    simp [given, stays]
  | @given slot f uses free given slots =>
    have stays : op ≠ .close handle := by
      rintro rfl
      cases uses
    rw [IsOpen, openFile?_withSlot free slots, given]
    by_cases same : handle = handleOf slot
    · simp [same]
    · simp [same, stays, IsOpen, eq_comm]
  | @shut used uses shut answer slots =>
    rw [isOpen_iff_of_openFile? (openFile?_congr slots handle), FileOperation.given_of_handle? uses]
    constructor
    · intro opened
      refine .inl ⟨opened, ?_⟩
      rintro rfl
      cases uses
      exact opened shut
    · rintro (⟨opened, _⟩ | none)
      · exact opened
      · cases none
  | @closed closing f closes known answer slots =>
    rw [IsOpen, openFile?_set known slots, closes]
    by_cases same : handle = closing
    · simp [same, FileOperation.given]
    · simp [same, IsOpen, FileOperation.given, Ne.symm same]
  | @moved used f position uses stays known answer slots =>
    rw [IsOpen, openFile?_set known slots, FileOperation.given_of_handle? uses]
    by_cases same : handle = used
    · simp [same, IsOpen, known, stays]
    · have other : op ≠ .close handle := by
        rintro rfl
        cases uses
        exact same rfl
      simp [same, IsOpen, other]

theorem exists_freeSlot_of_given (handed : op.given fs = some handle) :
    ∃ slot, freeSlot fs.slots = some slot ∧ handle = handleOf slot := by
  cases handleStep_perform op fs with
  | unused _ given _ =>
    rw [given] at handed
    cases handed
  | given _ _ free given _ =>
    rw [given] at handed
    cases handed
    exact ⟨_, free, rfl⟩
  | shut uses =>
    rw [FileOperation.given_of_handle? uses] at handed
    cases handed
  | closed closes =>
    subst closes
    cases handed
  | moved _ uses =>
    rw [FileOperation.given_of_handle? uses] at handed
    cases handed

theorem perform_eq_invalid_iff (uses : op.handle? = some handle) :
    (op.perform fs).1 = .error .invalidFileHandle ↔ ¬ fs.IsOpen handle := by
  cases handleStep_perform op fs with
  | unused none =>
    rw [none] at uses
    cases uses
  | given _ none _ _ _ =>
    rw [none] at uses
    cases uses
  | shut used shut answer =>
    rw [used] at uses
    cases uses
    exact ⟨fun _ opened => opened shut, fun _ => answer⟩
  | closed closes known answer =>
    subst closes
    cases uses
    refine ⟨fun invalid => absurd invalid answer, fun shut => absurd ?_ shut⟩
    rw [IsOpen, known]
    exact Option.some_ne_none _
  | moved _ used _ known answer =>
    rw [used] at uses
    cases uses
    refine ⟨fun invalid => absurd invalid answer, fun shut => absurd ?_ shut⟩
    rw [IsOpen, known]
    exact Option.some_ne_none _

/-- A handle that is taken is not the one that is given out. -/
theorem given_ne_of_openFile? (known : fs.openFile? handle = some f) :
    op.given fs ≠ some handle := by
  intro handed
  obtain ⟨slot, free, rfl⟩ := exists_freeSlot_of_given handed
  apply not_isOpen_of_freeSlot free
  rw [IsOpen, known]
  exact Option.some_ne_none f

theorem openFile?_perform_of_ne (unused : op.handle? ≠ some handle)
    (kept : op.given fs ≠ some handle) :
    (op.perform fs).2.openFile? handle = fs.openFile? handle := by
  cases handleStep_perform op fs with
  | unused _ _ slots => exact openFile?_congr slots handle
  | given f _ free given slots =>
    rw [openFile?_withSlot free slots, if_neg]
    rintro rfl
    exact kept given
  | shut _ _ _ slots => exact openFile?_congr slots handle
  | closed closes known _ slots =>
    rw [openFile?_set known slots, if_neg]
    rintro rfl
    subst closes
    exact unused rfl
  | moved _ used _ known _ slots =>
    rw [openFile?_set known slots, if_neg]
    rintro rfl
    exact unused used

theorem openFile?_perform_of_open (known : fs.openFile? handle = some f)
    (stays : op ≠ .close handle) :
    ∃ position, (op.perform fs).2.openFile? handle = some { f with position := position } := by
  by_cases uses : op.handle? = some handle
  · cases handleStep_perform op fs with
    | unused none =>
      rw [none] at uses
      cases uses
    | given _ none _ _ _ =>
      rw [none] at uses
      cases uses
    | shut used shut =>
      rw [used] at uses
      cases uses
      rw [shut] at known
      cases known
    | closed closes =>
      subst closes
      cases uses
      exact absurd rfl stays
    | moved position used _ known' _ slots =>
      rw [used] at uses
      cases uses
      rw [known] at known'
      cases known'
      refine ⟨position, ?_⟩
      rw [openFile?_set known slots, if_pos rfl]
  · exact ⟨f.position,
      (openFile?_perform_of_ne uses (given_ne_of_openFile? known)).trans known⟩

theorem handleRules (few : fs.slots.length ≤ maxOpen) (op : FileOperation) :
    HandleRules fs op where
  range handle handed := by
    obtain ⟨slot, free, rfl⟩ := exists_freeSlot_of_given handed
    have small := (of_freeSlot free).1
    rw [toNat_handleOf small]
    omega
  lowest handle handed := by
    obtain ⟨slot, free, rfl⟩ := exists_freeSlot_of_given handed
    exact ⟨not_isOpen_of_freeSlot free,
      fun other high shut => handleOf_le_of_freeSlot free high shut⟩
  full handles different opened count := by
    refine Option.eq_none_iff_forall_ne_some.2 fun handle handed => ?_
    obtain ⟨slot, free, _⟩ := exists_freeSlot_of_given handed
    rw [freeSlot_of_full few different opened count] at free
    cases free
  valid _ uses := perform_eq_invalid_iff uses
  stays _ _ known stays := openFile?_perform_of_open known stays
  others _ unused kept := openFile?_perform_of_ne unused kept

end Rules

section History

/-- The handle has been given out by an operation and has not been closed since. -/
def Held (fs : FileSystem) (events : List FileEvent) (handle : UInt16) : Prop :=
  ∃ before op later, events = before ++ .operation op :: later ∧
    op.given (fs.run before) = some handle ∧ .operation (.close handle) ∉ later

theorem not_held_nil : ¬ Held fs [] handle := by
  rintro ⟨before, op, later, parts, _⟩
  cases before <;> cases parts

theorem held_concat {events : List FileEvent} {event : FileEvent} :
    Held fs (events ++ [event]) handle ↔
      Held fs events handle ∧ event ≠ .operation (.close handle) ∨
        ∃ op, event = .operation op ∧ op.given (fs.run events) = some handle := by
  constructor
  · rintro ⟨before, op, later, parts, given, kept⟩
    rcases List.eq_nil_or_concat later with rfl | ⟨init, last, rfl⟩
    · obtain ⟨rfl, same⟩ := List.append_inj' parts rfl
      cases same
      exact .inr ⟨op, rfl, given⟩
    · rw [List.concat_eq_append, ← List.cons_append, ← List.append_assoc] at parts
      obtain ⟨rfl, same⟩ := List.append_inj' parts rfl
      cases same
      rw [List.concat_eq_append, List.mem_append, not_or] at kept
      refine .inl ⟨⟨before, op, init, rfl, given, kept.1⟩, ?_⟩
      rintro rfl
      exact kept.2 (List.mem_singleton_self _)
  · rintro (⟨⟨before, op, later, rfl, given, kept⟩, stays⟩ | ⟨op, rfl, given⟩)
    · refine ⟨before, op, later ++ [event], by simp, given, ?_⟩
      rw [List.mem_append, List.mem_singleton, not_or]
      exact ⟨kept, fun same => stays same.symm⟩
    · exact ⟨events, op, [], rfl, given, List.not_mem_nil⟩

theorem isOpen_afterEvent (fs : FileSystem) (event : FileEvent) (handle : UInt16) :
    (fs.afterEvent event).IsOpen handle ↔
      fs.IsOpen handle ∧ event ≠ .operation (.close handle) ∨
        ∃ op, event = .operation op ∧ op.given fs = some handle := by
  cases event with
  | operation op =>
    rw [afterEvent, isOpen_perform]
    simp
  | host disk =>
    have same : { fs with disk := disk }.openFile? handle = fs.openFile? handle :=
      openFile?_congr rfl handle
    rw [afterEvent, isOpen_iff_of_openFile? same]
    simp

/-- The handles that are open are those that have been given out and not closed since. -/
theorem isOpen_run_iff (disk : Disk) (here : Path) (root : String) (events : List FileEvent) :
    ((mount disk here root).run events).IsOpen handle ↔
      Held (mount disk here root) events handle := by
  induction events using List.reverseRecOn with
  | nil =>
    have none : ¬ ((mount disk here root).run []).IsOpen handle := by
      intro opened
      apply opened
      rw [run, List.foldl_nil, mount, refresh_eq, openFile?]
      split <;> rfl
    exact ⟨fun opened => absurd opened none, fun held => absurd held not_held_nil⟩
  | append_singleton events event ih =>
    rw [run_concat, isOpen_afterEvent, held_concat, ih]

/-- Whatever has happened to a file system since it was mounted: no more than fifteen handles
are open, they are those that have been given out and not closed since, and the next
operation keeps the rules. -/
theorem handles_held_until_closed (disk : Disk) (here : Path) (root : String)
    (events : List FileEvent) :
    let fs := (mount disk here root).run events
    (∀ handles : List UInt16, handles.Nodup → (∀ handle ∈ handles, fs.IsOpen handle) →
      handles.length ≤ maxOpen) ∧
      (∀ handle, fs.IsOpen handle ↔ Held (mount disk here root) events handle) ∧
      ∀ op, HandleRules fs op := by
  intro fs
  have few : fs.slots.length ≤ maxOpen := length_slots_run events
  refine ⟨fun handles different opened => ?_, fun handle => isOpen_run_iff disk here root events,
    handleRules few⟩
  exact length_le_maxOpen different fun handle listed => toNat_of_isOpen few (opened handle listed)

end History

end FileSystem

end RealMode.Dos
