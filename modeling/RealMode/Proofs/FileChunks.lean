import Mathlib.Algebra.GroupWithZero.Nat
import Mathlib.Data.List.Chain
import Mathlib.Data.List.Forall2
import RealMode.Proofs.Confinement
import RealMode.Proofs.FileServices
import RealMode.Proofs.HandleTable

/-!
# Files in pieces

A program creates a file, writes it in blocks, goes back to its start and reads it in pieces of
sizes of its own choice. It gets back what it has written, whatever the blocks and the sizes are,
and whatever it does in between with other files and other handles.
-/

namespace RealMode.Dos

namespace Disk

variable {d : Disk} {number other : Nat}

/-- The bytes of a file, if there is one with this number. -/
def stored? (d : Disk) (number : Nat) : Option (List UInt8) :=
  d.contents[number]?.map Content.toList

def Found.file? : Found → Option Nat
  | .file number => some number
  | _ => none

/-- Every file has its bytes. -/
def Backed (d : Disk) : Prop :=
  ∀ path number, d.entry? path = some (.file number) → number < d.contents.length

theorem content_of_stored {bytes : List UInt8} (stored : d.stored? number = some bytes) :
    (d.content number).toList = bytes := by
  obtain ⟨content, there, same⟩ := Option.map_eq_some_iff.1 stored
  rw [Disk.content, List.getD_eq_getElem?_getD, there]
  exact same

theorem stored_withContent {new : Content} (inside : number < d.contents.length) :
    (d.withContent number new).stored? number = some new.toList := by
  rw [stored?, withContent, List.getElem?_set_self inside]
  rfl

theorem stored_withContent_of_ne {new : Content} (apart : number ≠ other) :
    (d.withContent number new).stored? other = d.stored? other := by
  rw [stored?, withContent, List.getElem?_set_ne apart]
  rfl

theorem lt_of_stored {bytes : List UInt8} (stored : d.stored? number = some bytes) :
    number < d.contents.length := by
  obtain ⟨content, there, _⟩ := Option.map_eq_some_iff.1 stored
  exact (List.getElem?_eq_some_iff.1 there).1

theorem stored_addFile (d : Disk) (path : Path) :
    (d.addFile path).2.stored? d.contents.length = some [] := by
  rw [stored?, addFile, List.getElem?_concat_length]
  rfl

theorem stored_addFile_of_lt (inside : other < d.contents.length) (path : Path) :
    (d.addFile path).2.stored? other = d.stored? other := by
  rw [stored?, addFile, List.getElem?_append_left inside]
  rfl

theorem exists_entry_of_find {here : Path} {path : String}
    (given : d.find here path = .ok (.file number)) :
    ∃ place, d.entry? place = some (.file number) := by
  rw [find_eq_follow (followable_of_find given)] at given
  rcases List.eq_nil_or_concat (namesOf path) with none | ⟨init, name, names⟩
  · rw [none] at given
    cases given
  · rw [names, List.concat_eq_append, follow_concat] at given
    obtain ⟨dir, _, arrived⟩ := of_bind_ok given
    rcases arrive_eq_ok arrived with ⟨_, bad, _⟩ | ⟨_, ⟨_, same, there⟩ | ⟨bad, _⟩⟩
    · cases bad
    · cases same
      exact ⟨_, there⟩
    · cases bad

end Disk

namespace FileSystem

variable {fs fs' : FileSystem} {handle : UInt16} {number position : Nat} {bytes : List UInt8}

/-- The file of a handle. -/
def fileOf? (fs : FileSystem) (handle : UInt16) : Option Nat := (fs.openFile? handle).bind (·.file)

/-- The file that an operation can write to or empty. -/
def changed? (fs : FileSystem) : FileOperation → Option Nat
  | .create name => (fs.target name).toOption.bind (·.file?)
  | .write handle _ => fs.fileOf? handle
  | _ => none

/-- What happens concerns neither this handle nor the bytes of its file. -/
def Spares (fs : FileSystem) (handle : UInt16) : FileEvent → Prop
  | .operation op =>
    op.handle? ≠ some handle ∧ ∀ number, fs.fileOf? handle = some number →
      fs.changed? op ≠ some number
  | .host disk =>
    ∀ number, fs.fileOf? handle = some number → disk.stored? number = fs.disk.stored? number

/-- What can come about while a handle and its file are left alone. -/
inductive Elsewhere (handle : UInt16) (fs : FileSystem) : FileSystem → Prop where
  | refl : Elsewhere handle fs fs
  | step {fs' : FileSystem} {event : FileEvent} (before : Elsewhere handle fs fs')
      (spares : fs'.Spares handle event) : Elsewhere handle fs (fs'.afterEvent event)

theorem blanked_of_file {name : List UInt8} (found : fs.target name = .ok (.file number)) :
    fs.blanked name = fs.disk.withContent number .empty := by
  unfold blanked
  rw [found]

theorem blanked_of_missing {name : List UInt8} {path : Path}
    (found : fs.target name = .ok (.missing path false)) :
    fs.blanked name = (fs.disk.addFile path).2 := by
  unfold blanked
  rw [found]

theorem stored_blanked {name : List UInt8} (inside : number < fs.disk.contents.length)
    (apart : fs.changed? (.create name) ≠ some number) :
    (fs.blanked name).stored? number = fs.disk.stored? number := by
  rw [changed?] at apart
  unfold blanked
  generalize fs.target name = found at apart ⊢
  cases found with
  | error e => rfl
  | ok found =>
    cases found with
    | directory path => rfl
    | file emptied => exact Disk.stored_withContent_of_ne fun same => apart (congrArg some same)
    | missing path asDirectory =>
      cases asDirectory with
      | true => rfl
      | false => exact Disk.stored_addFile_of_lt inside path

theorem disk_close (fs : FileSystem) (handle : UInt16) : (fs.close handle).2.disk = fs.disk := by
  rw [close]
  cases fs.openFile? handle <;> rfl

theorem disk_read (fs : FileSystem) (handle : UInt16) (count : Nat) :
    (fs.read handle count).2.disk = fs.disk := by
  rw [read]
  cases fs.openFile? handle with
  | none => rfl
  | some f =>
    dsimp only
    repeat' split
    all_goals rfl

theorem disk_seek (fs : FileSystem) (handle : UInt16) (offset : UInt32) (origin : SeekOrigin) :
    (fs.seek handle offset origin).2.disk = fs.disk := by
  rw [seek]
  cases fs.openFile? handle with
  | none => rfl
  | some f =>
    dsimp only
    cases fs.seekTarget f offset origin with
    | error e => rfl
    | ok target =>
      dsimp only
      split <;> rfl

theorem stored_write {data : List UInt8} (apart : fs.fileOf? handle ≠ some number) :
    (fs.write handle data).2.disk.stored? number = fs.disk.stored? number := by
  rw [write]
  rw [fileOf?] at apart
  cases known : fs.openFile? handle with
  | none => rfl
  | some f =>
    rw [known] at apart
    dsimp only
    split
    · rfl
    split
    · rfl
    next written file =>
    split
    · rfl
    · exact Disk.stored_withContent_of_ne fun same => apart (by rw [← same]; exact file)

theorem stored_perform {op : FileOperation} (inside : number < fs.disk.contents.length)
    (apart : fs.changed? op ≠ some number) :
    (op.perform fs).2.disk.stored? number = fs.disk.stored? number := by
  cases op with
  | create name =>
    simp only [FileOperation.perform, FileOperation.outcome_snd]
    rw [disk_create]
    exact stored_blanked inside apart
  | openFile name mode =>
    simp only [FileOperation.perform, FileOperation.outcome_snd]
    rw [disk_openFile]
  | close other =>
    simp only [FileOperation.perform]
    rw [disk_close]
  | read other count =>
    simp only [FileOperation.perform, FileOperation.outcome_snd]
    rw [disk_read]
  | write other data => exact stored_write apart
  | seek other offset origin =>
    simp only [FileOperation.perform, FileOperation.outcome_snd]
    rw [disk_seek]
  | search pattern =>
    simp only [FileOperation.perform]
    rw [(spared_search fs pattern).disk]
  | nextFound =>
    simp only [FileOperation.perform, FileOperation.outcome_snd]
    rw [(spared_nextFound fs).disk]

/-- A file with these bytes is open for reading and writing, and its handle stands at `position`. -/
structure Holding (fs : FileSystem) (handle : UInt16) (number position : Nat)
    (bytes : List UInt8) : Prop where
  opened : fs.openFile? handle = some ⟨some number, .readWrite, position⟩
  stored : fs.disk.stored? number = some bytes

namespace Holding

theorem fileOf (holding : fs.Holding handle number position bytes) :
    fs.fileOf? handle = some number := by
  rw [fileOf?, holding.opened]
  rfl

theorem not_console (holding : fs.Holding handle number position bytes) :
    handle ∉ consoleHandles := by
  obtain ⟨high, _⟩ := openFile?_eq_some_iff.1 holding.opened
  intro device
  rcases List.mem_cons.1 device with rfl | device
  · cases high.not_gt (by decide)
  · rw [List.mem_singleton.1 device] at high
    cases high.not_gt (by decide)

theorem create {name : List UInt8} (backed : fs.disk.Backed)
    (created : (fs.create name).1 = .ok handle) :
    ∃ number, (fs.create name).2.Holding handle number 0 [] := by
  rcases fs.create_cases name with ⟨e, refused, _⟩ | ⟨number, added, from?⟩
  · rw [refused] at created
    cases created
  -- Whether it was there or is new, the file holds no bytes now.
  have empty : (fs.blanked name).stored? number = some [] := by
    rcases from? with found | ⟨path, found, same⟩
    · obtain ⟨place, entry⟩ := Disk.exists_entry_of_find ((target_eq fs name).symm.trans found)
      rw [blanked_of_file found]
      exact Disk.stored_withContent (backed place number entry)
    · rw [blanked_of_missing found, same]
      exact fs.disk.stored_addFile path
  rcases addHandle_cases { fs.knowing (.parse name) with disk := fs.blanked name }
      ⟨some number, .readWrite, 0⟩ with full | ⟨slot, free, given⟩
  · rw [added, full] at created
    cases created
  · rw [added, given] at created ⊢
    cases created
    refine ⟨number, ?_, ?_⟩
    · rw [openFile?_withSlot free rfl, if_pos rfl]
    · dsimp only
      exact empty

theorem openFile?_setHandle (holding : fs.Holding handle number position bytes)
    {g : Option OpenFile} (slots : fs'.slots = fs.slots.set (handle.toNat - firstHandle) g) :
    fs'.openFile? handle = g := by
  rw [openFile?_set holding.opened slots, if_pos rfl]

theorem write (holding : fs.Holding handle number bytes.length bytes) (data : List UInt8) :
    ∃ fs', fs.write handle data = (.ok (UInt16.ofNat data.length), fs') ∧
      fs'.Holding handle number (bytes ++ data).length (bytes ++ data) := by
  rw [FileSystem.write, holding.opened]
  dsimp only
  by_cases none : data = []
  · subst none
    refine ⟨fs, rfl, ?_⟩
    rwa [List.append_nil]
  · rw [if_neg (by rwa [List.isEmpty_iff]), if_neg (by decide)]
    have content := Disk.content_of_stored holding.stored
    have length : (fs.disk.content number).length = bytes.length := by
      rw [← Content.length_toList, content]
    have joined : ((fs.disk.content number).overwrite bytes.length data).toList =
        bytes ++ data := by
      rw [Content.toList_overwrite, content, length, List.take_length, Nat.sub_self,
        List.replicate_zero, List.append_nil, List.drop_eq_nil_of_le (Nat.le_add_right _ _),
        List.append_nil]
    refine ⟨_, rfl, ?_, ?_⟩
    · rw [List.length_append]
      exact holding.openFile?_setHandle rfl
    · rw [← joined]
      exact Disk.stored_withContent (Disk.lt_of_stored holding.stored)

theorem seek_start (holding : fs.Holding handle number position bytes) :
    ∃ fs', fs.seek handle 0 .start = (.ok 0, fs') ∧ fs'.Holding handle number 0 bytes := by
  rw [FileSystem.seek, holding.opened]
  exact ⟨_, rfl, holding.openFile?_setHandle rfl, holding.stored⟩

theorem read (holding : fs.Holding handle number position bytes) (count : Nat) :
    ∃ fs', fs.read handle count = (.ok ((bytes.drop position).take count), fs') ∧
      fs'.Holding handle number (position + ((bytes.drop position).take count).length) bytes := by
  rw [FileSystem.read, holding.opened]
  dsimp only
  by_cases none : count = 0
  · subst none
    rw [if_pos rfl, List.take_zero]
    exact ⟨fs, rfl, holding⟩
  · have slice : (fs.disk.content number).slice position count =
        (bytes.drop position).take count := by
      rw [Content.slice_eq, Disk.content_of_stored holding.stored]
    rw [if_neg none, if_neg (by decide), slice]
    exact ⟨_, rfl, holding.openFile?_setHandle rfl, holding.stored⟩

theorem afterEvent (holding : fs.Holding handle number position bytes) {event : FileEvent}
    (spares : fs.Spares handle event) :
    (fs.afterEvent event).Holding handle number position bytes := by
  cases event with
  | operation op =>
    obtain ⟨unused, apart⟩ := spares
    have handles := openFile?_perform_of_ne unused (given_ne_of_openFile? holding.opened)
    have files := stored_perform (Disk.lt_of_stored holding.stored) (apart number holding.fileOf)
    exact ⟨handles.trans holding.opened, files.trans holding.stored⟩
  | host disk => exact ⟨holding.opened, (spares number holding.fileOf).trans holding.stored⟩

theorem elsewhere (holding : fs.Holding handle number position bytes)
    (elsewhere : Elsewhere handle fs fs') : fs'.Holding handle number position bytes := by
  induction elsewhere with
  | refl => exact holding
  | step _ spares ih => exact ih.afterEvent spares

end Holding

end FileSystem

open Exec FileSystem

/-- One interrupt 21: when it comes, and the machine that it finds. -/
structure Call where
  now : Moment
  machine : Machine Dos

namespace Call

/-- The machine that the call leaves. -/
def left (c : Call) : Machine Dos := after (serve c.now) c.machine

/-- The file system that the call finds. -/
def files (c : Call) : FileSystem := c.machine.host.files

/-- The call succeeds: no fault, Carry clear and a number in AX. -/
structure Answers (c : Call) (value : Nat) : Prop where
  served : serve c.now c.machine = .ok () c.left
  clear : c.left.registers.flags.carry = false
  ax : c.left.registers.ax.toNat = value

structure Creates (c : Call) (handle : UInt16) : Prop where
  asked : c.machine.registers.ah = 0x3c
  answers : c.Answers handle.toNat

/-- A write from memory that holds the block. -/
structure Writes (handle : UInt16) (c : Call) (block : List UInt8) : Prop where
  asked : c.machine.registers.ah = 0x40
  handle : c.machine.registers.bx = handle
  held : c.machine.memory.readBytes c.machine.registers.dsDx c.machine.registers.cx.toNat =
    .ok block

structure SeeksStart (c : Call) (handle : UInt16) : Prop where
  asked : c.machine.registers.ah = 0x42
  origin : c.machine.registers.al = 0
  handle : c.machine.registers.bx = handle
  offset : c.machine.registers.dx = 0 ∧ c.machine.registers.cx = 0

/-- A read into memory that is there. -/
structure Reads (handle : UInt16) (c : Call) (size : Nat) : Prop where
  asked : c.machine.registers.ah = 0x3f
  handle : c.machine.registers.bx = handle
  count : c.machine.registers.cx.toNat = size
  maps : c.machine.memory.Maps c.machine.registers.dsDx size

/-- The call answers how many bytes it has put at DS:DX, and has changed no others. -/
structure Delivers (c : Call) (bytes : List UInt8) : Prop where
  answers : c.Answers bytes.length
  stored : c.machine.memory.BytesStored c.machine.registers.dsDx bytes c.left.memory

/-- Between the calls, nothing is done with the handle or its file. -/
def Apart (handle : UInt16) : List Call → Prop :=
  List.IsChain fun c next => Elsewhere handle c.left.host.files next.files

variable {c previous : Call} {handle : UInt16} {number position size : Nat}
  {bytes block : List UInt8}
  {m : Machine Dos}

theorem left_eq (served : serve c.now c.machine = .ok () m) : c.left = m := after_of_ok served

theorem Creates.holding (creates : c.Creates handle) (backed : c.files.disk.Backed) :
    ∃ number, c.left.host.files.Holding handle number 0 [] := by
  obtain ⟨served, clear, ax⟩ := creates.answers
  have created : createFile c.machine = .ok () c.left := by
    rw [← served, serve_create creates.asked]
  obtain ⟨name, -, left⟩ := of_createFile_ok created
  rw [left, registers_served] at clear ax
  rw [left, files_served]
  have given := eq_ok_of_answered clear
  rw [UInt16.toNat_inj.1 ax] at given
  exact Holding.create backed given

theorem Writes.step (writes : c.Writes handle block)
    (holding : c.files.Holding handle number bytes.length bytes) :
    c.Answers block.length ∧
      c.left.host.files.Holding handle number (bytes ++ block).length (bytes ++ block) := by
  obtain ⟨fs, written, holding'⟩ := holding.write block
  have small : block.length < 65536 := by
    rw [Memory.length_of_readBytes writes.held]
    exact c.machine.registers.cx.toNat_lt
  have file : c.machine.registers.bx ∉ consoleHandles := writes.handle ▸ holding.not_console
  have served : serve c.now c.machine = _ :=
    (serve_write writes.asked).trans (writeFile_eq_ok writes.held file)
  have asked : c.machine.host.files.write c.machine.registers.bx block = _ :=
    (congrArg (c.files.write · block) writes.handle).trans written
  rw [Dos.served, asked] at served
  have left := left_eq served
  have ax : c.left.registers.ax.toNat = block.length := by
    rw [left]
    exact Nat.mod_eq_of_lt small
  exact ⟨⟨by rw [left, served], by rw [left]; rfl, ax⟩, by rw [left]; exact holding'⟩

theorem SeeksStart.step (seeks : c.SeeksStart handle)
    (holding : c.files.Holding handle number position bytes) :
    c.Answers 0 ∧ c.left.host.files.Holding handle number 0 bytes := by
  obtain ⟨fs, sought, holding'⟩ := holding.seek_start
  have from? : SeekOrigin.ofCode? c.machine.registers.al = some .start := by rw [seeks.origin]; rfl
  have asked : c.machine.host.files.seek c.machine.registers.bx
      (dwordOfWords c.machine.registers.dx c.machine.registers.cx) .start = (.ok 0, fs) := by
    rw [seeks.handle, seeks.offset.1, seeks.offset.2]
    exact sought
  have served : serve c.now c.machine = _ :=
    (serve_seek seeks.asked).trans (seekFile_eq_ok from? asked)
  have left := left_eq served
  refine ⟨⟨by rw [left, served], by rw [left]; rfl, by rw [left]; rfl⟩, ?_⟩
  rw [left]
  exact holding'

theorem Reads.step (reads : c.Reads handle size)
    (holding : c.files.Holding handle number position bytes) :
    c.Delivers ((bytes.drop position).take size) ∧
      c.left.host.files.Holding handle number
        (position + ((bytes.drop position).take size).length) bytes := by
  obtain ⟨fs, read, holding'⟩ := holding.read size
  have short : ((bytes.drop position).take size).length ≤ size := List.length_take_le _ _
  have small : size < 65536 := by
    rw [← reads.count]
    exact c.machine.registers.cx.toNat_lt
  have maps :
      c.machine.memory.Maps c.machine.registers.dsDx ((bytes.drop position).take size).length :=
    ⟨reads.maps.1, Nat.le_trans (Nat.add_le_add_left short _) reads.maps.2⟩
  obtain ⟨memory, changed, stored⟩ := Memory.exists_writeBytes maps
  have fits : c.machine.registers.dx.toNat + c.machine.registers.cx.toNat ≤ Segment.size := by
    rw [reads.count]
    exact reads.maps.2
  have asked : c.machine.host.files.read c.machine.registers.bx c.machine.registers.cx.toNat =
      (.ok ((bytes.drop position).take size), fs) := by
    rw [reads.handle, reads.count]
    exact read
  have served : serve c.now c.machine = _ :=
    (serve_read reads.asked).trans (readFile_eq_ok fits asked changed)
  have left := left_eq served
  have ax : c.left.registers.ax.toNat = ((bytes.drop position).take size).length := by
    rw [left]
    exact Nat.mod_eq_of_lt (Nat.lt_of_le_of_lt short small)
  refine ⟨⟨⟨by rw [left, served], by rw [left]; rfl, ax⟩, ?_⟩, ?_⟩
  · rw [left]
    exact stored
  · rw [left]
    exact holding'

/-- While the blocks are written, the file is what has been written so far. -/
theorem writes_hold {writes rest : List Call} {blocks : List (List UInt8)}
    (wrote : List.Forall₂ (Writes handle) writes blocks)
    (apart : Apart handle (previous :: (writes ++ rest)))
    (holding : previous.left.host.files.Holding handle number bytes.length bytes) :
    List.Forall₂ (fun c block => c.Answers block.length) writes blocks ∧
      ∃ last : Call, Apart handle (last :: rest) ∧
        last.left.host.files.Holding handle number (bytes ++ blocks.flatten).length
          (bytes ++ blocks.flatten) := by
  induction wrote generalizing previous bytes with
  | nil =>
    rw [List.flatten_nil, List.append_nil]
    exact ⟨.nil, previous, apart, holding⟩
  | @cons c block writes blocks first _ ih =>
    obtain ⟨between, apart⟩ := List.isChain_cons_cons.1 apart
    obtain ⟨answers, holding⟩ := first.step (holding.elsewhere between)
    obtain ⟨answered, last, apart, holding⟩ := ih apart holding
    rw [List.append_assoc, ← List.flatten_cons] at holding
    exact ⟨.cons answers answered, last, apart, holding⟩

/-- The pieces that reads of these sizes give. -/
def pieces (bytes : List UInt8) : List Nat → List (List UInt8)
  | [] => []
  | size :: sizes => bytes.take size :: pieces (bytes.drop size) sizes

theorem flatten_pieces (bytes : List UInt8) (sizes : List Nat) :
    (pieces bytes sizes).flatten = bytes.take sizes.sum := by
  induction sizes generalizing bytes with
  | nil => rw [pieces, List.flatten_nil, List.sum_nil, List.take_zero]
  | cons size sizes ih => rw [pieces, List.flatten_cons, ih, List.sum_cons, List.take_add]

/-- A piece is as long as asked for, or it is the last that has bytes. -/
theorem short_piece {sizes : List Nat} {i : Nat} {piece : List UInt8}
    (given : (pieces bytes sizes)[i]? = some piece) (asked : sizes[i]? = some size) :
    piece.length ≤ size ∧
    (piece.length < size → ((pieces bytes sizes).take (i + 1)).flatten = bytes) := by
  induction sizes generalizing bytes i with
  | nil => cases asked
  | cons first sizes ih =>
    rw [pieces] at given ⊢
    cases i with
    | zero =>
      cases given
      cases asked
      refine ⟨List.length_take_le _ _, fun short => ?_⟩
      rw [List.length_take] at short
      rw [List.take_succ_cons, List.take_zero, List.flatten_cons, List.flatten_nil, List.append_nil,
        List.take_of_length_le (by omega)]
    | succ i =>
      obtain ⟨le, all⟩ := ih given asked
      refine ⟨le, fun short => ?_⟩
      rw [List.take_succ_cons, List.flatten_cons, all short, List.take_append_drop]

/-- Each read gives the next piece of what has not been read. -/
theorem reads_deliver {reads : List Call} {sizes : List Nat}
    (read : List.Forall₂ (Reads handle) reads sizes) (apart : Apart handle (previous :: reads))
    (holding : previous.left.host.files.Holding handle number position bytes) :
    List.Forall₂ Delivers reads (pieces (bytes.drop position) sizes) := by
  induction read generalizing previous position with
  | nil => exact .nil
  | @cons c size reads sizes first _ ih =>
    obtain ⟨between, apart⟩ := List.isChain_cons_cons.1 apart
    obtain ⟨delivers, holding⟩ := first.step (holding.elsewhere between)
    have rest : bytes.drop (position + ((bytes.drop position).take size).length) =
        (bytes.drop position).drop size := by
      rw [← List.drop_drop]
      exact List.drop_eq_drop_iff.2 (by rw [List.length_take]; omega)
    have later := ih apart holding
    rw [rest] at later
    exact .cons delivers later

/-- A file that has been created and then written in blocks is read in pieces: every call succeeds,
and what the reads put into memory is what has been written, as far as the sizes reach. A read is
short only where the file ends. -/
theorem file_survives_chunking {create seek : Call} {writes reads : List Call}
    {blocks : List (List UInt8)} {sizes : List Nat} (backed : create.files.disk.Backed)
    (created : create.Creates handle) (wrote : List.Forall₂ (Writes handle) writes blocks)
    (sought : seek.SeeksStart handle) (read : List.Forall₂ (Reads handle) reads sizes)
    (apart : Apart handle (create :: (writes ++ seek :: reads))) :
    List.Forall₂ (fun c block => c.Answers block.length) writes blocks ∧ seek.Answers 0 ∧
      ∃ chunks, List.Forall₂ Delivers reads chunks ∧
        chunks.flatten = blocks.flatten.take sizes.sum ∧
        ∀ i chunk size, chunks[i]? = some chunk → sizes[i]? = some size →
          chunk.length ≤ size ∧
          (chunk.length < size → (chunks.take (i + 1)).flatten = blocks.flatten) := by
  obtain ⟨number, empty⟩ := created.holding backed
  have start : create.left.host.files.Holding handle number ([] : List UInt8).length [] := empty
  obtain ⟨answers, last, apart, holding⟩ := writes_hold wrote apart start
  rw [List.nil_append] at holding
  obtain ⟨between, apart⟩ := List.isChain_cons_cons.1 apart
  obtain ⟨sought, holding⟩ := sought.step (holding.elsewhere between)
  have delivered := reads_deliver read apart holding
  rw [List.drop_zero] at delivered
  refine ⟨answers, sought, pieces blocks.flatten sizes, delivered, flatten_pieces _ _, ?_⟩
  intro i chunk size given asked
  exact short_piece given asked

section Session

/-- The name of a file and three bytes after it. -/
def page : Memory :=
  { Memory.fresh with
    segments := Memory.fresh.segments.insert 0x3000 (.ofContents .data [0x41, 0, 1, 2, 3]) }

def ask (ax bx cx dx : UInt16) : Registers :=
  { Registers.reset 0 with ax := ax, bx := bx, cx := cx, dx := dx, ds := 0x3000 }

/-- The next call of a program that has done nothing else with files. -/
def next (c : Call) (registers : Registers) : Call :=
  ⟨default, { c.left with registers := registers }⟩

def createOne : Call :=
  ⟨default,
    ⟨ask 0x3c00 0 0 0, page, { files := mount (Disk.empty.addDirectories ["r"]) [] "/r" }⟩⟩

def writeOne : Call := next createOne (ask 0x4000 5 1 2)

def writeTwo : Call := next writeOne (ask 0x4000 5 2 3)

def anotherFile : FileEvent := .operation (.create [0x42])

/-- Another file is created in between. -/
def rewind : Call :=
  ⟨default, withFiles { writeTwo.left with registers := ask 0x4200 5 0 0 }
    (writeTwo.left.host.files.afterEvent anotherFile)⟩

def readTwo : Call := next rewind (ask 0x3f00 5 2 0x100)

def readMore : Call := next readTwo (ask 0x3f00 5 2 0x102)

theorem creates_createOne : createOne.Creates 5 := by
  have named : createOne.machine.memory.readString createOne.machine.registers.dsDx =
      .ok [0x41] := by decide +kernel
  have served : serve createOne.now createOne.machine = _ :=
    (serve_create rfl).trans (createFile_eq_ok named)
  have left := left_eq served
  exact ⟨rfl, by rw [left, served], by decide +kernel, by decide +kernel⟩

theorem elsewhere_next (c : Call) (registers : Registers) :
    Elsewhere handle c.left.host.files (next c registers).files := .refl

theorem spares_anotherFile : writeTwo.left.host.files.Spares 5 anotherFile := by
  have file : writeTwo.left.host.files.fileOf? 5 = some 0 := by decide +kernel
  refine ⟨by decide, fun number same => ?_⟩
  rw [file] at same
  cases same
  decide +kernel

theorem apart_session : Apart 5 [createOne, writeOne, writeTwo, rewind, readTwo, readMore] := by
  have between : Elsewhere 5 writeTwo.left.host.files rewind.files := .step .refl spares_anotherFile
  exact .cons_cons (elsewhere_next _ _) (.cons_cons (elsewhere_next _ _) (.cons_cons between
    (.cons_cons (elsewhere_next _ _) (.cons_cons (elsewhere_next _ _) (.singleton _)))))

/-- Three bytes that were written as one and two come back as two and one. -/
theorem three_bytes_come_back :
    ∃ chunks, List.Forall₂ Delivers [readTwo, readMore] chunks ∧
      chunks.flatten = [1, 2, 3] := by
  have backed : createOne.files.disk.Backed := by
    have directories : ∀ e ∈ createOne.files.disk.entries, e.2 = .directory := by decide +kernel
    intro path number entry
    cases path with
    | nil => cases entry
    | cons name names =>
      obtain ⟨before, after, listed, _⟩ := List.lookup_eq_some_iff.1 entry
      cases directories _ (listed ▸ List.mem_append_right before List.mem_cons_self)
  have wrote : List.Forall₂ (Writes 5) [writeOne, writeTwo] [[1], [2, 3]] :=
    .cons ⟨rfl, rfl, by decide +kernel⟩ (.cons ⟨rfl, rfl, by decide +kernel⟩ .nil)
  have read : List.Forall₂ (Reads 5) [readTwo, readMore] [2, 2] :=
    .cons ⟨rfl, rfl, rfl, by decide +kernel, by decide⟩
      (.cons ⟨rfl, rfl, rfl, by decide +kernel, by decide⟩ .nil)
  have sought : rewind.SeeksStart 5 := ⟨rfl, rfl, rfl, rfl, rfl⟩
  obtain ⟨_, _, chunks, delivered, same, _⟩ :=
    file_survives_chunking backed creates_createOne wrote sought read apart_session
  exact ⟨chunks, delivered, same⟩

end Session

end Call

end RealMode.Dos
