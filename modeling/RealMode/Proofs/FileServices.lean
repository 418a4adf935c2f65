import RealMode.Dos.Services
import RealMode.Proofs.StackWords

/-!
# The services for one file

What creating, writing, seeking and reading come to when a program asks for them: what is asked of
the file system, what stands in the registers afterwards, and what becomes of memory.
-/

namespace RealMode

namespace Memory

variable {m m' : Memory} {p : FarPtr} {bytes : List UInt8}

/-- What storing bytes makes of a memory. -/
structure BytesStored (m : Memory) (p : FarPtr) (bytes : List UInt8) (m' : Memory) : Prop where
  inside : m'.readBytes p bytes.length = .ok bytes
  outside : ∀ q : FarPtr,
    ¬ (q.segment = p.segment ∧ p.offset.toNat ≤ q.offset.toNat ∧
      q.offset.toNat < p.offset.toNat + bytes.length) →
      m'.readByte q = m.readByte q

theorem exists_writeBytes (maps : m.Maps p bytes.length) :
    ∃ m', m.writeBytes p bytes = .ok m' ∧ m.BytesStored p bytes m' := by
  obtain ⟨s, found, _⟩ := maps.segmentAt
  have fits := maps.2
  refine ⟨_, writeBytes_eq_ok_iff.mpr ⟨s, found, fits, rfl⟩, ?_, ?_⟩
  · rw [readBytes_eq (WordMap.get?_insert_self _ _ _) fits,
      Segment.slice_write s p.offset bytes fits]
  · intro q apart
    by_cases same : q.segment = p.segment
    · have beyond :
          ¬ (p.offset.toNat ≤ q.offset.toNat ∧
            q.offset.toNat < p.offset.toNat + bytes.length) :=
        fun within => apart ⟨same, within⟩
      rw [readByte_eq (s := s.write p.offset bytes) (by simp [same]),
        readByte_eq (s := s) (by rw [same, found]), Segment.byteAt_write _ _ _ _ fits,
        if_neg beyond]
    · simp only [readByte, segmentAt, WordMap.get?_insert_of_ne _ _ same]

theorem bytesStored_of_writeBytes (written : m.writeBytes p bytes = .ok m') :
    m.BytesStored p bytes m' := by
  obtain ⟨s, found, fits, -⟩ := writeBytes_eq_ok_iff.mp written
  obtain ⟨m'', again, stored⟩ := exists_writeBytes ⟨hasSegment_iff.mpr ⟨s, found⟩, fits⟩
  obtain rfl : m'' = m' := Except.ok.inj (again.symm.trans written)
  exact stored

end Memory

theorem Exec.reading_eq_ok {σ α : Type} {f : Memory → Except Fault α} {m : Machine σ} {a : α}
    (read : f m.memory = .ok a) : reading f m = .ok a m := by
  simp only [reading, read]

theorem Exec.of_reading_ok {σ α : Type} {f : Memory → Except Fault α}
    {m m' : Machine σ} {a : α} (ran : reading f m = .ok a m') :
    f m.memory = .ok a ∧ m' = m := by
  rw [reading] at ran
  split at ran
  · next read =>
    cases ran
    exact ⟨read, rfl⟩
  · cases ran

theorem Exec.of_changing_ok {σ : Type} {f : Memory → Except Fault Memory}
    {m m' : Machine σ} {u : Unit} (ran : changing f m = .ok u m') :
    ∃ memory, f m.memory = .ok memory ∧ m' = { m with memory := memory } := by
  rw [changing] at ran
  split at ran
  · next memory changed =>
    cases ran
    exact ⟨memory, changed, rfl⟩
  · cases ran

theorem Exec.of_allocating_ok {σ α : Type} {f : Memory → Except Fault (α × Memory)}
    {m m' : Machine σ} {a : α} (ran : allocating f m = .ok a m') :
    ∃ memory, f m.memory = .ok (a, memory) ∧ m' = { m with memory := memory } := by
  rw [allocating] at ran
  split at ran
  · next memory changed =>
    cases ran
    exact ⟨memory, changed, rfl⟩
  · cases ran

theorem Exec.changing_eq_ok {σ : Type} {f : Memory → Except Fault Memory} {m : Machine σ}
    {memory : Memory} (changed : f m.memory = .ok memory) :
    changing f m = .ok () { m with memory := memory } := by
  simp only [changing, changed]

namespace Dos

open Exec

variable {m m' : Machine Dos} {now : Moment}

/-- The machine with another file system. -/
def withFiles (m : Machine Dos) (files : FileSystem) : Machine Dos :=
  { m with host := { m.host with files := files } }

theorem onFiles_eq_ok {α : Type} (f : FileSystem → α × FileSystem) (m : Machine Dos) :
    onFiles f m = .ok (f m.host.files).1 (withFiles m (f m.host.files).2) := rfl

/-- The registers with the answer to a file operation. -/
def answered (result : Except Error UInt16) (r : Registers) : Registers :=
  match result with
  | .ok value => { r with ax := value }.withCarry false
  | .error e => { r with ax := e.code }.withCarry true

theorem answer_eq_ok (result : Except Error UInt16) (m : Machine Dos) :
    answer result m = .ok () { m with registers := answered result m.registers } := by
  cases result <;> rfl

/-- An answer with Carry clear is the value of an operation that has succeeded. -/
theorem eq_ok_of_answered {result : Except Error UInt16} {r : Registers}
    (clear : (answered result r).flags.carry = false) : result = .ok (answered result r).ax := by
  cases result with
  | ok value => rfl
  | error e => cases clear

/-- The machine once a file operation has been answered. -/
def served (f : FileSystem → Except Error UInt16 × FileSystem) (m : Machine Dos) : Machine Dos :=
  { withFiles m (f m.host.files).2 with registers := answered (f m.host.files).1 m.registers }

theorem registers_served (f : FileSystem → Except Error UInt16 × FileSystem) (m : Machine Dos) :
    (served f m).registers = answered (f m.host.files).1 m.registers := rfl

theorem files_served (f : FileSystem → Except Error UInt16 × FileSystem) (m : Machine Dos) :
    (served f m).host.files = (f m.host.files).2 := rfl

theorem onFiles_answer (f : FileSystem → Except Error UInt16 × FileSystem) (m : Machine Dos) :
    (onFiles f >>= answer) m = .ok () (served f m) := by
  rw [bind_of_ok (onFiles_eq_ok f m), answer_eq_ok]
  rfl

theorem of_nameArgument_ok {name : List UInt8} (given : nameArgument m = .ok name m') :
    m.memory.readString m.registers.dsDx = .ok name ∧ m' = m := by
  rw [nameArgument, bind_of_ok (registers_eq_ok m)] at given
  exact of_reading_ok given

section Create

theorem serve_create (asked : m.registers.ah = 0x3c) : serve now m = createFile m := by
  rw [serve, bind_of_ok (registers_eq_ok m), asked]
  rfl

theorem createFile_eq_ok {name : List UInt8}
    (named : m.memory.readString m.registers.dsDx = .ok name) :
    createFile m = .ok () (served (·.create name) m) := by
  have given : nameArgument m = .ok name m := by
    rw [nameArgument, bind_of_ok (registers_eq_ok m)]
    exact reading_eq_ok named
  rw [createFile, bind_of_ok given]
  exact onFiles_answer (·.create name) m

/-- A create that does not fault has found its name. -/
theorem of_createFile_ok (created : createFile m = .ok () m') :
    ∃ name, m.memory.readString m.registers.dsDx = .ok name ∧
      m' = served (·.create name) m := by
  obtain ⟨name, m₁, given, -⟩ := of_bind_ok created
  obtain ⟨named, rfl⟩ := of_nameArgument_ok given
  rw [createFile_eq_ok named] at created
  exact ⟨name, named, (EStateM.Result.ok.inj created).2.symm⟩

end Create

theorem serve_write (asked : m.registers.ah = 0x40) : serve now m = writeFile m := by
  rw [serve, bind_of_ok (registers_eq_ok m), asked]
  rfl

theorem writeFile_eq_ok {data : List UInt8}
    (held : m.memory.readBytes m.registers.dsDx m.registers.cx.toNat = .ok data)
    (file : m.registers.bx ∉ consoleHandles) :
    writeFile m = .ok () (served (·.write m.registers.bx data) m) := by
  have read : reading (·.readBytes m.registers.dsDx m.registers.cx.toNat) m = .ok data m :=
    reading_eq_ok held
  have other : consoleHandles.contains m.registers.bx = false := by
    rw [Bool.eq_false_iff, Ne, List.contains_iff_mem]
    exact file
  rw [writeFile, bind_of_ok (registers_eq_ok m), bind_of_ok read, other, if_neg Bool.false_ne_true]
  exact onFiles_answer (·.write m.registers.bx data) m

theorem serve_seek (asked : m.registers.ah = 0x42) : serve now m = seekFile m := by
  rw [serve, bind_of_ok (registers_eq_ok m), asked]
  rfl

theorem seekFile_eq_ok {origin : SeekOrigin} {position : UInt32} {files : FileSystem}
    (from? : SeekOrigin.ofCode? m.registers.al = some origin)
    (sought : m.host.files.seek m.registers.bx (dwordOfWords m.registers.dx m.registers.cx) origin =
      (.ok position, files)) :
    seekFile m =
      .ok () { withFiles m files with
        registers := (m.registers.withDxAx position).withCarry false } := by
  have asked :
      onFiles (·.seek m.registers.bx (dwordOfWords m.registers.dx m.registers.cx) origin) m =
      .ok (.ok position) (withFiles m files) := by
    rw [onFiles_eq_ok, sought]
  rw [seekFile, bind_of_ok (registers_eq_ok m), from?]
  dsimp only
  rw [bind_of_ok asked]
  rfl

theorem serve_read (asked : m.registers.ah = 0x3f) : serve now m = readFile m := by
  rw [serve, bind_of_ok (registers_eq_ok m), asked]
  rfl

theorem readFile_eq_ok {bytes : List UInt8} {files : FileSystem} {memory : Memory}
    (fits : m.registers.dx.toNat + m.registers.cx.toNat ≤ Segment.size)
    (read : m.host.files.read m.registers.bx m.registers.cx.toNat = (.ok bytes, files))
    (stored : m.memory.writeBytes m.registers.dsDx bytes = .ok memory) :
    readFile m =
      .ok () { withFiles m files with
        registers := answered (.ok (UInt16.ofNat bytes.length)) m.registers
        memory := memory } := by
  have asked : onFiles (·.read m.registers.bx m.registers.cx.toNat) m =
      .ok (.ok bytes) (withFiles m files) := by
    rw [onFiles_eq_ok, read]
  have changed : changing (·.writeBytes m.registers.dsDx bytes) (withFiles m files) =
      .ok () { withFiles m files with memory := memory } := changing_eq_ok stored
  rw [readFile, bind_of_ok (registers_eq_ok m), if_neg (Nat.not_lt.2 fits), bind_of_ok asked]
  dsimp only
  rw [bind_of_ok changed, answer_eq_ok]
  rfl

end Dos

end RealMode
