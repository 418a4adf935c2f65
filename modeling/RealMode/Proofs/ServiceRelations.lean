import RealMode.Dos.Services
import RealMode.Proofs.Confinement
import RealMode.Proofs.StackWords

/-!
# What the services lead to

A relation between machines is lenient if it looks at no more than the stack pointer and at
what is allocated, and generous if it allows allocations as well. The services lead from each
machine to one that every generous relation allows, and all but five of them to one that every
lenient relation allows.
-/

namespace RealMode

namespace Exec

variable {σ α β : Type}

/-- Whatever its ending, the step leads from a machine to a related one. -/
def Leaves (R : Machine σ → Machine σ → Prop) (x : Exec σ α) : Prop :=
  ∀ m, R m (after x m)

theorem Leaves.bind {R : Machine σ → Machine σ → Prop} {x : Exec σ α}
    {f : α → Exec σ β} (first : Leaves R x)
    (trans : ∀ {m m' m''}, R m m' → R m' m'' → R m m'') (rest : ∀ a, Leaves R (f a)) :
    Leaves R (x >>= f) := by
  intro m
  have left := first m
  cases ran : x m with
  | ok a m' =>
    have joined : after (x >>= f) m = after (f a) m' := by rw [after, bind_of_ok ran, after]
    rw [after_of_ok ran] at left
    rw [joined]
    exact trans left (rest a m')
  | error e m' =>
    rw [after_of_error ran] at left
    rwa [after_of_error (bind_of_error ran)]

structure Lenient (R : Machine σ → Machine σ → Prop) : Prop where
  refl : ∀ m, R m m
  trans : ∀ {m m' m''}, R m m' → R m' m'' → R m m''
  registers : ∀ m (r : Registers), r.ss = m.registers.ss → r.sp = m.registers.sp →
    R m { m with registers := r }
  written : ∀ m p bytes (memory : Memory), m.memory.writeBytes p bytes = .ok memory →
    R m { m with memory := memory }
  host : ∀ m host, R m { m with host := host }

structure Generous (R : Machine σ → Machine σ → Prop) : Prop extends Lenient R where
  named : ∀ m name length p (memory : Memory),
    m.memory.allocateVariable name length = .ok (p, memory) →
    R m { m with memory := memory }
  added : ∀ m kind ordinal (memory : Memory),
    m.memory.allocateSegment kind = .ok (ordinal, memory) →
    R m { m with memory := memory }

namespace Lenient

variable {R : Machine σ → Machine σ → Prop} (lenient : Lenient R)
include lenient

theorem throw (e : Fault) : Leaves R (throw e : Exec σ α) := lenient.refl

theorem pure (a : α) : Leaves R (pure a : Exec σ α) := lenient.refl

theorem read : Leaves R (Exec.registers : Exec σ Registers) := lenient.refl

theorem bind {x : Exec σ α} {f : α → Exec σ β} (first : Leaves R x)
    (rest : ∀ a, Leaves R (f a)) :
    Leaves R (x >>= f) := first.bind lenient.trans rest

omit lenient in
theorem ite {c : Prop} [Decidable c] {x y : Exec σ α} (left : Leaves R x) (right : Leaves R y) :
    Leaves R (if c then x else y) := by
  split
  · exact left
  · exact right

theorem modify (f : Registers → Registers) (ss : ∀ r, (f r).ss = r.ss)
    (sp : ∀ r, (f r).sp = r.sp) :
    Leaves R (modifyRegisters f : Exec σ Unit) := fun m => lenient.registers m _ (ss _) (sp _)

theorem reading (f : Memory → Except Fault α) : Leaves R (reading f : Exec σ α) := by
  intro m
  rw [after, Exec.reading]
  cases f m.memory <;> exact lenient.refl m

theorem writing (p : FarPtr) (bytes : List UInt8) :
    Leaves R (changing (·.writeBytes p bytes) : Exec σ Unit) := by
  intro m
  rw [after, Exec.changing]
  cases written : m.memory.writeBytes p bytes with
  | ok memory => exact lenient.written m p bytes memory written
  | error e => exact lenient.refl m

theorem onHost (x : EStateM Fault σ α) : Leaves R (onHost x) := by
  intro m
  rw [after, Exec.onHost]
  cases x m.host <;> exact lenient.host m _

end Lenient

namespace Generous

variable {R : Machine σ → Machine σ → Prop} (generous : Generous R)
include generous

theorem allocateVariable (name : String) (length : Nat) :
    Leaves R (allocating (·.allocateVariable name length) : Exec σ FarPtr) := by
  intro m
  rw [after, allocating]
  cases allocated : m.memory.allocateVariable name length with
  | ok r => exact generous.named m name length r.1 r.2 allocated
  | error e => exact generous.refl m

theorem allocateSegment (kind : SegmentKind) :
    Leaves R (allocating (·.allocateSegment kind) : Exec σ UInt16) := by
  intro m
  rw [after, allocating]
  cases allocated : m.memory.allocateSegment kind with
  | ok r => exact generous.added m kind r.1 r.2 allocated
  | error e => exact generous.refl m

end Generous

end Exec

namespace Dos

open Exec

variable {α : Type} {R : Machine Dos → Machine Dos → Prop}

section Lenient

variable (lenient : Lenient R)
include lenient

theorem leaves_fail (e : Error) : Leaves R (fail e) := lenient.modify _ (fun _ => rfl) fun _ => rfl

theorem leaves_succeed : Leaves R succeed := lenient.modify _ (fun _ => rfl) fun _ => rfl

theorem leaves_answer (result : Except Error UInt16) : Leaves R (answer result) := by
  cases result with
  | ok value =>
    exact lenient.modify (fun r => { r with ax := value }.withCarry false) (fun _ => rfl) fun _ =>
      rfl
  | error e => exact leaves_fail lenient e

theorem leaves_nameArgument : Leaves R nameArgument :=
  lenient.bind lenient.read fun _ => lenient.reading _

theorem leaves_displayCharacter : Leaves R displayCharacter :=
  lenient.bind lenient.read fun _ => lenient.bind (lenient.onHost _) fun _ =>
    lenient.modify _ (fun _ => rfl) fun _ => rfl

theorem leaves_displayText : Leaves R displayText :=
  lenient.bind lenient.read fun _ => lenient.bind (lenient.reading _) fun _ =>
    lenient.bind (lenient.onHost _) fun _ =>
    lenient.modify _ (fun _ => rfl) fun _ => rfl

theorem leaves_setVector : Leaves R setVector := lenient.bind lenient.read fun _ => lenient.onHost _

theorem leaves_getVector : Leaves R getVector := fun m => lenient.registers m _ rfl rfl

theorem leaves_createFile : Leaves R createFile :=
  lenient.bind (leaves_nameArgument lenient) fun _ => lenient.bind (lenient.onHost _) fun _ =>
    leaves_answer lenient _

theorem leaves_openFile : Leaves R openFile := by
  refine lenient.bind (leaves_nameArgument lenient) fun name =>
    lenient.bind lenient.read fun r => ?_
  cases AccessMode.ofCode? r.al with
  | none => exact leaves_fail lenient _
  | some mode => exact lenient.bind (lenient.onHost _) fun _ => leaves_answer lenient _

theorem leaves_closeFile : Leaves R closeFile :=
  lenient.bind lenient.read fun _ =>
    Lenient.ite (leaves_answer lenient _)
      (lenient.bind (lenient.onHost _) fun _ => leaves_answer lenient _)

theorem leaves_readFile : Leaves R readFile := by
  refine lenient.bind lenient.read fun r => Lenient.ite (leaves_fail lenient _) ?_
  refine lenient.bind (lenient.onHost _) fun result => ?_
  cases result with
  | error e => exact leaves_fail lenient e
  | ok bytes => exact lenient.bind (lenient.writing r.dsDx bytes) fun _ => leaves_answer lenient _

theorem leaves_writeFile : Leaves R writeFile :=
  lenient.bind lenient.read fun _ => lenient.bind (lenient.reading _) fun _ =>
    Lenient.ite (lenient.bind (lenient.onHost _) fun _ => leaves_answer lenient _)
      (lenient.bind (lenient.onHost _) fun _ => leaves_answer lenient _)

theorem leaves_seekFile : Leaves R seekFile := by
  refine lenient.bind lenient.read fun r => ?_
  cases SeekOrigin.ofCode? r.al with
  | none => exact leaves_fail lenient _
  | some origin =>
    refine lenient.bind (lenient.onHost _) fun result => ?_
    cases result with
    | error e => exact leaves_fail lenient e
    | ok position =>
      exact lenient.modify (fun r => (r.withDxAx position).withCarry false) (fun _ => rfl) fun _ =>
        rfl

omit lenient in
/-- Either the function is refused, or DX tells what the handle is. -/
theorem deviceInformation_cases (m : Machine Dos) :
    deviceInformation m = .error (.unsupportedDosFunction m.registers.ah) m ∨
      ∃ dx, deviceInformation m =
        .ok () { m with registers := { m.registers with dx := dx }.withCarry false } := by
  by_cases other : m.registers.al ≠ 0
  · refine .inl ?_
    rw [deviceInformation, bind_of_ok (registers_eq_ok m), if_pos other]
    rfl
  · refine .inr ?_
    rw [deviceInformation, bind_of_ok (registers_eq_ok m), if_neg other]
    exact ⟨_, rfl⟩

theorem leaves_deviceInformation : Leaves R deviceInformation := by
  intro m
  rcases deviceInformation_cases m with refused | ⟨dx, told⟩
  · rw [after_of_error refused]
    exact lenient.refl m
  · rw [after_of_ok told]
    exact lenient.registers m _ rfl rfl

theorem leaves_getCurrentDirectory : Leaves R getCurrentDirectory :=
  lenient.bind lenient.read fun _ => lenient.bind (lenient.writing _ _) fun _ =>
    leaves_succeed lenient

/-- What a search does once it has its transfer area. -/
def fillArea (start : Exec Dos Unit) (area : FarPtr) : Exec Dos Unit := do
  let record ← reading (·.readBytes area SearchRecord.size)
  start
  let result ← onFiles (·.nextFound)
  match result with
  | .error e =>
    changing (·.writeBytes area record)
    fail e
  | .ok (name, size) =>
    match SearchRecord.fill record name size with
    | none => throw (.searchRecordOverflow name.toBytes.length)
    | some record =>
      changing (·.writeBytes area record)
      answer (.ok 0)

omit lenient in
theorem find_eq (start : Exec Dos Unit) : find start = transferArea >>= fillArea start := rfl

theorem leaves_fillArea {start : Exec Dos Unit} (starts : Leaves R start) (area : FarPtr) :
    Leaves R (fillArea start area) := by
  refine lenient.bind (lenient.reading _) fun record => lenient.bind starts fun _ => ?_
  refine lenient.bind (lenient.onHost _) fun result => ?_
  cases result with
  | error e => exact lenient.bind (lenient.writing area record) fun _ => leaves_fail lenient e
  | ok found =>
    dsimp only
    split
    · exact lenient.throw _
    · exact lenient.bind (lenient.writing area _) fun _ => leaves_answer lenient _

/-- The pattern of a search. -/
def startSearch : Exec Dos Unit := do
  let pattern ← nameArgument
  onFiles fun files => ((), files.search pattern)

theorem leaves_startSearch : Leaves R startSearch :=
  lenient.bind (leaves_nameArgument lenient) fun _ => lenient.onHost _

/-- One case for each function. Five of them can allocate. -/
theorem serve_cases (now : Moment) (m : Machine Dos) :
    ∃ x : Exec Dos Unit, serve now m = x m ∧
      (Leaves R x ∨ x = setTransferArea m.registers.dsDx ∨ x = getTransferArea ∨
        m.registers.ah = 0x4e ∧ x = find startSearch ∨ x = find (return ()) ∨
        m.registers.ah = 0x62 ∧ x = getPrefix) := by
  rw [serve, bind_of_ok (registers_eq_ok m)]
  refine ⟨_, rfl, ?_⟩
  split
  · exact .inl (leaves_displayCharacter lenient)
  · exact .inl (leaves_displayText lenient)
  · exact .inl (lenient.modify _ (fun _ => rfl) fun _ => rfl)
  · exact .inr (.inl rfl)
  · exact .inl (leaves_setVector lenient)
  · exact .inl (lenient.modify _ (fun _ => rfl) fun _ => rfl)
  · exact .inl (lenient.modify _ (fun _ => rfl) fun _ => rfl)
  · exact .inr (.inr (.inl rfl))
  · exact .inl (lenient.modify _ (fun _ => rfl) fun _ => rfl)
  · exact .inl (lenient.modify _ (fun _ => rfl) fun _ => rfl)
  · exact .inl (leaves_getVector lenient)
  · exact .inl (leaves_createFile lenient)
  · exact .inl (leaves_openFile lenient)
  · exact .inl (leaves_closeFile lenient)
  · exact .inl (leaves_readFile lenient)
  · exact .inl (leaves_writeFile lenient)
  · exact .inl (leaves_seekFile lenient)
  · exact .inl (leaves_deviceInformation lenient)
  · exact .inl (leaves_getCurrentDirectory lenient)
  · exact .inl (leaves_succeed lenient)
  · exact .inl (lenient.modify _ (fun _ => rfl) fun _ => rfl)
  · next asked => exact .inr (.inr (.inr (.inl ⟨UInt8.toNat_inj.1 asked, rfl⟩)))
  · exact .inr (.inr (.inr (.inr (.inl rfl))))
  · next asked => exact .inr (.inr (.inr (.inr (.inr ⟨UInt8.toNat_inj.1 asked, rfl⟩))))
  · exact .inl (lenient.throw _)

end Lenient

section Generous

variable (generous : Generous R)
include generous

theorem leaves_transferArea : Leaves R transferArea := by
  refine generous.bind (generous.reading _) fun pointer => ?_
  cases pointer with
  | some p => exact generous.reading _
  | none => exact generous.allocateVariable _ _

theorem leaves_setTransferArea (p : FarPtr) : Leaves R (setTransferArea p) :=
  generous.bind (generous.allocateVariable _ _) fun pointer => generous.writing pointer p.toBytes

theorem leaves_getPrefix : Leaves R getPrefix := by
  refine generous.bind (generous.bind (generous.reading _) fun known => ?_) fun _ =>
    generous.modify _ (fun _ => rfl) fun _ => rfl
  cases known with
  | some p => exact generous.reading _
  | none =>
    refine generous.bind (generous.allocateSegment _) fun segment => ?_
    refine generous.bind (generous.allocateVariable _ _) fun p => ?_
    exact generous.bind (generous.writing p (bytesOfWord segment)) fun _ => generous.pure segment

theorem leaves_find {start : Exec Dos Unit} (starts : Leaves R start) : Leaves R (find start) :=
  generous.bind (leaves_transferArea generous) (leaves_fillArea generous.toLenient starts)

theorem leaves_serve (now : Moment) : Leaves R (serve now) := by
  intro m
  obtain ⟨x, same, service⟩ := serve_cases generous.toLenient now m
  have leaves : Leaves R x := by
    rcases service with quiet | rfl | rfl | ⟨_, rfl⟩ | rfl | ⟨_, rfl⟩
    · exact quiet
    · exact leaves_setTransferArea generous _
    · exact generous.bind (leaves_transferArea generous) fun _ =>
        generous.modify _ (fun _ => rfl) fun _ => rfl
    · exact leaves_find generous (leaves_startSearch generous.toLenient)
    · exact leaves_find generous (generous.pure ())
    · exact leaves_getPrefix generous
  rw [after, same]
  exact leaves m

end Generous

end Dos

end RealMode
