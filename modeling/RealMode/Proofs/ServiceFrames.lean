import RealMode.Proofs.FileServices
import RealMode.Proofs.ServiceRelations

/-!
# What the services leave alone

Each service may change few parts of the registers, whatever its ending, and the other half of a
register of which it changes one half is kept. The services that work on files tell with Carry
whether the operation on the files has failed, and a failure changes nothing but Carry and AX.
-/

namespace RealMode.Dos

open Exec

variable {α β : Type} {m m' : Machine Dos} {r r' r'' : Registers} {now : Moment}

/-- The parts of the registers that services tell apart. -/
inductive Part where
  | al | ah | bx | cx | dl | dh | si | di | bp | sp | cs | ds | es | ss | ip
  | carry
  | otherFlags
  | halt
deriving DecidableEq

/-- The part is the same in both register files. -/
def Part.Same (r r' : Registers) : Part → Prop
  | .al => r'.al = r.al
  | .ah => r'.ah = r.ah
  | .bx => r'.bx = r.bx
  | .cx => r'.cx = r.cx
  | .dl => r'.dl = r.dl
  | .dh => r'.dh = r.dh
  | .si => r'.si = r.si
  | .di => r'.di = r.di
  | .bp => r'.bp = r.bp
  | .sp => r'.sp = r.sp
  | .cs => r'.cs = r.cs
  | .ds => r'.ds = r.ds
  | .es => r'.es = r.es
  | .ss => r'.ss = r.ss
  | .ip => r'.ip = r.ip
  | .carry => r'.flags.carry = r.flags.carry
  | .otherFlags => { r'.flags with carry := r.flags.carry } = r.flags
  | .halt => r'.halt = r.halt

theorem Part.same_refl (r : Registers) (part : Part) : part.Same r r := by cases part <;> rfl

theorem Part.same_trans {part : Part} (first : part.Same r r') (second : part.Same r' r'') :
    part.Same r r'' := by
  cases part with
  | otherFlags =>
    have both : { r''.flags with carry := r.flags.carry } =
        { r'.flags with carry := r.flags.carry } :=
      congrArg (fun flags : Flags => { flags with carry := r.flags.carry }) second
    exact both.trans first
  | _ => exact Eq.trans second first

/-- What no part shows to be different is the same. -/
theorem Part.eq_of_same (same : ∀ part : Part, part.Same r r') : r' = r := by
  have word {w w' : UInt16} (low : lowByte w' = lowByte w) (high : highByte w' = highByte w) : w' =
      w := by
    rw [← wordOfBytes_low_high w', low, high, wordOfBytes_low_high]
  have ax : r'.ax = r.ax := word (same .al) (same .ah)
  have dx : r'.dx = r.dx := word (same .dl) (same .dh)
  have flags : r'.flags = r.flags := by
    have others := same .otherFlags
    rwa [Part.Same, ← show r'.flags.carry = r.flags.carry from same .carry] at others
  have bx := same .bx
  have cx := same .cx
  have si := same .si
  have di := same .di
  have bp := same .bp
  have sp := same .sp
  have cs := same .cs
  have ds := same .ds
  have es := same .es
  have ss := same .ss
  have ip := same .ip
  have halt := same .halt
  simp only [Part.Same] at bx cx si di bp sp cs ds es ss ip halt
  cases r
  cases r'
  simp_all only

/-- No part is different but those that are listed. -/
def OnlyChanges (listed : List Part) (r r' : Registers) : Prop :=
  ∀ part, part ∉ listed → part.Same r r'

section Changes

variable {listed : List Part}

theorem OnlyChanges.refl (r : Registers) : OnlyChanges listed r r := fun part _ => part.same_refl r

theorem OnlyChanges.trans (first : OnlyChanges listed r r') (second : OnlyChanges listed r' r'') :
    OnlyChanges listed r r'' :=
  fun part kept => Part.same_trans (first part kept) (second part kept)

theorem changes_al (al : .al ∈ listed) (r : Registers) (v : UInt8) :
    OnlyChanges listed r (r.withAl v) := by
  intro part kept
  cases part with
  | al => exact absurd al kept
  | ah => exact highByte_wordOfBytes v r.ah
  | _ => rfl

theorem changes_dl (dl : .dl ∈ listed) (r : Registers) (v : UInt8) :
    OnlyChanges listed r (r.withDl v) := by
  intro part kept
  cases part with
  | dl => exact absurd dl kept
  | dh => exact highByte_wordOfBytes v r.dh
  | _ => rfl

theorem changes_ax (al : .al ∈ listed) (ah : .ah ∈ listed) (r : Registers) (v : UInt16) :
    OnlyChanges listed r { r with ax := v } := by
  intro part kept
  cases part with
  | al => exact absurd al kept
  | ah => exact absurd ah kept
  | _ => rfl

theorem changes_dx (dl : .dl ∈ listed) (dh : .dh ∈ listed) (r : Registers) (v : UInt16) :
    OnlyChanges listed r { r with dx := v } := by
  intro part kept
  cases part with
  | dl => exact absurd dl kept
  | dh => exact absurd dh kept
  | _ => rfl

theorem changes_bx (bx : .bx ∈ listed) (r : Registers) (v : UInt16) :
    OnlyChanges listed r { r with bx := v } := by
  intro part kept
  cases part with
  | bx => exact absurd bx kept
  | _ => rfl

theorem changes_pointer (r : Registers) (p : FarPtr) :
    OnlyChanges [.bx, .es] r { r with es := p.segment, bx := p.offset } := by
  intro part kept
  cases part with
  | bx | es => exact absurd (by decide) kept
  | _ => rfl

theorem changes_halt (halt : .halt ∈ listed) (r : Registers) (b : Bool) :
    OnlyChanges listed r { r with halt := b } := by
  intro part kept
  cases part with
  | halt => exact absurd halt kept
  | _ => rfl

theorem changes_carry (carry : .carry ∈ listed) (r : Registers) (b : Bool) :
    OnlyChanges listed r (r.withCarry b) := by
  intro part kept
  cases part with
  | carry => exact absurd carry kept
  | _ => rfl

end Changes

theorem registers_after_onHost (x : EStateM Fault Dos α) (m : Machine Dos) :
    (after (onHost x) m).registers = m.registers := by
  rw [after, onHost]
  cases x m.host <;> rfl

/-- Whatever its ending, the step changes no part of the registers but those that are listed. -/
def Frames (listed : List Part) (x : Exec Dos α) : Prop :=
  Leaves (fun m m' => OnlyChanges listed m.registers m'.registers) x

namespace Frames

variable {listed : List Part}

theorem of_same {x : Exec Dos α} (same : ∀ m, (after x m).registers = m.registers) :
    Frames listed x := by
  intro m
  rw [same]
  exact .refl _

theorem bind {x : Exec Dos α} {f : α → Exec Dos β} (first : Frames listed x)
    (rest : ∀ a, Frames listed (f a)) :
    Frames listed (x >>= f) := Leaves.bind first .trans rest

theorem throw (e : Fault) : Frames listed (throw e : Exec Dos α) := of_same fun _ => rfl

theorem pure (a : α) : Frames listed (pure a : Exec Dos α) := of_same fun _ => rfl

theorem read : Frames listed (registers : Exec Dos Registers) := of_same fun _ => rfl

theorem ite {c : Prop} [Decidable c] {x y : Exec Dos α} (left : Frames listed x)
    (right : Frames listed y) : Frames listed (if c then x else y) := Lenient.ite left right

theorem reading (f : Memory → Except Fault α) : Frames listed (reading f : Exec Dos α) :=
  of_same fun m => by
    rw [after, Exec.reading]
    cases f m.memory <;> rfl

theorem changing (f : Memory → Except Fault Memory) :
    Frames listed (changing f : Exec Dos Unit) :=
  of_same fun m => by
    rw [after, Exec.changing]
    cases f m.memory <;> rfl

theorem allocating (f : Memory → Except Fault (α × Memory)) :
    Frames listed (allocating f : Exec Dos α) :=
  of_same fun m => by
    rw [after, Exec.allocating]
    cases f m.memory <;> rfl

theorem onHost (x : EStateM Fault Dos α) : Frames listed (onHost x) :=
  of_same (registers_after_onHost x)

theorem modify {f : Registers → Registers} (changes : ∀ r, OnlyChanges listed r (f r)) :
    Frames listed (modifyRegisters f : Exec Dos Unit) := fun m => changes m.registers

theorem succeed (carry : .carry ∈ listed) : Frames listed succeed :=
  modify fun r => changes_carry carry r false

theorem answer (al : .al ∈ listed) (ah : .ah ∈ listed) (carry : .carry ∈ listed)
    (result : Except Error UInt16) : Frames listed (answer result) := by
  cases result with
  | ok value => exact modify fun r => (changes_ax al ah r value).trans (changes_carry carry _ false)
  | error e => exact modify fun r => (changes_ax al ah r e.code).trans (changes_carry carry _ true)

end Frames

/-- The parts that the function in AH may change. -/
def changes (ah : UInt8) : List Part :=
  match ah.toNat with
  | 0x02 => [.al]
  | 0x09 => [.al]
  | 0x19 => [.al]
  | 0x2a => [.al, .cx, .dl, .dh]
  | 0x2c => [.cx, .dl, .dh]
  | 0x2f => [.bx, .es]
  | 0x30 => [.al, .ah, .bx, .cx]
  | 0x33 => [.dl]
  | 0x35 => [.bx, .es]
  | 0x3c => [.al, .ah, .carry]
  | 0x3d => [.al, .ah, .carry]
  | 0x3e => [.al, .ah, .carry]
  | 0x3f => [.al, .ah, .carry]
  | 0x40 => [.al, .ah, .carry]
  | 0x42 => [.al, .ah, .dl, .dh, .carry]
  | 0x44 => [.dl, .dh, .carry]
  | 0x47 => [.carry]
  | 0x4a => [.carry]
  | 0x4c => [.halt]
  | 0x4e => [.al, .ah, .carry]
  | 0x4f => [.al, .ah, .carry]
  | 0x62 => [.bx]
  | _ => []

section Frames

variable {listed : List Part}

theorem frames_displayCharacter : Frames [.al] displayCharacter :=
  .bind .read fun r => .bind (.onHost _) fun _ => .modify fun r' => changes_al (by decide) r' r.dl

theorem frames_displayText : Frames [.al] displayText :=
  .bind .read fun _ => .bind (.reading _) fun _ => .bind (.onHost _) fun _ =>
    .modify fun r => changes_al (by decide) r dollar

theorem frames_setTransferArea (p : FarPtr) : Frames [] (setTransferArea p) :=
  .bind (.allocating _) fun _ => .changing _

theorem frames_setVector : Frames [] setVector := .bind .read fun _ => .onHost _

theorem frames_date (now : Moment) : Frames [.al, .cx, .dl, .dh] (date now) := by
  refine .modify fun r part kept => ?_
  cases part with
  | al | cx | dl | dh => exact absurd (by decide) kept
  | ah => exact highByte_wordOfBytes _ r.ah
  | _ => rfl

theorem frames_time (now : Moment) : Frames [.cx, .dl, .dh] (time now) := by
  refine .modify fun r part kept => ?_
  cases part with
  | cx | dl | dh => exact absurd (by decide) kept
  | _ => rfl

theorem frames_transferArea : Frames listed transferArea := by
  refine .bind (.reading _) fun pointer => ?_
  cases pointer with
  | some p => exact .reading _
  | none => exact .allocating _

theorem frames_getTransferArea : Frames [.bx, .es] getTransferArea :=
  .bind frames_transferArea fun p => .modify fun r => changes_pointer r p

theorem frames_version : Frames [.al, .ah, .bx, .cx] version := by
  refine .modify fun r part kept => ?_
  cases part with
  | al | ah | bx | cx => exact absurd (by decide) kept
  | _ => rfl

theorem frames_getVector : Frames [.bx, .es] getVector := fun m => changes_pointer m.registers _

theorem frames_nameArgument : Frames listed nameArgument := .bind .read fun _ => .reading _

theorem frames_answer (result : Except Error UInt16) : Frames [.al, .ah, .carry] (answer result) :=
  .answer (by decide) (by decide) (by decide) result

theorem frames_createFile : Frames [.al, .ah, .carry] createFile :=
  .bind frames_nameArgument fun _ => .bind (.onHost _) frames_answer

theorem frames_openFile : Frames [.al, .ah, .carry] openFile := by
  refine .bind frames_nameArgument fun name => .bind .read fun r => ?_
  cases AccessMode.ofCode? r.al with
  | none => exact frames_answer (.error _)
  | some mode => exact .bind (.onHost _) frames_answer

theorem frames_closeFile : Frames [.al, .ah, .carry] closeFile :=
  .bind .read fun _ => .ite (frames_answer _) (.bind (.onHost _) fun _ => frames_answer _)

theorem frames_readFile : Frames [.al, .ah, .carry] readFile := by
  refine .bind .read fun r => .ite (frames_answer (.error _)) (.bind (.onHost _) fun result => ?_)
  cases result with
  | error e => exact frames_answer (.error e)
  | ok bytes => exact .bind (.changing _) fun _ => frames_answer _

theorem frames_writeFile : Frames [.al, .ah, .carry] writeFile :=
  .bind .read fun _ => .bind (.reading _) fun _ =>
    .ite (.bind (.onHost _) fun _ => frames_answer _) (.bind (.onHost _) frames_answer)

theorem frames_seekFile : Frames [.al, .ah, .dl, .dh, .carry] seekFile := by
  have fails (e : Error) : Frames [.al, .ah, .dl, .dh, .carry] (fail e) :=
    .answer (by decide) (by decide) (by decide) (.error e)
  refine .bind .read fun r => ?_
  cases SeekOrigin.ofCode? r.al with
  | none => exact fails _
  | some origin =>
    refine .bind (.onHost _) fun result => ?_
    cases result with
    | error e => exact fails e
    | ok position =>
      refine .modify fun r part kept => ?_
      cases part with
      | al | ah | dl | dh | carry => exact absurd (by decide) kept
      | _ => rfl

theorem frames_deviceInformation : Frames [.dl, .dh, .carry] deviceInformation := by
  intro m
  rcases deviceInformation_cases m with refused | ⟨dx, told⟩
  · rw [after_of_error refused]
    exact .refl m.registers
  · rw [after_of_ok told]
    exact (changes_dx (by decide) (by decide) m.registers dx).trans
      (changes_carry (by decide) _ false)

theorem frames_getCurrentDirectory : Frames [.carry] getCurrentDirectory :=
  .bind .read fun _ => .bind (.changing _) fun _ => .succeed (by decide)

theorem frames_find {start : Exec Dos Unit} (starts : Frames [.al, .ah, .carry] start) :
    Frames [.al, .ah, .carry] (find start) := by
  refine .bind frames_transferArea fun area => .bind (.reading _) fun record =>
    .bind starts fun _ => ?_
  refine .bind (.onHost _) fun result => ?_
  cases result with
  | error e => exact .bind (.changing _) fun _ => frames_answer (.error e)
  | ok found =>
    dsimp only
    split
    · exact .throw _
    · exact .bind (.changing _) fun _ => frames_answer _

theorem frames_getPrefix : Frames [.bx] getPrefix := by
  refine .bind (.bind (.reading _) fun known => ?_) fun _ => .modify fun r =>
    changes_bx (by decide) r _
  cases known with
  | some p => exact .reading _
  | none =>
    exact .bind (.allocating _) fun _ => .bind (.allocating _) fun _ =>
      .bind (.changing _) fun _ => .pure _

/-- One case for each function. -/
theorem frames_serve (now : Moment) (m : Machine Dos) :
    OnlyChanges (changes m.registers.ah) m.registers (after (serve now) m).registers := by
  have whole (x : Exec Dos Unit) (same : serve now m = x m)
      (frames : Frames (changes m.registers.ah) x) :
      OnlyChanges (changes m.registers.ah) m.registers (after (serve now) m).registers := by
    rw [after, same]
    exact frames m
  refine whole _ (bind_of_ok (registers_eq_ok m)) ?_
  split <;> rename_i asked <;> simp only [changes, asked]
  · exact frames_displayCharacter
  · exact frames_displayText
  · exact .modify fun r => changes_al (by decide) r _
  · exact frames_setTransferArea _
  · exact frames_setVector
  · exact frames_date now
  · exact frames_time now
  · exact frames_getTransferArea
  · exact frames_version
  · exact .modify fun r => changes_dl (by decide) r 0
  · exact frames_getVector
  · exact frames_createFile
  · exact frames_openFile
  · exact frames_closeFile
  · exact frames_readFile
  · exact frames_writeFile
  · exact frames_seekFile
  · exact frames_deviceInformation
  · exact frames_getCurrentDirectory
  · exact .succeed (by decide)
  · exact .modify fun r => changes_halt (by decide) r true
  · exact frames_find (.bind frames_nameArgument fun _ => .onHost _)
  · exact frames_find (.pure ())
  · exact frames_getPrefix
  · exact .throw _

end Frames

/-- Whether an operation has failed, and how. -/
def status (result : Except Error α) : Except Error Unit := result.map fun _ => ()

/-- What comes of the operation on files that the function in AH asks for. There is none for the
other functions, and where the arguments cannot be read. -/
def operation? (m : Machine Dos) : Option (Except Error Unit) :=
  let r := m.registers
  let files := m.host.files
  match r.ah.toNat with
  | 0x3c => (m.memory.readString r.dsDx).toOption.map fun name => status (files.create name).1
  | 0x3d =>
    (m.memory.readString r.dsDx).toOption.map fun name =>
      match AccessMode.ofCode? r.al with
      | none => .error .invalidFileAccessMode
      | some mode => status (files.openFile name mode).1
  | 0x3e => some (if r.bx ≤ lastDevice then .ok () else status (files.close r.bx).1)
  | 0x3f =>
    some (if Segment.size < r.dx.toNat + r.cx.toNat then .error .insufficientMemory
      else status (files.read r.bx r.cx.toNat).1)
  | 0x40 =>
    (m.memory.readBytes r.dsDx r.cx.toNat).toOption.map fun data =>
      if consoleHandles.contains r.bx then .ok () else status (files.write r.bx data).1
  | 0x42 =>
    some <|
      match SeekOrigin.ofCode? r.al with
      | none => .error .invalidFunction
      | some origin => status (files.seek r.bx (dwordOfWords r.dx r.cx) origin).1
  | 0x4e =>
    (m.memory.readString r.dsDx).toOption.map fun pattern =>
      status (files.search pattern).nextFound.1
  | 0x4f => some (status files.nextFound.1)
  | _ => none

/-- The functions that ask for an operation on files. -/
def fileFunctions : List UInt8 := [0x3c, 0x3d, 0x3e, 0x3f, 0x40, 0x42, 0x4e, 0x4f]

/-- Carry tells whether the operation has failed. A failure puts its code into AX and
changes nothing else. -/
structure Tells (result : Except Error Unit) (r r' : Registers) : Prop where
  carry : r'.flags.carry = true ↔ ∃ e, result = .error e
  failed : ∀ e, result = .error e → r' = { r with ax := e.code }.withCarry true

section Outcomes

variable {result : Except Error Unit} {u : Unit}

theorem tells_ok (clear : r'.flags.carry = false) : Tells (.ok ()) r r' where
  carry := by simp [clear]
  failed _ failure := by cases failure

theorem tells_error (e : Error) (r : Registers) :
    Tells (.error e) r ({ r with ax := e.code }.withCarry true) where
  carry := iff_of_true rfl ⟨e, rfl⟩
  failed _ failure := by
    cases failure
    rfl

theorem tells_answered (result : Except Error UInt16) (r : Registers) :
    Tells (status result) r (answered result r) := by
  cases result with
  | ok value => exact tells_ok rfl
  | error e => exact tells_error e r

theorem tells_fail {e : Error} (ran : fail e m = .ok u m') (same : m.registers = r) :
    Tells (.error e) r m'.registers := by
  cases ran
  rw [← same]
  exact tells_error e m.registers

theorem tells_answer {result : Except Error UInt16} (ran : answer result m = .ok u m')
    (same : m.registers = r) : Tells (status result) r m'.registers := by
  rw [answer_eq_ok] at ran
  cases ran
  rw [← same]
  exact tells_answered result m.registers

theorem tells_served (f : FileSystem → Except Error UInt16 × FileSystem) (m : Machine Dos) :
    Tells (status (f m.host.files).1) m.registers (served f m).registers := by
  rw [registers_served]
  exact tells_answered _ _

theorem tells_onFiles {f : FileSystem → Except Error UInt16 × FileSystem}
    (ran : (onFiles f >>= answer) m = .ok u m') :
    Tells (status (f m.host.files).1) m.registers m'.registers := by
  rw [onFiles_answer] at ran
  obtain ⟨-, rfl⟩ := EStateM.Result.ok.inj ran
  exact tells_served f m

theorem registers_of_writeConsole {data : List UInt8} (ran : writeConsole data m = .ok u m') :
    m'.registers = m.registers := by
  have still : (after (writeConsole data) m).registers = m.registers := registers_after_onHost _ m
  rwa [after_of_ok ran] at still

theorem tells_createFile (ran : createFile m = .ok () m') :
    ∃ name, m.memory.readString m.registers.dsDx = .ok name ∧
    Tells (status (m.host.files.create name).1) m.registers m'.registers := by
  obtain ⟨name, named, rfl⟩ := of_createFile_ok ran
  exact ⟨name, named, tells_served (·.create name) m⟩

theorem tells_openFile (ran : openFile m = .ok () m') :
    ∃ name, m.memory.readString m.registers.dsDx = .ok name ∧
    Tells
      (match AccessMode.ofCode? m.registers.al with
        | none => .error .invalidFileAccessMode
        | some mode => status (m.host.files.openFile name mode).1)
      m.registers m'.registers := by
  obtain ⟨name, m₁, given, rest⟩ := of_bind_ok ran
  obtain ⟨named, rfl⟩ := of_nameArgument_ok given
  refine ⟨name, named, ?_⟩
  rw [bind_of_ok (registers_eq_ok m₁)] at rest
  cases mode : AccessMode.ofCode? m₁.registers.al with
  | none =>
    rw [mode] at rest
    exact tells_fail rest rfl
  | some mode' =>
    rw [mode] at rest
    exact tells_onFiles (f := (·.openFile name mode')) rest

theorem tells_closeFile (ran : closeFile m = .ok () m') :
    Tells (if m.registers.bx ≤ lastDevice then .ok ()
      else status (m.host.files.close m.registers.bx).1)
      m.registers m'.registers := by
  rw [closeFile, bind_of_ok (registers_eq_ok m)] at ran
  by_cases device : m.registers.bx ≤ lastDevice
  · rw [if_pos device] at ran ⊢
    exact tells_answer ran rfl
  · rw [if_neg device, bind_of_ok (onFiles_eq_ok _ m)] at ran
    rw [if_neg device]
    have told := tells_answer ran rfl
    cases closed : (m.host.files.close m.registers.bx).1 <;> rwa [closed] at told

theorem tells_readFile (ran : readFile m = .ok () m') :
    Tells
      (if Segment.size < m.registers.dx.toNat + m.registers.cx.toNat then .error .insufficientMemory
        else status (m.host.files.read m.registers.bx m.registers.cx.toNat).1)
      m.registers m'.registers := by
  rw [readFile, bind_of_ok (registers_eq_ok m)] at ran
  by_cases past : Segment.size < m.registers.dx.toNat + m.registers.cx.toNat
  · rw [if_pos past] at ran ⊢
    exact tells_fail ran rfl
  · rw [if_neg past, bind_of_ok (onFiles_eq_ok _ m)] at ran
    rw [if_neg past]
    cases read : (m.host.files.read m.registers.bx m.registers.cx.toNat).1 with
    | error e =>
      rw [read] at ran
      dsimp only at ran
      exact tells_fail ran rfl
    | ok bytes =>
      rw [read] at ran
      obtain ⟨_, m₁, written, rest⟩ := of_bind_ok ran
      obtain ⟨memory, -, rfl⟩ := of_changing_ok written
      exact tells_answer rest rfl

theorem tells_writeFile (ran : writeFile m = .ok () m') :
    ∃ data, m.memory.readBytes m.registers.dsDx m.registers.cx.toNat = .ok data ∧
      Tells (if consoleHandles.contains m.registers.bx then .ok ()
        else status (m.host.files.write m.registers.bx data).1)
        m.registers m'.registers := by
  rw [writeFile, bind_of_ok (registers_eq_ok m)] at ran
  obtain ⟨data, m₁, read, rest⟩ := of_bind_ok ran
  obtain ⟨held, rfl⟩ := of_reading_ok read
  refine ⟨data, held, ?_⟩
  by_cases console : consoleHandles.contains m₁.registers.bx = true
  · rw [if_pos console] at rest ⊢
    obtain ⟨_, m₂, written, rest⟩ := of_bind_ok rest
    exact tells_answer rest (registers_of_writeConsole written)
  · rw [if_neg console] at rest ⊢
    exact tells_onFiles (f := (·.write m₁.registers.bx data)) rest

theorem tells_seekFile (ran : seekFile m = .ok () m') :
    Tells
      (match SeekOrigin.ofCode? m.registers.al with
        | none => .error .invalidFunction
        | some origin =>
          status
            (m.host.files.seek m.registers.bx
              (dwordOfWords m.registers.dx m.registers.cx) origin).1)
      m.registers m'.registers := by
  rw [seekFile, bind_of_ok (registers_eq_ok m)] at ran
  cases origin : SeekOrigin.ofCode? m.registers.al with
  | none =>
    rw [origin] at ran
    exact tells_fail ran rfl
  | some origin' =>
    rw [origin] at ran
    dsimp only at ran ⊢
    rw [bind_of_ok (onFiles_eq_ok _ m)] at ran
    cases sought :
      (m.host.files.seek m.registers.bx (dwordOfWords m.registers.dx m.registers.cx) origin').1 with
    | error e =>
      rw [sought] at ran
      dsimp only at ran
      exact tells_fail ran rfl
    | ok position =>
      rw [sought] at ran
      cases ran
      exact tells_ok rfl

/-- Making a transfer area touches neither the registers nor the host, and no byte. -/
theorem of_transferArea_ok {area : FarPtr} (made : transferArea m = .ok area m') :
    m'.registers = m.registers ∧ m'.host = m.host ∧ m'.memory.segments = m.memory.segments := by
  obtain ⟨pointer, m₁, known, rest⟩ := of_bind_ok made
  obtain ⟨-, rfl⟩ := of_reading_ok known
  cases pointer with
  | some p =>
    obtain ⟨-, rfl⟩ := of_reading_ok rest
    exact ⟨rfl, rfl, rfl⟩
  | none =>
    obtain ⟨memory, allocated, rfl⟩ := of_allocating_ok rest
    exact ⟨rfl, rfl, (Memory.of_allocateVariable allocated).1⟩

theorem tells_fillArea {start : Exec Dos Unit} {area : FarPtr}
    (ran : fillArea start area m = .ok () m')
    (still : ∀ m₁, start m = .ok () m₁ → m₁.registers = m.registers) :
    ∃ m₁, start m = .ok () m₁ ∧
      Tells (status m₁.host.files.nextFound.1) m.registers m'.registers := by
  obtain ⟨record, m₁, read, rest⟩ := of_bind_ok ran
  obtain ⟨-, rfl⟩ := of_reading_ok read
  obtain ⟨_, m₂, started, rest⟩ := of_bind_ok rest
  refine ⟨m₂, started, ?_⟩
  have same := still m₂ started
  rw [bind_of_ok (onFiles_eq_ok _ m₂)] at rest
  cases found : m₂.host.files.nextFound.1 with
  | error e =>
    rw [found] at rest
    obtain ⟨_, m₃, written, rest⟩ := of_bind_ok rest
    obtain ⟨memory, -, rfl⟩ := of_changing_ok written
    exact tells_fail rest same
  | ok shown =>
    obtain ⟨name, size⟩ := shown
    rw [found] at rest
    dsimp only at rest
    cases filled : SearchRecord.fill record name size with
    | none =>
      rw [filled] at rest
      cases rest
    | some filled' =>
      rw [filled] at rest
      obtain ⟨_, m₃, written, rest⟩ := of_bind_ok rest
      obtain ⟨memory, -, rfl⟩ := of_changing_ok written
      exact tells_answer rest same

theorem tells_findFirst (ran : findFirst m = .ok () m') :
    ∃ pattern, m.memory.readString m.registers.dsDx = .ok pattern ∧
      Tells (status (m.host.files.search pattern).nextFound.1) m.registers m'.registers := by
  have starts {m m₁ : Machine Dos} (started : startSearch m = .ok () m₁) :
      ∃ pattern, m.memory.readString m.registers.dsDx = .ok pattern ∧
        m₁ = withFiles m (m.host.files.search pattern) := by
    obtain ⟨pattern, m₂, given, rest⟩ := of_bind_ok started
    obtain ⟨named, rfl⟩ := of_nameArgument_ok given
    cases rest
    exact ⟨pattern, named, rfl⟩
  obtain ⟨area, m₁, made, rest⟩ := of_bind_ok ran
  obtain ⟨registers, host, segments⟩ := of_transferArea_ok made
  obtain ⟨m₂, started, told⟩ := tells_fillArea rest fun m₂ started => by
    obtain ⟨pattern, -, rfl⟩ := starts started
    rfl
  obtain ⟨pattern, named, rfl⟩ := starts started
  rw [registers] at named told
  have same : m₁.memory.readString m.registers.dsDx = m.memory.readString m.registers.dsDx := by
    rw [Memory.readString, Memory.readText, Memory.segmentAt, segments]
    rfl
  refine ⟨pattern, same.symm.trans named, ?_⟩
  rw [← host]
  exact told

theorem tells_findNext (ran : findNext m = .ok () m') :
    Tells (status m.host.files.nextFound.1) m.registers m'.registers := by
  obtain ⟨area, m₁, made, rest⟩ := of_bind_ok ran
  obtain ⟨registers, host, -⟩ := of_transferArea_ok made
  obtain ⟨m₂, started, told⟩ := tells_fillArea rest fun m₂ started => by
    cases started
    rfl
  cases started
  rwa [registers, host] at told

/-- Every function that asks for an operation on files tells what has come of it. -/
theorem tells_serve (asked : m.registers.ah ∈ fileFunctions) (ran : serve now m = .ok () m') :
    ∃ result, operation? m = some result ∧ Tells result m.registers m'.registers := by
  rw [serve, bind_of_ok (registers_eq_ok m)] at ran
  simp only [fileFunctions, List.mem_cons, List.not_mem_nil, or_false] at asked
  rcases asked with asked | asked | asked | asked | asked | asked | asked | asked <;>
    simp only [asked, UInt8.reduceToNat] at ran <;> simp only [operation?, asked, UInt8.reduceToNat]
  · obtain ⟨name, named, told⟩ := tells_createFile ran
    exact ⟨_, congrArg (Option.map _ ·.toOption) named, told⟩
  · obtain ⟨name, named, told⟩ := tells_openFile ran
    exact ⟨_, congrArg (Option.map _ ·.toOption) named, told⟩
  · exact ⟨_, rfl, tells_closeFile ran⟩
  · exact ⟨_, rfl, tells_readFile ran⟩
  · obtain ⟨data, held, told⟩ := tells_writeFile ran
    exact ⟨_, congrArg (Option.map _ ·.toOption) held, told⟩
  · exact ⟨_, rfl, tells_seekFile ran⟩
  · obtain ⟨pattern, named, told⟩ := tells_findFirst ran
    exact ⟨_, congrArg (Option.map _ ·.toOption) named, told⟩
  · exact ⟨_, rfl, tells_findNext ran⟩

end Outcomes

theorem OnlyChanges.eq (only : OnlyChanges [] r r') : r' = r :=
  Part.eq_of_same fun part => only part List.not_mem_nil

/-- A service that does not fault has changed only the parts of the registers that its
function may change, so none at all if there are none. If the function asks for an operation
on files, Carry tells whether it has failed; then AX is the code of the error, and all else is
as it was, DX included. -/
theorem services_touch_documented (now : Moment) (ran : serve now m = .ok () m') :
    OnlyChanges (changes m.registers.ah) m.registers m'.registers ∧
      (changes m.registers.ah = [] → m'.registers = m.registers) ∧
      (m.registers.ah ∈ fileFunctions → ∃ result, operation? m = some result ∧
        (m'.registers.flags.carry = true ↔ ∃ e, result = .error e) ∧
        ∀ e, result = .error e →
          m'.registers = { m.registers with ax := e.code }.withCarry true) := by
  have only := frames_serve now m
  rw [after_of_ok ran] at only
  refine ⟨only, fun none => ?_, fun asked => ?_⟩
  · rw [none] at only
    exact only.eq
  · obtain ⟨result, operation, told⟩ := tells_serve asked ran
    exact ⟨result, operation, told.carry, told.failed⟩

/-- A machine with an empty disk. -/
def onEmptyDisk (r : Registers) : Machine Dos := ⟨r, .fresh, { files := .mount .empty [] "r" }⟩

/-- A seek on a handle that was never given answers with 6, and leaves DX although it would put half
of the position there. Function 33 clears DL under a DH that stays. -/
theorem failed_seek_keeps_dx :
    (∃ m', serve {} (onEmptyDisk { ax := 0x4202, bx := 5, dx := 0x1234 }) = .ok () m' ∧
      m'.registers = { ax := 6, bx := 5, dx := 0x1234, flags := { carry := true } }) ∧
    (∃ m', serve {} (onEmptyDisk { ax := 0x3300, dx := 0x1234 }) = .ok () m' ∧
      m'.registers.dh = 0x12 ∧ m'.registers.dl = 0) := by
  obtain ⟨m₁, sought⟩ : ∃ m₁,
      serve {} (onEmptyDisk { ax := 0x4202, bx := 5, dx := 0x1234 }) = .ok () m₁ := ⟨_, rfl⟩
  have answered : serve {} (onEmptyDisk { ax := 0x3300, dx := 0x1234 }) =
      .ok () (onEmptyDisk (({ ax := 0x3300, dx := 0x1234 } : Registers).withDl 0)) := rfl
  refine ⟨⟨m₁, sought, ?_⟩, _, answered, ?_, lowByte_wordOfBytes 0 _⟩
  · obtain ⟨result, operation, -, failed⟩ :=
      (services_touch_documented {} sought).2.2 (by decide)
    have refused : operation? (onEmptyDisk { ax := 0x4202, bx := 5, dx := 0x1234 }) =
        some (.error .invalidFileHandle) := rfl
    exact failed .invalidFileHandle (Option.some.inj (operation.symm.trans refused))
  · exact (services_touch_documented {} answered).1 .dh (by decide)

end RealMode.Dos
