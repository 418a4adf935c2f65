import RealMode.Pc
import RealMode.Proofs.AlikeFiles

/-!
# Hosts that answer alike

Two hosts are alike if a program cannot tell them apart: the clocks are the same, a timer channel
will show the same bytes whatever the counts, files and names answer alike, and the interrupt
vectors read the same. What they have written to the console may differ in its beginning. The
services of such hosts keep machines in step, and so do the timer's ports.
-/

namespace RealMode

open Exec

namespace Timer

variable {c d : Channel} {t u : Timer}

/-- What reads of the channel at these counts show. -/
def Channel.shows (c : Channel) : List UInt16 → List UInt8
  | [] => []
  | count :: counts => (c.read count).1 :: (c.read count).2.shows counts

def Channel.Alike (c d : Channel) : Prop := ∀ counts, c.shows counts = d.shows counts

theorem Channel.Alike.read (alike : c.Alike d) (count : UInt16) :
    SameAnswer Channel.Alike (c.read count) (d.read count) :=
  .of_parts (List.cons.inj (alike [count])).1 fun counts =>
    (List.cons.inj (alike (count :: counts))).2

structure Alike (t u : Timer) : Prop where
  channel0 : t.channel0.Alike u.channel0
  channel1 : t.channel1.Alike u.channel1
  channel2 : t.channel2.Alike u.channel2

theorem Alike.channel? (alike : t.Alike u) (index : Nat) :
    (t.channel? index = none ∧ u.channel? index = none) ∨
      ∃ c d, t.channel? index = some c ∧ u.channel? index = some d ∧ c.Alike d :=
  match index with
  | 0 => .inr ⟨_, _, rfl, rfl, alike.channel0⟩
  | 1 => .inr ⟨_, _, rfl, rfl, alike.channel1⟩
  | 2 => .inr ⟨_, _, rfl, rfl, alike.channel2⟩
  | _ + 3 => .inl ⟨rfl, rfl⟩

theorem Alike.withChannel (alike : t.Alike u) (index : Nat) (channels : c.Alike d) :
    (t.withChannel index c).Alike (u.withChannel index d) :=
  match index with
  | 0 => ⟨channels, alike.channel1, alike.channel2⟩
  | 1 => ⟨alike.channel0, channels, alike.channel2⟩
  | 2 => ⟨alike.channel0, alike.channel1, channels⟩
  | _ + 3 => alike

theorem Alike.read (alike : t.Alike u) (count port : UInt16) :
    (∃ e, t.read count port = .error e ∧ u.read count port = .error e) ∨
      ∃ byte t' u', t.read count port = .ok (byte, t') ∧ u.read count port = .ok (byte, u') ∧
        t'.Alike u' := by
  rw [Timer.read, Timer.read]
  by_cases low : port < firstPort
  · rw [if_pos low, if_pos low]
    exact .inl ⟨_, rfl, rfl⟩
  rw [if_neg low, if_neg low]
  rcases alike.channel? (port.toNat - firstPort.toNat) with ⟨left, right⟩ |
    ⟨c, d, left, right, channels⟩
  · rw [left, right]
    exact .inl ⟨_, rfl, rfl⟩
  · rw [left, right]
    have shown := channels.read count
    dsimp only
    revert shown
    generalize c.read count = left, d.read count = right
    rintro ⟨byte, channels⟩
    exact .inr ⟨byte, _, _, rfl, rfl, alike.withChannel _ channels⟩

theorem Alike.write (alike : t.Alike u) (port : UInt16) (value : UInt8) :
    (∃ e, t.write port value = .error e ∧ u.write port value = .error e) ∨
      ∃ t' u', t.write port value = .ok t' ∧ u.write port value = .ok u' ∧ t'.Alike u' := by
  rw [Timer.write, Timer.write]
  by_cases port = controlPort
  case neg other =>
    rw [if_neg other, if_neg other]
    exact .inl ⟨_, rfl, rfl⟩
  case pos same =>
    rw [if_pos same, if_pos same, control, control]
    by_cases bcd : value.toNat % 2 = 1
    · rw [if_pos bcd, if_pos bcd]
      exact .inl ⟨_, rfl, rfl⟩
    rw [if_neg bcd, if_neg bcd]
    by_cases back : value.toNat / 64 = 3
    · rw [if_pos back, if_pos back]
      exact .inl ⟨_, rfl, rfl⟩
    rw [if_neg back, if_neg back]
    exact .inr ⟨_, _, rfl, rfl, alike.withChannel _ fun _ => rfl⟩

end Timer

namespace Dos

variable {α : Type} {before before' : Array UInt8}

/-- What they have written is the same after `before` and `before'`. -/
structure Alike (before before' : Array UInt8) (a b : Dos) : Prop where
  files : a.files.Alike b.files
  failure : a.console.failure = b.console.failure
  written : ∃ output, a.console.written = before ++ output ∧
    b.console.written = before' ++ output
  vectors : ∀ vector, (a.vectors.get? vector).getD .null = (b.vectors.get? vector).getD .null

abbrev InStep (before before' : Array UInt8) : Machine Dos → Machine Dos → Prop :=
  Machine.InStep Eq (Alike before before')

theorem respects_onFiles {f : FileSystem → α × FileSystem}
    (answers : ∀ {a b : FileSystem}, a.Alike b → SameAnswer FileSystem.Alike (f a) (f b)) :
    Respects (InStep before before') (onFiles f) := by
  refine respects_onHost fun a b alike => ?_
  have answered := answers alike.files
  dsimp only
  revert answered
  generalize f a.files = left, f b.files = right
  rintro ⟨answer, files⟩
  exact .ok answer ⟨files, alike.failure, alike.written, alike.vectors⟩

theorem respects_writeConsole (bytes : List UInt8) :
    Respects (InStep before before') (writeConsole bytes) := by
  refine respects_onHost fun a b alike => ?_
  dsimp only
  rw [← alike.failure]
  split
  · exact .ok () alike
  · split
    · exact .error _ alike
    · obtain ⟨output, left, right⟩ := alike.written
      refine .ok () ⟨alike.files, rfl, ⟨output ++ bytes, ?_, ?_⟩, alike.vectors⟩
      · exact Array.toList_inj.1 (by simp [left])
      · exact Array.toList_inj.1 (by simp [right])

theorem respects_writeBytes (p : FarPtr) (bytes : List UInt8) :
    Respects (InStep before before') (changing (·.writeBytes p bytes)) :=
  Exec.respects_writeBytes Memory.journalOnly_eq p bytes

theorem respects_fail (e : Error) : Respects (InStep before before') (fail e) :=
  respects_modifyRegisters _

theorem respects_succeed : Respects (InStep before before') succeed := respects_modifyRegisters _

theorem respects_answer (result : Except Error UInt16) :
    Respects (InStep before before') (answer result) := by
  cases result with
  | ok value => exact respects_modifyRegisters fun r => { r with ax := value }.withCarry false
  | error e => exact respects_fail e

theorem respects_transferArea : Respects (InStep before before') transferArea := by
  refine .bind (respects_reading _) fun pointer => ?_
  cases pointer with
  | some p => exact respects_reading _
  | none => exact respects_allocating _

theorem respects_setTransferArea (p : FarPtr) :
    Respects (InStep before before') (setTransferArea p) :=
  .bind (respects_allocating _) fun pointer => respects_writeBytes pointer p.toBytes

theorem respects_getPrefix : Respects (InStep before before') getPrefix := by
  refine .bind (.bind (respects_reading _) fun known => ?_) fun _ => respects_modifyRegisters _
  cases known with
  | some p => exact respects_reading _
  | none =>
    exact .bind (respects_allocating _) fun segment => .bind (respects_allocating _) fun p =>
      .bind (respects_writeBytes p (bytesOfWord segment)) fun _ => .pure segment

theorem respects_nameArgument : Respects (InStep before before') nameArgument :=
  .bind respects_registers fun _ => respects_reading _

theorem respects_displayCharacter : Respects (InStep before before') displayCharacter :=
  .bind respects_registers fun _ => .bind (respects_writeConsole _) fun _ =>
    respects_modifyRegisters _

theorem respects_displayText : Respects (InStep before before') displayText :=
  .bind respects_registers fun _ => .bind (respects_reading _) fun _ =>
    .bind (respects_writeConsole _) fun _ =>
    respects_modifyRegisters _

theorem respects_setVector : Respects (InStep before before') setVector := by
  refine .bind respects_registers fun r => respects_onHost fun a b alike => ?_
  refine .ok () ⟨alike.files, alike.failure, alike.written, fun vector => ?_⟩
  dsimp only
  rw [WordMap.get?_insert, WordMap.get?_insert]
  split
  · rfl
  · exact alike.vectors vector

theorem respects_getVector : Respects (InStep before before') getVector := by
  refine .bind respects_registers fun r => .bind (respects_onHost fun a b alike => ?_) fun p =>
    respects_modifyRegisters _
  rw [alike.vectors]
  exact .ok _ alike

theorem respects_createFile : Respects (InStep before before') createFile :=
  .bind respects_nameArgument fun name =>
    .bind (respects_onFiles fun alike => alike.create name) fun _ =>
    respects_answer _

theorem respects_openFile : Respects (InStep before before') openFile := by
  refine .bind respects_nameArgument fun name => .bind respects_registers fun r => ?_
  cases AccessMode.ofCode? r.al with
  | none => exact respects_fail _
  | some mode =>
    exact .bind (respects_onFiles fun alike => alike.openFile name mode) fun _ => respects_answer _

theorem respects_closeFile : Respects (InStep before before') closeFile :=
  .bind respects_registers fun _ => .ite (respects_answer _)
    (.bind (respects_onFiles fun alike => alike.close _) fun _ => respects_answer _)

theorem respects_readFile : Respects (InStep before before') readFile := by
  refine .bind respects_registers fun r => .ite (respects_fail _) ?_
  refine .bind (respects_onFiles fun alike => alike.read _ _) fun result => ?_
  cases result with
  | error e => exact respects_fail e
  | ok bytes => exact .bind (respects_writeBytes r.dsDx bytes) fun _ => respects_answer _

theorem respects_writeFile : Respects (InStep before before') writeFile :=
  .bind respects_registers fun _ => .bind (respects_reading _) fun data =>
    .ite (.bind (respects_writeConsole data) fun _ => respects_answer _)
      (.bind (respects_onFiles fun alike => alike.write _ data) fun _ => respects_answer _)

theorem respects_seekFile : Respects (InStep before before') seekFile := by
  refine .bind respects_registers fun r => ?_
  cases SeekOrigin.ofCode? r.al with
  | none => exact respects_fail _
  | some origin =>
    refine .bind (respects_onFiles fun alike => alike.seek _ _ origin) fun result => ?_
    cases result with
    | error e => exact respects_fail e
    | ok position => exact respects_modifyRegisters _

theorem respects_deviceInformation : Respects (InStep before before') deviceInformation :=
  .bind respects_registers fun _ =>
    .ite (.throw _) (.bind (respects_modifyRegisters _) fun _ => respects_succeed)

theorem respects_getCurrentDirectory : Respects (InStep before before') getCurrentDirectory :=
  .bind respects_registers fun _ => .bind (respects_writeBytes _ _) fun _ => respects_succeed

theorem respects_find {start : Exec Dos Unit} (starts : Respects (InStep before before') start) :
    Respects (InStep before before') (find start) := by
  refine .bind respects_transferArea fun area => .bind (respects_reading _) fun record =>
    .bind starts fun _ => ?_
  refine .bind (respects_onFiles fun alike => alike.nextFound) fun result => ?_
  cases result with
  | error e => exact .bind (respects_writeBytes area record) fun _ => respects_fail e
  | ok found =>
    dsimp only
    split
    · exact .throw _
    · exact .bind (respects_writeBytes area _) fun _ => respects_answer _

theorem respects_findFirst : Respects (InStep before before') findFirst :=
  respects_find (.bind respects_nameArgument fun pattern => respects_onFiles fun alike =>
    ⟨(), alike.search pattern⟩)

/-- One case for each function. -/
theorem respects_serve (now : Moment) : Respects (InStep before before') (serve now) := by
  refine .bind respects_registers fun r => ?_
  split
  · exact respects_displayCharacter
  · exact respects_displayText
  · exact respects_modifyRegisters _
  · exact respects_setTransferArea _
  · exact respects_setVector
  · exact respects_modifyRegisters _
  · exact respects_modifyRegisters _
  · exact .bind respects_transferArea fun _ => respects_modifyRegisters _
  · exact respects_modifyRegisters _
  · exact respects_modifyRegisters _
  · exact respects_getVector
  · exact respects_createFile
  · exact respects_openFile
  · exact respects_closeFile
  · exact respects_readFile
  · exact respects_writeFile
  · exact respects_seekFile
  · exact respects_deviceInformation
  · exact respects_getCurrentDirectory
  · exact respects_succeed
  · exact respects_modifyRegisters _
  · exact respects_findFirst
  · exact respects_find (.pure ())
  · exact respects_getPrefix
  · exact .throw _

end Dos

namespace Pc

variable {before before' : Array UInt8}

structure Alike (before before' : Array UInt8) (a b : Pc) : Prop where
  clock : a.clock = b.clock
  timer : a.timer.Alike b.timer
  dos : a.dos.Alike before before' b.dos

theorem respects_readTimer (port : UInt16) : Respects (Alike before before') (readTimer port) := by
  intro a b alike
  rw [readTimer, readTimer, ← alike.clock]
  rcases alike.timer.read a.clock.timerCount port with ⟨e, left, right⟩ |
    ⟨byte, t, u, left, right, timers⟩
  · rw [left, right]
    exact .error e alike
  · rw [left, right]
    exact .ok byte ⟨rfl, timers, alike.dos⟩

theorem respects_writeTimer (port : UInt16) (value : UInt8) :
    Respects (Alike before before') (writeTimer port value) := by
  intro a b alike
  rw [writeTimer, writeTimer]
  rcases alike.timer.write port value with ⟨e, left, right⟩ | ⟨t, u, left, right, timers⟩
  · rw [left, right]
    exact .error e alike
  · rw [left, right]
    exact .ok () ⟨alike.clock, timers, alike.dos⟩

theorem respects_serveDos : Respects (Machine.InStep Eq (Alike before before')) serveDos := by
  intro m n same
  have served : Respects (Machine.InStep Eq (Alike before before'))
      (within Pc.dos (fun dos pc => { pc with dos := dos }) (Dos.serve m.host.clock.now)) :=
    respects_within Alike.dos (fun outer inner => ⟨outer.clock, outer.timer, inner⟩)
      (Dos.respects_serve _)
  have ends := served m n same
  have clocks := congrArg Clock.now same.host.clock
  rw [serveDos_eq, serveDos_eq, ← clocks]
  exact ends

theorem respects_serveClock : Respects (Machine.InStep Eq (Alike before before')) serveClock := by
  intro m n same
  have served : Respects (Machine.InStep Eq (Alike before before'))
      (Exec.ofExcept (Bios.serve m.host.clock.now m.registers) >>= setRegisters) :=
    .bind (respects_ofExcept _) fun r => respects_modifyRegisters _
  have ends := served m n same
  have clocks := congrArg Clock.now same.host.clock
  rw [serveClock_eq, serveClock_eq, ← clocks, ← same.registers]
  exact ends

theorem wired_board :
    Wired (fun α => @Respects (Machine Pc) α (Machine.InStep Eq (Alike before before')))
      board where
  handlers vector handler served := by
    simp only [board] at served
    split at served
    · cases served
      exact respects_modifyRegisters _
    split at served
    · cases served
      exact respects_serveDos
    split at served
    · cases served
      exact respects_serveClock
    · cases served
  reads port := by
    refine respects_onHost ?_
    rw [Board.readPort]
    simp only [board, PortBus.device, List.find?_cons, List.find?_nil]
    cases PortBus.PortRange.holds ⟨Timer.firstPort, Timer.controlPort, timerDevice⟩ port with
    | true => exact respects_readTimer port
    | false => exact .throw _
  writes port value := by
    refine respects_onHost ?_
    rw [Board.writePort]
    simp only [board, PortBus.device, List.find?_cons, List.find?_nil]
    cases PortBus.PortRange.holds ⟨Timer.firstPort, Timer.controlPort, timerDevice⟩ port with
    | true => exact respects_writeTimer port value
    | false => exact .throw _

end Pc

end RealMode
