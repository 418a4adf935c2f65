import RealMode.Proofs.Interrupts
import RealMode.Proofs.NestedRuns

/-!
# How guest code is entered

The stack values are pushed in order, so the last one lies lowest. BP is left at it, and below it
the return address is the halt sentinel. A module in whose segment the run begins counts its
arguments from the same place, and a return that finds the address untouched ends the run with the
stack values still on the stack. All this is for stacks that may wrap.
-/

namespace RealMode

namespace Processor

open Exec

variable {σ : Type} {m m' m'' : Machine σ} {board : Board σ} {value : UInt16}
  {values : List UInt16}

/-- `m'` is `m` with the values on the stack. Words are counted from the old top of the stack,
downwards for the values and upwards for those that have been there. -/
structure Pushed (values : List UInt16) (m m' : Machine σ) : Prop where
  registers : m'.registers =
    { m.registers with sp := m.registers.sp - 2 * UInt16.ofNat values.length }
  host : m'.host = m.host
  words : ∀ j (inside : j < values.length),
    m'.memory.readWord ⟨m.registers.ss, m.registers.sp - 2 * UInt16.ofNat (j + 1)⟩ =
      .ok values[j]
  kept : ∀ k, k + values.length < 32768 →
    m'.memory.readWord ⟨m.registers.ss, m.registers.sp + 2 * UInt16.ofNat k⟩ =
      m.memory.readWord ⟨m.registers.ss, m.registers.sp + 2 * UInt16.ofNat k⟩
  allocations : m.memory.SameAllocations m'.memory

theorem even_below {a : UInt16} (even : a.toNat % 2 = 0) : (a - 2).toNat % 2 = 0 := by
  rw [UInt16.toNat_sub]
  simp only [UInt16.toNat_ofNat]
  omega

theorem pushed_of_push (pushed : push value m = .ok () m') : Pushed [value] m m' := by
  cases stored : m.memory.writeWord ⟨m.registers.ss, m.registers.sp - 2⟩ value with
  | error e =>
    rw [push_eq_error stored] at pushed
    cases pushed
  | ok memory =>
    rw [push_eq_ok stored] at pushed
    cases pushed
    have word := Memory.wordStored_of_writeWord stored
    refine ⟨rfl, rfl, ?_, ?_, .of_writeBytes stored⟩
    · intro j inside
      obtain rfl : j = 0 := Nat.lt_one_iff.1 inside
      exact word.read
    · intro k few
      have few : k + 1 < 32768 := few
      have distance := toNat_two_mul_ofNat (n := k) (by omega)
      refine word.others _ (.inr (apart_of_parity ?_ ?_))
      · simp only [UInt16.toNat_add, UInt16.toNat_sub, distance, UInt16.toNat_ofNat]
        omega
      · intro same
        have place := congrArg UInt16.toNat same
        simp only [UInt16.toNat_add, UInt16.toNat_sub, distance, UInt16.toNat_ofNat] at place
        omega

/-- Where SP is even a word always has room. -/
theorem pushed_push (even : m.registers.sp.toNat % 2 = 0)
    (mapped : m.memory.hasSegment m.registers.ss = true) (value : UInt16) :
    ∃ m', push value m = .ok () m' ∧ Pushed [value] m m' := by
  have below := even_below even
  have fits : (m.registers.sp - 2).toNat + 2 ≤ Segment.size := by
    have inside := (m.registers.sp - 2).toNat_lt
    simp only [Segment.size]
    omega
  obtain ⟨memory, stored⟩ :=
    Memory.exists_writeWord (p := ⟨m.registers.ss, m.registers.sp - 2⟩) ⟨mapped, fits⟩ value
  exact ⟨_, push_eq_ok stored, pushed_of_push (push_eq_ok stored)⟩

theorem Pushed.nil (m : Machine σ) : Pushed [] m m where
  registers := by simp
  host := rfl
  words _ inside := absurd inside (Nat.not_lt_zero _)
  kept _ _ := rfl
  allocations := .refl m.memory

theorem Pushed.append {values' : List UInt16} (first : Pushed values m m')
    (second : Pushed values' m' m'') (room : values.length + values'.length ≤ 32768) :
    Pushed (values ++ values') m m'' := by
  have ss : m'.registers.ss = m.registers.ss := by rw [first.registers]
  have sp : m'.registers.sp = m.registers.sp - 2 * UInt16.ofNat values.length := by
    rw [first.registers]
  have kept (k : Nat) (few : k + values'.length < 32768) {q : UInt16}
      (place : q = m.registers.sp - 2 * UInt16.ofNat values.length + 2 * UInt16.ofNat k) :
      m''.memory.readWord ⟨m.registers.ss, q⟩ = m'.memory.readWord ⟨m.registers.ss, q⟩ := by
    have same := second.kept k few
    rwa [ss, sp, ← place] at same
  refine ⟨?_, second.host.trans first.host, fun j inside => ?_, fun k few => ?_, ?_⟩
  · rw [second.registers, first.registers, List.length_append, UInt16.ofNat_add]
    have sum : m.registers.sp - 2 * UInt16.ofNat values.length - 2 * UInt16.ofNat values'.length =
        m.registers.sp - 2 * (UInt16.ofNat values.length + UInt16.ofNat values'.length) := by grind
    rw [sum]
  · rw [List.length_append] at inside
    rw [List.getElem_append]
    split
    · next older =>
      obtain ⟨k, length⟩ := Nat.exists_eq_add_of_lt older
      have place : m.registers.sp - 2 * UInt16.ofNat (j + 1) =
          m.registers.sp - 2 * UInt16.ofNat values.length + 2 * UInt16.ofNat k := by
        rw [length, show j + k + 1 = (j + 1) + k from by omega, UInt16.ofNat_add (j + 1)]
        grind
      rw [kept k (by omega) place]
      exact first.words j older
    · next newer =>
      obtain ⟨k, rfl⟩ := Nat.exists_eq_add_of_le (Nat.le_of_not_lt newer)
      have place : m.registers.sp - 2 * UInt16.ofNat values.length - 2 * UInt16.ofNat (k + 1) =
          m.registers.sp - 2 * UInt16.ofNat (values.length + k + 1) := by
        rw [Nat.add_assoc, UInt16.ofNat_add values.length]
        grind
      have stored := second.words k (by omega)
      rw [ss, sp, place] at stored
      rw [stored]
      simp
  · rw [List.length_append] at few
    have place : m.registers.sp + 2 * UInt16.ofNat k =
        m.registers.sp - 2 * UInt16.ofNat values.length + 2 * UInt16.ofNat (values.length + k) := by
      rw [UInt16.ofNat_add]
      grind
    rw [kept (values.length + k) (by omega) place]
    exact first.kept k (by omega)
  · exact first.allocations.trans second.allocations

/-- By induction on the values, with one push for each. -/
theorem exists_pushed (even : m.registers.sp.toNat % 2 = 0)
    (mapped : m.memory.hasSegment m.registers.ss = true) (room : values.length ≤ 32768) :
    ∃ m', pushAll values m = .ok () m' ∧ Pushed values m m' := by
  induction values generalizing m with
  | nil => exact ⟨m, rfl, .nil m⟩
  | cons value values ih =>
    obtain ⟨m₁, pushed, first⟩ := pushed_push even mapped value
    have sp : m₁.registers.sp = m.registers.sp - 2 := by
      rw [first.registers]
      rfl
    have ss : m₁.registers.ss = m.registers.ss := by rw [first.registers]
    have below : m₁.registers.sp.toNat % 2 = 0 := by
      rw [sp]
      exact even_below even
    have there : m₁.memory.hasSegment m₁.registers.ss = true := by
      rw [ss, first.allocations.hasSegment]
      exact mapped
    obtain ⟨m', rest, second⟩ := ih below there (Nat.le_of_succ_le room)
    refine ⟨m', ?_, first.append second (by simpa [Nat.add_comm] using room)⟩
    rw [pushAll, bind_of_ok pushed, rest]

end Processor

namespace Wiring

open Processor

variable {σ : Type} {entry : FarPtr} {o : ExecuteOptions} {m : Machine σ} {s t : Running σ}

/-- What a routine finds when it is entered. The words from BP on are the stack
values, the last one first. -/
structure Entered (entry : FarPtr) (o : ExecuteOptions) (m : Machine σ) : Prop where
  csIp : m.registers.csIp = entry
  running : m.registers.halt = false
  ss : m.registers.ss = stackSegment
  bp : m.registers.bp = o.stackPointer - 2 * UInt16.ofNat o.stackValues.length
  sp : m.registers.sp = m.registers.bp - 4
  values : ∀ i (inside : i < o.stackValues.length),
    m.memory.readWord ⟨m.registers.ss, m.registers.bp + 2 * UInt16.ofNat i⟩ =
      .ok (o.stackValues[o.stackValues.length - 1 - i])
  returns : ReturnsTo m .haltSentinel

/-- Fresh registers at `entry`. -/
def reset (entry : FarPtr) (o : ExecuteOptions) (m : Machine σ) : Machine σ :=
  { m with registers :=
    { Registers.reset o.stackPointer with cs := entry.segment, ip := entry.offset } }

/-- BP at the top of the stack. -/
def framed (m : Machine σ) : Machine σ :=
  { m with registers := { m.registers with bp := m.registers.sp } }

/-- The far return address that ends a run, in the order in which it is pushed. -/
def sentinelWords : List UInt16 := [FarPtr.haltSentinel.segment, FarPtr.haltSentinel.offset]

/-- The stack values and the return address are pushed alike. -/
theorem prepare_eq_ok {m₁ m' : Machine σ} (simulated : o.simulateFarCall = true)
    (first : pushAll o.stackValues (reset entry o m) = .ok () m₁)
    (second : pushAll sentinelWords (framed m₁) = .ok () m') :
    prepare entry o m = .ok () m' := by
  have both : (pushAll sentinelWords : Exec σ Unit) =
      (do Exec.push FarPtr.haltSentinel.segment; Exec.push FarPtr.haltSentinel.offset) := by
    simp [pushAll, sentinelWords]
  have start :
      (Exec.setRegisters
        { Registers.reset o.stackPointer with cs := entry.segment, ip := entry.offset } :
      Exec σ Unit) m = .ok () (reset entry o m) := rfl
  have base : (Exec.modifyRegisters fun r => { r with bp := r.sp } : Exec σ Unit) m₁ =
      .ok () (framed m₁) := rfl
  rw [prepare, Exec.bind_of_ok start, Exec.bind_of_ok first, if_pos simulated,
    Exec.bind_of_ok base, ← both]
  exact second

theorem entered_of_pushed {m₁ m' : Machine σ} (room : o.stackValues.length + 2 ≤ 32768)
    (first : Pushed o.stackValues (reset entry o m) m₁)
    (second : Pushed sentinelWords (framed m₁) m') : Entered entry o m' := by
  have registers : m₁.registers = { (reset entry o m).registers with
      sp := o.stackPointer - 2 * UInt16.ofNat o.stackValues.length } := first.registers
  have frame : m'.registers =
      { m₁.registers with bp := m₁.registers.sp, sp := m₁.registers.sp - 4 } :=
    second.registers
  refine ⟨?_, ?_, ?_, ?_, ?_, fun i inside => ?_, ?_, ?_⟩
  · rw [frame, registers]
    rfl
  · rw [frame, registers]
    rfl
  · rw [frame, registers]
    rfl
  · rw [frame, registers]
  · rw [frame]
  · obtain ⟨k, length⟩ := Nat.exists_eq_add_of_lt inside
    have bp : m'.registers.bp = m₁.registers.sp := by rw [frame]
    have place : m₁.registers.sp + 2 * UInt16.ofNat i =
        o.stackPointer - 2 * UInt16.ofNat (k + 1) := by
      rw [registers, length, Nat.add_assoc, UInt16.ofNat_add i]
      grind
    have index : o.stackValues.length - 1 - i = k := by omega
    have same :=
      second.kept i (by simp only [sentinelWords, List.length_cons, List.length_nil]; omega)
    have stored := first.words k (by omega)
    have ss : m'.registers.ss = (reset entry o m).registers.ss := by rw [frame, registers]
    have ss' : (framed m₁).registers.ss = (reset entry o m).registers.ss := by
      rw [framed, registers]
    simp only [index]
    rw [bp, ss, place, ← stored]
    rw [ss', framed, place] at same
    exact same
  · have stored := second.words 1 Nat.one_lt_two
    rw [frame]
    exact stored
  · have stored := second.words 0 Nat.two_pos
    have place : m₁.registers.sp - 4 + 2 = m₁.registers.sp - 2 := by grind
    rw [frame, place]
    exact stored

theorem exists_entered (entry : FarPtr) (reachable : m.memory.Reachable)
    (simulated : o.simulateFarCall = true) (even : o.stackPointer.toNat % 2 = 0)
    (room : 2 * (o.stackValues.length + 2) ≤ 65536) :
    ∃ m', prepare entry o m = .ok () m' ∧ Entered entry o m' := by
  obtain ⟨m₁, pushed, first⟩ : ∃ m₁,
      pushAll o.stackValues (reset entry o m) = .ok () m₁ ∧ _ :=
    exists_pushed even reachable.hasStack (by omega)
  have registers : m₁.registers = { (reset entry o m).registers with
      sp := o.stackPointer - 2 * UInt16.ofNat o.stackValues.length } := first.registers
  have even' : (framed m₁).registers.sp.toNat % 2 = 0 := by
    simp only [framed, registers, UInt16.toNat_sub, UInt16.toNat_mul, UInt16.toNat_ofNat,
      UInt16.toNat_ofNat']
    omega
  have mapped : (framed m₁).memory.hasSegment (framed m₁).registers.ss = true := by
    simp only [framed, registers, first.allocations.hasSegment]
    exact reachable.hasStack
  obtain ⟨m', addressed, second⟩ : ∃ m',
      pushAll sentinelWords (framed m₁) = .ok () m' ∧ _ :=
    exists_pushed even' mapped (by simp [sentinelWords])
  exact ⟨m', prepare_eq_ok simulated pushed addressed,
    entered_of_pushed (by omega) first second⟩

/-- The hooks work on the host. -/
theorem machine_setStates (channel : UInt16) (ms : List (NativeModule σ)) (s : Running σ) :
    (setStates channel ms s).2.machine.registers = s.machine.registers ∧
      (setStates channel ms s).2.machine.memory = s.machine.memory := by
  induction ms generalizing s with
  | nil => exact ⟨rfl, rfl⟩
  | cons module ms ih =>
    rw [setStates, Run.bind_eq, Run.ofExec, Exec.onHost]
    cases module.setState channel s.machine.host with
    | ok u host => exact ih { s with machine := { s.machine with host := host } }
    | error e host => exact ⟨rfl, rfl⟩

theorem exists_setStates {channel : UInt16} {ms : List (NativeModule σ)}
    (served : ∀ module ∈ ms, ∀ host, ∃ host', module.setState channel host = .ok () host')
    (s : Running σ) :
    ∃ t, setStates channel ms s = (.done (), t) := by
  induction ms generalizing s with
  | nil => exact ⟨s, rfl⟩
  | cons module ms ih =>
    obtain ⟨host, set⟩ := served module List.mem_cons_self s.machine.host
    obtain ⟨t, rest⟩ := ih (fun other later => served other (List.mem_cons_of_mem _ later))
      { s with machine := { s.machine with host := host } }
    refine ⟨t, ?_⟩
    rw [setStates, Run.bind_eq, Run.ofExec, Exec.onHost, set]
    exact rest

theorem Entered.congr {m' : Machine σ} (entered : Entered entry o m)
    (registers : m'.registers = m.registers) (memory : m'.memory = m.memory) :
    Entered entry o m' := by
  obtain ⟨r, memory', host⟩ := m'
  cases registers
  cases memory
  exact ⟨entered.csIp, entered.running, entered.ss, entered.bp, entered.sp, entered.values,
    entered.returns.offset, entered.returns.segment⟩

/-- A module counts from four bytes above SP, a routine from BP. -/
theorem Entered.argument (entered : Entered entry o m) {i : Nat}
    (inside : i < o.stackValues.length) :
    m.argument (UInt16.ofNat i) = .ok (o.stackValues[o.stackValues.length - 1 - i]) := by
  have place : m.registers.bp - 4 + 4 + UInt16.ofNat i * 2 =
      m.registers.bp + 2 * UInt16.ofNat i := by grind
  rw [Machine.argument, entered.sp, place]
  exact entered.values i inside

section Runs

variable (w : Wiring σ)

/-- The course of a run, with the ticks that are left. -/
inductive Advances (channel : UInt16) : Nat → Running σ → Nat → Running σ → Prop
  | refl (n : Nat) (s : Running σ) : Advances channel n s n s
  | executed {n k : Nat} {s u : Running σ} {m : Machine σ} : Advances channel n s (k + 1) u →
      tick w.board u.machine = .ok .executed m → Advances channel n s k { u with machine := m }
  | served {n k : Nat} {s u v : Running σ} {m : Machine σ} {callee : FarPtr} :
      Advances channel n s (k + 1) u →
      tick w.board u.machine = .ok (.external callee) m →
        w.externalCall (w.drive k) callee channel { u with machine := m } = (.done (), v) →
        Advances channel n s k v

/-- The run ends with the machine halted and SP at `sp`. An execution gives the registers back,
unless the hook of the primary module faults, which is called if there are no stack values. -/
def EndsAt (n : Nat) (entry : FarPtr) (o : ExecuteOptions) (s : Running σ) (sp : UInt16) : Prop :=
  ∃ r, w.HaltsWith n entry o s r ∧ r.halt = true ∧ r.sp = sp ∧
    ((w.execute n entry o s).1 = .done r ∨
      (o.bypassState = false ∧ o.stackValues = []) ∧
        ∃ e, (w.execute n entry o s).1 = .faulted e)

variable {w} {n k : Nat} {channel : UInt16} {u v : Running σ} {i : Instruction} {memory : Memory}
  {popBytes : UInt16}

/-- By induction on the course of the run. -/
theorem drive_of_advances (advances : w.Advances channel n s k u) :
    w.drive n channel s = w.drive k channel u := by
  induction advances with
  | refl => rfl
  | executed _ ticked ih =>
    rw [ih, drive, ticked]
  | served _ ticked called ih =>
    rw [ih, drive, ticked]
    dsimp only
    rw [called]

theorem closing_cases (w : Wiring σ) (o : ExecuteOptions) (s : Running σ) :
    ∃ t, w.closing o s = (.done (), t) ∨
      (o.bypassState = false ∧ o.stackValues = []) ∧
        ∃ e, w.closing o s = (.faulted e, t) := by
  rw [closing]
  cases w.modules.primary? with
  | none => exact ⟨s, .inl rfl⟩
  | some module =>
    dsimp only
    split
    · exact ⟨s, .inl rfl⟩
    · next hook =>
      rw [Run.ofExec, Exec.onHost]
      cases module.updateSession o.channel s.machine.host with
      | ok u host => exact ⟨_, .inl rfl⟩
      | error e host => exact ⟨_, .inr ⟨by simpa using hook, e, rfl⟩⟩

/-- The ticks of the run are followed by a hook at most. -/
theorem endsAt_of_drive (opened : w.opening entry o { s with depth := s.depth + 1 } = (.done (), t))
    (driven : w.drive n o.channel t = (.done (), u)) (halted : u.machine.registers.halt = true) :
    w.EndsAt n entry o s u.machine.registers.sp := by
  obtain ⟨m, stopped⟩ := of_drive_done driven
  refine ⟨u.machine.registers, ⟨t, m, u, opened, driven, stopped, rfl⟩, halted, rfl, ?_⟩
  obtain ⟨ending, v, ran, same⟩ := w.execute_eq n entry o s
  have whole : w.runFrom (w.drive n) entry o { s with depth := s.depth + 1 } =
      (w.closing o >>= fun _ => pure u.machine.registers) u := by
    rw [runFrom_eq, Run.bind_eq, opened]
    dsimp only
    rw [Run.bind_eq, driven]
    rfl
  rw [whole, Run.bind_eq] at ran
  rw [same]
  obtain ⟨t', closed | ⟨hook, e, refused⟩⟩ := w.closing_cases o u
  · rw [closed] at ran
    cases ran
    exact .inl rfl
  · rw [refused] at ran
    cases ran
    exact .inr ⟨hook, e, rfl⟩

/-- A far return to the halt sentinel is the last instruction of a run. -/
theorem tick_retf (running : m.registers.halt = false)
    (native : w.board.imported m.registers.cs = false)
    (fetched : m.memory.fetch m.registers.csIp = .ok (i, memory))
    (operation : i.operation = .retf popBytes) (returns : ReturnsTo m .haltSentinel) :
    ∃ m', tick w.board m = .ok .halted m' ∧ m'.registers.halt = true ∧
      m'.registers.sp = m.registers.sp + 4 + popBytes := by
  let past : Machine σ := ⟨{ m.registers with ip := i.next }, memory.beginJournal, m.host⟩
  have mapped := (Memory.maps_of_readWord returns.offset).1
  have keeps : KeepsReturn m past := by
    refine ⟨rfl, rfl, fun _ _ => ?_⟩
    change memory.readByte _ = _
    exact Memory.readByte_of_fetch fetched mapped
  have ran : carryOut w.board i { m with memory := memory.beginJournal } =
      .ok () { past with registers := returned past.registers .haltSentinel popBytes } := by
    have moved : (goTo i.next : Exec σ Unit) { m with memory := memory.beginJournal } =
        .ok () past := rfl
    rw [carryOut, Exec.bind_of_ok moved, Processor.execute, operation]
    exact farReturn_eq_ok (returns.of_keepsReturn keeps) popBytes
  have halted : (returned past.registers .haltSentinel popBytes).halt = true := by simp [returned]
  rw [Processor.tick_eq, if_neg (by simp [running]), if_neg (by simp [native]), fetched]
  dsimp only
  rw [ran]
  dsimp only
  rw [if_pos halted]
  exact ⟨_, rfl, halted, rfl⟩

theorem drive_of_halted (halted : s.machine.registers.halt = true) :
    w.drive (k + 1) channel s = (.done (), s) := by
  rw [drive, Processor.tick_eq, if_pos halted]

/-- A routine that returns where it was entered ends the run. -/
theorem drive_of_retf (k : Nat) (channel : UInt16) (running : u.machine.registers.halt = false)
    (native : w.board.imported u.machine.registers.cs = false)
    (fetched : u.machine.memory.fetch u.machine.registers.csIp = .ok (i, memory))
    (operation : i.operation = .retf popBytes) (returns : ReturnsTo u.machine .haltSentinel) :
    ∃ v, w.drive (k + 1) channel u = (.done (), v) ∧ v.machine.registers.halt = true ∧
      v.machine.registers.sp = u.machine.registers.sp + 4 + popBytes := by
  obtain ⟨m, ticked, halted, sp⟩ := tick_retf running native fetched operation returns
  refine ⟨{ u with machine := m }, ?_, halted, sp⟩
  rw [drive, ticked]

/-- So does a module; one more tick then finds the machine halted. -/
theorem drive_of_module {callee : FarPtr} {module : NativeModule σ} {value : ReturnValue}
    (arrived : tick w.board u.machine = .ok (.external callee) u.machine)
    (found : w.modules.get? callee.segment = some module)
    (invoked : interpret (w.executeWith (w.drive (k + 1))) (module.invoke channel callee.offset) u =
      (.done value, v))
    (returns : ReturnsTo v.machine .haltSentinel) :
    ∃ t, w.drive (k + 2) channel u = (.done (), t) ∧ t.machine.registers.halt = true ∧
      t.machine.registers.sp = v.machine.registers.sp + 4 := by
  have served := w.recordCall_of_returns found invoked returns
  have called := w.recordCall_snd (w.drive (k + 1)) callee channel u
  rw [served] at called
  have halted : (returned (value.store v.machine.registers) .haltSentinel 0).halt = true := by
    simp [returned]
  have sp : (value.store v.machine.registers).sp = v.machine.registers.sp := by cases value <;> rfl
  refine ⟨{ v with machine := { v.machine with
    registers := returned (value.store v.machine.registers) .haltSentinel 0 } }, ?_, halted, ?_⟩
  · rw [drive, arrived]
    dsimp only
    rw [← called]
    exact drive_of_halted halted
  · simp only [returned, sp, UInt16.add_zero]

end Runs

/-- At the first tick of an execution that is to look like a far call, the routine finds the stack
values from BP on, the last one first, SP four bytes below BP and the halt sentinel as its return
address, wherever the stack wraps. A module in whose segment the run begins finds the same values as
its arguments. Whatever the run does, a far return or a module that returns with SS, SP and the
return address as they were ends it, and leaves the stack values on the stack. -/
theorem calling_convention (board : Board σ) (modules : ModuleTable σ) (entry : FarPtr)
    (o : ExecuteOptions) {s : Running σ} (reachable : s.machine.memory.Reachable)
    (simulated : o.simulateFarCall = true) (even : o.stackPointer.toNat % 2 = 0)
    (room : 2 * (o.stackValues.length + 2) ≤ 65536) :
    let w := ofBoard board modules
    let below := o.stackPointer - 2 * UInt16.ofNat o.stackValues.length
    ((o.bypassState = true ∨
        ∀ module ∈ modules.modules, ∀ host, ∃ host',
          module.setState o.channel host = .ok () host') →
      ∃ t, w.opening entry o { s with depth := s.depth + 1 } = (.done (), t)) ∧
    ∀ t, w.opening entry o { s with depth := s.depth + 1 } = (.done (), t) →
      Entered entry o t.machine ∧
      (∀ module, modules.get? entry.segment = some module →
        tick w.board t.machine = .ok (.external entry) t.machine ∧
          ∀ i (inside : i < o.stackValues.length),
            t.machine.argument (UInt16.ofNat i) =
              .ok (o.stackValues[o.stackValues.length - 1 - i])) ∧
      (∀ n k u i memory popBytes, w.Advances o.channel n t (k + 1) u →
        u.machine.registers.halt = false →
        w.board.imported u.machine.registers.cs = false →
        u.machine.memory.fetch u.machine.registers.csIp = .ok (i, memory) →
        i.operation = .retf popBytes →
        KeepsReturn t.machine u.machine → w.EndsAt n entry o s (below + popBytes)) ∧
      (∀ n k u callee module value v, w.Advances o.channel n t (k + 2) u →
        tick w.board u.machine = .ok (.external callee) u.machine →
        modules.get? callee.segment = some module →
        interpret (w.executeWith (w.drive (k + 1))) (module.invoke o.channel callee.offset) u =
          (.done value, v) →
        KeepsReturn t.machine v.machine → w.EndsAt n entry o s below) := by
  intro w below
  obtain ⟨m, prepared, entered⟩ := exists_entered entry reachable simulated even room
  let ready : Running σ := ⟨m, s.depth + 1⟩
  have opening : w.opening entry o { s with depth := s.depth + 1 } =
      (if o.bypassState then pure ()
        else setStates o.channel modules.modules : Run σ Unit) ready := by
    rw [Wiring.opening, Run.bind_eq, Run.ofExec]
    dsimp only
    rw [prepared]
    rfl
  refine ⟨fun served => ?_, fun t opened => ?_⟩
  · rw [opening]
    split
    · exact ⟨ready, rfl⟩
    · next hooks => exact exists_setStates (served.resolve_left hooks) ready
  · have frame : Entered entry o t.machine := by
      have same : t.machine.registers = m.registers ∧ t.machine.memory = m.memory := by
        rw [opening] at opened
        split at opened
        · cases opened
          exact ⟨rfl, rfl⟩
        · have kept := machine_setStates o.channel modules.modules ready
          rw [opened] at kept
          exact kept
      exact entered.congr same.1 same.2
    have top {u : Machine σ} (keeps : KeepsReturn t.machine u) : u.registers.sp + 4 = below := by
      rw [keeps.sp, frame.sp, frame.bp, UInt16.sub_add_cancel]
    refine ⟨frame, fun module found => ⟨?_, fun i inside => frame.argument inside⟩, ?_, ?_⟩
    · have segment : t.machine.registers.cs = entry.segment := congrArg FarPtr.segment frame.csIp
      have imported : w.board.imported t.machine.registers.cs = true := by
        rw [segment]
        exact imported_of_get? found
      rw [Processor.tick_eq, if_neg (by simp [frame.running]), if_pos imported, frame.csIp]
    · intro n k u i memory popBytes advances running native fetched operation keeps
      obtain ⟨v, driven, halted, sp⟩ :=
        drive_of_retf k o.channel running native fetched operation
          (frame.returns.of_keepsReturn keeps)
      rw [top keeps] at sp
      rw [← sp]
      exact endsAt_of_drive opened ((drive_of_advances advances).trans driven) halted
    · intro n k u callee module value v advances arrived found invoked keeps
      obtain ⟨x, driven, halted, sp⟩ :=
        drive_of_module arrived found invoked (frame.returns.of_keepsReturn keeps)
      rw [top keeps] at sp
      rw [← sp]
      exact endsAt_of_drive opened ((drive_of_advances advances).trans driven) halted

/-- With one word left at the bottom of the stack. -/
def threeValues : ExecuteOptions := { stackValues := [11, 22, 33], stackPointer := 2 }

/-- Segment 1 is a far return. -/
def returning : Running Unit where
  machine :=
    { registers := {}
      memory :=
        { Memory.fresh with segments := Memory.fresh.segments.insert 1 (.ofContents .code [0xcb]) }
      host := () }

theorem exists_fetch_returning {t : Running Unit}
    (opened : (ofBoard .bare answeringTable).opening ⟨1, 0⟩ threeValues
    { returning with depth := returning.depth + 1 } = (.done (), t)) :
    ∃ memory, t.machine.memory.fetch ⟨1, 0⟩ = .ok (⟨0, 1, .retf 0⟩, memory) := by
  have first : (((ofBoard .bare answeringTable).opening ⟨1, 0⟩ threeValues
      { returning with depth := returning.depth + 1 }).2.machine.memory.fetch ⟨1,
      0⟩).toOption.map Prod.fst =
        some ⟨0, 1, .retf 0⟩ := by
    decide +kernel
  rw [opened] at first
  cases fetched : t.machine.memory.fetch ⟨1, 0⟩ with
  | ok r =>
    rw [fetched] at first
    obtain ⟨i, memory⟩ := r
    obtain rfl := Option.some.inj first
    exact ⟨memory, rfl⟩
  | error e =>
    rw [fetched] at first
    cases first

/-- The first value lies at the bottom of the stack and the others at its top, for guest
code and for a module. -/
theorem values_across_wrap :
    let w := ofBoard .bare answeringTable
    (∃ t, w.opening ⟨1, 0⟩ threeValues { returning with depth := returning.depth + 1 } =
      (.done (), t) ∧
      t.machine.registers.sp = 0xfff8 ∧
      t.machine.memory.readWord ⟨stackSegment, 0xfffc⟩ = .ok 33 ∧
      t.machine.memory.readWord ⟨stackSegment, 0⟩ = .ok 11 ∧
      w.EndsAt 1 ⟨1, 0⟩ threeValues returning 0xfffc) ∧
    ∃ t, w.opening ⟨0xfff1, 7⟩ threeValues { returning with depth := returning.depth + 1 } =
      (.done (), t) ∧
      t.machine.argument 2 = .ok 11 ∧
      w.EndsAt 2 ⟨0xfff1, 7⟩ threeValues returning 0xfffc := by
  intro w
  have reachable : returning.machine.memory.Reachable :=
    .addSegment .fresh (Memory.addSegment_eq_ok_iff.2 ⟨by decide, rfl⟩)
  have hooks : ∀ module ∈ answeringTable.modules, ∀ host, ∃ host',
      module.setState 0 host = .ok () host' := by
    intro module listed host
    obtain rfl : module = answering := List.mem_singleton.1 listed
    exact ⟨host, rfl⟩
  have room : 2 * (threeValues.stackValues.length + 2) ≤ 65536 := by decide
  constructor
  · obtain ⟨opens, runs⟩ :=
      calling_convention .bare answeringTable ⟨1, 0⟩ threeValues reachable rfl (by decide) room
    obtain ⟨t, opened⟩ := opens (.inr hooks)
    obtain ⟨entered, -, returns, -⟩ := runs t opened
    obtain ⟨memory, fetched⟩ := exists_fetch_returning opened
    have bp : t.machine.registers.bp = 0xfffc := entered.bp
    have first : t.machine.registers.csIp = ⟨1, 0⟩ := entered.csIp
    have native : w.board.imported t.machine.registers.cs = false := by
      rw [show t.machine.registers.cs = 1 from congrArg FarPtr.segment first]
      rfl
    have last := entered.values 0 (by decide)
    have lowest := entered.values 2 (by decide)
    rw [entered.ss, bp] at last lowest
    refine ⟨t, opened, by rw [entered.sp, bp]; rfl, last, lowest, ?_⟩
    rw [← first] at fetched
    exact returns 1 0 t _ memory 0 (.refl 1 t) entered.running native fetched rfl ⟨rfl, rfl,
      fun _ _ => rfl⟩
  · obtain ⟨opens, runs⟩ :=
      calling_convention .bare answeringTable ⟨0xfff1, 7⟩ threeValues reachable rfl
        (by decide) room
    obtain ⟨t, opened⟩ := opens (.inr hooks)
    obtain ⟨-, arguments, -, returns⟩ := runs t opened
    obtain ⟨arrived, argument⟩ := arguments answering rfl
    refine ⟨t, opened, argument 2 (by decide), ?_⟩
    exact returns 2 0 t ⟨0xfff1, 7⟩ answering (.dword 0xdeadbeef)
      { t with machine := { t.machine with registers := { t.machine.registers with bx := 7 } } }
      (.refl 2 t) arrived
      rfl rfl ⟨rfl, rfl, fun _ _ => rfl⟩

end Wiring

end RealMode
