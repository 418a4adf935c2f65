import RealMode.Proofs.DecodeCache
import RealMode.Proofs.Depth
import RealMode.Proofs.Journal
import RealMode.Proofs.Operands
import RealMode.Proofs.Tick

/-!
# Far calls into modules

A far call pushes the address after it and goes to the module's segment, where the next tick stops.
The module is then invoked, and the run goes on behind the call. `record` is a run that lists the
functions it asks modules for; without the list it is the run itself.
-/

namespace RealMode

theorem Segment.Agree.wordAt {s t : Segment} (h : s.Agree t) (offset : UInt16) :
    s.wordAt offset = t.wordAt offset := by
  rw [Segment.wordAt, Segment.wordAt, h.byteAt, h.byteAt]

namespace Memory

variable {m m' : Memory} {p : FarPtr} {i : Instruction}

/-- A fetch leaves all bytes, so every access finds what it found before. -/
theorem segmentAt_of_fetch (fetched : m.fetch p = .ok (i, m')) {q : FarPtr} {length : Nat}
    {s : Segment} (found : m.segmentAt q length = .ok s) :
    ∃ t, m'.segmentAt q length = .ok t ∧ t.Agree s := by
  obtain ⟨mapped, fits⟩ := segmentAt_eq_ok_iff.mp found
  obtain ⟨u, t, here, got, rfl⟩ := fetch_eq_ok_iff.mp fetched
  by_cases same : q.segment = p.segment
  · rw [same, here] at mapped
    cases mapped
    exact ⟨t, segmentAt_eq_ok_iff.mpr ⟨by simp [same], fits⟩, Segment.agree_of_fetch got⟩
  · exact ⟨s,
      segmentAt_eq_ok_iff.mpr ⟨by simp [WordMap.get?_insert_of_ne _ _ same, mapped], fits⟩,
      .refl s⟩

theorem maps_of_fetch (fetched : m.fetch p = .ok (i, m')) (q : FarPtr) (length : Nat) :
    m'.Maps q length ↔ m.Maps q length := by
  obtain ⟨s, t, here, _, rfl⟩ := fetch_eq_ok_iff.mp fetched
  simp only [Maps, hasSegment, WordMap.contains]
  by_cases same : q.segment = p.segment
  · simp [same, here]
  · rw [WordMap.get?_insert_of_ne _ _ same]

theorem readPointer_of_fetch (fetched : m.fetch p = .ok (i, m')) {q v : FarPtr}
    (stored : m.readPointer q = .ok v) : m'.readPointer q = .ok v := by
  cases found : m.segmentAt q 4 with
  | error e =>
    rw [readPointer, found] at stored
    cases stored
  | ok s =>
    obtain ⟨t, there, agree⟩ := segmentAt_of_fetch fetched found
    have value : (⟨s.wordAt (q.offset + 2), s.wordAt q.offset⟩ : FarPtr) = v := by
      rw [readPointer, found] at stored
      cases stored
      rfl
    rw [readPointer, there, ← value, ← agree.wordAt, ← agree.wordAt]
    rfl

end Memory

/-- Where a far call or jump goes. -/
inductive Target.LeadsTo {σ : Type} (m : Machine σ) : Target → FarPtr → Prop
  | far (p : FarPtr) : LeadsTo m (.far p) p
  | farThrough {o : MemoryOperand} {a p : FarPtr} :
      m.registers.address? o = some a → m.memory.readPointer a = .ok p →
      LeadsTo m (.farThrough o) p

namespace Processor

open Exec

variable {σ : Type} {m : Machine σ} {board : Board σ}

theorem callFar_eq_ok (room : HasRoom m) (p : FarPtr) :
    ∃ m', callFar p m = .ok () m' ∧ m'.host = m.host ∧
      m'.registers =
        { m.registers with cs := p.segment, ip := p.offset, sp := m.registers.sp - 4 } ∧
      ReturnsTo m' m.registers.csIp := by
  obtain ⟨high, low⟩ := room
  have four : m.registers.sp - 2 - 2 = m.registers.sp - 4 := by grind
  have two : m.registers.sp - 4 + 2 = m.registers.sp - 2 := by grind
  obtain ⟨memory₁, first⟩ := Memory.exists_writeWord high m.registers.cs
  have stored₁ := Memory.wordStored_of_writeWord first
  obtain ⟨memory₂, second⟩ :=
    Memory.exists_writeWord ((stored₁.maps _ _).mpr low) m.registers.ip
  have stored₂ := Memory.wordStored_of_writeWord second
  have apart : (m.registers.sp - 2).toNat + 2 ≤ (m.registers.sp - 4).toNat ∨
      (m.registers.sp - 4).toNat + 2 ≤ (m.registers.sp - 2).toNat := by
    have fits := low.2
    rw [← two, UInt16.toNat_add]
    simp only [Segment.size, UInt16.toNat_ofNat] at *
    omega
  refine ⟨⟨{ m.registers with cs := p.segment, ip := p.offset, sp := m.registers.sp - 4 },
    memory₂, m.host⟩, ?_, rfl, rfl, ?_, ?_⟩
  · have cs : pushCs m =
        .ok () ⟨{ m.registers with sp := m.registers.sp - 2 }, memory₁, m.host⟩ :=
      push_eq_ok first
    have ip : pushIp ⟨{ m.registers with sp := m.registers.sp - 2 }, memory₁, m.host⟩ =
        .ok () ⟨{ m.registers with sp := m.registers.sp - 2 - 2 }, memory₂, m.host⟩ :=
      push_eq_ok (by rw [four]; exact second)
    rw [callFar, bind_of_ok cs, bind_of_ok ip, four]
    rfl
  · exact stored₂.read
  · dsimp only
    rw [two, stored₂.others _ (.inr apart)]
    exact stored₁.read

/-- Without room one of the two pushes faults. -/
theorem callFar_eq_error (full : ¬ HasRoom m) (p : FarPtr) :
    ∃ e m', callFar p m = .error e m' := by
  have four : m.registers.sp - 2 - 2 = m.registers.sp - 4 := by grind
  by_cases high : m.memory.Maps ⟨m.registers.ss, m.registers.sp - 2⟩ 2
  · have low : ¬ m.memory.Maps ⟨m.registers.ss, m.registers.sp - 4⟩ 2 :=
      fun low => full ⟨high, low⟩
    obtain ⟨memory, first⟩ := Memory.exists_writeWord high m.registers.cs
    have stored := Memory.wordStored_of_writeWord first
    have cs : pushCs m =
        .ok () ⟨{ m.registers with sp := m.registers.sp - 2 }, memory, m.host⟩ :=
      push_eq_ok first
    obtain ⟨e, second⟩ :=
      Memory.exists_error_writeWord (fun maps => low ((stored.maps _ _).mp maps)) m.registers.ip
    have ip : pushIp ⟨{ m.registers with sp := m.registers.sp - 2 }, memory, m.host⟩ =
        .error e _ :=
      push_eq_error (by rw [four]; exact second)
    exact ⟨e, _, by rw [callFar, bind_of_ok cs, bind_of_error ip]⟩
  · obtain ⟨e, first⟩ := Memory.exists_error_writeWord high m.registers.cs
    have cs : pushCs m = .error e _ := push_eq_error first
    exact ⟨e, _, by rw [callFar, bind_of_error cs]⟩

theorem execute_call {i : Instruction} {target : Target} {p : FarPtr}
    (calls : i.operation = .call target) (leads : target.LeadsTo m p) :
    execute board i m = callFar p m := by
  cases leads with
  | far p =>
    rw [execute, calls]
    rfl
  | farThrough address stored =>
    rw [execute, calls]
    exact bind_of_ok (readFar_eq_ok i address stored)

/-- A machine that is about to execute a far call to `p`, which is the instruction `i`. -/
structure AtFarCall (board : Board σ) (m : Machine σ) (i : Instruction) (p : FarPtr) : Prop where
  reachable : m.memory.Reachable
  running : m.registers.halt = false
  native : board.imported m.registers.cs = false
  fetched : ∃ memory, m.memory.fetch m.registers.csIp = .ok (i, memory)
  calls : ∃ target, i.operation = .call target ∧ target.LeadsTo m p

namespace AtFarCall

variable {i : Instruction} {p : FarPtr}

/-- The address of the instruction after the call. -/
def after (m : Machine σ) (i : Instruction) : FarPtr :=
  ⟨m.registers.cs, m.registers.ip + UInt16.ofNat i.length⟩

theorem atInstruction (h : AtFarCall board m i p) : AtInstruction board m i :=
  ⟨h.reachable, h.running, h.native, h.fetched⟩

/-- The tick is the call itself, with IP behind it. -/
theorem tick_eq (h : AtFarCall board m i p) :
    ∃ memory : Memory, (∀ q length, memory.Maps q length ↔ m.memory.Maps q length) ∧
      tick board m =
        match callFar p
          ⟨{ m.registers with ip := m.registers.ip + UInt16.ofNat i.length }, memory,
            m.host⟩ with
        | .ok _ m' =>
          .ok (if m'.registers.halt then .halted else .executed)
            { m' with memory := m'.memory.commit }
        | .error e m' =>
          .error e { m' with registers := m.registers, memory := m'.memory.rollback } := by
  obtain ⟨memory, fetched⟩ := h.fetched
  obtain ⟨target, calls, leads⟩ := h.calls
  have still :
      target.LeadsTo (⟨m.registers.past i, memory.beginJournal, m.host⟩ : Machine σ) p := by
    cases leads with
    | far p => exact .far p
    | farThrough address stored =>
      refine .farThrough ?_ (Memory.readPointer_of_fetch fetched stored)
      rw [Registers.past, Registers.address?_withIp]
      exact address
  refine ⟨memory.beginJournal, fun q length => Memory.maps_of_fetch fetched q length, ?_⟩
  rw [h.atInstruction.tick_eq fetched, execute_call calls still]
  rfl

/-- The machine of the next tick: in the module's segment, with the address after
the call on the stack. -/
structure Leaves (m : Machine σ) (i : Instruction) (p : FarPtr) (m' : Machine σ) : Prop where
  host : m'.host = m.host
  registers : m'.registers =
    { m.registers with cs := p.segment, ip := p.offset, sp := m.registers.sp - 4 }
  returns : ReturnsTo m' (after m i)

theorem tick_eq_ok (h : AtFarCall board m i p) (room : HasRoom m) :
    ∃ m', tick board m = .ok .executed m' ∧ Leaves m i p m' := by
  obtain ⟨memory, maps, ticked⟩ := h.tick_eq
  obtain ⟨m', called, host, registers, returns⟩ := callFar_eq_ok
    (m := ⟨{ m.registers with ip := m.registers.ip + UInt16.ofNat i.length }, memory, m.host⟩)
    ⟨(maps _ _).mpr room.1, (maps _ _).mpr room.2⟩ p
  have running : m'.registers.halt = false := by
    rw [registers]
    exact h.running
  refine ⟨{ m' with memory := m'.memory.commit }, ?_, host, registers, returns.offset,
    returns.segment⟩
  rw [ticked, called]
  simp [running]

theorem tick_eq_error (h : AtFarCall board m i p) (full : ¬ HasRoom m) :
    ∃ e m', tick board m = .error e m' := by
  obtain ⟨memory, maps, ticked⟩ := h.tick_eq
  obtain ⟨e, m', called⟩ := callFar_eq_error
    (m := ⟨{ m.registers with ip := m.registers.ip + UInt16.ofNat i.length }, memory, m.host⟩)
    (fun room => full ⟨(maps _ _).mp room.1, (maps _ _).mp room.2⟩) p
  exact ⟨e, _, by rw [ticked, called]⟩

end AtFarCall

/-- SS, SP and the four bytes at the top of the stack are the same. -/
structure KeepsReturn (m m' : Machine σ) : Prop where
  ss : m'.registers.ss = m.registers.ss
  sp : m'.registers.sp = m.registers.sp
  bytes : ∀ k : UInt16, k < 4 →
    m'.memory.readByte ⟨m.registers.ss, m.registers.sp + k⟩ =
      m.memory.readByte ⟨m.registers.ss, m.registers.sp + k⟩

theorem ReturnsTo.of_keepsReturn {m' : Machine σ} {p : FarPtr} (returns : ReturnsTo m p)
    (keeps : KeepsReturn m m') : ReturnsTo m' p := by
  have zero := keeps.bytes 0 (by decide)
  have one := keeps.bytes 1 (by decide)
  have two := keeps.bytes 2 (by decide)
  have three : m'.memory.readByte ⟨m.registers.ss, m.registers.sp + 2 + 1⟩ =
      m.memory.readByte ⟨m.registers.ss, m.registers.sp + 2 + 1⟩ := by
    have last := keeps.bytes 3 (by decide)
    have sum : m.registers.sp + 2 + 1 = m.registers.sp + 3 := by grind
    rwa [sum]
  rw [UInt16.add_zero] at zero
  constructor
  · rw [keeps.ss, keeps.sp]
    exact Memory.readWord_congr (Memory.maps_of_readWord returns.offset).2 zero one returns.offset
  · rw [keeps.ss, keeps.sp]
    exact Memory.readWord_congr (Memory.maps_of_readWord returns.segment).2 two three
      returns.segment

end Processor

/-- A function that a module has been asked for. -/
structure Invocation where
  module : UInt16
  channel : UInt16
  function : UInt16
deriving DecidableEq

namespace Wiring

open Processor

variable {σ : Type} (w : Wiring σ)

/-- `externalCall`, with the invocation that it makes. -/
def recordCall (go : UInt16 → Run σ Unit) (entry : FarPtr) (channel : UInt16) (s : Running σ) :
    List Invocation × Ending Unit × Running σ :=
  match w.modules.get? entry.segment with
  | none => ([], Run.fault (.unknownModule entry.segment) s)
  | some m =>
    let serve : Run σ Unit := do
      let value ← interpret (w.executeWith go) (m.invoke channel entry.offset)
      Run.ofExec do
        Exec.modifyRegisters value.store
        farReturn 0
    ([⟨entry.segment, channel, entry.offset⟩], serve s)

/-- `drive`, with the invocations that it makes, in order. Those of runs inside
it are not among them. -/
def record (ticks : Nat) (channel : UInt16) (s : Running σ) :
    List Invocation × Ending Unit × Running σ :=
  match ticks with
  | 0 => ([], .unfinished, s)
  | n + 1 =>
    match tick w.board s.machine with
    | .error e m => ([], .faulted e, { s with machine := m })
    | .ok .halted m => ([], .done (), { s with machine := m })
    | .ok .executed m => record n channel { s with machine := m }
    | .ok (.external entry) m =>
      match w.recordCall (w.drive n) entry channel { s with machine := m } with
      | (asked, .done (), s) => (asked ++ (record n channel s).1, (record n channel s).2)
      | (asked, .faulted e, s) => (asked, .faulted e, s)
      | (asked, .unfinished, s) => (asked, .unfinished, s)

theorem recordCall_snd (go : UInt16 → Run σ Unit) (entry : FarPtr) (channel : UInt16)
    (s : Running σ) : (w.recordCall go entry channel s).2 = w.externalCall go entry channel s := by
  rw [recordCall, externalCall]
  cases w.modules.get? entry.segment <;> rfl

/-- By induction on the ticks, with the runs inside left as they are. -/
theorem record_snd (ticks : Nat) (channel : UInt16) (s : Running σ) :
    (w.record ticks channel s).2 = w.drive ticks channel s := by
  induction ticks generalizing s with
  | zero => rfl
  | succ n ih =>
    rw [record, drive]
    cases tick w.board s.machine with
    | error e m => rfl
    | ok result m =>
      cases result with
      | executed => exact ih _
      | halted => rfl
      | external entry =>
        have served := w.recordCall_snd (w.drive n) entry channel { s with machine := m }
        obtain ⟨asked, ending, t, recorded⟩ : ∃ asked ending t,
            w.recordCall (w.drive n) entry channel { s with machine := m } = (asked, ending, t) :=
          ⟨_, _, _, rfl⟩
        rw [recorded] at served
        simp only [recorded, ← served]
        cases ending with
        | done u => exact ih t
        | faulted e => rfl
        | unfinished => rfl

section Steps

variable {w} {n : Nat} {channel : UInt16} {s t : Running σ} {m : Machine σ} {entry : FarPtr}
  {asked : List Invocation}

theorem record_executed (ticked : tick w.board s.machine = .ok .executed m) :
    w.record (n + 1) channel s = w.record n channel { s with machine := m } := by
  rw [record, ticked]

theorem record_served (ticked : tick w.board s.machine = .ok (.external entry) m)
    (served : w.recordCall (w.drive n) entry channel { s with machine := m } =
      (asked, .done (), t)) :
    w.record (n + 1) channel s = (asked ++ (w.record n channel t).1, (w.record n channel t).2) := by
  rw [record, ticked]
  dsimp only
  rw [served]

theorem record_refused {e : Fault} (ticked : tick w.board s.machine = .ok (.external entry) m)
    (refused : w.recordCall (w.drive n) entry channel { s with machine := m } =
      (asked, .faulted e, t)) :
    w.record (n + 1) channel s = (asked, .faulted e, t) := by
  rw [record, ticked]
  dsimp only
  rw [refused]

end Steps

theorem imported_foldl_withImport (segments : List UInt16) (board : Board σ) (segment : UInt16) :
    (segments.foldl Board.withImport board).imported segment =
      (board.imported segment || segments.contains segment) := by
  induction segments generalizing board with
  | nil => simp
  | cons s segments ih =>
    rw [List.foldl_cons, ih]
    simp only [Board.imported, Board.withImport, List.contains_cons]
    cases board.imports.contains segment <;> cases segment == s <;> simp

/-- A module in the table is an import. -/
theorem imported_of_get? {board : Board σ} {modules : ModuleTable σ} {segment : UInt16}
    {module : NativeModule σ} (found : modules.get? segment = some module) :
    (ofBoard board modules).board.imported segment = true := by
  have member : segment ∈ modules.segments := by
    have same := List.find?_some found
    have there := List.mem_of_find?_eq_some found
    rw [← beq_iff_eq.mp same]
    exact List.mem_map_of_mem there
  rw [ofBoard, imported_foldl_withImport]
  simp [member]

/-- A module that hands back a value with the return address in place returns there. -/
theorem recordCall_of_returns {go : UInt16 → Run σ Unit} {entry address : FarPtr}
    {channel : UInt16} {module : NativeModule σ} {value : ReturnValue} {s t : Running σ}
    (found : w.modules.get? entry.segment = some module)
    (invoked : interpret (w.executeWith go) (module.invoke channel entry.offset) s =
      (.done value, t))
    (returns : ReturnsTo t.machine address) :
    w.recordCall go entry channel s =
      ([⟨entry.segment, channel, entry.offset⟩], .done (),
        { t with machine := { t.machine with
          registers := returned (value.store t.machine.registers) address 0 } }) := by
  have kept : ReturnsTo
      { t.machine with registers := value.store t.machine.registers } address := by
    cases value <;> exact ⟨returns.offset, returns.segment⟩
  have back := farReturn_eq_ok kept 0
  have served : Run.ofExec (do Exec.modifyRegisters value.store; farReturn 0) t =
      (.done (), { t with machine := { t.machine with
        registers := returned (value.store t.machine.registers) address 0 } }) := by
    have whole : (do Exec.modifyRegisters value.store; farReturn 0 : Exec σ Unit) t.machine =
        .ok () { t.machine with
          registers := returned (value.store t.machine.registers) address 0 } := back
    simp only [Run.ofExec, whole]
  rw [recordCall, found]
  dsimp only
  rw [Run.bind_eq, invoked]
  exact congrArg _ served

/-- The registers `r` with which a run goes on behind the call `i` of `m`, where the module has
returned `value` and left the registers `left`. -/
structure GoesOn (m : Machine σ) (i : Instruction) (value : ReturnValue) (left r : Registers) :
    Prop where
  csIp : r.csIp = AtFarCall.after m i
  sp : r.sp = m.registers.sp
  result :
    match value with
    | .nothing => r.ax = left.ax ∧ r.dx = left.dx
    | .word v => r.ax = v ∧ r.dx = left.dx
    | .dword v => r.dxAx = v
  general : r.bx = left.bx ∧ r.cx = left.cx ∧ r.si = left.si ∧ r.di = left.di ∧
    r.bp = left.bp
  segments : r.ds = left.ds ∧ r.es = left.es ∧ r.ss = left.ss
  flags : r.flags = left.flags
  halt : r.halt = true ↔ left.halt = true ∨ AtFarCall.after m i = .haltSentinel

theorem goesOn_returned {m : Machine σ} (i : Instruction) (value : ReturnValue) {left : Registers}
    (sp : left.sp = m.registers.sp - 4) :
    GoesOn m i value left (returned (value.store left) (AtFarCall.after m i) 0) := by
  have back : left.sp + 4 + 0 = m.registers.sp := by grind
  cases value with
  | nothing =>
    exact ⟨rfl, back, ⟨rfl, rfl⟩, ⟨rfl, rfl, rfl, rfl, rfl⟩, ⟨rfl, rfl, rfl⟩, rfl,
      by simp [returned, ReturnValue.store]⟩
  | word v =>
    exact ⟨rfl, back, ⟨rfl, rfl⟩, ⟨rfl, rfl, rfl, rfl, rfl⟩, ⟨rfl, rfl, rfl⟩, rfl,
      by simp [returned, ReturnValue.store]⟩
  | dword v =>
    exact ⟨rfl, back, dwordOfWords_low_high v, ⟨rfl, rfl, rfl, rfl, rfl⟩,
      ⟨rfl, rfl, rfl⟩, rfl, by simp [returned, ReturnValue.store, Registers.withDxAx]⟩

/-- A far call whose return address finds no room faults. Otherwise the next tick stops at the
module's function. The module is invoked for it once. If it succeeds and leaves the return address
in place, the run goes on behind the call, with the result in its registers and all else as the
module left it. An import that no module serves is a fault, and none is invoked. -/
theorem far_call_transparent (board : Board σ) (modules : ModuleTable σ) {m : Machine σ}
    {i : Instruction} {p : FarPtr} (call : AtFarCall (ofBoard board modules).board m i p)
    (depth : Nat) (channel : UInt16) :
    let w := ofBoard board modules
    (¬ HasRoom m → ∃ e m', tick w.board m = .error e m') ∧
    (HasRoom m → ∃ m₁, tick w.board m = .ok .executed m₁ ∧ AtFarCall.Leaves m i p m₁ ∧
      (∀ module, modules.get? p.segment = some module → ∀ n value t,
        interpret (w.executeWith (w.drive n)) (module.invoke channel p.offset) ⟨m₁, depth⟩ =
          (.done value, t) →
        KeepsReturn m₁ t.machine →
        ∃ r, GoesOn m i value t.machine.registers r ∧
          let s : Running σ := { t with machine := { t.machine with registers := r } }
          w.drive (n + 2) channel ⟨m, depth⟩ = w.drive n channel s ∧
          (w.record (n + 2) channel ⟨m, depth⟩).1 =
            ⟨p.segment, channel, p.offset⟩ :: (w.record n channel s).1) ∧
      (modules.get? p.segment = none → w.board.imported p.segment = true → ∀ n,
        w.drive (n + 2) channel ⟨m, depth⟩ =
          (.faulted (.unknownModule p.segment), ⟨m₁, depth⟩) ∧
        (w.record (n + 2) channel ⟨m, depth⟩).1 = [])) := by
  intro w
  refine ⟨call.tick_eq_error, fun room => ?_⟩
  obtain ⟨m₁, ticked, leaves⟩ := call.tick_eq_ok room
  have arrives (imported : w.board.imported p.segment = true) :
      tick w.board m₁ = .ok (.external p) m₁ := by
    rw [Processor.tick_eq, leaves.registers]
    simp [call.running, imported, Registers.csIp]
  refine ⟨m₁, ticked, leaves, fun module found n value t invoked keeps => ?_,
    fun missing imported n => ?_⟩
  · have sp : t.machine.registers.sp = m.registers.sp - 4 := by rw [keeps.sp, leaves.registers]
    have served := w.recordCall_of_returns found invoked (leaves.returns.of_keepsReturn keeps)
    have recorded := (record_executed (w := w) (s := ⟨m, depth⟩) ticked).trans
      (record_served (arrives (imported_of_get? found)) served)
    refine ⟨_, goesOn_returned i value sp, ?_, ?_⟩
    · rw [← record_snd, recorded, record_snd]
    · rw [recorded]
      rfl
  · have refused : w.recordCall (w.drive n) p channel ⟨m₁, depth⟩ =
        ([], .faulted (.unknownModule p.segment), ⟨m₁, depth⟩) := by
      have unserved : w.modules.get? p.segment = none := missing
      rw [recordCall, unserved]
      rfl
    have recorded := (record_executed (w := w) (s := ⟨m, depth⟩) ticked).trans
      (record_refused (arrives imported) refused)
    exact ⟨by rw [← record_snd, recorded], by rw [recorded]⟩

/-- Leaves the number of the function in BX and returns a double word. -/
def answering : NativeModule Unit where
  name := "ANSWERING"
  segment := 0xfff1
  setState _ := pure ()
  invoke _ function :=
    .change (fun m => { m with registers := { m.registers with bx := function } })
      (.finish (.ok (.dword 0xdeadbeef)))
  updateSession _ := pure ()

def answeringTable : ModuleTable Unit := ⟨[answering], some answering.segment⟩

/-- The call through the pointer at DS:0004. -/
def pointerCall : Instruction := ⟨0, 4, .call (.farThrough ⟨.ds, none, none, 4, .farWord⟩)⟩

/-- With two bytes of stack left below it, the return address lies at both ends
of the stack segment. -/
theorem far_call_across_wrap :
    ∃ (m : Machine Unit) (s : Running Unit),
      AtFarCall (ofBoard .bare answeringTable).board m pointerCall ⟨0xfff1, 7⟩ ∧
      HasRoom m ∧ m.registers.sp = 2 ∧
      (ofBoard .bare answeringTable).drive 3 0 ⟨m, 1⟩ =
        (ofBoard .bare answeringTable).drive 1 0 s ∧
      s.machine.registers.csIp = ⟨2, 4⟩ ∧ s.machine.registers.sp = 2 ∧
      s.machine.registers.dxAx = 0xdeadbeef ∧ s.machine.registers.bx = 7 := by
  obtain ⟨memory, memory', added, fetched, stored, mapped⟩ : ∃ memory memory' : Memory,
      Memory.fresh.addSegment 2 .code [0xff, 0x1e, 0x04, 0x00, 0x07, 0x00, 0xf1, 0xff] =
        .ok memory ∧
      memory.fetch ⟨2, 0⟩ = .ok (pointerCall, memory') ∧
      memory.readPointer ⟨2, 4⟩ = .ok ⟨0xfff1, 7⟩ ∧ memory.hasSegment 0 = true :=
    ⟨_, _, rfl, rfl, rfl, rfl⟩
  let m : Machine Unit := ⟨{ Registers.reset 2 with cs := 2, ds := 2 }, memory, ()⟩
  have call : AtFarCall (ofBoard .bare answeringTable).board m pointerCall ⟨0xfff1, 7⟩ :=
    { reachable := .addSegment .fresh added
      running := rfl
      native := rfl
      fetched := ⟨memory', fetched⟩
      calls := ⟨_, rfl, .farThrough (a := ⟨2, 4⟩) rfl stored⟩ }
  have bottom : (2 - 2 : UInt16).toNat + 2 ≤ Segment.size := by decide
  have top : (2 - 4 : UInt16).toNat + 2 ≤ Segment.size := by decide
  have room : HasRoom m := ⟨⟨mapped, bottom⟩, ⟨mapped, top⟩⟩
  obtain ⟨m₁, _, leaves, served, _⟩ :=
    (far_call_transparent .bare answeringTable call 1 0).2 room
  obtain ⟨r, goesOn, driven, _⟩ := served answering rfl 1 (.dword 0xdeadbeef)
    ⟨{ m₁ with registers := { m₁.registers with bx := 7 } }, 1⟩ rfl ⟨rfl, rfl,
      fun _ _ => rfl⟩
  exact ⟨m, _, call, room, rfl, driven, goesOn.csIp, goesOn.sp, goesOn.result, goesOn.general.1⟩

end Wiring

end RealMode
