import RealMode.Proofs.CallingConvention
import RealMode.Proofs.Confinement.Services

/-!
# Stack instructions undo each other

Words that are pushed one after the other do not overlap, wherever SP starts: they lie at even
distances, and a push to the last byte of the segment faults. What a stack instruction has pushed is
what its counterpart finds, and nothing but the pushed words has been written.
-/

namespace RealMode

/-- One of the bytes of the first `words` words below `top`. Offsets wrap. -/
def FarPtr.Below (top : FarPtr) (words : Nat) (q : FarPtr) : Prop :=
  q.segment = top.segment ∧
    q.offset - (top.offset - 2 * UInt16.ofNat words) < 2 * UInt16.ofNat words

namespace FarPtr.Below

variable {top q : FarPtr} {words more : Nat}

/-- The first words are among all. -/
theorem of_fewer (below : top.Below words q) (room : words + more < 32768) :
    top.Below (words + more) q := by
  refine ⟨below.1, ?_⟩
  have near := below.2
  have first := toNat_two_mul_ofNat (n := words) (by omega)
  have all := toNat_two_mul_ofNat room
  simp only [UInt16.lt_iff_toNat_lt, UInt16.toNat_sub, first, all] at near ⊢
  omega

/-- So are those that come after the first. -/
theorem of_later
    (below : FarPtr.Below ⟨top.segment, top.offset - 2 * UInt16.ofNat words⟩ more q)
    (room : words + more < 32768) : top.Below (words + more) q := by
  refine ⟨below.1, ?_⟩
  have near := below.2
  have first := toNat_two_mul_ofNat (n := words) (by omega)
  have second := toNat_two_mul_ofNat (n := more) (by omega)
  have all := toNat_two_mul_ofNat room
  simp only [UInt16.lt_iff_toNat_lt, UInt16.toNat_sub, first, second, all] at near ⊢
  omega

end FarPtr.Below

/-- `m'` is `m` with the values from `top` downwards. -/
structure Memory.Covered (top : FarPtr) (values : List UInt16) (m m' : Memory) : Prop where
  words : ∀ j (inside : j < values.length),
    m'.readWord ⟨top.segment, top.offset - 2 * UInt16.ofNat (j + 1)⟩ = .ok values[j]
  bytes : ∀ q, ¬ top.Below values.length q → m'.readByte q = m.readByte q
  allocations : m.SameAllocations m'

namespace Memory.Covered

variable {top : FarPtr} {values : List UInt16} {m m' n n' : Memory}

theorem congr (covered : Covered top values m m') (before : ∀ q, m.readByte q = n.readByte q)
    (sameBefore : n.SameAllocations m) (later : ∀ q, n'.readByte q = m'.readByte q)
    (sameLater : m'.SameAllocations n') :
    Covered top values n n' where
  words j inside := readWord_of_bytes later (covered.words j inside)
  bytes q outside := (later q).trans ((covered.bytes q outside).trans (before q))
  allocations := (sameBefore.trans covered.allocations).trans sameLater

/-- The values from the last one upwards. -/
theorem upwards (covered : Covered top values m m') (k : Nat) (inside : k < values.reverse.length) :
    m'.readWord ⟨top.segment,
      top.offset - 2 * UInt16.ofNat values.length + 2 * UInt16.ofNat k⟩ =
      .ok values.reverse[k] := by
  have few : k < values.length := by rwa [List.length_reverse] at inside
  have sum : UInt16.ofNat k + UInt16.ofNat (values.length - 1 - k + 1) =
      UInt16.ofNat values.length := by
    rw [← UInt16.ofNat_add, show k + (values.length - 1 - k + 1) = values.length by omega]
  have place : top.offset - 2 * UInt16.ofNat values.length + 2 * UInt16.ofNat k =
      top.offset - 2 * UInt16.ofNat (values.length - 1 - k + 1) := by grind
  have stored := covered.words (values.length - 1 - k) (by omega)
  rw [place, stored, List.getElem_reverse]

theorem first {value : UInt16} (covered : Covered top (value :: values) m m') :
    m'.readWord ⟨top.segment, top.offset - 2⟩ = .ok value :=
  covered.words 0 (Nat.zero_lt_succ _)

end Memory.Covered

/-- A register that gets its own value stays what it is. -/
theorem Registers.write?_of_read? {r : Registers} {reg : Register} {v : UInt16}
    (there : r.read? reg = some v) :
    r.write? reg v = some r := by
  cases reg with
  | byte b =>
    have narrow (x : UInt8) : lowByte x.toUInt16 = x := by simp [lowByte]
    cases there
    cases b <;>
      simp [write?, writeByte, readByte, withAl, withAh, withBl, withBh, withCl, withCh, withDl,
        withDh, al, ah, bl, bh, cl, ch, dl, dh, narrow]
  | word w =>
    cases there
    cases w <;> rfl
  | segment s => cases s <;> cases there <;> rfl
  | dword _ => cases there
  | control _ => cases there
  | debug _ => cases there

/-- Edits are operations on memory. -/
theorem Memory.Edits.reachable {m m' : Memory} (edits : m.Edits m') (reachable : m.Reachable) :
    m'.Reachable := by
  induction edits with
  | refl => exact reachable
  | writeBytes _ written ih => exact ih.writeBytes written
  | addSegment _ _ added ih => exact ih.addSegment added
  | allocateVariable _ allocated ih => exact ih.allocateVariable allocated
  | fetch _ fetched ih => exact ih.fetch fetched

/-- Far calls push CS too. -/
def Target.isFar : Target → Bool
  | far _ => true
  | farThrough _ => true
  | relative _ => false
  | near _ => false

namespace Processor

open Exec

variable {σ : Type} {board : Board σ} {m m' m'' m₁ : Machine σ} {i j : Instruction}
  {o : Operand} {p : FarPtr}
  {value v : UInt16} {values values' : List UInt16} {n : Nat}

/-- The values have been pushed, and nothing else has been written. -/
structure Stacked (values : List UInt16) (m m' : Machine σ) : Prop extends Pushed values m m' where
  bytes : ∀ q, ¬ m.registers.ssSp.Below values.length q →
    m'.memory.readByte q = m.memory.readByte q

theorem stacked_of_push (pushed : push value m = .ok () m') : Stacked [value] m m' := by
  refine ⟨pushed_of_push pushed, fun q outside => ?_⟩
  cases stored : m.memory.writeWord ⟨m.registers.ss, m.registers.sp - 2⟩ value with
  | error e =>
    rw [push_eq_error stored] at pushed
    cases pushed
  | ok memory =>
    rw [push_eq_ok stored] at pushed
    cases pushed
    refine Memory.readByte_of_writeWord stored ?_
    rintro ⟨segment, low, high⟩
    refine outside ⟨segment, ?_⟩
    have fits := (Memory.maps_of_writeWord stored).2
    change q.offset - (m.registers.sp - 2) < 2
    simp only [Segment.size, UInt16.lt_iff_toNat_lt, UInt16.toNat_sub,
      UInt16.toNat_ofNat] at fits low high ⊢
    omega

namespace Stacked

theorem nil (m : Machine σ) : Stacked [] m m := ⟨.nil m, fun _ _ => rfl⟩

theorem append (first : Stacked values m m') (second : Stacked values' m' m'')
    (room : values.length + values'.length < 32768) : Stacked (values ++ values') m m'' := by
  refine ⟨first.toPushed.append second.toPushed (Nat.le_of_lt room), ?_⟩
  intro q outside
  rw [List.length_append] at outside
  have later : ¬ m'.registers.ssSp.Below values'.length q := by
    intro below
    rw [first.registers] at below
    exact outside (.of_later below room)
  have earlier : ¬ m.registers.ssSp.Below values.length q :=
    fun below => outside (below.of_fewer room)
  exact (second.bytes q later).trans (first.bytes q earlier)

/-- Pushing has nothing to do with BP. -/
theorem withBp (stacked : Stacked values m m') (bp : UInt16) :
    Stacked values { m with registers := { m.registers with bp := bp } }
      { m' with registers := { m'.registers with bp := bp } } where
  registers := by rw [stacked.registers]
  host := stacked.host
  words := stacked.words
  kept := stacked.kept
  allocations := stacked.allocations
  bytes := stacked.bytes

theorem covered (stacked : Stacked values m m') :
    Memory.Covered m.registers.ssSp values m.memory m'.memory :=
  ⟨stacked.words, stacked.bytes, stacked.allocations⟩

end Stacked

/-- By induction on the values, each of which is pushed below those before it. -/
theorem stacked_of_pushAll (pushed : pushAll values m = .ok () m') (room : values.length < 32768) :
    Stacked values m m' := by
  induction values generalizing m with
  | nil =>
    cases pushed
    exact .nil _
  | cons value values ih =>
    obtain ⟨_, m₁, first, rest⟩ := of_bind_ok pushed
    have small : values.length + 1 < 32768 := room
    exact (stacked_of_push first).append (ih rest (by omega)) (by simpa [Nat.add_comm] using room)

/-- By induction on the frames. BP ends below the pointers that have been copied. -/
theorem stacked_of_copyFrames (copied : copyFrames n m = .ok () m') (few : n < 32768) :
    ∃ values, values.length = n ∧
      Stacked values { m with registers := { m.registers with bp := m'.registers.bp } } m' := by
  induction n generalizing m with
  | zero =>
    cases copied
    exact ⟨[], rfl, .nil _⟩
  | succ n ih =>
    obtain ⟨_, down, moved, rest⟩ := of_bind_ok copied
    cases moved
    obtain ⟨r, down', seen, rest⟩ := of_bind_ok rest
    cases seen
    obtain ⟨outer, m₁, found, rest⟩ := of_bind_ok rest
    obtain ⟨-, rfl⟩ := of_reading_ok found
    obtain ⟨_, m₂, pushed, rest⟩ := of_bind_ok rest
    obtain ⟨values, length, stacked⟩ := ih rest (by omega)
    have first := (stacked_of_push pushed).withBp m'.registers.bp
    refine ⟨outer :: values, by rw [List.length_cons, length], first.append stacked ?_⟩
    rw [length, List.length_singleton]
    omega

/-- The old BP is pushed first, and BP is left at it. -/
theorem stacked_of_enter {size : UInt16} {level : Nat} (entered : enter size level m = .ok () m')
    (few : level < 32) :
    ∃ values bp, ∃ stack : Machine σ, values.length = level ∧
      Stacked (m.registers.bp :: values)
        { m with registers := { m.registers with bp := bp } } stack ∧
      m'.memory = stack.memory ∧ m'.host = stack.host ∧
      m'.registers =
        { stack.registers with bp := m.registers.sp - 2, sp := stack.registers.sp - size } := by
  obtain ⟨r, _, seen, rest⟩ := of_bind_ok entered
  cases seen
  obtain ⟨_, m₁, pushed, rest⟩ := of_bind_ok rest
  obtain ⟨framed, _, seen, rest⟩ := of_bind_ok rest
  cases seen
  have first := stacked_of_push pushed
  have frame : m₁.registers.sp = m.registers.sp - 2 := by
    rw [first.registers]
    rfl
  dsimp only at rest
  cases level with
  | zero =>
    cases rest
    refine ⟨[], m.registers.bp, m₁, rfl, first, rfl, rfl, ?_⟩
    rw [← frame]
  | succ n =>
    obtain ⟨_, m₂, copied, rest⟩ := of_bind_ok rest
    obtain ⟨_, m₃, pushed', rest⟩ := of_bind_ok rest
    cases rest
    obtain ⟨values, length, chain⟩ := stacked_of_copyFrames copied (by omega)
    have last := stacked_of_push pushed'
    have all : (values ++ [m₁.registers.sp]).length = n + 1 := by
      rw [List.length_append, length, List.length_singleton]
    have below := chain.append last (by rw [length, List.length_singleton]; omega)
    have room : [m.registers.bp].length + (values ++ [m₁.registers.sp]).length < 32768 := by
      rw [all, List.length_singleton]
      omega
    have both : Stacked (m.registers.bp :: (values ++ [m₁.registers.sp]))
        { m with registers := { m.registers with bp := m₂.registers.bp } } m₃ :=
      (first.withBp m₂.registers.bp).append below room
    refine ⟨values ++ [m₁.registers.sp], m₂.registers.bp, m₃, all, both, rfl, rfl, ?_⟩
    rw [← frame]

theorem pop_of_covered {memory : Memory} {top : FarPtr}
    (covered : Memory.Covered top (value :: values) memory m.memory)
    (place : m.registers.ssSp = ⟨top.segment, top.offset - 2⟩) :
    pop m = .ok value { m with registers := { m.registers with sp := top.offset } } := by
  have stored : m.memory.readWord m.registers.ssSp = .ok value := by
    rw [place]
    exact covered.first
  have sp : m.registers.sp + 2 = top.offset := by
    rw [show m.registers.sp = top.offset - 2 from congrArg FarPtr.offset place]
    exact UInt16.sub_add_cancel _ _
  rw [pop_eq_ok stored, sp]

/-- What popping into a register makes of all registers. The place of SP is passed over. -/
def popped (file : WordRegister → UInt16) (r : Registers) (reg : WordRegister) : Registers :=
  if reg = .sp then { r with sp := r.sp + 2 }
  else { r with sp := r.sp + 2 }.writeWord reg (file reg)

theorem popped_stack (file : WordRegister → UInt16) (r : Registers) (reg : WordRegister) :
    (popped file r reg).ss = r.ss ∧ (popped file r reg).sp = r.sp + 2 := by
  cases reg <;> exact ⟨rfl, rfl⟩

theorem popped_pushaOrder (file : WordRegister → UInt16) (r : Registers) :
    pushaOrder.reverse.foldl (popped file) r =
      { r with
        ax := file .ax, bx := file .bx, cx := file .cx, dx := file .dx
        si := file .si, di := file .di, bp := file .bp, sp := r.sp + 16 } := by
  have all : r.sp + 2 + 2 + 2 + 2 + 2 + 2 + 2 + 2 = r.sp + 16 := by grind
  rw [← all]
  rfl

/-- By induction on the registers, whose words lie upwards from the top of the stack. -/
theorem popAll_eq_ok {regs : List WordRegister} (file : WordRegister → UInt16)
    (words : ∀ k (inside : k < regs.length),
      m.memory.readWord ⟨m.registers.ss, m.registers.sp + 2 * UInt16.ofNat k⟩ =
        .ok (file regs[k])) :
    popAll regs m = .ok () { m with registers := regs.foldl (popped file) m.registers } := by
  induction regs generalizing m with
  | nil => rfl
  | cons reg regs ih =>
    have first : pop m =
        .ok (file reg) { m with registers := { m.registers with sp := m.registers.sp + 2 } } :=
      pop_eq_ok (by simpa [Registers.ssSp] using words 0 (Nat.zero_lt_succ _))
    obtain ⟨ss, sp⟩ := popped_stack file m.registers reg
    have rest := ih (m := { m with registers := popped file m.registers reg }) fun k inside => by
      have place : m.registers.sp + 2 * UInt16.ofNat (k + 1) =
          m.registers.sp + 2 + 2 * UInt16.ofNat k := by
        rw [UInt16.ofNat_add]
        grind
      have stored := words (k + 1) (Nat.succ_lt_succ inside)
      rw [place] at stored
      rw [ss, sp]
      exact stored
    rw [List.foldl_cons, ← rest]
    have loaded (other : reg ≠ .sp) :
        popRegister reg m = .ok () { m with registers := popped file m.registers reg } := by
      rw [popRegister, bind_of_ok first, modifyRegisters_eq_ok, popped, if_neg other]
    cases reg with
    | sp => exact bind_of_ok first
    | _ => exact bind_of_ok (loaded nofun)

/-- A call inside the segment has pushed IP. -/
theorem stacked_of_nearCall {target : Target} (near : target.isFar = false)
    (called : call i target m = .ok () m') :
    ∃ stack ip, Stacked [m.registers.ip] m stack ∧
      m' = { stack with registers := { stack.registers with ip := ip } } := by
  cases target with
  | far p => cases near
  | farThrough o => cases near
  | relative distance =>
    obtain ⟨_, stack, pushed, last⟩ := of_bind_ok called
    cases last
    exact ⟨stack, _, stacked_of_push pushed, rfl⟩
  | near o =>
    obtain ⟨offset, m₁, found, rest⟩ := of_bind_ok called
    obtain rfl := of_read_ok found
    obtain ⟨_, stack, pushed, last⟩ := of_bind_ok rest
    cases last
    exact ⟨stack, _, stacked_of_push pushed, rfl⟩

theorem stacked_of_callFar (called : callFar p m = .ok () m') :
    ∃ stack, Stacked [m.registers.cs, m.registers.ip] m stack ∧
      m' =
        { stack with registers := { stack.registers with cs := p.segment, ip := p.offset } } := by
  obtain ⟨_, m₁, first, rest⟩ := of_bind_ok called
  obtain ⟨_, m₂, second, last⟩ := of_bind_ok rest
  have cs : Stacked [m.registers.cs] m m₁ := stacked_of_push first
  have ip : Stacked [m₁.registers.ip] m₁ m₂ := stacked_of_push second
  have same : m₁.registers.ip = m.registers.ip := by rw [cs.registers]
  rw [same] at ip
  cases last
  exact ⟨m₂, cs.append ip (by simp), rfl⟩

/-- A far call has pushed CS and IP. -/
theorem stacked_of_farCall {target : Target} (far : target.isFar = true)
    (called : call i target m = .ok () m') :
    ∃ stack, ∃ p : FarPtr, Stacked [m.registers.cs, m.registers.ip] m stack ∧
      m' =
        { stack with registers := { stack.registers with cs := p.segment, ip := p.offset } } := by
  cases target with
  | far p =>
    obtain ⟨stack, stacked⟩ := stacked_of_callFar called
    exact ⟨stack, p, stacked⟩
  | farThrough o =>
    obtain ⟨p, m₁, found, rest⟩ := of_bind_ok called
    obtain ⟨a, m₂, address, pointer⟩ := of_bind_ok found
    obtain ⟨rfl, -⟩ := of_addressOf_ok address
    obtain ⟨-, rfl⟩ := of_reading_ok pointer
    obtain ⟨stack, stacked⟩ := stacked_of_callFar rest
    exact ⟨stack, p, stacked⟩
  | relative distance => cases far
  | near o => cases far

namespace AtInstruction

theorem reachable_of_ticked {result : StepResult} (h : AtInstruction board m i)
    (confined : board.Confined) (ticked : tick board m = .ok result m₁) :
    m₁.memory.Reachable := by
  obtain ⟨memory, fetched⟩ := h.fetched
  have edits := confined_execute i confined ⟨m.registers.past i, memory.beginJournal, m.host⟩
  rw [h.tick_eq fetched] at ticked
  rw [after] at edits
  cases ran : execute board i ⟨m.registers.past i, memory.beginJournal, m.host⟩ with
  | error e left =>
    rw [ran] at ticked
    cases ticked
  | ok u left =>
    rw [ran] at ticked edits
    cases ticked
    exact (edits.reachable (h.reachable.fetch fetched).beginJournal).commit

end AtInstruction

/-- The tick from `m₁` goes through and leaves the registers `r`. Of what there was at `m`, only
the first `words` words below the top of the stack are no longer the same. -/
def Undone (board : Board σ) (m m₁ : Machine σ) (words : Nat) (r : Registers) : Prop :=
  ∃ m₂, tick board m₁ = .ok (if r.halt then .halted else .executed) m₂ ∧
    m₂.registers = r ∧ m₂.host = m.host ∧ m.memory.SameAllocations m₂.memory ∧
    ∀ q, ¬ m.registers.ssSp.Below words q → m₂.memory.readByte q = m.memory.readByte q

/-- Two ticks, one after the other. -/
structure InTurn (board : Board σ) (m : Machine σ) (i : Instruction) (m₁ : Machine σ)
    (j : Instruction) : Prop where
  first : AtInstruction board m i
  ticked : ∃ result, tick board m = .ok result m₁
  second : AtInstruction board m₁ j

namespace InTurn

/-- What the first instruction has pushed is there for the second. -/
theorem covered {opened left start stack : Machine σ}
    (alike : Machine.Alike { m with registers := m.registers.past i } opened)
    (seen : left.Alike m₁) (stacked : Stacked values start stack)
    (top : start.registers.ssSp = opened.registers.ssSp) (before : start.memory = opened.memory)
    (later : left.memory = stack.memory) :
    Memory.Covered m.registers.ssSp values m.memory m₁.memory := by
  have covered := stacked.covered
  have same : opened.registers.ssSp = m.registers.ssSp := by rw [alike.registers]; rfl
  rw [top, same, before, ← later] at covered
  exact covered.congr alike.bytes alike.allocations seen.bytes seen.allocations

/-- An instruction that does nothing but push moves SP, and IP like any other. -/
theorem left_by_pushes {opened left : Machine σ}
    (alike : Machine.Alike { m with registers := m.registers.past i } opened)
    (seen : left.Alike m₁) (stacked : Stacked values opened left) :
    Memory.Covered m.registers.ssSp values m.memory m₁.memory ∧
      m₁.registers =
        { m.registers.past i with sp := m.registers.sp - 2 * UInt16.ofNat values.length } ∧
      m₁.host = m.host := by
  refine ⟨covered alike seen stacked rfl rfl rfl, ?_,
    (seen.host.trans stacked.host).trans alike.host⟩
  rw [seen.registers, stacked.registers, alike.registers]
  rfl

/-- The second instruction may look at all of it. -/
theorem undone {r : Registers} (second : AtInstruction board m₁ j) (host : m₁.host = m.host)
    (covered : Memory.Covered m.registers.ssSp values m.memory m₁.memory)
    (pops : ∀ opened, opened.registers = m₁.registers.past j →
      Memory.Covered m.registers.ssSp values m.memory opened.memory →
        execute board j opened = .ok () { opened with registers := r }) :
    Undone board m m₁ values.length r := by
  obtain ⟨opened, alike, -, ticked⟩ := second.exists_opened
  have still : Memory.Covered m.registers.ssSp values m.memory opened.memory :=
    covered.congr (fun _ => rfl) (.refl _) alike.bytes alike.allocations
  rw [pops opened alike.registers still] at ticked
  exact ⟨_, ticked, rfl, alike.host.trans host, still.allocations.trans (.commit _),
    still.bytes⟩

theorem leave_after_enter (h : InTurn board m i m₁ j) {size : UInt16} {level : UInt8}
    (enters : i.operation = .enter size level) (leaves : j.operation = .leave) :
    Undone board m m₁ (level.toNat % 32 + 1) ((m.registers.past i).past j) := by
  obtain ⟨result, ticked⟩ := h.ticked
  obtain ⟨opened, left, alike, ran, seen⟩ := h.first.of_ticked ticked
  rw [execute, enters] at ran
  obtain ⟨values, bp, stack, length, stacked, memory, host, registers⟩ :=
    stacked_of_enter ran (Nat.mod_lt _ (by decide))
  have covered :
      Memory.Covered m.registers.ssSp (opened.registers.bp :: values) m.memory m₁.memory :=
    covered alike seen stacked rfl rfl memory
  have host' : m₁.host = m.host := ((seen.host.trans host).trans stacked.host).trans alike.host
  have registers' : m₁.registers = { m.registers.past i with
      bp := m.registers.sp - 2, sp := stack.registers.sp - size } := by
    rw [seen.registers, registers, stacked.registers, alike.registers]
    rfl
  have done :
      Undone board m m₁ (opened.registers.bp :: values).length ((m.registers.past i).past j) := by
    apply undone h.second host' covered
    intro opened' same there
    let back : Machine σ :=
      { opened' with registers := { opened'.registers with sp := opened'.registers.bp } }
    have place : back.registers.ssSp = ⟨m.registers.ss, m.registers.sp - 2⟩ := by
      simp only [back, same, registers']
      rfl
    have old := pop_of_covered (m := back) there place
    rw [execute, leaves]
    dsimp only
    rw [leave, bind_of_ok (modifyRegisters_eq_ok _ _), popRegister, bind_of_ok old,
      modifyRegisters_eq_ok]
    simp only [back, same, registers', alike.registers]
    rfl
  rwa [List.length_cons, length] at done

theorem popa_after_pusha (h : InTurn board m i m₁ j) (pushes : i.operation = .pusha)
    (pops : j.operation = .popa) : Undone board m m₁ 8 ((m.registers.past i).past j) := by
  obtain ⟨result, ticked⟩ := h.ticked
  obtain ⟨opened, left, alike, ran, seen⟩ := h.first.of_ticked ticked
  have opened_eq : opened.registers = m.registers.past i := alike.registers
  let file := m.registers.readWord
  have named : pushaOrder.map opened.registers.readWord = pushaOrder.map file := by
    rw [opened_eq]
    rfl
  rw [execute, pushes] at ran
  have pushed : pushAll (pushaOrder.map file) opened = .ok () left := by
    rw [← named]
    exact ran
  have stacked := stacked_of_pushAll pushed (by simp [pushaOrder])
  obtain ⟨covered, registers', host⟩ := left_by_pushes alike seen stacked
  apply undone h.second host covered
  intro opened' same there
  have words (k : Nat) (inside : k < pushaOrder.reverse.length) :
      opened'.memory.readWord ⟨opened'.registers.ss,
        opened'.registers.sp + 2 * UInt16.ofNat k⟩ =
        .ok (file pushaOrder.reverse[k]) := by
    have stored := there.upwards k (by simpa using inside)
    simp only [← List.map_reverse, List.getElem_map] at stored
    rw [same, registers']
    exact stored
  rw [execute, pops]
  dsimp only
  have back : pushaOrder.reverse.foldl (popped file) opened'.registers =
      (m.registers.past i).past j := by
    have sp : m.registers.sp - 2 * UInt16.ofNat (pushaOrder.map file).length + 16 =
        m.registers.sp :=
      UInt16.sub_add_cancel m.registers.sp 16
    rw [same, registers', popped_pushaOrder]
    simp only [Registers.past, sp]
    rfl
  rw [popAll_eq_ok file words, back]

theorem popf_after_pushf (h : InTurn board m i m₁ j) (pushes : i.operation = .pushf)
    (pops : j.operation = .popf) : Undone board m m₁ 1 ((m.registers.past i).past j) := by
  obtain ⟨result, ticked⟩ := h.ticked
  obtain ⟨opened, left, alike, ran, seen⟩ := h.first.of_ticked ticked
  rw [execute, pushes] at ran
  have stacked : Stacked [opened.registers.flags.pushed] opened left := stacked_of_push ran
  obtain ⟨covered, registers', host⟩ := left_by_pushes alike seen stacked
  apply undone h.second host covered
  intro opened' same there
  have place : opened'.registers.ssSp = ⟨m.registers.ss, m.registers.sp - 2⟩ := by
    rw [same, registers']
    rfl
  rw [execute, pops]
  dsimp only
  rw [popFlags, bind_of_ok (pop_of_covered there place), modifyRegisters_eq_ok, Flags.ofWord_pushed,
    same, registers', alike.registers]
  rfl

/-- What PUSH has pushed is its operand's value from before, also if that is SP. -/
theorem pushed {a : Operand} (h : InTurn board m i m₁ j) (pushes : i.operation = .push a) :
    ∃ v, read i a m = .ok v m ∧ Memory.Covered m.registers.ssSp [v] m.memory m₁.memory ∧
      m₁.registers = { m.registers.past i with sp := m.registers.sp - 2 } ∧
      m₁.host = m.host := by
  obtain ⟨result, ticked⟩ := h.ticked
  obtain ⟨opened, left, alike, ran, seen⟩ := h.first.of_ticked ticked
  rw [execute, pushes] at ran
  obtain ⟨v, opened', found, pushed⟩ := of_bind_ok ran
  obtain rfl := of_read_ok found
  exact ⟨v, read_before_opened alike found, left_by_pushes alike seen (stacked_of_push pushed)⟩

theorem pop_after_push {a : Operand} {b : Register} {w : UInt16} (h : InTurn board m i m₁ j)
    (pushes : i.operation = .push a) (pops : j.operation = .pop (.register b))
    (there : m.registers.read? b = some w) :
    ∃ v r, read i a m = .ok v m ∧ ((m.registers.past i).past j).write? b v = some r ∧
      Undone board m m₁ 1 r := by
  obtain ⟨v, found, covered, registers', host⟩ := h.pushed pushes
  have there' : ((m.registers.past i).past j).read? b = some w := by
    rw [Registers.read?_past, Registers.read?_past, there]
  obtain ⟨r, written, -, -⟩ := Registers.exists_write? there' v
  refine ⟨v, r, found, written, ?_⟩
  apply undone h.second host covered
  intro opened same there
  have place : opened.registers.ssSp = ⟨m.registers.ss, m.registers.sp - 2⟩ := by
    rw [same, registers']
    rfl
  have back : { opened.registers with sp := m.registers.sp } = (m.registers.past i).past j := by
    rw [same, registers']
    rfl
  have old := pop_of_covered there place
  rw [execute, pops]
  dsimp only
  rw [bind_of_ok old]
  change writeRegister j b v
    { opened with registers := { opened.registers with sp := m.registers.sp } } = _
  rw [back, writeRegister, bind_of_ok (registers_eq_ok _), written]
  rfl

theorem pop_after_push_same {reg : Register} (h : InTurn board m i m₁ j)
    (pushes : i.operation = .push (.register reg)) (pops : j.operation = .pop (.register reg)) :
    Undone board m m₁ 1 ((m.registers.past i).past j) := by
  obtain ⟨v, found, -⟩ := h.pushed pushes
  obtain ⟨-, there⟩ := of_readRegister_ok found
  obtain ⟨v', r, found', written, undone⟩ := h.pop_after_push pushes pops there
  have same : v' = v := by
    rw [found] at found'
    cases found'
    rfl
  have there' : ((m.registers.past i).past j).read? reg = some v := by
    rw [Registers.read?_past, Registers.read?_past, there]
  rw [same, Registers.write?_of_read? there'] at written
  cases written
  exact undone

/-- A word of memory is written in its own place. -/
theorem store_after_push {a : Operand} {o : MemoryOperand} (h : InTurn board m i m₁ j)
    (pushes : i.operation = .push a) (pops : j.operation = .pop (.memory o))
    (word : o.size.width = .word) (address : m.registers.address? o = some p)
    (maps : m.memory.Maps p 2) :
    ∃ v m₂, read i a m = .ok v m ∧ tick board m₁ = .ok .executed m₂ ∧
      m₂.registers = (m.registers.past i).past j ∧
      m₂.host = m.host ∧ m.memory.SameAllocations m₂.memory ∧
      m₂.memory.readWord p = .ok v ∧
      ∀ q : FarPtr, ¬ m.registers.ssSp.Below 1 q →
        ¬ (q.segment = p.segment ∧ p.offset.toNat ≤ q.offset.toNat ∧
          q.offset.toNat < p.offset.toNat + 2) →
          m₂.memory.readByte q = m.memory.readByte q := by
  obtain ⟨v, found, covered, registers', host⟩ := h.pushed pushes
  obtain ⟨opened, alike, -, ticked⟩ := h.second.exists_opened
  have same : opened.registers = m₁.registers.past j := alike.registers
  have there : Memory.Covered m.registers.ssSp [v] m.memory opened.memory :=
    covered.congr (fun _ => rfl) (.refl _) alike.bytes alike.allocations
  have place : opened.registers.ssSp = ⟨m.registers.ss, m.registers.sp - 2⟩ := by
    rw [same, registers']
    rfl
  let back : Machine σ := { opened with registers := (m.registers.past i).past j }
  have popped : pop opened = .ok v back := by
    rw [pop_of_covered there place, same, registers']
    rfl
  obtain ⟨memory, written, only⟩ := Memory.exists_onlyWord (there.allocations.maps maps) v
  have address' : back.registers.address? o = some p := by
    simp only [back]
    rw [Registers.address?_past, Registers.address?_past, address]
  have stored : write j (.memory o) v back = .ok () { back with memory := memory } := by
    rw [write, bind_of_ok (addressOf_eq_ok j address'), word]
    exact changing_eq_ok (f := (·.writeWord p v)) (m := back) written
  have ran : execute board j opened = .ok () { back with memory := memory } := by
    rw [execute, pops]
    dsimp only
    rw [bind_of_ok popped, stored]
  rw [ran] at ticked
  refine ⟨v, { back with memory := memory.commit }, found, ?_, rfl, alike.host.trans host,
    (there.allocations.trans only.allocations).trans (.commit _), only.read, ?_⟩
  · have running : m.registers.halt = false := h.first.running
    exact ticked.trans (by simp [back, running])
  · intro q outside apart
    exact (only.bytes q apart).trans (there.bytes q outside)

theorem ret_after_call {target : Target} {n : UInt16} (h : InTurn board m i m₁ j)
    (calls : i.operation = .call target) (near : target.isFar = false)
    (returns : j.operation = .ret n) :
    Undone board m m₁ 1 { m.registers.past i with sp := m.registers.sp + n } := by
  obtain ⟨result, ticked⟩ := h.ticked
  obtain ⟨opened, left, alike, ran, seen⟩ := h.first.of_ticked ticked
  rw [execute, calls] at ran
  obtain ⟨stack, ip, stacked, rfl⟩ := stacked_of_nearCall near ran
  have covered : Memory.Covered m.registers.ssSp [opened.registers.ip] m.memory m₁.memory :=
    covered alike seen stacked rfl rfl rfl
  have registers' : m₁.registers =
      { m.registers.past i with ip := ip, sp := m.registers.sp - 2 } := by
    rw [seen.registers, stacked.registers, alike.registers]
    rfl
  apply undone h.second ((seen.host.trans stacked.host).trans alike.host) covered
  intro opened' same there
  have place : opened'.registers.ssSp = ⟨m.registers.ss, m.registers.sp - 2⟩ := by
    rw [same, registers']
    rfl
  have popped : popIp opened' = .ok () { opened' with
      registers := { opened'.registers with ip := opened.registers.ip, sp := m.registers.sp } } :=
    bind_of_ok (pop_of_covered there place)
  rw [execute, returns]
  dsimp only
  rw [bind_of_ok popped, drop, modifyRegisters_eq_ok, same, registers', alike.registers]
  rfl

/-- The only address that halts is the sentinel. -/
theorem retf_after_call {target : Target} {n : UInt16} (h : InTurn board m i m₁ j)
    (calls : i.operation = .call target) (far : target.isFar = true)
    (returns : j.operation = .retf n) : Undone board m m₁ 2 { m.registers.past i with
      sp := m.registers.sp + n, halt := decide ((m.registers.past i).csIp = .haltSentinel) } := by
  obtain ⟨result, ticked⟩ := h.ticked
  obtain ⟨opened, left, alike, ran, seen⟩ := h.first.of_ticked ticked
  rw [execute, calls] at ran
  obtain ⟨stack, p, stacked, rfl⟩ := stacked_of_farCall far ran
  have opened_eq : opened.registers = m.registers.past i := alike.registers
  rw [opened_eq] at stacked
  have covered : Memory.Covered m.registers.ssSp [m.registers.cs, (m.registers.past i).ip] m.memory
      m₁.memory :=
    covered alike seen stacked rfl rfl rfl
  have registers' : m₁.registers = { m.registers.past i with
      cs := p.segment, ip := p.offset, sp := m.registers.sp - 4 } := by
    rw [seen.registers, stacked.registers, opened_eq]
    rfl
  apply undone h.second ((seen.host.trans stacked.host).trans alike.host) covered
  intro opened' same there
  have address : ReturnsTo opened' (m.registers.past i).csIp := by
    constructor
    · rw [same, registers']
      exact there.words 1 (by simp)
    · rw [same, registers']
      have two : m.registers.sp - 4 + 2 = m.registers.sp - 2 := by grind
      exact (congrArg (fun offset => opened'.memory.readWord ⟨m.registers.ss, offset⟩)
        two).trans there.first
  have sp : m.registers.sp - 4 + 4 = m.registers.sp := UInt16.sub_add_cancel _ _
  have running : m.registers.halt = false := h.first.running
  rw [execute, returns]
  dsimp only
  rw [farReturn_eq_ok address, returned, same, registers']
  simp [Registers.past, Registers.csIp, running]

end InTurn

/-- A stack instruction that is carried out right after its counterpart goes through and undoes it.
ENTER and LEAVE, PUSHA and POPA, PUSHF and POPF, and PUSH and POP of the same register bring back
all registers, with IP behind both instructions. A value that is popped elsewhere is the one that
its operand had before it was pushed. A return goes on behind the call, with SP raised by its
operand. In every case only the words that have been pushed differ from what there was before, and
the word that a POP stores in memory. -/
theorem stack_instructions_undo (h : InTurn board m i m₁ j) :
    let both := (m.registers.past i).past j
    (∀ size level, i.operation = .enter size level → j.operation = .leave →
      Undone board m m₁ (level.toNat % 32 + 1) both) ∧
    (i.operation = .pusha → j.operation = .popa → Undone board m m₁ 8 both) ∧
    (i.operation = .pushf → j.operation = .popf → Undone board m m₁ 1 both) ∧
    (∀ reg, i.operation = .push (.register reg) → j.operation = .pop (.register reg) →
      Undone board m m₁ 1 both) ∧
    (∀ a b w, i.operation = .push a → j.operation = .pop (.register b) →
      m.registers.read? b = some w →
      ∃ v r, read i a m = .ok v m ∧ both.write? b v = some r ∧ Undone board m m₁ 1 r) ∧
    (∀ a o p, i.operation = .push a → j.operation = .pop (.memory o) →
      o.size.width = .word →
      m.registers.address? o = some p → m.memory.Maps p 2 →
        ∃ v m₂, read i a m = .ok v m ∧ tick board m₁ = .ok .executed m₂ ∧
          m₂.registers = both ∧ m₂.host = m.host ∧
          m.memory.SameAllocations m₂.memory ∧ m₂.memory.readWord p = .ok v ∧
          ∀ q : FarPtr, ¬ m.registers.ssSp.Below 1 q →
            ¬ (q.segment = p.segment ∧ p.offset.toNat ≤ q.offset.toNat ∧
              q.offset.toNat < p.offset.toNat + 2) →
              m₂.memory.readByte q = m.memory.readByte q) ∧
    (∀ target n, i.operation = .call target → target.isFar = false → j.operation = .ret n →
      Undone board m m₁ 1 { m.registers.past i with sp := m.registers.sp + n }) ∧
    (∀ target n, i.operation = .call target → target.isFar = true → j.operation = .retf n →
      Undone board m m₁ 2 { m.registers.past i with
        sp := m.registers.sp + n,
          halt := decide ((m.registers.past i).csIp = .haltSentinel) }) := by
  intro both
  refine ⟨?_, ?_, ?_, ?_, ?_, ?_, ?_, ?_⟩
  · intro size level enters leaves
    exact h.leave_after_enter enters leaves
  · intro pushes pops
    exact h.popa_after_pusha pushes pops
  · intro pushes pops
    exact h.popf_after_pushf pushes pops
  · intro reg pushes pops
    exact h.pop_after_push_same pushes pops
  · intro a b w pushes pops there
    exact h.pop_after_push pushes pops there
  · intro a o p pushes pops word address maps
    exact h.store_after_push pushes pops word address maps
  · intro target n calls near returns
    exact h.ret_after_call calls near returns
  · intro target n calls far returns
    exact h.retf_after_call calls far returns

/-- ENTER 4, 2 and LEAVE, PUSH SP and POP BX, a far call to the next instruction and RETF 6 -/
def pairsCode : List UInt8 := [0xc8, 4, 0, 2, 0xc9, 0x54, 0x5b, 0x9a, 12, 0, 2, 0, 0xca, 6, 0]

/-- The code is in segment 2. -/
def stacking (ip sp bx : UInt16) : Registers :=
  { Registers.reset sp with cs := 2, ip := ip, bp := 0x20, bx := bx }

/-- The stack wraps below the frame of ENTER. SP is odd where it is pushed, and the call returns to
the RETF that has returned, with six bytes less on the stack. -/
theorem wrapped_frame_left :
    ∃ memory m₁ m₂ m₃ m₄ m₅ m₆,
      let start (ip sp : UInt16) : Machine Unit := ⟨stacking ip sp 0, memory, ()⟩
      (tick .bare (start 0 2) = .ok .executed m₁ ∧ m₁.registers.sp = 0xfff8 ∧
        tick .bare m₁ = .ok .executed m₂ ∧ m₂.registers = stacking 5 2 0) ∧
      (tick .bare (start 5 5) = .ok .executed m₃ ∧
        tick .bare m₃ = .ok .executed m₄ ∧ m₄.registers = stacking 7 5 5) ∧
      (tick .bare (start 7 0) = .ok .executed m₅ ∧
        tick .bare m₅ = .ok .executed m₆ ∧ m₆.registers = stacking 12 6 0) := by
  let enter : Instruction := ⟨0, 4, .enter 4 2⟩
  let pushSp : Instruction := ⟨5, 1, .push (.register (.word .sp))⟩
  let call : Instruction := ⟨7, 5, .call (.far ⟨2, 12⟩)⟩
  let leave : Instruction := ⟨4, 1, .leave⟩
  let popBx : Instruction := ⟨6, 1, .pop (.register (.word .bx))⟩
  let retf : Instruction := ⟨12, 3, .retf 6⟩
  obtain ⟨memory, memory₁, memory₃, memory₅, m₁, m₃, m₅, memory₂, memory₄,
      memory₆, added, fetched₁, fetched₃, fetched₅,
      ticked₁, ticked₃, ticked₅, fetched₂, fetched₄, fetched₆, ⟨running₁, low⟩,
      running₃, running₅⟩ :
      ∃ memory memory₁ memory₃ memory₅ m₁ m₃ m₅ memory₂ memory₄ memory₆,
        Memory.fresh.addSegment 2 .code pairsCode = .ok memory ∧
        memory.fetch ⟨2, 0⟩ = .ok (enter, memory₁) ∧
        memory.fetch ⟨2, 5⟩ = .ok (pushSp, memory₃) ∧
        memory.fetch ⟨2, 7⟩ = .ok (call, memory₅) ∧
        tick .bare ⟨stacking 0 2 0, memory, ()⟩ = .ok .executed m₁ ∧
        tick .bare ⟨stacking 5 5 0, memory, ()⟩ = .ok .executed m₃ ∧
        tick .bare ⟨stacking 7 0 0, memory, ()⟩ = .ok .executed m₅ ∧
        m₁.memory.fetch m₁.registers.csIp = .ok (leave, memory₂) ∧
        m₃.memory.fetch m₃.registers.csIp = .ok (popBx, memory₄) ∧
        m₅.memory.fetch m₅.registers.csIp = .ok (retf, memory₆) ∧
        (m₁.registers.halt = false ∧ m₁.registers.sp = 0xfff8) ∧
        m₃.registers.halt = false ∧ m₅.registers.halt = false :=
    ⟨_, _, _, _, _, _, _, _, _, _, rfl, rfl, rfl, rfl, rfl, rfl, rfl, rfl, rfl, rfl,
      ⟨rfl, rfl⟩, rfl, rfl⟩
  have inTurn {r : Registers} {m₁ : Machine Unit} {i j : Instruction} {n n' : Memory}
      (running : r.halt = false)
      (fetched : memory.fetch r.csIp = .ok (i, n))
      (ticked : tick .bare ⟨r, memory, ()⟩ = .ok .executed m₁)
      (running₁ : m₁.registers.halt = false)
      (fetched₁ : m₁.memory.fetch m₁.registers.csIp = .ok (j, n')) :
      InTurn .bare ⟨r, memory, ()⟩ i m₁ j := by
    have first : AtInstruction .bare ⟨r, memory, ()⟩ i :=
      ⟨.addSegment .fresh added, running, rfl, n, fetched⟩
    have reachable := first.reachable_of_ticked Board.confined_bare ticked
    exact ⟨first, ⟨_, ticked⟩, reachable, running₁, rfl, n', fetched₁⟩
  have framed := inTurn (r := stacking 0 2 0) rfl fetched₁ ticked₁ running₁ fetched₂
  have pushed := inTurn (r := stacking 5 5 0) rfl fetched₃ ticked₃ running₃ fetched₄
  have called := inTurn (r := stacking 7 0 0) rfl fetched₅ ticked₅ running₅ fetched₆
  obtain ⟨m₂, ticked₂, left, -⟩ := (stack_instructions_undo framed).1 4 2 rfl rfl
  obtain ⟨v, r, found, written, m₄, ticked₄, moved, -⟩ :=
    (stack_instructions_undo pushed).2.2.2.2.1 (.register (.word .sp)) (.word .bx) 0 rfl rfl rfl
  obtain ⟨m₆, ticked₆, returned, -⟩ :=
    (stack_instructions_undo called).2.2.2.2.2.2.2 (.far ⟨2, 12⟩) 6 rfl rfl rfl
  cases found
  cases written
  exact ⟨memory, m₁, m₂, m₃, m₄, m₅, m₆, ⟨ticked₁, low, ticked₂, left⟩,
    ⟨ticked₃, ticked₄, moved⟩, ticked₅, ticked₆, returned⟩

end Processor

end RealMode
