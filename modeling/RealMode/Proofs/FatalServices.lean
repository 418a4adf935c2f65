import RealMode.Pc
import RealMode.Proofs.Allocations
import RealMode.Proofs.FileServices
import RealMode.Proofs.SearchRecords
import RealMode.Proofs.ServiceRelations
import RealMode.Proofs.Tick

/-!
# What a fatal service leaves allocated

The journal of an instruction puts bytes back and not allocations, so what a service has allocated
before a fault stays. Of the five services that allocate, two can fault afterwards: a search whose
pattern lies in a segment that is not there leaves the transfer area, and a prefix that finds no
room for its variable leaves a segment that nothing knows of. No other service leaves anything.
-/

namespace RealMode

namespace Exec

variable {σ α β : Type} {m m' : Machine σ} {e : Fault}

theorem of_bind_error {x : Exec σ α} {f : α → Exec σ β}
    (faulted : (x >>= f) m = .error e m') :
    x m = .error e m' ∨ ∃ a m₁, x m = .ok a m₁ ∧ f a m₁ = .error e m' := by
  cases ran : x m with
  | ok a m₁ =>
    rw [bind_of_ok ran] at faulted
    exact .inr ⟨a, m₁, rfl, faulted⟩
  | error e₁ m₁ =>
    rw [bind_of_error ran] at faulted
    cases faulted
    exact .inl rfl

theorem of_reading_error {f : Memory → Except Fault α} (faulted : reading f m = .error e m') :
    f m.memory = .error e ∧ m' = m := by
  rw [reading] at faulted
  split at faulted
  · cases faulted
  · next refused =>
    cases faulted
    exact ⟨refused, rfl⟩

theorem of_changing_error {f : Memory → Except Fault Memory}
    (faulted : changing f m = .error e m') :
    f m.memory = .error e ∧ m' = m := by
  rw [changing] at faulted
  split at faulted
  · cases faulted
  · next refused =>
    cases faulted
    exact ⟨refused, rfl⟩

theorem of_allocating_error {f : Memory → Except Fault (α × Memory)}
    (faulted : allocating f m = .error e m') :
    f m.memory = .error e ∧ m' = m := by
  rw [allocating] at faulted
  split at faulted
  · cases faulted
  · next refused =>
    cases faulted
    exact ⟨refused, rfl⟩

end Exec

namespace Memory

variable {m m' : Memory} {p : FarPtr} {length : Nat} {e : Fault}

theorem exists_readBytes (maps : m.Maps p length) :
    ∃ bytes, m.readBytes p length = .ok bytes := by
  obtain ⟨s, found, _⟩ := maps.segmentAt
  exact ⟨_, readBytes_eq found maps.2⟩

theorem exists_readWord (maps : m.Maps p 2) : ∃ value, m.readWord p = .ok value := by
  obtain ⟨s, found, _⟩ := maps.segmentAt
  exact ⟨_, readWord_eq found maps.2⟩

/-- Only a segment that is not there keeps a text from being read. -/
theorem hasSegment_of_readString_error (refused : m.readString p = .error e) :
    m.hasSegment p.segment = false := by
  cases mapped : m.hasSegment p.segment with
  | false => rfl
  | true =>
    have maps : m.Maps p 0 := ⟨mapped, Nat.le_of_lt p.offset.toNat_lt⟩
    obtain ⟨s, _, found⟩ := maps.segmentAt
    rw [readString, readText, found] at refused
    cases refused

theorem SameAllocations.maps (same : m.SameAllocations m') (maps : m.Maps p length) :
    m'.Maps p length :=
  ⟨(same.hasSegment p.segment).trans maps.1, maps.2⟩

end Memory

open Exec

theorem Exec.lenient_same {σ : Type} :
    Lenient fun m m' : Machine σ => m.memory.SameAllocations m'.memory where
  refl m := .refl m.memory
  trans first second := first.trans second
  registers m _ _ _ := .refl m.memory
  written _ _ _ _ written := .of_writeBytes written
  host m _ := .refl m.memory

namespace Dos

theorem SearchRecord.length_of_fill {record filled : List UInt8} {name : FileName} {fileSize : Nat}
    (whole : record.length = size) (fill : SearchRecord.fill record name fileSize = some filled) :
    filled.length = size := by
  rw [fill_eq] at fill
  split at fill
  · cases fill
  · next short =>
    cases fill
    have length := length_prepared whole fileSize
    rw [length_overlay (by omega), length]

variable {m m' : Machine Dos} {e : Fault} {area : FarPtr} {start : Exec Dos Unit}

/-- What a fault may leave allocated, by the function that was asked for and the segment in DS. -/
inductive Residue (function : UInt8) (ds : UInt16) (m m' : Memory) : Prop where
  | nothing (same : m.SameAllocations m')
  | area (asked : function = 0x4e) (unmapped : m.hasSegment ds = false)
      (pointer : m.variableAddress? transferPointerVariable = none)
      (unknown : m.variableAddress? transferVariable = none)
      (more : m.MoreVariable transferVariable SearchRecord.size m')
  | segment (asked : function = 0x62) (unknown : m.variableAddress? prefixVariable = none)
      (full : Segment.size < m.nextVariable + 2) (more : m.MoreSegment .data m')

theorem Residue.congr {function : UInt8} {ds : UInt16} {m m' m₀ m₁ : Memory}
    (residue : Residue function ds m m') (before : m₀.SameAllocations m)
    (later : m'.SameAllocations m₁) : Residue function ds m₀ m₁ := by
  cases residue with
  | nothing same => exact .nothing ((before.trans same).trans later)
  | area asked unmapped pointer unknown more =>
    rw [before.hasSegment] at unmapped
    rw [before.variableAddress?] at pointer unknown
    exact .area asked unmapped pointer unknown (more.congr before later)
  | segment asked unknown full more =>
    rw [before.variableAddress?] at unknown
    rw [before.next] at full
    exact .segment asked unknown full (more.congr before later)

theorem lookup_eq_ok (name : String) (m : Machine Dos) :
    (reading (fun memory => .ok (memory.variableAddress? name)) : Exec Dos (Option FarPtr)) m =
      .ok (m.memory.variableAddress? name) m := rfl

theorem of_transferArea_error (faulted : transferArea m = .error e m') : m' = m := by
  rw [transferArea, bind_of_ok (lookup_eq_ok _ m)] at faulted
  cases known : m.memory.variableAddress? transferPointerVariable with
  | some p =>
    rw [known] at faulted
    exact (of_reading_error faulted).2
  | none =>
    rw [known] at faulted
    exact (of_allocating_error faulted).2

/-- The transfer area is there already, or it is made where it can be written. -/
theorem transferArea_cases (mapped : m.memory.hasSegment variablesSegment = true)
    (ran : transferArea m = .ok area m') :
    m' = m ∨
      m.memory.variableAddress? transferPointerVariable = none ∧
        m.memory.variableAddress? transferVariable = none ∧
        m'.registers = m.registers ∧
        m.memory.MoreVariable transferVariable SearchRecord.size m'.memory ∧
        m'.memory.Maps area SearchRecord.size := by
  rw [transferArea, bind_of_ok (lookup_eq_ok _ m)] at ran
  cases known : m.memory.variableAddress? transferPointerVariable with
  | some p =>
    rw [known] at ran
    dsimp only [readPointer, reading] at ran
    split at ran
    · cases ran
      exact .inl rfl
    · cases ran
  | none =>
    rw [known] at ran
    obtain ⟨memory, allocated, rfl⟩ := of_allocating_ok ran
    rcases Memory.allocateVariable_cases mapped allocated with ⟨_, rfl⟩ |
      ⟨unknown, more, maps⟩
    · exact .inl rfl
    · exact .inr ⟨rfl, unknown, rfl, more, maps⟩

/-- With a transfer area that can be written, only the beginning of the search can fault. -/
theorem of_fillArea_error (maps : m.memory.Maps area SearchRecord.size)
    (starts : Leaves (fun m m' => m.memory.SameAllocations m'.memory) start)
    (faulted : fillArea start area m = .error e m')
    (regular : ∀ n, e ≠ .searchRecordOverflow n) :
    start m = .error e m' := by
  obtain ⟨record, read⟩ := Memory.exists_readBytes maps
  rw [fillArea, bind_of_ok (reading_eq_ok read)] at faulted
  rcases of_bind_error faulted with refused | ⟨_, m₁, started, faulted⟩
  · exact refused
  have same := starts m
  rw [after_of_ok started] at same
  have writes (bytes : List UInt8) (length : bytes.length = SearchRecord.size) :
      ∃ memory, m₁.memory.writeBytes area bytes = .ok memory := by
    have sized : m₁.memory.Maps area bytes.length := length ▸ same.maps maps
    obtain ⟨memory, written, _⟩ := Memory.exists_writeBytes sized
    exact ⟨memory, written⟩
  have whole := Memory.length_of_readBytes read
  rw [bind_of_ok (onFiles_eq_ok _ m₁)] at faulted
  cases found : (m₁.host.files.nextFound).1 with
  | error reason =>
    rw [found] at faulted
    dsimp only at faulted
    obtain ⟨memory, written⟩ := writes record whole
    rw [bind_of_ok (changing_eq_ok written)] at faulted
    cases faulted
  | ok entry =>
    rw [found] at faulted
    dsimp only at faulted
    cases filled : SearchRecord.fill record entry.1 entry.2 with
    | none =>
      rw [filled] at faulted
      cases faulted
      exact absurd rfl (regular _)
    | some newer =>
      rw [filled] at faulted
      dsimp only at faulted
      obtain ⟨memory, written⟩ := writes newer (SearchRecord.length_of_fill whole filled)
      rw [bind_of_ok (changing_eq_ok written)] at faulted
      cases faulted

/-- A search that faults had its transfer area, or could not begin although it has made one. -/
theorem of_find_error (mapped : m.memory.hasSegment variablesSegment = true)
    (starts : Leaves (fun m m' => m.memory.SameAllocations m'.memory) start)
    (faulted : find start m = .error e m') (regular : ∀ n, e ≠ .searchRecordOverflow n) :
    m.memory.SameAllocations m'.memory ∨
      m.memory.variableAddress? transferPointerVariable = none ∧
        m.memory.variableAddress? transferVariable = none ∧
        ∃ m₁, m₁.registers = m.registers ∧
          m.memory.MoreVariable transferVariable SearchRecord.size m₁.memory ∧
          start m₁ = .error e m' := by
  rw [find_eq] at faulted
  rcases of_bind_error faulted with refused | ⟨area, m₁, made, filled⟩
  · rw [of_transferArea_error refused]
    exact .inl (.refl m.memory)
  rcases transferArea_cases mapped made with rfl | ⟨pointer, unknown, registers, more, maps⟩
  · have same := leaves_fillArea lenient_same starts area m₁
    rw [after_of_error filled] at same
    exact .inl same
  · exact .inr ⟨pointer, unknown, m₁, registers, more,
      of_fillArea_error maps starts filled regular⟩

theorem of_startSearch_error (faulted : startSearch m = .error e m') :
    m.memory.hasSegment m.registers.ds = false ∧ m' = m := by
  rcases of_bind_error faulted with refused | ⟨pattern, m₁, named, faulted⟩
  · rw [nameArgument, bind_of_ok (registers_eq_ok m)] at refused
    obtain ⟨unread, rfl⟩ := of_reading_error refused
    exact ⟨Memory.hasSegment_of_readString_error unread, rfl⟩
  · rw [onFiles_eq_ok] at faulted
    cases faulted

theorem same_of_setTransferArea_error {p : FarPtr}
    (mapped : m.memory.hasSegment variablesSegment = true)
    (faulted : setTransferArea p m = .error e m') : m.memory.SameAllocations m'.memory := by
  rcases of_bind_error faulted with refused | ⟨pointer, m₁, made, faulted⟩
  · rw [(of_allocating_error refused).2]
    exact .refl m.memory
  obtain ⟨refused, rfl⟩ := of_changing_error faulted
  obtain ⟨memory, allocated, rfl⟩ := of_allocating_ok made
  rcases Memory.allocateVariable_cases mapped allocated with ⟨_, rfl⟩ | ⟨_, _, maps⟩
  · exact .refl m.memory
  · have sized : memory.Maps pointer p.toBytes.length := maps
    obtain ⟨_, written, _⟩ := Memory.exists_writeBytes sized
    rw [Memory.writePointer, written] at refused
    cases refused

theorem same_of_getTransferArea_error (faulted : getTransferArea m = .error e m') :
    m.memory.SameAllocations m'.memory := by
  rcases of_bind_error faulted with refused | ⟨area, m₁, made, faulted⟩
  · rw [of_transferArea_error refused]
    exact .refl m.memory
  · cases faulted

theorem residue_of_prefixSegment_error (asked : m.registers.ah = 0x62)
    (mapped : m.memory.hasSegment variablesSegment = true)
    (faulted : prefixSegment m = .error e m') :
    Residue m.registers.ah m.registers.ds m.memory m'.memory := by
  rw [prefixSegment, bind_of_ok (lookup_eq_ok _ m)] at faulted
  cases known : m.memory.variableAddress? prefixVariable with
  | some p =>
    rw [known] at faulted
    rw [(of_reading_error faulted).2]
    exact .nothing (.refl m.memory)
  | none =>
    rw [known] at faulted
    rcases of_bind_error faulted with refused | ⟨segment, m₁, added, rest⟩
    · rw [(of_allocating_error refused).2]
      exact .nothing (.refl m.memory)
    obtain ⟨memory, allocated, rfl⟩ := of_allocating_ok added
    have more := Memory.moreSegment_of_allocateSegment allocated
    rcases of_bind_error rest with refused | ⟨p, m₂, named, rest⟩
    · obtain ⟨none, rfl⟩ := of_allocating_error refused
      obtain ⟨_, full⟩ := Memory.of_allocateVariable_error none
      rw [more.next] at full
      exact .segment asked known (by omega) more
    -- With room for the variable nothing more can fault.
    · have unknown : memory.variableAddress? prefixVariable = none := by
        rw [Memory.variableAddress?, more.table]
        exact known
      obtain ⟨memory', allocated', rfl⟩ := of_allocating_ok named
      rcases Memory.allocateVariable_cases (more.hasSegment mapped) allocated' with ⟨found, _⟩ |
        ⟨_, _, maps⟩
      · rw [unknown] at found
        cases found
      · obtain ⟨_, written⟩ := Memory.exists_writeWord maps segment
        rcases of_bind_error rest with refused | ⟨_, _, _, refused⟩
        · rw [writeWord] at refused
          have unwritten := (of_changing_error refused).1
          rw [written] at unwritten
          cases unwritten
        · cases refused

theorem residue_of_getPrefix_error (asked : m.registers.ah = 0x62)
    (mapped : m.memory.hasSegment variablesSegment = true) (faulted : getPrefix m = .error e m') :
    Residue m.registers.ah m.registers.ds m.memory m'.memory := by
  rcases of_bind_error faulted with refused | ⟨segment, m₁, made, refused⟩
  · exact residue_of_prefixSegment_error asked mapped refused
  · cases refused

theorem residue_of_serve_error (now : Moment) (mapped : m.memory.hasSegment variablesSegment = true)
    (faulted : serve now m = .error e m') (regular : ∀ n, e ≠ .searchRecordOverflow n) :
    Residue m.registers.ah m.registers.ds m.memory m'.memory := by
  obtain ⟨x, same, service⟩ := serve_cases lenient_same now m
  rw [same] at faulted
  rcases service with quiet | rfl | rfl | ⟨asked, rfl⟩ | rfl | ⟨asked, rfl⟩
  · have kept := quiet m
    rw [after_of_error faulted] at kept
    exact .nothing kept
  · exact .nothing (same_of_setTransferArea_error mapped faulted)
  · exact .nothing (same_of_getTransferArea_error faulted)
  · rcases of_find_error mapped (leaves_startSearch lenient_same) faulted regular with
      kept | ⟨pointer, unknown, m₁, registers, more, refused⟩
    · exact .nothing kept
    · obtain ⟨unmapped, rfl⟩ := of_startSearch_error refused
      rw [registers, more.hasSegment] at unmapped
      exact .area asked unmapped pointer unknown more
  · rcases of_find_error mapped (lenient_same.pure ()) faulted regular with
      kept | ⟨_, _, _, _, _, refused⟩
    · exact .nothing kept
    · cases refused
  · exact residue_of_getPrefix_error asked mapped faulted

end Dos

namespace Exec

variable {σ : Type} {m m' : Machine σ} {e : Fault} {value : UInt16}

/-- The stack lies where it did, and no segment has gone. -/
structure Steady (m m' : Machine σ) : Prop where
  ss : m'.registers.ss = m.registers.ss
  sp : m'.registers.sp = m.registers.sp
  kept : ∀ ordinal, m.memory.hasSegment ordinal = true → m'.memory.hasSegment ordinal = true

theorem generous_steady : Generous (Steady (σ := σ)) where
  refl m := ⟨rfl, rfl, fun _ mapped => mapped⟩
  trans first second :=
    ⟨second.ss.trans first.ss, second.sp.trans first.sp,
      fun _ mapped => second.kept _ (first.kept _ mapped)⟩
  registers m r ss sp := ⟨ss, sp, fun _ mapped => mapped⟩
  written m p bytes memory written :=
    ⟨rfl, rfl,
      fun _ mapped => ((Memory.SameAllocations.of_writeBytes written).hasSegment _).trans mapped⟩
  host m host := ⟨rfl, rfl, fun _ mapped => mapped⟩
  named m name length p memory allocated := by
    refine ⟨rfl, rfl, fun ordinal mapped => ?_⟩
    rw [Memory.hasSegment, (Memory.of_allocateVariable allocated).1]
    exact mapped
  added m kind ordinal memory allocated :=
    ⟨rfl, rfl,
      fun _ mapped => (Memory.moreSegment_of_allocateSegment allocated).hasSegment mapped⟩

theorem Steady.maps {p : FarPtr} {length : Nat} (steady : Steady m m')
    (maps : m.memory.Maps p length) :
    m'.memory.Maps p length := ⟨steady.kept p.segment maps.1, maps.2⟩

theorem same_of_push_error (faulted : push value m = .error e m') :
    m.memory.SameAllocations m'.memory := by
  cases stored : m.memory.writeWord ⟨m.registers.ss, m.registers.sp - 2⟩ value with
  | ok memory =>
    rw [push_eq_ok stored] at faulted
    cases faulted
  | error e =>
    rw [push_eq_error stored] at faulted
    cases faulted
    exact .refl m.memory

theorem of_push_ok {u : Unit} (pushed : push value m = .ok u m') :
    m'.registers = { m.registers with sp := m.registers.sp - 2 } ∧
      m.memory.SameAllocations m'.memory ∧
      m'.memory.Maps ⟨m.registers.ss, m.registers.sp - 2⟩ 2 := by
  cases stored : m.memory.writeWord ⟨m.registers.ss, m.registers.sp - 2⟩ value with
  | ok memory =>
    rw [push_eq_ok stored] at pushed
    cases pushed
    have same : m.memory.SameAllocations memory := .of_writeBytes stored
    exact ⟨rfl, same, same.maps (Memory.maps_of_writeWord stored)⟩
  | error e =>
    rw [push_eq_error stored] at pushed
    cases pushed

end Exec

namespace Processor

variable {σ : Type} {m m' : Machine σ} {e : Fault} {board : Board σ} {vector : UInt8}
  {handler : Exec σ Unit}

/-- The way back from an interrupt, which cannot fault where the return address can be read. -/
theorem comesBack_eq_ok (offset : m.memory.Maps ⟨m.registers.ss, m.registers.sp⟩ 2)
    (segment : m.memory.Maps ⟨m.registers.ss, m.registers.sp + 2⟩ 2) :
    ∃ m', (popIp >>= fun _ => popCs >>= fun _ => drop 2) m = .ok () m' := by
  obtain ⟨ip, stored⟩ := Memory.exists_readWord offset
  obtain ⟨cs, above⟩ := Memory.exists_readWord segment
  have first : popIp m =
      .ok () { m with registers := { m.registers with ip := ip, sp := m.registers.sp + 2 } } :=
    bind_of_ok (pop_eq_ok stored)
  have second :
      popCs { m with registers := { m.registers with ip := ip, sp := m.registers.sp + 2 } } =
      .ok () { m with registers :=
        { m.registers with cs := cs, ip := ip, sp := m.registers.sp + 2 + 2 } } :=
    bind_of_ok (pop_eq_ok above)
  rw [bind_of_ok first, bind_of_ok second]
  exact ⟨_, rfl⟩

/-- An interrupt faults while the return address is pushed or in its handler,
but not on the way back. -/
theorem of_interrupt_error (served : board.handlers vector = some handler)
    (steady : Leaves Steady handler) (faulted : interrupt board vector m = .error e m') :
    m.memory.SameAllocations m'.memory ∨
      ∃ m₁, m₁.registers = { m.registers with sp := m₁.registers.sp } ∧
        m.memory.SameAllocations m₁.memory ∧ handler m₁ = .error e m' := by
  rw [interrupt, served] at faulted
  rcases of_bind_error faulted with refused | ⟨_, m₁, pushed, rest⟩
  · exact .inl (same_of_push_error refused)
  obtain ⟨registers₁, same₁, _⟩ := of_push_ok pushed
  rcases of_bind_error rest with refused | ⟨_, m₂, pushed, rest⟩
  · exact .inl (same₁.trans (same_of_push_error refused))
  obtain ⟨registers₂, same₂, segment⟩ := of_push_ok pushed
  rcases of_bind_error rest with refused | ⟨_, m₃, pushed, rest⟩
  · exact .inl ((same₁.trans same₂).trans (same_of_push_error refused))
  obtain ⟨registers₃, same₃, offset⟩ := of_push_ok pushed
  have same : m.memory.SameAllocations m₃.memory := (same₁.trans same₂).trans same₃
  rcases of_bind_error rest with refused | ⟨_, m₄, ran, rest⟩
  · exact .inr ⟨m₃, by rw [registers₃, registers₂, registers₁], same, refused⟩
  have steady := steady m₃
  rw [after_of_ok ran] at steady
  obtain ⟨m₅, back⟩ : ∃ m₅,
      (popIp >>= fun _ => popCs >>= fun _ => drop 2) m₄ = .ok () m₅ := by
    refine comesBack_eq_ok ?_ ?_
    · rw [steady.ss, steady.sp, registers₃]
      exact steady.maps offset
    · rw [steady.ss, steady.sp, registers₃, registers₂, UInt16.sub_add_cancel]
      exact steady.maps (same₃.maps segment)
  rw [back] at rest
  cases rest

end Processor

namespace Pc

variable {m m' : Machine Pc} {e : Fault}

theorem leaves_serveDos : Leaves Steady serveDos := by
  intro m
  have steady :=
    Dos.leaves_serve generous_steady m.host.clock.now ⟨m.registers, m.memory, m.host.dos⟩
  rw [after] at steady
  rw [after, serveDos_eq, within]
  cases ran : Dos.serve m.host.clock.now ⟨m.registers, m.memory, m.host.dos⟩ with
  | ok u m₁ =>
    rw [ran] at steady
    exact ⟨steady.ss, steady.sp, steady.kept⟩
  | error e m₁ =>
    rw [ran] at steady
    exact ⟨steady.ss, steady.sp, steady.kept⟩

theorem residue_of_serveDos_error (mapped : m.memory.hasSegment variablesSegment = true)
    (faulted : serveDos m = .error e m') (regular : ∀ n, e ≠ .searchRecordOverflow n) :
    Dos.Residue m.registers.ah m.registers.ds m.memory m'.memory := by
  rw [serveDos_eq, within] at faulted
  split at faulted
  · cases faulted
  · next served =>
    cases faulted
    exact Dos.residue_of_serve_error m.host.clock.now mapped served regular

/-- What a tick leaves allocated if it faults in DOS. A file name that runs over the end of the
search record is no such fault: the machine does not go on from it. -/
theorem fatal_dos_call_residue {board : Board Pc}
    (wired : board.handlers Dos.vector = some serveDos) (reachable : m.memory.Reachable)
    {i : Instruction} {memory : Memory}
    (fetched : m.memory.fetch m.registers.csIp = .ok (i, memory))
    (calls : i.operation = .int Dos.vector) (faulted : Processor.tick board m = .error e m')
    (regular : ∀ n, e ≠ .searchRecordOverflow n) :
    Dos.Residue m.registers.ah m.registers.ds m.memory m'.memory := by
  rcases Processor.of_tick_error faulted with rfl | ⟨j, memory', m₁, refetched, ran, rfl⟩
  · exact .nothing (.refl _)
  rw [fetched] at refetched
  cases refetched
  have opened : m.memory.SameAllocations memory.beginJournal :=
    (Memory.SameAllocations.of_fetch fetched).trans (.beginJournal memory)
  have undone := Memory.SameAllocations.rollback m₁.memory
  rw [Processor.carryOut, Processor.goTo, bind_of_ok (modifyRegisters_eq_ok _ _),
    Processor.execute, calls] at ran
  rcases Processor.of_interrupt_error wired leaves_serveDos ran with same |
    ⟨m₂, registers, same, refused⟩
  · exact .nothing ((opened.trans same).trans undone)
  · have mapped : m₂.memory.hasSegment variablesSegment = true := by
      rw [(opened.trans same).hasSegment]
      exact reachable.hasVariables
    have residue := residue_of_serveDos_error mapped refused regular
    rw [registers] at residue
    exact residue.congr (opened.trans same) undone

/-- A machine that stands before the interrupt, in segment 1. -/
def calling (ax ds : UInt16) (memory : Memory) : Machine Pc :=
  ⟨{ Registers.reset stackTop with cs := 1, ax := ax, ds := ds }, memory,
    { dos := { files := .mount .empty [] "r" } }⟩

/-- A search for a name in a segment that is not there leaves the transfer area. -/
theorem unmapped_pattern_leaves_area :
    ∃ (memory : Memory) (m' : Machine Pc),
      Processor.tick board (calling 0x4e00 2 memory) = .error (.segmentNotFound 2) m' ∧
        memory.MoreVariable Dos.transferVariable Dos.SearchRecord.size m'.memory := by
  obtain ⟨memory, m', i, memory', added, fetched, calls, faulted, known⟩ :
      ∃ memory m' i memory',
      Memory.fresh.addSegment 1 .code [0xcd, 0x21] = .ok memory ∧
      memory.fetch ⟨1, 0⟩ = .ok (i, memory') ∧ i.operation = .int Dos.vector ∧
      Processor.tick board (calling 0x4e00 2 memory) = .error (.segmentNotFound 2) m' ∧
      m'.memory.nextVariable ≠ memory.nextVariable :=
    ⟨_, _, _, _, rfl, rfl, rfl, rfl, by decide⟩
  refine ⟨memory, m', faulted, ?_⟩
  cases fatal_dos_call_residue rfl (.addSegment .fresh added) fetched calls faulted
    (fun _ => by simp) with
  | nothing same => exact absurd same.next known
  | area _ _ _ _ more => exact more
  | segment _ _ _ more => exact absurd more.next known

/-- With one byte left for variables, asking for the prefix leaves a segment. -/
theorem refused_prefix_leaves_segment :
    ¬ ∀ (m m' : Machine Pc) (i : Instruction) (memory : Memory) (e : Fault),
      m.memory.Reachable → m.memory.fetch m.registers.csIp = .ok (i, memory) →
      i.operation = .int Dos.vector →
      Processor.tick board m = .error e m' → (∀ n, e ≠ .searchRecordOverflow n) →
        m.memory.SameAllocations m'.memory := by
  intro nothing
  obtain ⟨code, memory, m', i, memory', added, ⟨p, filled⟩, fetched, calls, faulted,
      before, after⟩ :
      ∃ code memory m' i memory',
        Memory.fresh.addSegment 1 .code [0xcd, 0x21] = .ok code ∧
        (∃ p, code.allocateVariable "FILL" 65535 = .ok (p, memory)) ∧
        memory.fetch ⟨1, 0⟩ = .ok (i, memory') ∧ i.operation = .int Dos.vector ∧
        Processor.tick board (calling 0x6200 2 memory) = .error (.outOfMemory 2 1) m' ∧
        memory.hasSegment 0x2000 = false ∧ m'.memory.hasSegment 0x2000 = true :=
    ⟨_, _, _, _, _, rfl, ⟨_, rfl⟩, rfl, rfl, rfl, rfl, rfl⟩
  have reachable : memory.Reachable := .allocateVariable (.addSegment .fresh added) filled
  have same := nothing (calling 0x6200 2 memory) m' i memory' _ reachable fetched calls faulted
    (fun _ => by simp)
  have kept := same.hasSegment 0x2000
  rw [after] at kept
  exact absurd (kept.trans before) (by simp)

end Pc

end RealMode
