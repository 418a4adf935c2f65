import Mathlib.Data.List.Pairwise
import Mathlib.Logic.Relation
import RealMode.Proofs.FatalServices
import RealMode.Proofs.ServiceFrames
import RealMode.Proofs.Variables

/-!
# The transfer area

Programs set their transfer area, and where none has been set since memory was cleared a variable
serves for it. The address of the one that was set lies in a variable as well, so it is safe from
everything but writes to these four bytes. A session is a machine with what has been set and the
variables that have been made, both since memory was cleared.
-/

namespace RealMode

namespace Memory

variable {m m' : Memory} {p q v : FarPtr} {name other : String} {length : Nat} {vs : List Variable}

/-- A far pointer is two words. -/
theorem readPointer_eq_ok_iff : m.readPointer q = .ok v ↔
    m.Maps q 4 ∧ m.readWord q = .ok v.offset ∧
    m.readWord ⟨q.segment, q.offset + 2⟩ = .ok v.segment := by
  cases found : m.segmentAt q 4 with
  | error e =>
    rw [readPointer, found]
    constructor
    · intro read
      cases read
    · rintro ⟨maps, -, -⟩
      obtain ⟨s, -, there⟩ := maps.segmentAt
      rw [found] at there
      cases there
  | ok s =>
    obtain ⟨here, fits⟩ := segmentAt_eq_ok_iff.1 found
    have above : (q.offset + 2).toNat = q.offset.toNat + 2 := by
      rw [UInt16.toNat_add]
      exact Nat.mod_eq_of_lt (by simp [Segment.size] at *; omega)
    have low : m.readWord q = .ok (s.wordAt q.offset) := readWord_eq here (by omega)
    have high : m.readWord ⟨q.segment, q.offset + 2⟩ = .ok (s.wordAt (q.offset + 2)) :=
      readWord_eq here (by simp only [above]; omega)
    have both : m.readPointer q = .ok ⟨s.wordAt (q.offset + 2), s.wordAt q.offset⟩ := by
      rw [readPointer, found]
      rfl
    rw [both, low, high, Except.ok.injEq, Except.ok.injEq, Except.ok.injEq, FarPtr.mk.injEq]
    constructor
    · rintro ⟨segment, offset⟩
      exact ⟨maps_of_segmentAt found, offset, segment⟩
    · rintro ⟨-, offset, segment⟩
      exact ⟨segment, offset⟩

/-- A far pointer is its four bytes. -/
theorem readPointer_congr
    (kept : ∀ a : FarPtr, a.segment = q.segment → q.offset.toNat ≤ a.offset.toNat →
      a.offset.toNat < q.offset.toNat + 4 → m'.readByte a = m.readByte a)
    (stored : m.readPointer q = .ok v) : m'.readPointer q = .ok v := by
  obtain ⟨maps, low, high⟩ := readPointer_eq_ok_iff.1 stored
  have fits : q.offset.toNat + 4 ≤ 65536 := maps.2
  have place (k : UInt16) (inside : k.toNat < 4) : (q.offset + k).toNat =
      q.offset.toNat + k.toNat := by
    rw [UInt16.toNat_add]
    omega
  have byte (k : UInt16) (inside : k.toNat < 4) :
      m'.readByte ⟨q.segment, q.offset + k⟩ = m.readByte ⟨q.segment, q.offset + k⟩ := by
    apply kept
    · rfl
    · simp only [place k inside]
      omega
    · simp only [place k inside]
      omega
  have first : m'.readByte q = m.readByte q := kept q rfl (Nat.le_refl _) (by omega)
  have fourth := byte 3 (by decide)
  have third : q.offset + 3 = q.offset + 2 + 1 := (UInt16.add_assoc _ 2 1).symm
  have beyond : (q.offset + 2).toNat = q.offset.toNat + 2 := place 2 (by decide)
  rw [third] at fourth
  have low' := readWord_congr (Nat.le_trans (Nat.add_le_add_left (by decide) _) maps.2)
    first (byte 1 (by decide)) low
  have high' :=
    readWord_congr (by simp only [beyond, Segment.size]; omega) (byte 2 (by decide)) fourth high
  exact readPointer_eq_ok_iff.2 ⟨⟨(maps_of_readWord low').1, maps.2⟩, low', high'⟩

theorem readPointer_of_writePointer (written : m.writePointer q v = .ok m') :
    m'.readPointer q = .ok v := by
  obtain ⟨s, found, fits, rfl⟩ := writeBytes_eq_ok_iff.1 written
  have four : q.offset.toNat + 4 ≤ 65536 := fits
  have place (k : UInt16) (inside : k.toNat < 4) : (q.offset + k).toNat =
      q.offset.toNat + k.toNat := by
    rw [UInt16.toNat_add]
    omega
  have byte (k : UInt16) (inside : k.toNat < 4) :
      (s.write q.offset v.toBytes).byteAt (q.offset + k) = v.toBytes.getD k.toNat 0 := by
    rw [Segment.byteAt_write _ _ _ _ fits, place k inside,
      if_pos (by rw [FarPtr.length_toBytes]; omega)]
    congr 1
    omega
  have third : q.offset + 2 + 1 = q.offset + 3 := UInt16.add_assoc _ 2 1
  have start : (s.write q.offset v.toBytes).byteAt q.offset = lowByte v.offset := by
    simpa [FarPtr.toBytes, bytesOfWord] using byte 0 (by decide)
  refine readPointer_eq_ok_iff.2
    ⟨⟨hasSegment_iff.2 ⟨_, WordMap.get?_insert_self _ _ _⟩, fits⟩, ?_, ?_⟩
  · rw [readWord_eq (WordMap.get?_insert_self _ _ _) (by simp only [Segment.size]; omega),
      Segment.wordAt, start, byte 1 (by decide)]
    exact congrArg Except.ok (wordOfBytes_low_high _)
  · have beyond : (q.offset + 2).toNat = q.offset.toNat + 2 := place 2 (by decide)
    rw [readWord_eq (WordMap.get?_insert_self _ _ _) (by simp only [Segment.size, beyond]; omega),
      Segment.wordAt]
    simp only [third]
    rw [byte 2 (by decide), byte 3 (by decide)]
    exact congrArg Except.ok (wordOfBytes_low_high _)

theorem readPointer_of_segments (same : m'.segments = m.segments) (q : FarPtr) :
    m'.readPointer q = m.readPointer q := by
  rw [readPointer, readPointer, segmentAt, segmentAt, same]

theorem variableAddress?_of_allocateVariable
    (allocated : m.allocateVariable name length = .ok (p, m')) (different : other ≠ name) :
    m'.variableAddress? other = m.variableAddress? other := by
  cases known : m.variableAddress? name with
  | some q =>
    rw [allocateVariable_of_known known] at allocated
    cases allocated
    rfl
  | none =>
    rw [allocateVariable_of_unknown known] at allocated
    split at allocated
    · cases allocated
    · cases allocated
      rw [variableAddress?_cons, if_neg different]

/-- A variable that is there keeps its address. -/
theorem variableAddress?_kept (allocated : m.allocateVariable name length = .ok (p, m'))
    (known : m.variableAddress? other = some q) : m'.variableAddress? other = some q := by
  by_cases same : other = name
  · rw [same] at known ⊢
    rw [allocateVariable_of_known known] at allocated
    cases allocated
    exact known
  · rw [variableAddress?_of_allocateVariable allocated same]
    exact known

theorem listed_congr (same : m'.variableAddress? name = m.variableAddress? name)
    (vs : List Variable) (length : Nat) :
    m'.listed vs name length = m.listed vs name length := by
  rw [listed, listed, same]

theorem of_mem_listed {w : Variable} (inside : w ∈ m.listed vs name length) :
    w ∈ vs ∨ w.name = name ∧ w.length = length := by
  rw [listed] at inside
  split at inside
  · exact .inl inside
  · split at inside
    · rcases List.mem_cons.1 inside with rfl | older
      · exact .inr ⟨rfl, rfl⟩
      · exact .inl older
    · exact .inl inside

end Memory

namespace Dos

open Exec

variable {m m' : Machine Dos} {memory memory' : Memory} {chosen : Option FarPtr}
  {vs : List Variable}
  {p q area : FarPtr} {name : String} {length : Nat} {now : Moment}

section Services

variable {start : Exec Dos Unit}

theorem serve_setTransferArea (asked : m.registers.ah = 0x1a) :
    serve now m = setTransferArea m.registers.dsDx m := by
  rw [serve, bind_of_ok (registers_eq_ok m), asked]
  rfl

theorem serve_getTransferArea (asked : m.registers.ah = 0x2f) :
    serve now m = getTransferArea m := by
  rw [serve, bind_of_ok (registers_eq_ok m), asked]
  rfl

/-- A search begins or goes on, and memory has no part in that. -/
def Quiet (start : Exec Dos Unit) : Prop := ∀ m m', start m = .ok () m' → m'.memory = m.memory

theorem quiet_startSearch : Quiet startSearch := by
  intro m m' ran
  obtain ⟨pattern, m₁, named, searched⟩ := of_bind_ok ran
  obtain ⟨-, rfl⟩ := of_nameArgument_ok named
  rw [onFiles_eq_ok] at searched
  cases searched
  rfl

theorem serve_find (now : Moment) (asked : m.registers.ah = 0x4e ∨ m.registers.ah = 0x4f) :
    ∃ start, Quiet start ∧ serve now m = find start m := by
  rcases asked with first | next
  · refine ⟨startSearch, quiet_startSearch, ?_⟩
    rw [serve, bind_of_ok (registers_eq_ok m), first]
    rfl
  · refine ⟨return (), fun m m' ran => by cases ran; rfl, ?_⟩
    rw [serve, bind_of_ok (registers_eq_ok m), next]
    rfl

/-- The machine with `p` in ES:BX. -/
def told (m : Machine Dos) (p : FarPtr) : Machine Dos :=
  { m with registers := { m.registers with es := p.segment, bx := p.offset } }

theorem transferArea_of_set (pointer : m.memory.variableAddress? transferPointerVariable = some q)
    (stored : m.memory.readPointer q = .ok p) : transferArea m = .ok p m := by
  rw [transferArea, bind_of_ok (lookup_eq_ok _ m), pointer]
  exact reading_eq_ok stored

theorem transferArea_of_unset (unset : m.memory.variableAddress? transferPointerVariable = none) :
    transferArea m = allocating (·.allocateVariable transferVariable SearchRecord.size) m := by
  rw [transferArea, bind_of_ok (lookup_eq_ok _ m), unset]

theorem getTransferArea_eq_ok (ran : transferArea m = .ok p m') :
    getTransferArea m = .ok () (told m' p) := by
  rw [getTransferArea, bind_of_ok ran]
  rfl

theorem of_getTransferArea_ok (ran : getTransferArea m = .ok () m') :
    ∃ p m₁, transferArea m = .ok p m₁ ∧ m' = told m₁ p := by
  obtain ⟨p, m₁, made, told⟩ := of_bind_ok ran
  cases told
  exact ⟨p, m₁, made, rfl⟩

theorem of_setTransferArea_ok (ran : setTransferArea p m = .ok () m') :
    ∃ q memory, m.memory.allocateVariable transferPointerVariable 4 = .ok (q, memory) ∧
      memory.writePointer q p = .ok m'.memory := by
  obtain ⟨q, m₁, made, stores⟩ := of_bind_ok ran
  obtain ⟨memory, allocated, rfl⟩ := of_allocating_ok made
  obtain ⟨memory', written, rfl⟩ := of_changing_ok stores
  exact ⟨q, memory, allocated, written⟩

/-- Whatever a search finds, it writes once, and that to its transfer area. -/
theorem of_find_ok (quiet : Quiet start) (ran : find start m = .ok () m') :
    ∃ area m₁ bytes, transferArea m = .ok area m₁ ∧ bytes.length = SearchRecord.size ∧
      m₁.memory.writeBytes area bytes = .ok m'.memory := by
  rw [find_eq] at ran
  obtain ⟨area, m₁, made, fills⟩ := of_bind_ok ran
  refine ⟨area, m₁, ?_⟩
  obtain ⟨record, m₂, held, rest⟩ := of_bind_ok fills
  obtain ⟨read, rfl⟩ := of_reading_ok held
  have whole := Memory.length_of_readBytes read
  obtain ⟨⟨⟩, m₃, started, rest⟩ := of_bind_ok rest
  have same := quiet _ _ started
  rw [bind_of_ok (onFiles_eq_ok _ m₃)] at rest
  have stores {bytes : List UInt8} {answer : Exec Dos Unit} (silent : Quiet answer)
      (ran : (changing (·.writeBytes area bytes) >>= fun _ => answer)
        (withFiles m₃ (m₃.host.files.nextFound).2) =
        .ok () m') : m₂.memory.writeBytes area bytes = .ok m'.memory := by
    obtain ⟨⟨⟩, m₄, wrote, answered⟩ := of_bind_ok ran
    obtain ⟨memory, written, rfl⟩ := of_changing_ok wrote
    rw [silent _ _ answered, ← same]
    exact written
  cases found : (m₃.host.files.nextFound).1 with
  | error e =>
    rw [found] at rest
    exact ⟨record, made, whole, stores (fun _ _ failed => by cases failed; rfl) rest⟩
  | ok entry =>
    rw [found] at rest
    dsimp only at rest
    cases filled : SearchRecord.fill record entry.1 entry.2 with
    | none =>
      rw [filled] at rest
      cases rest
    | some newer =>
      rw [filled] at rest
      exact ⟨newer, made, SearchRecord.length_of_fill whole filled,
        stores (fun _ _ answered => by cases answered; rfl) rest⟩

end Services

/-- None of the bytes belongs to the variable that keeps the address of the transfer area. -/
def SparesPointer (memory : Memory) (p : FarPtr) (length : Nat) : Prop :=
  ∀ q, memory.variableAddress? transferPointerVariable = some q → p.segment = q.segment →
    p.offset.toNat + length ≤ q.offset.toNat ∨ q.offset.toNat + 4 ≤ p.offset.toNat

/-- The transfer area of a program that has set none, and where it lies among the variables. -/
structure IsDefault (memory : Memory) (vs : List Variable) (p : FarPtr) : Prop where
  known : memory.variableAddress? transferVariable = some p
  segment : p.segment = variablesSegment
  fits : p.offset.toNat + SearchRecord.size ≤ Segment.size
  listed : ⟨transferVariable, p, SearchRecord.size⟩ ∈ vs
  apart : ∀ name q, name ≠ transferVariable → memory.variableAddress? name = some q →
    ∃ v ∈ vs, v.name = name ∧ v.address = q ∧
      v.Apart ⟨transferVariable, p, SearchRecord.size⟩

/-- What a memory keeps where `chosen` was set last. -/
structure Remembers (memory : Memory) (chosen : Option FarPtr) (vs : List Variable) : Prop where
  laid : memory.LaidOut vs
  mapped : memory.hasSegment variablesSegment = true
  sized : ∀ v ∈ vs, v.name = transferVariable → v.length = SearchRecord.size
  unset : chosen = none → memory.variableAddress? transferPointerVariable = none
  set : ∀ p, chosen = some p →
    ∃ q, memory.variableAddress? transferPointerVariable = some q ∧ memory.readPointer q = .ok p

namespace Remembers

theorem clear (memory : Memory) : Remembers memory.clear none [] where
  laid := .nil (fun _ => rfl) rfl
  mapped := rfl
  sized _ none := absurd none List.not_mem_nil
  unset _ := rfl
  set _ set := by cases set

theorem isDefault (remembers : Remembers memory chosen vs)
    (known : memory.variableAddress? transferVariable = some p) : IsDefault memory vs p := by
  obtain ⟨⟨name, address, length⟩, listed, rfl, rfl⟩ := remembers.laid.complete _ _ known
  obtain rfl : length = SearchRecord.size := remembers.sized _ listed rfl
  obtain ⟨segment, before⟩ := remembers.laid.placed _ listed
  refine ⟨known, segment, Nat.le_trans before remembers.laid.room, listed,
    fun other q different there => ?_⟩
  obtain ⟨v, inside, rfl, placed⟩ := remembers.laid.complete other q there
  have apart := remembers.laid.apart.imp And.right
  exact ⟨v, inside, rfl, placed,
    apart.forall inside listed fun same => different (congrArg Variable.name same)⟩

/-- Only the bytes of the pointer matter. -/
theorem congr (remembers : Remembers memory chosen vs) (same : memory.SameAllocations memory')
    (kept : ∀ q a : FarPtr, memory.variableAddress? transferPointerVariable = some q →
      a.segment = q.segment →
      q.offset.toNat ≤ a.offset.toNat → a.offset.toNat < q.offset.toNat + 4 →
        memory'.readByte a = memory.readByte a) : Remembers memory' chosen vs where
  laid := remembers.laid.congr same.table same.next
  mapped := (same.hasSegment _).trans remembers.mapped
  sized := remembers.sized
  unset none := (same.variableAddress? _).trans (remembers.unset none)
  set p set := by
    obtain ⟨q, pointer, stored⟩ := remembers.set p set
    exact ⟨q, (same.variableAddress? _).trans pointer,
      Memory.readPointer_congr (fun a => kept q a pointer) stored⟩

theorem writeBytes {bytes : List UInt8} (remembers : Remembers memory chosen vs)
    (written : memory.writeBytes p bytes = .ok memory')
    (spares : SparesPointer memory p bytes.length) : Remembers memory' chosen vs := by
  refine remembers.congr (.of_writeBytes written) fun q a pointer segment low high => ?_
  refine (Memory.bytesStored_of_writeBytes written).outside a fun ⟨here, first, last⟩ => ?_
  have clear := spares q pointer (here.symm.trans segment)
  omega

theorem allocateVariable (remembers : Remembers memory chosen vs)
    (other : name ≠ transferPointerVariable)
    (size : name = transferVariable → length = SearchRecord.size)
    (allocated : memory.allocateVariable name length = .ok (p, memory')) :
    Remembers memory' chosen (memory'.listed vs name length) := by
  obtain ⟨segments, -⟩ := Memory.of_allocateVariable allocated
  have pointer := Memory.variableAddress?_of_allocateVariable allocated other.symm
  refine ⟨(remembers.laid.allocateVariable allocated).2, ?_, fun v listed named => ?_,
    fun none => ?_, fun p set => ?_⟩
  · rw [Memory.hasSegment, segments]
    exact remembers.mapped
  · rcases Memory.of_mem_listed listed with older | ⟨same, long⟩
    · exact remembers.sized v older named
    · exact long.trans (size (same.symm.trans named))
  · rw [pointer]
    exact remembers.unset none
  · obtain ⟨q, there, stored⟩ := remembers.set p set
    exact ⟨q, pointer.trans there, (Memory.readPointer_of_segments segments q).trans stored⟩

theorem setTransferArea (remembers : Remembers memory chosen vs) {memory₁ : Memory}
    (allocated : memory.allocateVariable transferPointerVariable 4 = .ok (q, memory₁))
    (written : memory₁.writePointer q p = .ok memory') :
    Remembers memory' (some p) (memory'.listed vs transferPointerVariable 4) := by
  have same := Memory.SameAllocations.of_writeBytes written
  obtain ⟨known, laid⟩ := remembers.laid.allocateVariable allocated
  rw [Memory.listed_congr (same.variableAddress? _)]
  refine ⟨laid.congr same.table same.next, ?_, fun v listed named => ?_, nofun, fun r set => ?_⟩
  · rw [same.hasSegment, Memory.hasSegment, (Memory.of_allocateVariable allocated).1]
    exact remembers.mapped
  · rcases Memory.of_mem_listed listed with older | ⟨pointer, -⟩
    · exact remembers.sized v older named
    · exact absurd (named.symm.trans pointer) (by decide)
  · cases set
    exact ⟨q, (same.variableAddress? _).trans known, Memory.readPointer_of_writePointer written⟩

/-- The transfer area is the one that was set, or else the variable for it. -/
theorem of_transferArea (remembers : Remembers m.memory chosen vs)
    (ran : transferArea m = .ok area m') :
    m'.registers = m.registers ∧
    Remembers m'.memory chosen (m'.memory.listed vs transferVariable SearchRecord.size) ∧
      (chosen = some area ∧ m' = m ∨
        chosen = none ∧
        m.memory.allocateVariable transferVariable SearchRecord.size = .ok (area, m'.memory)) := by
  cases chosen with
  | some p =>
    obtain ⟨q, pointer, stored⟩ := remembers.set p rfl
    rw [transferArea_of_set pointer stored] at ran
    cases ran
    rw [remembers.laid.listed_of_unchanged]
    exact ⟨rfl, remembers, .inl ⟨rfl, rfl⟩⟩
  | none =>
    rw [transferArea_of_unset (remembers.unset rfl)] at ran
    obtain ⟨memory, allocated, rfl⟩ := of_allocating_ok ran
    exact ⟨rfl, remembers.allocateVariable (by decide) (fun _ => rfl) allocated,
      .inr ⟨rfl, allocated⟩⟩

end Remembers

/-- A machine, with the transfer area that was set last and the variables that
were made, newest first. -/
structure Session where
  machine : Machine Dos
  chosen : Option FarPtr
  made : List Variable

namespace Session

/-- A machine whose memory has just been cleared. -/
def cleared (m : Machine Dos) : Session := ⟨{ m with memory := m.memory.clear }, none, []⟩

/-- The session goes on with another machine, after `length` bytes have been
asked for under `name`. -/
def naming (s : Session) (m : Machine Dos) (name : String) (length : Nat) : Session :=
  ⟨m, s.chosen, m.memory.listed s.made name length⟩

/-- What happens while memory is not cleared. Registers, host and decoded instructions
may change at any time. -/
inductive Step : Session → Session → Prop
  | aside {s : Session} {m : Machine Dos} : s.machine.memory.SameAllocations m.memory →
      (∀ q, m.memory.readByte q = s.machine.memory.readByte q) → Step s { s with machine := m }
  | write {s : Session} {p : FarPtr} {bytes : List UInt8} {memory : Memory} :
      s.machine.memory.writeBytes p bytes = .ok memory →
        SparesPointer s.machine.memory p bytes.length →
        Step s { s with machine := { s.machine with memory := memory } }
  | reserve {s : Session} {name : String} {length : Nat} {p : FarPtr} {memory : Memory} :
      name ≠ transferVariable → name ≠ transferPointerVariable →
        s.machine.memory.allocateVariable name length = .ok (p, memory) →
          Step s (s.naming { s.machine with memory := memory } name length)
  | set {s : Session} {m : Machine Dos} (now : Moment) : s.machine.registers.ah = 0x1a →
      serve now s.machine = .ok () m →
        Step s { s.naming m transferPointerVariable 4 with chosen := some s.machine.registers.dsDx }
  | get {s : Session} {m : Machine Dos} (now : Moment) : s.machine.registers.ah = 0x2f →
      serve now s.machine = .ok () m → Step s (s.naming m transferVariable SearchRecord.size)
  | find {s : Session} {m : Machine Dos} (now : Moment) :
      s.machine.registers.ah = 0x4e ∨ s.machine.registers.ah = 0x4f →
        serve now s.machine = .ok () m →
        (∀ p, s.chosen = some p → SparesPointer s.machine.memory p SearchRecord.size) →
          Step s (s.naming m transferVariable SearchRecord.size)

/-- Anything that happens. -/
inductive Event : Session → Session → Prop
  | step {s t : Session} : Step s t → Event s t
  | clear (s : Session) : Event s (cleared s.machine)

variable {s t : Session}

/-- The invariant of a session. -/
abbrev Intact (s : Session) : Prop := Remembers s.machine.memory s.chosen s.made

theorem Intact.step (intact : s.Intact) (step : Step s t) : t.Intact := by
  cases step with
  | aside same bytes => exact intact.congr same fun _ a _ _ _ _ => bytes a
  | write written spares => exact intact.writeBytes written spares
  | reserve other pointer allocated =>
    exact intact.allocateVariable pointer (fun same => absurd same other) allocated
  | set now asked ran =>
    rw [serve_setTransferArea asked] at ran
    obtain ⟨q, memory, allocated, written⟩ := of_setTransferArea_ok ran
    exact intact.setTransferArea allocated written
  | get now asked ran =>
    rw [serve_getTransferArea asked] at ran
    obtain ⟨p, m, made, rfl⟩ := of_getTransferArea_ok ran
    exact (intact.of_transferArea made).2.1
  | find now asked ran spares =>
    obtain ⟨start, quiet, same⟩ := serve_find now asked
    rw [same] at ran
    obtain ⟨area, m, bytes, made, length, written⟩ := of_find_ok quiet ran
    obtain ⟨-, remembers, set⟩ := intact.of_transferArea made
    have clear : SparesPointer m.memory area bytes.length := by
      rw [length]
      rcases set with ⟨chosen, rfl⟩ | ⟨none, -⟩
      · exact spares area chosen
      · intro q pointer
        rw [remembers.unset none] at pointer
        cases pointer
    rw [Intact, naming,
      Memory.listed_congr ((Memory.SameAllocations.of_writeBytes written).variableAddress? _)]
    exact remembers.writeBytes written clear

/-- By induction on the history, from what one event keeps. -/
theorem intact_of_events {m : Machine Dos} (history : Relation.ReflTransGen Event (cleared m) s) :
    s.Intact := by
  induction history with
  | refl => exact .clear m.memory
  | tail _ event ih =>
    cases event with
    | step step => exact ih.step step
    | clear => exact .clear _

/-- The variable for the transfer area stays where it is. -/
theorem Step.known (step : Step s t) (intact : s.Intact) {p : FarPtr}
    (known : s.machine.memory.variableAddress? transferVariable = some p) :
    t.machine.memory.variableAddress? transferVariable = some p := by
  have served {m : Machine Dos} {area : FarPtr} (made : transferArea s.machine = .ok area m) :
      m.memory.variableAddress? transferVariable = some p := by
    rcases (intact.of_transferArea made).2.2 with ⟨-, rfl⟩ | ⟨-, allocated⟩
    · exact known
    · exact Memory.variableAddress?_kept allocated known
  cases step with
  | aside same bytes => exact (same.variableAddress? _).trans known
  | write written spares =>
    exact ((Memory.SameAllocations.of_writeBytes written).variableAddress? _).trans known
  | reserve other pointer allocated => exact Memory.variableAddress?_kept allocated known
  | set now asked ran =>
    rw [serve_setTransferArea asked] at ran
    obtain ⟨q, memory, allocated, written⟩ := of_setTransferArea_ok ran
    exact ((Memory.SameAllocations.of_writeBytes written).variableAddress? _).trans
      (Memory.variableAddress?_kept allocated known)
  | get now asked ran =>
    rw [serve_getTransferArea asked] at ran
    obtain ⟨p, m, made, rfl⟩ := of_getTransferArea_ok ran
    exact served (m := m) made
  | find now asked ran spares =>
    obtain ⟨start, quiet, same⟩ := serve_find now asked
    rw [same] at ran
    obtain ⟨area, m, bytes, made, -, written⟩ := of_find_ok quiet ran
    exact ((Memory.SameAllocations.of_writeBytes written).variableAddress? _).trans (served made)

theorem known_of_steps (steps : Relation.ReflTransGen Step s t) (intact : s.Intact) {p : FarPtr}
    (known : s.machine.memory.variableAddress? transferVariable = some p) :
    t.Intact ∧ t.machine.memory.variableAddress? transferVariable = some p := by
  induction steps with
  | refl => exact ⟨intact, known⟩
  | tail _ step ih => exact ⟨ih.1.step step, step.known ih.1 ih.2⟩

end Session

open Session in
/-- Whatever has happened since memory was cleared, the transfer area is the one that was set last.
If none was set, it is a variable that does not move until memory is cleared and shares no byte with
any other. A search writes to the transfer area and nowhere else. -/
theorem transfer_area_last_set {s : Session} (history : Relation.ReflTransGen Event (cleared m) s)
    (now : Moment) :
    (∀ p, s.chosen = some p → s.machine.registers.ah = 0x2f →
      serve now s.machine = .ok () (told s.machine p)) ∧
    (∀ m', s.chosen = none → s.machine.registers.ah = 0x2f →
      serve now s.machine = .ok () m' →
      ∃ p, m'.registers = (told s.machine p).registers ∧
        ∀ t, Relation.ReflTransGen Step (s.naming m' transferVariable SearchRecord.size) t →
          t.chosen = none →
          IsDefault t.machine.memory t.made p ∧
            (t.machine.registers.ah = 0x2f →
              ∀ later, serve later t.machine = .ok () (told t.machine p))) ∧
    (∀ m', s.machine.registers.ah = 0x4e ∨ s.machine.registers.ah = 0x4f →
      serve now s.machine = .ok () m' →
      ∃ area, (s.chosen = some area ∨ s.chosen = none ∧
          IsDefault m'.memory (m'.memory.listed s.made transferVariable SearchRecord.size) area) ∧
        ∀ q : FarPtr, ¬ (q.segment = area.segment ∧ area.offset.toNat ≤ q.offset.toNat ∧
            q.offset.toNat < area.offset.toNat + SearchRecord.size) →
          m'.memory.readByte q = s.machine.memory.readByte q) := by
  have intact : s.Intact := intact_of_events history
  refine ⟨fun p set asked => ?_, fun m' none asked ran => ?_, fun m' asked ran => ?_⟩
  · obtain ⟨q, pointer, stored⟩ := intact.set p set
    rw [serve_getTransferArea asked]
    exact getTransferArea_eq_ok (transferArea_of_set pointer stored)
  · have next : (s.naming m' transferVariable SearchRecord.size).Intact :=
      intact.step (.get now asked ran)
    rw [serve_getTransferArea asked] at ran
    obtain ⟨p, m₁, made, rfl⟩ := of_getTransferArea_ok ran
    obtain ⟨registers, -, set⟩ := intact.of_transferArea made
    rcases set with ⟨chosen, -⟩ | ⟨-, allocated⟩
    · rw [none] at chosen
      cases chosen
    have known := (intact.laid.allocateVariable allocated).1
    refine ⟨p, by rw [told, told, registers], fun t steps unset => ?_⟩
    obtain ⟨later, there⟩ := known_of_steps steps next known
    refine ⟨later.isDefault there, fun again time => ?_⟩
    have same : transferArea t.machine = .ok p t.machine := by
      rw [transferArea_of_unset (later.unset unset), allocating,
        Memory.allocateVariable_of_known there]
    rw [serve_getTransferArea again]
    exact getTransferArea_eq_ok same
  · obtain ⟨start, quiet, same⟩ := serve_find now asked
    rw [same] at ran
    obtain ⟨area, m₁, bytes, made, length, written⟩ := of_find_ok quiet ran
    obtain ⟨-, remembers, set⟩ := intact.of_transferArea made
    have allocations := Memory.SameAllocations.of_writeBytes written
    have outside (q : FarPtr)
        (apart : ¬ (q.segment = area.segment ∧ area.offset.toNat ≤ q.offset.toNat ∧
        q.offset.toNat < area.offset.toNat + SearchRecord.size)) : m'.memory.readByte q =
          m₁.memory.readByte q := by
      rw [← length] at apart
      exact (Memory.bytesStored_of_writeBytes written).outside q apart
    rcases set with ⟨chosen, rfl⟩ | ⟨none, allocated⟩
    · exact ⟨area, .inl chosen, outside⟩
    · have known := (intact.laid.allocateVariable allocated).1
      refine ⟨area, .inr ⟨none, ?_⟩, fun q apart => (outside q apart).trans ?_⟩
      · rw [Memory.listed_congr (allocations.variableAddress? _)]
        exact (remembers.congr allocations fun q _ pointer _ _ _ => by
          rw [remembers.unset none] at pointer
          cases pointer).isDefault ((allocations.variableAddress? _).trans known)
      · rw [Memory.readByte, Memory.readByte, Memory.segmentAt, Memory.segmentAt,
          (Memory.of_allocateVariable allocated).1]

/-- The transfer area is to be at 1234:5678. -/
def beforeSet : Machine Dos := onEmptyDisk { ax := 0x1a00, ds := 0x1234, dx := 0x5678 }

open Session in
/-- After it has been set the transfer area is told where it was set, and after memory has been
cleared it is a variable. -/
theorem area_forgotten_when_cleared :
    ∃ s : Session, Relation.ReflTransGen Event (cleared beforeSet) s ∧
      s.chosen = some ⟨0x1234, 0x5678⟩ ∧
      serve {} s.machine = .ok () (told s.machine ⟨0x1234, 0x5678⟩) ∧
      ∃ m' p, serve {} (cleared s.machine).machine = .ok () m' ∧
        m'.registers = { s.machine.registers with es := variablesSegment, bx := p } ∧
        IsDefault m'.memory [⟨transferVariable, ⟨variablesSegment, p⟩, SearchRecord.size⟩]
          ⟨variablesSegment, p⟩ := by
  obtain ⟨m, set⟩ : ∃ m, serve {} (cleared beforeSet).machine = .ok () m := ⟨_, rfl⟩
  let s : Session :=
    ⟨{ m with registers := { ax := 0x2f00 } }, some ⟨0x1234, 0x5678⟩,
      m.memory.listed [] transferPointerVariable 4⟩
  have history : Relation.ReflTransGen Event (cleared beforeSet) s :=
    .tail (.tail .refl (.step (.set {} rfl set))) (.step (.aside (.refl _) fun _ => rfl))
  have forgotten := history.tail (.clear s)
  have asks : s.machine.registers.ah = 0x2f := show highByte 0x2f00 = 0x2f from rfl
  obtain ⟨m', got⟩ : ∃ m', serve {} (cleared s.machine).machine = .ok () m' :=
    ⟨_, (serve_getTransferArea (m := (cleared s.machine).machine) asks).trans rfl⟩
  obtain ⟨p, registers, stays⟩ := (transfer_area_last_set forgotten {}).2.1 m' rfl asks got
  obtain ⟨default, -⟩ := stays _ .refl rfl
  refine ⟨s, history, rfl, (transfer_area_last_set history {}).1 _ rfl asks, m', p.offset,
    got, ?_, ?_⟩
  · rw [registers, told, default.segment]
    rfl
  · obtain ⟨segment, offset⟩ := p
    obtain rfl : segment = variablesSegment := default.segment
    have known : m'.memory.variableAddress? transferVariable =
        some ⟨variablesSegment, offset⟩ := default.known
    have listed : m'.memory.listed [] transferVariable SearchRecord.size =
        [⟨transferVariable, ⟨variablesSegment, offset⟩, SearchRecord.size⟩] := by
      rw [Memory.listed, List.map_nil, if_neg List.not_mem_nil, known]
    rw [← listed]
    exact default

end Dos

end RealMode
