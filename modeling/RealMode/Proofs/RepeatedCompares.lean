import RealMode.Proofs.AlikeMachines
import RealMode.Proofs.ConditionalJumps

/-!
# Repeated comparisons stop at the first hit

A repeated CMPS or SCAS looks at one pair of values after the other. It stops behind the first pair
that ends the repetition, with the flags of that pair, and it does not look at what comes behind. If
no pair ends it, the flags are those of the last one. Zero tells the two apart. Nothing is written.
-/

namespace RealMode

/-- The repetition ends at a pair of values that are related like this. -/
def Repeat.EndsAt (a b : UInt16) : Repeat → Prop
  | whileEqual => a ≠ b
  | whileNotEqual => a = b

/-- The registers behind `j` pairs, the last of which has left the flags `f`.
SCAS has no use for SI. -/
def Registers.compared (r : Registers) (op : StringOp) (w : Width) (j : Nat)
    (f : Flags) : Registers :=
  { r with
    cx := UInt16.ofNat (r.cx.toNat - j)
    si := if op = .cmps then r.si + UInt16.ofNat j * r.stride w else r.si
    di := r.di + UInt16.ofNat j * r.stride w
    flags := f }

namespace Alu

/-- A comparison leaves no trace of the one before it. -/
theorem flags_sub_sub (f : Flags) (w : Width) (a b a' b' : UInt16) :
    (sub (sub f w a b false).flags w a' b' false).flags = (sub f w a' b' false).flags := rfl

/-- Zero tells whether two values of the width are the same. -/
theorem zero_sub_iff (f : Flags) {w : Width} {a b : UInt16} (narrowA : a.toNat < w.modulus)
    (narrowB : b.toNat < w.modulus) : (sub f w a b false).flags.zero = true ↔ a = b := by
  rw [(compared_sub f w a b).zero, w.trunc_of_lt narrowA, w.trunc_of_lt narrowB, UInt16.toNat_inj]

end Alu

namespace Processor

open Exec

variable {σ : Type} {board : Board σ} {m n opened : Machine σ} {i : Instruction}
  {op : StringOp} {w : Width}
  {segment a b : UInt16} {source : SegmentRegister} {again : Repeat} {j k : Nat} {f : Flags}

/-- The values that a comparison has for element `j`, if it can read them. -/
inductive Pairs (m : Machine σ) (w : Width) (segment : UInt16) (j : Nat) : StringOp → UInt16 →
    UInt16 → Prop
  | cmps {a b : UInt16} :
      readCell (FarPtr.element ⟨segment, m.registers.si⟩ (m.registers.stride w) j) w m =
        .ok a m →
      readCell (FarPtr.element ⟨m.registers.es, m.registers.di⟩ (m.registers.stride w) j) w m =
        .ok b m →
      Pairs m w segment j .cmps a b
  | scas {b : UInt16} :
      readCell (FarPtr.element ⟨m.registers.es, m.registers.di⟩ (m.registers.stride w) j) w m =
        .ok b m →
      Pairs m w segment j .scas (m.registers.accumulator w) b

theorem readCell_lt {p : FarPtr} (there : readCell p w m = .ok a n) : a.toNat < w.modulus := by
  cases w with
  | byte =>
    obtain ⟨v, m₁, -, last⟩ := of_bind_ok there
    cases last
    exact v.toNat_lt
  | word => exact a.toNat_lt

theorem accumulator_lt (r : Registers) (w : Width) : (r.accumulator w).toNat < w.modulus := by
  cases w with
  | byte => exact r.al.toNat_lt
  | word => exact r.ax.toNat_lt

namespace Pairs

theorem compares (pair : Pairs m w segment j op a b) : op.compares = true := by cases pair <;> rfl

theorem narrow (pair : Pairs m w segment j op a b) :
    a.toNat < w.modulus ∧ b.toNat < w.modulus := by
  cases pair with
  | cmps left right => exact ⟨readCell_lt left, readCell_lt right⟩
  | scas right => exact ⟨accumulator_lt _ w, readCell_lt right⟩

theorem goesOn_iff (pair : Pairs m w segment j op a b) (again : Repeat) (f : Flags) :
    again.goesOn op (Alu.sub f w a b false).flags = true ↔ ¬ again.EndsAt a b := by
  obtain ⟨narrowA, narrowB⟩ := pair.narrow
  have zero := Alu.zero_sub_iff f narrowA narrowB
  cases again with
  | whileEqual =>
    rw [Repeat.goesOn, pair.compares, Repeat.EndsAt, not_not, ← zero, Bool.not_true,
      Bool.false_or]
  | whileNotEqual =>
    rw [Repeat.goesOn, pair.compares, Repeat.EndsAt, ← zero, Bool.not_true, Bool.false_or,
      Bool.not_eq_true', Bool.not_eq_true]

/-- The pairs are the same for a machine that has the same bytes, wherever its
instruction pointer is. -/
theorem of_alike (alike : Machine.Alike { m with registers := m.registers.past i } opened)
    (pair : Pairs m w segment j op a b) : Pairs opened w segment j op a b := by
  have registers : opened.registers = m.registers.past i := alike.registers
  have cell {p : FarPtr} {v : UInt16} (there : readCell p w m = .ok v m) : readCell p w opened =
      .ok v opened :=
    readCell_of_bytes (m := m) (fun q => alike.bytes q) there
  cases pair with
  | cmps left right =>
    exact .cmps (by rw [registers]; exact cell left) (by rw [registers]; exact cell right)
  | scas right =>
    have same : opened.registers.accumulator w = m.registers.accumulator w := by
      rw [registers]
      cases w <;> rfl
    rw [← same]
    exact .scas (by rw [registers]; exact cell right)

end Pairs

/-- The machine behind `j` pairs. -/
def behindPairs (m : Machine σ) (op : StringOp) (w : Width) (j : Nat) (f : Flags) : Machine σ :=
  { m with registers := m.registers.compared op w j f }

theorem behindPairs_zero (m : Machine σ) (op : StringOp) (w : Width) :
    behindPairs m op w 0 m.registers.flags = m := by
  simp [behindPairs, Registers.compared]

/-- One pair is compared. The flags from before do not matter, as long as
Direction is among them. -/
theorem stringElement_behindPairs (pair : Pairs m w segment j op a b)
    (direction : f.direction = m.registers.flags.direction) :
    stringElement op w segment (behindPairs m op w j f) =
      .ok () { m with
        registers := { m.registers.compared op w (j + 1) (Alu.sub f w a b false).flags with
          cx := UInt16.ofNat (m.registers.cx.toNat - j) } } := by
  have stride : (behindPairs m op w j f).registers.stride w = m.registers.stride w := by
    change (if f.direction then _ else _) = _
    rw [direction]
    rfl
  have next (x : UInt16) : x + UInt16.ofNat j * m.registers.stride w + m.registers.stride w =
      x + UInt16.ofNat (j + 1) * m.registers.stride w :=
    congrArg FarPtr.offset (FarPtr.element_succ ⟨0, x⟩ (m.registers.stride w) j).symm
  have cell {p : FarPtr} {v : UInt16} (there : readCell p w m = .ok v m) :
      readCell p w (behindPairs m op w j f) = .ok v (behindPairs m op w j f) :=
    readCell_of_bytes (m := m) (fun _ => rfl) there
  cases pair with
  | cmps left right =>
    rw [stringElement_cmps (cell left) (cell right), stride]
    simp only [behindPairs, Registers.compared, if_true, next]
  | scas right =>
    have same : (behindPairs m .scas w j f).registers.accumulator w =
        m.registers.accumulator w := by cases w <;> rfl
    rw [stringElement_scas (cell right), stride, same]
    simp only [behindPairs, Registers.compared, reduceCtorEq, if_false, next]

/-- The first round of what is left of a repetition. -/
theorem stringRepeat_behindPairs (pair : Pairs m w segment j op a b)
    (direction : f.direction = m.registers.flags.direction) (few : j < m.registers.cx.toNat)
    (left : Nat) :
    stringRepeat op w segment again (left + 1) (behindPairs m op w j f) =
      (if again.goesOn op (Alu.sub f w a b false).flags then stringRepeat op w segment again left
        else pure ())
        (behindPairs m op w (j + 1) (Alu.sub f w a b false).flags) := by
  have count : UInt16.ofNat (m.registers.cx.toNat - j) - 1 =
      UInt16.ofNat (m.registers.cx.toNat - (j + 1)) := by
    have some : m.registers.cx.toNat - j = m.registers.cx.toNat - (j + 1) + 1 := by omega
    rw [some, UInt16.ofNat_add]
    exact UInt16.add_sub_cancel _ _
  rw [stringRepeat, bind_of_ok (stringElement_behindPairs pair direction),
    bind_of_ok (modifyRegisters_eq_ok _ _), bind_of_ok (registers_eq_ok _)]
  dsimp only
  rw [count]
  rfl

/-- None of the first `k` pairs ends the repetition. -/
def NoneEnds (m : Machine σ) (op : StringOp) (w : Width) (segment : UInt16) (again : Repeat)
    (k : Nat) : Prop :=
  ∀ j < k, ∃ a b, Pairs m w segment j op a b ∧ ¬ again.EndsAt a b

theorem NoneEnds.zero : NoneEnds m op w segment again 0 :=
  fun j small => absurd small (Nat.not_lt_zero j)

/-- By induction on the pairs that are left before the last one, which is `j + d`. -/
theorem stringRepeat_stops {d : Nat}
    (kept : ∀ a b, (Alu.sub f w a b false).flags = (Alu.sub m.registers.flags w a b false).flags)
    (before : NoneEnds m op w segment again (j + d)) (pair : Pairs m w segment (j + d) op a b)
    (few : j + d < m.registers.cx.toNat)
    (last : again.EndsAt a b ∨ j + d + 1 = m.registers.cx.toNat) :
    stringRepeat op w segment again (m.registers.cx.toNat - j) (behindPairs m op w j f) =
      .ok () (behindPairs m op w (j + d + 1) (Alu.sub m.registers.flags w a b false).flags) := by
  have direction : f.direction = m.registers.flags.direction := by
    have same := congrArg Flags.direction (kept 0 0)
    exact same
  induction d generalizing j f with
  | zero =>
    rw [Nat.add_zero] at pair few last ⊢
    have some : m.registers.cx.toNat - j = m.registers.cx.toNat - j - 1 + 1 := by omega
    rw [some, stringRepeat_behindPairs pair direction few, kept]
    rcases last with ends | all
    · rw [if_neg fun goesOn => (pair.goesOn_iff again _).1 goesOn ends]
      rfl
    · have none : m.registers.cx.toNat - j - 1 = 0 := by omega
      rw [none, stringRepeat, ite_self]
      rfl
  | succ d ih =>
    obtain ⟨x, y, first, goesOn⟩ := before j (by omega)
    have some : m.registers.cx.toNat - j = m.registers.cx.toNat - (j + 1) + 1 := by omega
    have place : j + 1 + d = j + (d + 1) := by omega
    rw [some, stringRepeat_behindPairs first direction (by omega), kept,
      if_pos ((first.goesOn_iff again _).2 goesOn)]
    rw [← place] at before pair few last ⊢
    exact ih (fun a b => Alu.flags_sub_sub _ w x y a b) before pair few last rfl

/-- Neither memory nor the host is different. -/
structure Untouched (m m' : Machine σ) : Prop where
  memory : m'.memory = m.memory
  host : m'.host = m.host

theorem Untouched.trans {m m' m'' : Machine σ} (first : Untouched m m')
    (second : Untouched m' m'') :
    Untouched m m'' := ⟨second.memory.trans first.memory, second.host.trans first.host⟩

theorem untouched_modifyRegisters (g : Registers → Registers) :
    Leaves Untouched (modifyRegisters g : Exec σ Unit) := fun _ => ⟨rfl, rfl⟩

theorem untouched_reading {α : Type} (g : Memory → Except Fault α) :
    Leaves Untouched (reading g : Exec σ α) := by
  intro m
  rw [after, reading]
  cases g m.memory <;> exact ⟨rfl, rfl⟩

theorem untouched_readCell (p : FarPtr) (w : Width) :
    Leaves Untouched (readCell p w : Exec σ UInt16) := by
  cases w with
  | byte => exact (untouched_reading _).bind .trans fun _ _ => ⟨rfl, rfl⟩
  | word => exact untouched_reading (·.readWord p)

/-- A comparison writes nothing, whether it can read its elements or not. -/
theorem untouched_stringElement (compares : op.compares = true) (w : Width) (segment : UInt16) :
    Leaves Untouched (stringElement op w segment : Exec σ Unit) := by
  have change := @untouched_modifyRegisters σ
  have looks (p : FarPtr) := @untouched_readCell σ p w
  have first : Leaves Untouched (registers : Exec σ Registers) := fun _ => ⟨rfl, rfl⟩
  refine first.bind .trans fun r => ?_
  cases op with
  | movs | stos | lods => cases compares
  | cmps =>
    exact (looks _).bind .trans fun _ => (looks _).bind .trans fun _ =>
      (change _).bind .trans fun _ =>
      (change _).bind .trans fun _ => change _
  | scas => exact (looks _).bind .trans fun _ => (change _).bind .trans fun _ => change _

theorem untouched_stringRepeat (compares : op.compares = true) (w : Width) (segment : UInt16)
    (again : Repeat) (left : Nat) :
    Leaves Untouched (stringRepeat op w segment again left : Exec σ Unit) := by
  induction left with
  | zero => exact fun _ => ⟨rfl, rfl⟩
  | succ left ih =>
    refine (untouched_stringElement compares w segment).bind .trans fun _ =>
      (untouched_modifyRegisters _).bind .trans fun _ => ?_
    have first : Leaves Untouched (registers : Exec σ Registers) := fun _ => ⟨rfl, rfl⟩
    refine first.bind .trans fun r => ?_
    split
    · exact ih
    · exact fun _ => ⟨rfl, rfl⟩

/-- Neither the fetch nor the journal of a tick changes a byte, so only its instruction can. -/
theorem AtInstruction.readByte_after_tick (h : AtInstruction board m i)
    (untouched : Leaves Untouched (execute board i)) (p : FarPtr) :
    (after (tick board) m).memory.readByte p = m.memory.readByte p := by
  obtain ⟨opened, alike, empty, ticked⟩ := h.exists_opened
  have kept := (untouched opened).memory
  rw [after] at kept ⊢
  rw [ticked]
  cases ran : execute board i opened with
  | ok a m₁ =>
    rw [ran] at kept
    exact (congrArg (·.readByte p) kept).trans (alike.bytes p)
  | error e m₁ =>
    rw [ran] at kept
    have same : m₁.memory = opened.memory := kept
    have restored : m₁.memory.rollback = opened.memory.commit := by
      rw [same, Memory.rollback, empty]
      rfl
    exact (congrArg (·.readByte p) restored).trans (alike.bytes p)

theorem execute_repeated (board : Board σ) (asked : i.operation = .string op w source (some again))
    (registers : opened.registers = m.registers.past i) :
    execute board i opened =
      stringRepeat op w ((m.registers.readSegment? source).getD m.registers.ds) again
        m.registers.cx.toNat opened := by
  have segment : (opened.registers.readSegment? source).getD opened.registers.ds =
      (m.registers.readSegment? source).getD m.registers.ds := by
    rw [registers]
    cases source <;> rfl
  have count : opened.registers.cx = m.registers.cx := by rw [registers, Registers.past]
  rw [execute, asked, ← segment, ← count]
  rfl

/-- The tick stops behind pair `k`, because that pair ends the repetition or is the last one. -/
theorem AtInstruction.stops_behind (h : AtInstruction board m i)
    (asked : i.operation = .string op w source (some again))
    (segment_eq : segment = (m.registers.readSegment? source).getD m.registers.ds)
    (before : NoneEnds m op w segment again k) (pair : Pairs m w segment k op a b)
    (few : k < m.registers.cx.toNat) (last : again.EndsAt a b ∨ k + 1 = m.registers.cx.toNat) :
    TicksTo board m { m with
      registers :=
  (m.registers.compared op w (k + 1) (Alu.sub m.registers.flags w a b false).flags).past i } := by
  apply h.ticksTo
  · exact h.running
  · intro opened alike
    have registers : opened.registers = m.registers.past i := alike.registers
    have count : opened.registers.cx = m.registers.cx := by rw [registers, Registers.past]
    have before' : NoneEnds opened op w segment again (0 + k) := by
      intro j small
      obtain ⟨x, y, first, goesOn⟩ := before j (by omega)
      exact ⟨x, y, first.of_alike alike, goesOn⟩
    have ran : stringRepeat op w segment again opened.registers.cx.toNat opened =
        .ok ()
          (behindPairs opened op w (k + 1) (Alu.sub opened.registers.flags w a b false).flags) := by
      have stops := stringRepeat_stops (f := opened.registers.flags) (fun _ _ => rfl) before'
        (by rw [Nat.zero_add]; exact pair.of_alike alike) (by rw [count]; omega)
        (by rw [count, Nat.zero_add]; exact last)
      rwa [behindPairs_zero, Nat.sub_zero, Nat.zero_add] at stops
    rw [count] at ran
    refine ⟨behindPairs opened op w (k + 1) (Alu.sub opened.registers.flags w a b false).flags,
      ?_, ?_, alike.host, alike.bytes, alike.allocations⟩
    · rw [execute_repeated board asked registers, ← segment_eq, ran]
    · change opened.registers.compared op w (k + 1)
        (Alu.sub opened.registers.flags w a b false).flags = _
      rw [registers]
      rfl

/-- A repeated CMPS or SCAS looks at the pairs in turn. If pair `k` is the first that ends the
repetition, the tick stops behind it; the later pairs are not asked for and may be unreadable. If no
pair ends it, the tick stops behind the last. In both cases the flags are those of the last
comparison, and Zero tells whether its values were the same. With zero in CX only IP moves on.
Whatever happens, no byte of memory changes. -/
theorem repeated_comparisons_stop (h : AtInstruction board m i)
    (asked : i.operation = .string op w source (some again)) (compares : op.compares = true) :
    let segment := (m.registers.readSegment? source).getD m.registers.ds
    let flags (a b : UInt16) : Flags := (Alu.sub m.registers.flags w a b false).flags
    let behind (j : Nat) (f : Flags) : Machine σ :=
      { m with registers := (m.registers.compared op w j f).past i }
    (∀ k a b, k < m.registers.cx.toNat → NoneEnds m op w segment again k →
      Pairs m w segment k op a b →
      again.EndsAt a b → TicksTo board m (behind (k + 1) (flags a b))) ∧
    (∀ k a b, k + 1 = m.registers.cx.toNat → NoneEnds m op w segment again k →
      Pairs m w segment k op a b →
      ¬ again.EndsAt a b → TicksTo board m (behind m.registers.cx.toNat (flags a b))) ∧
    (∀ k a b, Pairs m w segment k op a b → ((flags a b).zero = true ↔ a = b)) ∧
    (m.registers.cx = 0 → TicksTo board m { m with registers := m.registers.past i }) ∧
    ∀ p, (after (tick board) m).memory.readByte p = m.memory.readByte p := by
  intro segment flags behind
  refine ⟨?_, ?_, ?_, ?_, ?_⟩
  · intro k a b few before pair ends
    exact h.stops_behind asked rfl before pair few (.inl ends)
  · intro k a b all before pair _
    rw [← all]
    exact h.stops_behind asked rfl before pair (by omega) (.inr all)
  · intro k a b pair
    exact Alu.zero_sub_iff _ pair.narrow.1 pair.narrow.2
  · intro nothing
    apply h.ticksTo
    · exact h.running
    · intro opened alike
      refine ⟨opened, ?_, alike⟩
      rw [execute_repeated board asked alike.registers, nothing]
      rfl
  · apply h.readByte_after_tick
    intro opened
    have looks : Leaves Untouched (stringInstruction op w source (some again) : Exec σ Unit) :=
      Leaves.bind (fun _ => ⟨rfl, rfl⟩) .trans fun r =>
        untouched_stringRepeat compares w _ again _
    rw [execute, asked]
    exact looks opened

/-- REPNE SCASW, REPE CMPSB and two strings of three bytes -/
def comparesCode : List UInt8 := [0xf2, 0xaf, 0xf3, 0xa6, 1, 2, 3, 1, 9, 3]

/-- Code and data are in segment 2. -/
def twoStrings (ip si di cx : UInt16) (flags : Flags) : Registers :=
  { Registers.reset 0 with
    cs := 2, ds := 2, es := 2, ip := ip, si := si, di := di, cx := cx, flags := flags }

/-- A zero word is found just before the last byte of the segment, which could not be read
as a word. The strings differ at their second bytes. Where only their first bytes are
compared they are the same. -/
theorem strings_compared :
    ∃ memory : Memory,
      let before (ip si di cx : UInt16) (flags : Flags) : Machine Unit :=
        ⟨twoStrings ip si di cx flags, memory, ()⟩
      TicksTo .bare (before 0 0 0xfffd 2 {})
        (before 2 0 0xffff 1 { zero := true, parity := true }) ∧
      TicksTo .bare (before 2 4 7 3 {})
        (before 4 6 9 1 { carry := true, parity := true, auxCarry := true, sign := true }) ∧
      TicksTo .bare (before 2 4 7 1 { carry := true })
        (before 4 5 8 0 { zero := true, parity := true }) ∧
      TicksTo .bare (before 2 4 7 0 { carry := true }) (before 4 4 7 0 { carry := true }) := by
  let scan : Instruction := ⟨0, 2, .string .scas .word .ds (some .whileNotEqual)⟩
  let compare : Instruction := ⟨2, 2, .string .cmps .byte .ds (some .whileEqual)⟩
  obtain ⟨memory, memory₁, memory₂, added, fetched, fetched₂, zero, one, two,
      one', nine⟩ :
      ∃ memory memory₁ memory₂, Memory.fresh.addSegment 2 .code comparesCode = .ok memory ∧
        memory.fetch ⟨2, 0⟩ = .ok (scan, memory₁) ∧
        memory.fetch ⟨2, 2⟩ = .ok (compare, memory₂) ∧
        memory.readWord ⟨2, 0xfffd⟩ = .ok 0 ∧ memory.readByte ⟨2, 4⟩ = .ok 1 ∧
        memory.readByte ⟨2, 5⟩ = .ok 2 ∧
        memory.readByte ⟨2, 7⟩ = .ok 1 ∧ memory.readByte ⟨2, 8⟩ = .ok 9 :=
    ⟨_, _, _, rfl, rfl, rfl, rfl, rfl, rfl, rfl, rfl⟩
  refine ⟨memory, ?_⟩
  intro before
  have reachable : memory.Reachable := .addSegment .fresh added
  have atScan : AtInstruction .bare (before 0 0 0xfffd 2 {}) scan :=
    ⟨reachable, rfl, rfl, memory₁, fetched⟩
  have atCompare (cx : UInt16) (carry : Bool) :
      AtInstruction .bare (before 2 4 7 cx { carry := carry }) compare :=
    ⟨reachable, rfl, rfl, memory₂, fetched₂⟩
  have cell {m : Machine Unit} (same : m.memory = memory) (p : FarPtr) (v : UInt8)
      (stored : memory.readByte p = .ok v) : readCell p .byte m = .ok v.toUInt16 m := by
    have found : (readByte p : Exec Unit UInt8) m = .ok v m := reading_eq_ok (by rw [same, stored])
    rw [readCell, bind_of_ok found]
    rfl
  have first (cx : UInt16) (carry : Bool) :
      Pairs (before 2 4 7 cx { carry := carry }) .byte 2 0 .cmps 1 1 :=
    .cmps (cell rfl ⟨2, 4⟩ 1 one) (cell rfl ⟨2, 7⟩ 1 one')
  have second : Pairs (before 2 4 7 3 {}) .byte 2 1 .cmps 2 9 :=
    .cmps (cell rfl ⟨2, 5⟩ 2 two) (cell rfl ⟨2, 8⟩ 9 nine)
  have found : readCell ⟨2, 0xfffd⟩ .word (before 0 0 0xfffd 2 {}) =
      .ok 0 (before 0 0 0xfffd 2 {}) :=
    reading_eq_ok (f := fun m => m.readWord ⟨2, 0xfffd⟩) zero
  have leads {m : Machine Unit} {r r' : Registers} (same : r = r')
      (ticks : TicksTo .bare m ⟨r, memory, ()⟩) :
      TicksTo .bare m ⟨r', memory, ()⟩ := same ▸ ticks
  refine ⟨?_, ?_, ?_, ?_⟩
  · have final : ((twoStrings 0 0 0xfffd 2 {}).compared .scas .word 1
          (Alu.sub {} .word 0 0 false).flags).past scan =
        twoStrings 2 0 0xffff 1 { zero := true, parity := true } := by decide
    exact leads final
      ((repeated_comparisons_stop atScan rfl rfl).1 0 0 0 Nat.zero_lt_two .zero (.scas found) rfl)
  · have final :
        ((twoStrings 2 4 7 3 {}).compared .cmps .byte 2 (Alu.sub {} .byte 2 9 false).flags).past
          compare =
        twoStrings 4 6 9 1 { carry := true, parity := true, auxCarry := true, sign := true } := by
          decide
    have before : NoneEnds (before 2 4 7 3 {}) .cmps .byte 2 .whileEqual 1 := by
      intro j small
      obtain rfl : j = 0 := by omega
      exact ⟨1, 1, first 3 false, fun differ => differ rfl⟩
    have differ : (2 : UInt16) ≠ 9 := by decide
    exact leads final
      ((repeated_comparisons_stop (atCompare 3 false) rfl rfl).1 1 2 9
        (Nat.lt_add_left 1 Nat.one_lt_two) before
        second differ)
  · have final : ((twoStrings 2 4 7 1 { carry := true }).compared .cmps .byte 1
          (Alu.sub { carry := true } .byte 1 1 false).flags).past compare =
        twoStrings 4 5 8 0 { zero := true, parity := true } := by decide
    exact leads final
      ((repeated_comparisons_stop (atCompare 1 true) rfl rfl).2.1 0 1 1 rfl .zero (first 1 true)
        fun differ => differ rfl)
  · exact (repeated_comparisons_stop (atCompare 0 _) rfl rfl).2.2.2.1 rfl

end Processor

end RealMode
