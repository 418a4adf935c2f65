import RealMode.Proofs.AlikeMachines
import RealMode.Proofs.DoubleNumbers

/-!
# Products and quotients are exact

A multiplication leaves the whole product. A division leaves quotient and remainder, or it changes
nothing: where the divisor is zero, or the quotient is none of the numbers that the width has. So
nothing is lost if what has been multiplied is divided again.
-/

namespace RealMode

namespace Processor

open Exec Signedness

variable {σ : Type} {board : Board σ} {m n : Machine σ} {i : Instruction} {s : Signedness}
  {src : Operand}
  {v : UInt16}

theorem double_past (s : Signedness) (w : Width) (r : Registers) (i : Instruction) :
    s.double w (r.past i) = s.double w r := by
  cases w <;> rfl

theorem execute_multiplication (board : Board σ) (asked : i.operation = s.multiplication src)
    (there : read i src m = .ok v m) :
    execute board i m = .ok () { m with registers := s.multiply src.width v m.registers } := by
  rw [execute, asked]
  cases s with
  | unsigned =>
    dsimp only [multiplication]
    rw [bind_of_ok there, ← Registers.mul_eq]
    rfl
  | signed =>
    dsimp only [multiplication]
    rw [bind_of_ok there, ← Registers.imul_eq]
    rfl

theorem execute_division (board : Board σ) (asked : i.operation = s.division src)
    (there : read i src m = .ok v m) :
    execute board i m = match s.divide? src.width v m.registers with
      | some r => .ok () { m with registers := r }
      | none => .error (.divideError ⟨m.registers.cs, i.offset⟩) m := by
  have divided (div? : Registers → Width → UInt16 → Option Registers) :
      divide i div? src m = match div? m.registers src.width v with
        | some r => .ok () { m with registers := r }
        | none => .error (.divideError ⟨m.registers.cs, i.offset⟩) m := by
    rw [divide, bind_of_ok there, bind_of_ok (registers_eq_ok m)]
    cases div? m.registers src.width v <;> rfl
  rw [execute, asked]
  cases s with
  | unsigned =>
    rw [← Registers.div?_eq]
    exact divided _
  | signed =>
    rw [← Registers.idiv?_eq]
    exact divided _

/-- Moving IP on and opening a journal does not change what an operand reads as. -/
theorem read_of_opened (there : read i src m = .ok v m)
    (alike : Machine.Alike { m with registers := m.registers.past i } n) :
    read i src n = .ok v n := by
  have bytes : ∀ p, n.memory.readByte p = m.memory.readByte p := alike.bytes
  apply read_congr ?_ bytes there i
  intro reg _
  rw [alike.registers]
  exact m.registers.read?_withIp _ reg

theorem ticksTo_of_multiplication (h : AtInstruction board m i)
    (asked : i.operation = s.multiplication src) (there : read i src m = .ok v m) :
    TicksTo board m { m with registers := s.multiply src.width v (m.registers.past i) } := by
  have halt : (s.multiply src.width v (m.registers.past i)).halt = m.registers.halt :=
    (multiplies s src.width v (m.registers.past i)).rest.halt
  apply h.ticksTo (halt.trans h.running)
  intro opened alike
  have ran := execute_multiplication board asked (read_of_opened there alike)
  rw [alike.registers] at ran
  exact ⟨_, ran, alike.withRegisters _⟩

theorem ticksTo_of_division (h : AtInstruction board m i) (asked : i.operation = s.division src)
    (there : read i src m = .ok v m) {r : Registers}
    (divided : s.divide? src.width v (m.registers.past i) = some r) (running : r.halt = false) :
    TicksTo board m { m with registers := r } := by
  apply h.ticksTo running
  intro opened alike
  have ran := execute_division board asked (read_of_opened there alike)
  rw [alike.registers] at ran
  dsimp only at ran
  rw [divided] at ran
  exact ⟨_, ran, alike.withRegisters _⟩

theorem onlyFaults_of_division (h : AtInstruction board m i) (asked : i.operation = s.division src)
    (there : read i src m = .ok v m) (refused : s.divide? src.width v (m.registers.past i) = none) :
    OnlyFaults board m (.divideError m.registers.csIp) := by
  apply h.onlyFaults
  intro opened alike
  have ran := execute_division board asked (read_of_opened there alike)
  rw [alike.registers] at ran
  dsimp only at ran
  rw [refused] at ran
  rw [ran, ← h.address_eq]
  rfl

/-- What multiplication and division come to, for one machine and one instruction. -/
structure ExactArithmetic (board : Board σ) (m : Machine σ) (i : Instruction) : Prop where
  /-- A division fails if there is no divisor or no place for the quotient, and else it is exact. -/
  quotient {s : Signedness} {src : Operand} {v : UInt16} : i.operation = s.division src →
    read i src m = .ok v m →
    (OnlyFaults board m (.divideError m.registers.csIp) ↔
      s.number src.width v = 0 ∨
        ¬ s.Has src.width ((s.double src.width m.registers).tdiv (s.number src.width v))) ∧
    (s.number src.width v ≠ 0 →
      s.Has src.width ((s.double src.width m.registers).tdiv (s.number src.width v)) →
      ∃ r, TicksTo board m { m with registers := r } ∧
        s.Divides src.width (s.number src.width v) (m.registers.past i) r)
  /-- A product is whole. -/
  product {s : Signedness} {src : Operand} {v : UInt16} : i.operation = s.multiplication src →
    read i src m = .ok v m →
    ∃ r, TicksTo board m { m with registers := r } ∧
      s.Multiplies src.width (s.number src.width v) (m.registers.past i) r
  /-- With a register for its destination, a product is cut to a word. -/
  lowWord {reg : WordRegister} {a b : Operand} {x y : UInt16} :
    i.operation = .imulTo (.register (.word reg)) a b →
    read i a m = .ok x m → read i b m = .ok y m →
    ∃ (low : UInt16) (cut : Bool),
      (low.toNat : Int) = Width.word.signed x * Width.word.signed y % 2 ^ 16 ∧
      (cut = true ↔ ¬ Width.word.InRange (Width.word.signed x * Width.word.signed y)) ∧
      TicksTo board m
        { m with registers := ((m.registers.past i).withCarryOverflow cut).writeWord reg low }
  /-- Division by the same operand undoes multiplication. -/
  undone {s : Signedness} {src : Operand} {v : UInt16} : i.operation = s.multiplication src →
    read i src m = .ok v m →
    s.number src.width v ≠ 0 → (∀ reg ∈ src.registers, reg ∉ Registers.extended) →
    ∃ m₁, tick board m = .ok .executed m₁ ∧
      ∀ j, AtInstruction board m₁ j → j.operation = s.division src →
        ∃ m₂, tick board m₁ = .ok .executed m₂ ∧
          m₂.registers.accumulator src.width = m.registers.accumulator src.width ∧
          m₂.registers.extension src.width = 0

/-- Multiplication and division are exact at both widths, signed or not. -/
theorem arithmetic_exact (h : AtInstruction board m i) : ExactArithmetic board m i := by
  constructor
  case quotient =>
    intro s src v asked there
    let n := s.double src.width m.registers
    let d := s.number src.width v
    have same : s.double src.width (m.registers.past i) = n := double_past s src.width m.registers i
    by_cases fails : d = 0 ∨ ¬ s.Has src.width (n.tdiv d)
    · have refused : s.divide? src.width v (m.registers.past i) = none := by
        rw [divide?, same, if_pos fails]
      refine ⟨iff_of_true (onlyFaults_of_division h asked there refused) fails, ?_⟩
      intro nonzero has
      exact absurd fails (not_or.2 ⟨nonzero, fun refused => refused has⟩)
    · have divided := divide?_eq_some (r := m.registers.past i) (same ▸ fails)
      have ticks := ticksTo_of_division h asked there divided
        ((Registers.sameBesides_withHalves _ _ _ _).halt.trans h.running)
      refine ⟨iff_of_false ?_ fails, ?_⟩
      · rintro ⟨m', faulted, -⟩
        obtain ⟨m'', ran, -⟩ := ticks
        cases faulted.symm.trans ran
      · intro nonzero has
        exact ⟨_, ticks, divides nonzero (same ▸ has)⟩
  case product =>
    intro s src v asked there
    exact ⟨_, ticksTo_of_multiplication h asked there,
      multiplies s src.width v (m.registers.past i)⟩
  case lowWord =>
    intro reg a b x y asked first second
    let product := Width.word.signed x * Width.word.signed y
    refine ⟨UInt16.ofInt product, !Width.word.fits product,
      Registers.toNat_ofInt_word product, ?_, ?_⟩
    · rw [Bool.not_eq_true', ← Bool.not_eq_true]
      exact not_congr Width.fits_iff
    · apply h.ticksTo
      · cases reg <;> exact h.running
      · intro opened alike
        refine ⟨{ opened with registers := _ }, ?_, alike.withRegisters _⟩
        rw [execute, asked]
        dsimp only
        rw [multiplyTo, bind_of_ok (read_of_opened first alike),
          bind_of_ok (read_of_opened second alike)]
        have there : opened.registers = m.registers.past i := alike.registers
        rw [← there]
        rfl
  case undone =>
    intro s src v asked there nonzero spared
    have multiplied := multiplies s src.width v (m.registers.past i)
    obtain ⟨m₁, ran, same⟩ := ticksTo_of_multiplication h asked there
    refine ⟨m₁, ran, ?_⟩
    intro j next divided
    have bytes : ∀ p, m₁.memory.readByte p = m.memory.readByte p := same.bytes
    have again : read j src m₁ = .ok v m₁ := by
      apply read_congr ?_ bytes there j
      intro reg named
      rw [same.registers]
      calc (s.multiply src.width v (m.registers.past i)).read? reg
        _ = ((m.registers.past i).withCarryOverflow _).read? reg :=
          multiplied.rest.read? (spared reg named)
        _ = (m.registers.past i).read? reg := Registers.read?_withFlags _ _ reg
        _ = m.registers.read? reg := m.registers.read?_withIp _ reg
    have product : s.double src.width (m₁.registers.past j) =
        s.number src.width (m.registers.accumulator src.width) * s.number src.width v := by
      rw [double_past, same.registers]
      exact multiplied.exact
    have undone := divide?_of_product (s.has_number _ _) nonzero product
    obtain ⟨m₂, ran₂, same₂⟩ := ticksTo_of_division next divided again undone
      ((Registers.sameBesides_withHalves _ _ _ _).halt.trans next.running)
    refine ⟨m₂, ran₂, ?_, ?_⟩
    · rw [same₂.registers]
      exact accumulator_restored s src.width m.registers 0
    · rw [same₂.registers]
      exact Registers.extension_withHalves_zero _ _ _

/-- IMUL BL, IDIV BL, IDIV BX and IMUL CX, BX, 4 -/
def productCode : List UInt8 := [0xf6, 0xeb, 0xf6, 0xfb, 0xf7, 0xfb, 0x6b, 0xcb, 0x04]

/-- What stands at each offset of the code. -/
def productInstruction : UInt16 → Instruction
  | 0 => ⟨0, 2, .imul (.register (.byte .bl))⟩
  | 2 => ⟨2, 2, .idiv (.register (.byte .bl))⟩
  | 4 => ⟨4, 2, .idiv (.register (.word .bx))⟩
  | _ => ⟨6, 3, .imulTo (.register (.word .cx)) (.register (.word .bx)) (.immediate .word 4)⟩

/-- The code is in segment 2. -/
def factors (ip dx ax bx : UInt16) : Registers :=
  { Registers.reset 0 with cs := 2, ip := ip, dx := dx, ax := ax, bx := bx }

/-- The least byte times itself needs a word, and divided by itself again it is the least byte once
more. The least word divided by minus one is no word, but divided by one it is. Four quarters of
what a word can hold leave nothing in it. -/
theorem least_byte_squared :
    ∃ memory : Memory,
      let start : Machine Unit := ⟨factors 0 0 0x80 0x80, memory, ()⟩
      let least (bx : UInt16) : Machine Unit := ⟨factors 4 0xffff 0x8000 bx, memory, ()⟩
      let quarter : Machine Unit := ⟨factors 6 0 0 0x4000, memory, ()⟩
      (∃ r, TicksTo .bare start { start with registers := r } ∧
        signed.double .byte r = 0x4000 ∧ r.flags.carry = true) ∧
      (∃ m₁ m₂, tick .bare start = .ok .executed m₁ ∧
        tick .bare m₁ = .ok .executed m₂ ∧
        m₂.registers.accumulator .byte = 0x80 ∧ m₂.registers.extension .byte = 0) ∧
      OnlyFaults .bare (least 0xffff) (.divideError ⟨2, 4⟩) ∧
      (∃ r, TicksTo .bare (least 1) { least 1 with registers := r } ∧
        signed.number .word (r.accumulator .word) +
          signed.number .word (r.extension .word) = -0x8000) ∧
      TicksTo .bare quarter
        { quarter with registers := (factors 9 0 0 0x4000).withCarryOverflow true } := by
  let squared := (factors 2 0 0x4000 0x80).withCarryOverflow true
  obtain ⟨memory, memory₁, memory₂, memory₃, memory₄, added, fetched, ticked, fetched₂,
      fetched₃, fetched₄⟩ :
      ∃ memory memory₁ memory₂ memory₃ memory₄,
        Memory.fresh.addSegment 2 .code productCode = .ok memory ∧
        memory.fetch ⟨2, 0⟩ = .ok (productInstruction 0, memory₁) ∧
        tick .bare ⟨factors 0 0 0x80 0x80, memory, ()⟩ =
          .ok .executed ⟨squared, memory₁.beginJournal.commit, ()⟩ ∧
        memory₁.beginJournal.commit.fetch ⟨2, 2⟩ = .ok (productInstruction 2, memory₂) ∧
        memory.fetch ⟨2, 4⟩ = .ok (productInstruction 4, memory₃) ∧
        memory.fetch ⟨2, 6⟩ = .ok (productInstruction 6, memory₄) :=
    ⟨_, _, _, _, _, rfl, rfl, rfl, rfl, rfl, rfl⟩
  refine ⟨memory, ?_⟩
  intro start least quarter
  have reachable : memory.Reachable := .addSegment .fresh added
  have squares : ExactArithmetic .bare start (productInstruction 0) :=
    arithmetic_exact ⟨reachable, rfl, rfl, memory₁, fetched⟩
  have divides (bx : UInt16) : ExactArithmetic .bare (least bx) (productInstruction 4) :=
    arithmetic_exact ⟨reachable, rfl, rfl, memory₃, fetched₃⟩
  have cuts : ExactArithmetic .bare quarter (productInstruction 6) :=
    arithmetic_exact ⟨reachable, rfl, rfl, memory₄, fetched₄⟩
  have factor : read (productInstruction 0) (.register (.byte .bl)) start = .ok 0x80 start := rfl
  have divisor (bx : UInt16) : read (productInstruction 4) (.register (.word .bx)) (least bx) =
      .ok bx (least bx) := rfl
  refine ⟨?_, ?_, ?_, ?_, ?_⟩
  · obtain ⟨r, ticks, product⟩ := squares.product (s := signed) rfl factor
    have square :
        signed.number .byte ((factors 2 0 0x80 0x80).accumulator .byte) * signed.number .byte 0x80 =
        0x4000 := by decide
    have wide : ¬ signed.Has .byte 0x4000 := by decide
    refine ⟨r, ticks, product.exact.trans square, product.carry.2 ?_⟩
    intro narrow
    exact wide (square ▸ narrow)
  · obtain ⟨m₁, ran, undone⟩ :=
      squares.undone (s := signed) rfl factor (by decide) (by decide)
    cases ticked.symm.trans ran
    obtain ⟨m₂, ran₂, restored, rest⟩ := undone (productInstruction 2)
      ⟨.commit (.beginJournal (.fetch reachable fetched)), rfl, rfl, memory₂, fetched₂⟩ rfl
    exact ⟨_, m₂, ran, ran₂, restored, rest⟩
  · have wide : ¬ signed.Has .word ((signed.double .word (factors 4 0xffff 0x8000 0xffff)).tdiv
        (signed.number .word 0xffff)) := by decide
    exact ((divides 0xffff).quotient (s := signed) rfl (divisor _)).1.2 (.inr wide)
  · have fits :
        signed.Has .word
          ((signed.double .word (factors 4 0xffff 0x8000 1)).tdiv (signed.number .word 1)) := by
      decide
    obtain ⟨r, ticks, quotient⟩ :=
      ((divides 1).quotient (s := signed) rfl (divisor 1)).2 (by decide) fits
    have dividend : signed.double .word (factors 6 0xffff 0x8000 1) = -0x8000 := by decide
    have one : signed.number .word 1 = 1 := by decide
    have exact : signed.double .word (factors 6 0xffff 0x8000 1) =
      signed.number .word (r.accumulator .word) * signed.number .word 1 +
        signed.number .word (r.extension .word) :=
      quotient.exact
    rw [dividend, one, Int.mul_one] at exact
    exact ⟨r, ticks, exact.symm⟩
  · obtain ⟨low, cut, residue, carry, ticks⟩ := cuts.lowWord rfl rfl rfl
    have overflows : ¬ signed.Has .word (0x4000 * 4) := by decide
    obtain rfl : cut = true := carry.2 overflows
    have cutOff : Width.word.signed 0x4000 * Width.word.signed 4 % 2 ^ 16 = 0 := by decide
    have nothing : (low.toNat : Int) = 0 := residue.trans cutOff
    obtain rfl : low = 0 := UInt16.toNat_inj.mp (by simpa using nothing)
    exact ticks

end Processor

end RealMode
