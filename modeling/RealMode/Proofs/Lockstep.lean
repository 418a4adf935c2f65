import RealMode.Proofs.Composition
import RealMode.Proofs.Tick

/-!
# Two runs in step

A step respects a relation of states if from related states it ends in the same way, with the same
value or fault, and again in related states. Machines are in step if their registers are equal and
their memories and hosts are related. As long as the memories can differ in the journal alone, a
tick keeps two machines in step whatever it executes; of the board this asks that its handlers and
devices keep them in step.
-/

namespace RealMode

/-- The same value or the same fault, and related states. -/
inductive SameEnding {τ α : Type} (S : τ → τ → Prop) :
    EStateM.Result Fault τ α → EStateM.Result Fault τ α → Prop
  | ok (a : α) {s t : τ} : S s t → SameEnding S (.ok a s) (.ok a t)
  | error (e : Fault) {s t : τ} : S s t → SameEnding S (.error e s) (.error e t)

/-- The same value beside related states. -/
inductive SameAnswer {τ α : Type} (S : τ → τ → Prop) : α × τ → α × τ → Prop
  | intro (a : α) {s t : τ} : S s t → SameAnswer S (a, s) (a, t)

theorem SameAnswer.of_parts {τ α : Type} {S : τ → τ → Prop} {x y : α × τ}
    (first : x.1 = y.1) (second : S x.2 y.2) : SameAnswer S x y := by
  obtain ⟨a, s⟩ := x
  obtain ⟨b, t⟩ := y
  cases first
  exact ⟨a, second⟩

/-- From related states the same ending, in states that are related again. -/
def Respects {τ α : Type} (S : τ → τ → Prop) (x : EStateM Fault τ α) : Prop :=
  ∀ s t, S s t → SameEnding S (x s) (x t)

namespace Respects

variable {τ α β : Type} {S : τ → τ → Prop}

theorem pure (a : α) : Respects S (pure a) := fun _ _ same => .ok a same

theorem throw (e : Fault) : Respects S (throw e : EStateM Fault τ α) :=
  fun _ _ same => .error e same

theorem bind {x : EStateM Fault τ α} {f : α → EStateM Fault τ β} (first : Respects S x)
    (rest : ∀ a, Respects S (f a)) : Respects S (x >>= f) := by
  intro s t same
  have ends := first s t same
  simp only [Bind.bind, EStateM.bind]
  revert ends
  generalize x s = left, x t = right
  rintro (⟨a, same⟩ | ⟨e, same⟩)
  · exact rest a _ _ same
  · exact .error e same

theorem ite {c : Prop} [Decidable c] {x y : EStateM Fault τ α} (left : Respects S x)
    (right : Respects S y) : Respects S (if c then x else y) := by
  split
  · exact left
  · exact right

end Respects

namespace Memory

variable {S : Memory → Memory → Prop} {m n : Memory}

/-- The same but for the journal. -/
def SameContents (m n : Memory) : Prop := m.commit = n.commit

/-- A relation of memories that differ in their journals at most, as long as writes keep it. -/
structure JournalOnly (S : Memory → Memory → Prop) : Prop where
  contents : ∀ {m n}, S m n → m.SameContents n
  write : ∀ {m n}, S m n → ∀ segments entry,
    S { m with segments := segments, journal := m.journal.map (entry :: ·) }
      { n with segments := segments, journal := n.journal.map (entry :: ·) }

theorem journalOnly_eq : JournalOnly Eq where
  contents same := by rw [same]; rfl
  write same _ _ := by rw [same]

theorem journalOnly_sameContents : JournalOnly SameContents where
  contents same := same
  write {m n} same segments _ := by
    have contents : m.commit = n.commit := same
    exact congrArg (fun m : Memory => { m with segments := segments }) contents

theorem SameContents.segments (same : m.SameContents n) : m.segments = n.segments := by
  have contents : m.commit = n.commit := same
  exact congrArg (·.segments) contents

/-- A journal is opened without a look at one that may be open. -/
theorem SameContents.beginJournal (same : m.SameContents n) : m.beginJournal = n.beginJournal := by
  have contents : m.commit = n.commit := same
  exact congrArg (·.beginJournal) contents

theorem SameContents.segmentAt (same : m.SameContents n) (p : FarPtr) (length : Nat) :
    m.segmentAt p length = n.segmentAt p length := by
  rw [Memory.segmentAt, Memory.segmentAt, same.segments]

theorem fetch_commit (m : Memory) (p : FarPtr) :
    m.commit.fetch p = (m.fetch p).map fun r => (r.1, r.2.commit) := by
  rw [fetch, fetch, commit]
  cases m.segments.get? p.segment with
  | none => rfl
  | some s =>
    dsimp only
    cases s.fetch p.offset <;> rfl

end Memory

namespace Machine

variable {σ : Type}

structure InStep (S : Memory → Memory → Prop) (R : σ → σ → Prop)
    (m n : Machine σ) : Prop where
  registers : m.registers = n.registers
  memory : S m.memory n.memory
  host : R m.host n.host

end Machine

namespace Exec

open Machine (InStep)

variable {σ τ α : Type} {S : Memory → Memory → Prop} {R : σ → σ → Prop}

theorem respects_registers : Respects (InStep S R) registers := by
  intro m n same
  have read : (registers : Exec σ Registers) n = .ok m.registers n := by rw [same.registers]; rfl
  rw [read]
  exact .ok m.registers same

theorem respects_modifyRegisters (f : Registers → Registers) :
    Respects (InStep S R) (modifyRegisters f) :=
  fun _ _ same => .ok () ⟨congrArg f same.registers, same.memory, same.host⟩

/-- A look at what the memories have in common. -/
theorem respects_look {f : Memory → Except Fault α} (common : ∀ {m n}, S m n → f m = f n) :
    Respects (InStep S R) (reading f) := by
  intro m n same
  rw [reading, reading, common same.memory]
  cases f n.memory with
  | ok a => exact .ok a same
  | error e => exact .error e same

theorem respects_writeBytes (journal : Memory.JournalOnly S) (p : FarPtr) (bytes : List UInt8) :
    Respects (InStep S R) (changing (·.writeBytes p bytes)) := by
  intro m n same
  simp only [changing, Memory.writeBytes, (journal.contents same.memory).segmentAt p]
  cases n.memory.segmentAt p bytes.length with
  | ok s =>
    simp only [Bind.bind, Except.bind, Pure.pure, Except.pure,
      (journal.contents same.memory).segments]
    exact .ok () ⟨same.registers, journal.write same.memory _ _, same.host⟩
  | error e => exact .error e same

theorem respects_reading (f : Memory → Except Fault α) : Respects (InStep Eq R) (reading f) :=
  respects_look fun same => congrArg f same

/-- Where the memories are equal, any change is the same. -/
theorem respects_allocating (f : Memory → Except Fault (α × Memory)) :
    Respects (InStep Eq R) (allocating f) := by
  intro m n same
  rw [allocating, allocating, same.memory]
  cases f n.memory with
  | ok r => exact .ok r.1 ⟨same.registers, rfl, same.host⟩
  | error e => exact .error e same

theorem respects_ofExcept (x : Except Fault α) : Respects (InStep S R) (ofExcept x) := by
  intro m n same
  cases x with
  | ok a => exact .ok a same
  | error e => exact .error e same

theorem respects_onHost {x : EStateM Fault σ α} (respects : Respects R x) :
    Respects (InStep S R) (onHost x) := by
  intro m n same
  have ends := respects _ _ same.host
  rw [onHost, onHost]
  revert ends
  generalize x m.host = left, x n.host = right
  rintro (⟨a, hosts⟩ | ⟨e, hosts⟩)
  · exact .ok a ⟨same.registers, same.memory, hosts⟩
  · exact .error e ⟨same.registers, same.memory, hosts⟩

/-- A smaller host in step keeps the larger one in step. -/
theorem respects_within {T : τ → τ → Prop} {part : σ → τ} {replace : τ → σ → σ}
    {x : Exec τ α} (parts : ∀ {a b}, R a b → T (part a) (part b))
    (replaced : ∀ {a b c d}, R a b → T c d → R (replace c a) (replace d b))
    (respects : Respects (InStep S T) x) : Respects (InStep S R) (within part replace x) := by
  intro m n same
  have ends :=
    respects ⟨m.registers, m.memory, part m.host⟩ ⟨n.registers, n.memory, part n.host⟩
    ⟨same.registers, same.memory, parts same.host⟩
  rw [within, within]
  revert ends
  generalize x ⟨m.registers, m.memory, part m.host⟩ = left,
    x ⟨n.registers, n.memory, part n.host⟩ = right
  rintro (⟨a, inner⟩ | ⟨e, inner⟩)
  · exact .ok a ⟨inner.registers, inner.memory, replaced same.host inner.host⟩
  · exact .error e ⟨inner.registers, inner.memory, replaced same.host inner.host⟩

theorem compositional_respects (journal : Memory.JournalOnly S) :
    Compositional fun α => @Respects (Machine σ) α (InStep S R) where
  pure := .pure
  throw := .throw
  bind := .bind
  registers := respects_registers
  modifyRegisters := respects_modifyRegisters
  readByte p := respects_look fun same => by
    rw [Memory.readByte, (journal.contents same).segmentAt, Memory.readByte]
  readWord p := respects_look fun same => by
    rw [Memory.readWord, (journal.contents same).segmentAt, Memory.readWord]
  readPointer p :=
    respects_look fun same => by
      rw [Memory.readPointer, (journal.contents same).segmentAt, Memory.readPointer]
  writeBytes := respects_writeBytes journal

end Exec

namespace Processor

open Exec
open Machine (InStep)

variable {σ : Type} {R : σ → σ → Prop} {board : Board σ}

theorem respects_carryOut (wired : Wired (fun α => @Respects (Machine σ) α (InStep Eq R)) board)
    (i : Instruction) : Respects (InStep Eq R) (carryOut board i) := by
  have closed := compositional_respects (R := R) Memory.journalOnly_eq
  exact closed.bind (closed.goTo i.next) fun _ => closed.execute i wired

/-- The instruction runs under journals that are both empty at first. -/
theorem respects_tick (wired : Wired (fun α => @Respects (Machine σ) α (InStep Eq R)) board) :
    Respects (InStep Memory.SameContents R) (tick board) := by
  intro m n same
  rw [tick_eq, tick_eq, ← same.registers]
  by_cases halted : m.registers.halt = true
  · rw [if_pos halted, if_pos halted]
    exact .ok _ same
  by_cases imported : board.imported m.registers.cs = true
  · rw [if_neg halted, if_neg halted, if_pos imported, if_pos imported]
    exact .ok _ same
  rw [if_neg halted, if_neg halted, if_neg imported, if_neg imported]
  have fetched : (m.memory.fetch m.registers.csIp).map (fun r => (r.1, r.2.commit)) =
      (n.memory.fetch m.registers.csIp).map fun r => (r.1, r.2.commit) := by
    rw [← Memory.fetch_commit, ← Memory.fetch_commit, same.memory]
  revert fetched
  generalize m.memory.fetch m.registers.csIp = left, n.memory.fetch m.registers.csIp = right
  intro fetched
  rcases left with e | ⟨i, memory⟩ <;> rcases right with e' | ⟨i', memory'⟩ <;>
    simp only [Except.map, Except.ok.injEq, Except.error.injEq, Prod.mk.injEq,
      reduceCtorEq] at fetched
  · rw [fetched]
    exact .error e' same
  · obtain ⟨rfl, contents⟩ := fetched
    have ends := respects_carryOut wired i ⟨m.registers, memory.beginJournal, m.host⟩
      ⟨m.registers, memory'.beginJournal, n.host⟩ ⟨rfl,
        Memory.SameContents.beginJournal contents, same.host⟩
    dsimp only
    revert ends
    generalize carryOut board i ⟨m.registers, memory.beginJournal, m.host⟩ = left,
      carryOut board i ⟨m.registers, memory'.beginJournal, n.host⟩ = right
    rintro (⟨u, inner⟩ | ⟨e, inner⟩)
    · dsimp only
      rw [inner.registers]
      exact .ok _ ⟨rfl,
        congrArg (f := fun m : Memory => m.commit.commit) inner.memory, inner.host⟩
    · exact .error e ⟨rfl,
        congrArg (f := fun m : Memory => m.rollback.commit) inner.memory, inner.host⟩

end Processor

end RealMode
