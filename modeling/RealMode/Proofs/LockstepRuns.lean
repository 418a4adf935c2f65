import RealMode.Proofs.Depth
import RealMode.Proofs.Lockstep

/-!
# Runs in step

Two runs that start in step end in the same way, still in step, however many ticks they take
and whatever the modules are called for. Modules come from outside. Of a module it is asked
that what it looks at and what it changes keeps machines in step; the guest code that it
runs does so like any other.
-/

namespace RealMode

/-- Two runs, between ticks. -/
structure Running.InStep {σ : Type} (R : σ → σ → Prop) (s t : Running σ) : Prop where
  machine : Machine.InStep Memory.SameContents R s.machine t.machine
  depth : s.depth = t.depth

theorem Running.InStep.withMachine {σ : Type} {R : σ → σ → Prop} {s t : Running σ}
    (same : s.InStep R t) {m n : Machine σ} (machines : Machine.InStep Memory.SameContents R m n) :
    Running.InStep R { s with machine := m } { t with machine := n } := ⟨machines, same.depth⟩

/-- Calls that look at machines in step go on alike, and keep them in step. -/
inductive HostCall.Alike {σ : Type} (R : σ → σ → Prop) : HostCall σ → HostCall σ → Prop
  | finish (result : Except Fault ReturnValue) : Alike R (.finish result) (.finish result)
  | look {k l : Machine σ → HostCall σ} :
      (∀ m n, Machine.InStep Memory.SameContents R m n → Alike R (k m) (l n)) →
        Alike R (.look k) (.look l)
  | change {f g : Machine σ → Machine σ} {c d : HostCall σ} :
      (∀ m n, Machine.InStep Memory.SameContents R m n →
        Machine.InStep Memory.SameContents R (f m) (g n)) →
        Alike R c d → Alike R (.change f c) (.change g d)
  | execute (entry : FarPtr) (o : ExecuteOptions) {k l : Except Fault Registers → HostCall σ} :
      (∀ r, Alike R (k r) (l r)) → Alike R (.execute entry o k) (.execute entry o l)

structure NativeModule.Respects {σ : Type} (R : σ → σ → Prop)
    (m : NativeModule σ) : Prop where
  setState : ∀ channel, RealMode.Respects R (m.setState channel)
  invoke : ∀ channel function,
    HostCall.Alike R (m.invoke channel function) (m.invoke channel function)
  updateSession : ∀ channel, RealMode.Respects R (m.updateSession channel)

namespace Run

variable {σ α β : Type} {R : σ → σ → Prop}

/-- From states in step, the same ending in states in step. -/
def Agree (R : σ → σ → Prop) (x y : Run σ α) : Prop :=
  ∀ s t : Running σ, s.InStep R t → SameAnswer (Running.InStep R) (x s) (y t)

namespace Agree

theorem pure (a : α) : Agree R (pure a) (pure a) := fun _ _ same => ⟨_, same⟩

theorem fault (e : Fault) : Agree R (fault e : Run σ α) (fault e) := fun _ _ same => ⟨_, same⟩

theorem bind {x y : Run σ α} {f g : α → Run σ β} (first : Agree R x y)
    (rest : ∀ a, Agree R (f a) (g a)) :
    Agree R (x >>= f) (y >>= g) := by
  intro s t same
  have ends := first s t same
  rw [bind_eq, bind_eq]
  revert ends
  generalize x s = left, y t = right
  rintro ⟨ending, inner⟩
  cases ending with
  | done a => exact rest a _ _ inner
  | faulted e => exact ⟨_, inner⟩
  | unfinished => exact ⟨_, inner⟩

theorem ofExec {x : Exec σ α}
    (respects : RealMode.Respects (Machine.InStep Memory.SameContents R) x) :
    Agree R (ofExec x) (ofExec x) := by
  intro s t same
  have ends := respects _ _ same.machine
  rw [Run.ofExec, Run.ofExec]
  revert ends
  generalize x s.machine = left, x t.machine = right
  rintro (⟨a, machines⟩ | ⟨e, machines⟩)
  · exact ⟨_, same.withMachine machines⟩
  · exact ⟨_, same.withMachine machines⟩

theorem registers : Agree R (registers : Run σ Registers) registers :=
  ofExec Exec.respects_registers

theorem deeper {x y : Run σ α} (agree : Agree R x y) : Agree R (deeper x) (deeper y) := by
  intro s t same
  have ends := agree { s with depth := s.depth + 1 } { t with depth := t.depth + 1 }
    ⟨same.machine, congrArg (· + 1) same.depth⟩
  rw [Run.deeper, Run.deeper]
  revert ends
  generalize x { s with depth := s.depth + 1 } = left, y { t with depth := t.depth + 1 } = right
  rintro ⟨ending, inner⟩
  exact ⟨ending, inner.machine, congrArg (· - 1) inner.depth⟩

theorem preserving {x y : Run σ α} (agree : Agree R x y) :
    Agree R (preserving x) (preserving y) := by
  intro s t same
  have ends := agree s t same
  rw [Run.preserving, Run.preserving]
  revert ends
  generalize x s = left, y t = right
  rintro @⟨ending, s', t', inner⟩
  dsimp only
  by_cases outermost : s'.depth = 0
  · rw [if_pos outermost, if_pos (inner.depth ▸ outermost)]
    exact ⟨ending, inner⟩
  · rw [if_neg outermost, if_neg (inner.depth ▸ outermost)]
    exact ⟨ending, ⟨same.machine.registers, inner.machine.memory, inner.machine.host⟩,
      inner.depth⟩

end Agree

end Run

namespace Wiring

open Run

variable {σ : Type} {R : σ → σ → Prop} {w : Wiring σ}

/-- The segments of modules are no part of what a board wires the processor to. -/
theorem wired_ofBoard {P : ∀ ⦃α : Type⦄, Exec σ α → Prop} {board : Board σ}
    (wired : Exec.Wired P board) (modules : ModuleTable σ) :
    Exec.Wired P (ofBoard board modules).board := by
  rw [ofBoard]
  generalize modules.segments = segments
  induction segments generalizing board with
  | nil => exact wired
  | cons segment segments ih =>
    have further : Exec.Wired P (board.withImport segment) :=
      ⟨wired.handlers, wired.reads, wired.writes⟩
    exact ih further

theorem agree_prepare (entry : FarPtr) (o : ExecuteOptions) :
    Agree R (ofExec (prepare entry o)) (ofExec (prepare entry o)) := by
  have closed := Exec.compositional_respects (R := R) Memory.journalOnly_sameContents
  refine .ofExec
    (closed.bind (closed.setRegisters _) fun _ => closed.bind (closed.pushAll _) fun _ => ?_)
  split
  · exact closed.bind (closed.modifyRegisters _) fun _ =>
      closed.bind (closed.push _) fun _ => closed.push _
  · exact closed.pure ()

theorem agree_interpret {execute : FarPtr → ExecuteOptions → Run σ Registers}
    (agree : ∀ entry o, Agree R (execute entry o) (execute entry o)) {c d : HostCall σ}
    (alike : HostCall.Alike R c d) : Agree R (interpret execute c) (interpret execute d) := by
  induction alike with
  | finish result => cases result <;> exact fun _ _ same => ⟨_, same⟩
  | look _ ih => exact fun s t same => ih s.machine t.machine same.machine s t same
  | change keeps _ ih => exact fun s t same => ih _ _ (same.withMachine (keeps _ _ same.machine))
  | execute entry o _ ih =>
    intro s t same
    have ends := agree entry o s t same
    simp only [interpret]
    revert ends
    generalize execute entry o s = left, execute entry o t = right
    rintro ⟨ending, inner⟩
    cases ending with
    | done r => exact ih (.ok r) _ _ inner
    | faulted e => exact ih (.error e) _ _ inner
    | unfinished => exact ⟨_, inner⟩

theorem agree_setStates (channel : UInt16) {ms : List (NativeModule σ)}
    (native : ∀ m ∈ ms, m.Respects R) :
    Agree R (setStates channel ms) (setStates channel ms) := by
  induction ms with
  | nil => exact .pure ()
  | cons m ms ih =>
    have first := (native m List.mem_cons_self).setState channel
    exact .bind (.ofExec (Exec.respects_onHost first)) fun _ =>
      ih fun other inside => native other (List.mem_cons_of_mem m inside)

section Modules

variable (native : ∀ m ∈ w.modules.modules, m.Respects R)
include native

theorem respects_of_get? {segment : UInt16} {m : NativeModule σ}
    (found : w.modules.get? segment = some m) :
    m.Respects R := native m (List.mem_of_find?_eq_some found)

theorem agree_opening (entry : FarPtr) (o : ExecuteOptions) :
    Agree R (w.opening entry o) (w.opening entry o) := by
  refine .bind (agree_prepare entry o) fun _ => ?_
  split
  · exact .pure ()
  · exact agree_setStates _ native

theorem agree_closing (o : ExecuteOptions) : Agree R (w.closing o) (w.closing o) := by
  rw [closing]
  split
  · exact .pure ()
  · next m primary =>
    obtain ⟨segment, _, found⟩ := Option.bind_eq_some_iff.1 primary
    split
    · exact .pure ()
    · exact .ofExec (Exec.respects_onHost ((respects_of_get? native found).updateSession _))

theorem agree_executeWith {go : UInt16 → Run σ Unit}
    (agree : ∀ channel, Agree R (go channel) (go channel)) (entry : FarPtr) (o : ExecuteOptions) :
    Agree R (w.executeWith go entry o) (w.executeWith go entry o) := by
  refine .preserving (.deeper ?_)
  rw [runFrom_eq]
  exact .bind (agree_opening native entry o) fun _ => .bind (agree _) fun _ =>
    .bind .registers fun _ =>
    .bind (agree_closing native o) fun _ => .pure _

theorem agree_externalCall {go : UInt16 → Run σ Unit}
    (agree : ∀ channel, Agree R (go channel) (go channel)) (entry : FarPtr) (channel : UInt16) :
    Agree R (w.externalCall go entry channel) (w.externalCall go entry channel) := by
  rw [externalCall]
  cases found : w.modules.get? entry.segment with
  | none => exact .fault _
  | some m =>
    have closed := Exec.compositional_respects (R := R) Memory.journalOnly_sameContents
    have invoked := (respects_of_get? native found).invoke channel entry.offset
    exact .bind (agree_interpret (agree_executeWith native agree) invoked) fun value =>
      .ofExec (closed.bind (closed.modifyRegisters _) fun _ => closed.farReturn 0)

variable (wired : Exec.Wired (fun α => @Respects (Machine σ) α (Machine.InStep Eq R)) w.board)
include wired

/-- By induction on the ticks, which the runs that modules ask for have fewer of. -/
theorem agree_drive (ticks : Nat) (channel : UInt16) :
    Agree R (w.drive ticks channel) (w.drive ticks channel) := by
  induction ticks generalizing channel with
  | zero => exact fun _ _ same => ⟨_, same⟩
  | succ n ih =>
    intro s t same
    have ends := Processor.respects_tick wired s.machine t.machine same.machine
    rw [drive, drive]
    revert ends
    generalize Processor.tick w.board s.machine = left, Processor.tick w.board t.machine = right
    rintro (@⟨result, m, m', machines⟩ | @⟨e, m, m', machines⟩)
    · have inner := same.withMachine machines
      cases result with
      | executed => exact ih channel _ _ inner
      | halted => exact ⟨_, inner⟩
      | external entry =>
        have served := agree_externalCall native ih entry channel _ _ inner
        dsimp only
        revert served
        generalize w.externalCall (w.drive n) entry channel { s with machine := m } = left,
          w.externalCall (w.drive n) entry channel { t with machine := m' } = right
        rintro ⟨ending, after⟩
        cases ending with
        | done u => exact ih channel _ _ after
        | faulted e => exact ⟨_, after⟩
        | unfinished => exact ⟨_, after⟩
    · exact ⟨_, same.withMachine machines⟩

/-- A run sets its registers before anything else, so nothing is asked of those that it finds. -/
theorem start_of_alike (ticks : Nat) (r : Registers) (channel : UInt16) {s t : Running σ}
    (memory : s.machine.memory.SameContents t.machine.memory)
    (host : R s.machine.host t.machine.host) (depth : s.depth = t.depth) :
    SameAnswer (Running.InStep R) (w.start ticks r channel s) (w.start ticks r channel t) := by
  have rest : Agree R (Run.deeper (w.drive ticks channel) >>= fun _ => Run.registers)
      (Run.deeper (w.drive ticks channel) >>= fun _ => Run.registers) :=
    .bind (.deeper (agree_drive native wired ticks channel)) fun _ => .registers
  exact rest { s with machine := { s.machine with registers := r } }
    { t with machine := { t.machine with registers := r } } ⟨⟨rfl, memory, host⟩, depth⟩

end Modules

end Wiring

end RealMode
