import RealMode.Proofs.Depth
import RealMode.Proofs.Tick

/-!
# Nested runs

A module runs guest code only while the run that called it is in progress. The depth is then above
zero, so the registers that the module left are put back, however the nested run ends. An outermost
run keeps the registers that it ends with.
-/

namespace RealMode

/-- The call, carried out from `s`, comes to run guest code at `entry` in the last state. -/
inductive HostCall.Requests {σ : Type} (execute : FarPtr → ExecuteOptions → Run σ Registers) :
    HostCall σ → Running σ → FarPtr → ExecuteOptions → Running σ → Prop
  | here {entry : FarPtr} {o : ExecuteOptions} {k : Except Fault Registers → HostCall σ}
      {s : Running σ} : Requests execute (.execute entry o k) s entry o s
  | look {k : Machine σ → HostCall σ} {s t : Running σ} {entry : FarPtr} {o : ExecuteOptions} :
      Requests execute (k s.machine) s entry o t → Requests execute (.look k) s entry o t
  | change {f : Machine σ → Machine σ} {next : HostCall σ} {s t : Running σ} {entry : FarPtr}
      {o : ExecuteOptions} :
      Requests execute next { s with machine := f s.machine } entry o t →
        Requests execute (.change f next) s entry o t
  | done {e entry : FarPtr} {p o : ExecuteOptions} {k : Except Fault Registers → HostCall σ}
      {s s' t : Running σ} {r : Registers} :
      execute e p s = (.done r, s') → Requests execute (k (.ok r)) s' entry o t →
        Requests execute (.execute e p k) s entry o t
  | faulted {e entry : FarPtr} {p o : ExecuteOptions} {k : Except Fault Registers → HostCall σ}
      {s s' t : Running σ} {f : Fault} :
      execute e p s = (.faulted f, s') → Requests execute (k (.error f)) s' entry o t →
        Requests execute (.execute e p k) s entry o t

namespace Wiring

variable {σ : Type} (w : Wiring σ)

/-- A run on this channel is in progress, with the next tick due and this many ticks left. -/
inductive InProgress : Nat → UInt16 → Running σ → Prop
  | execute {n : Nat} {entry : FarPtr} {o : ExecuteOptions} {s t : Running σ} :
      w.opening entry o { s with depth := s.depth + 1 } = (.done (), t) → InProgress n o.channel t
  | start {n : Nat} {channel : UInt16} {s : Running σ} (r : Registers) :
      InProgress n channel ⟨{ s.machine with registers := r }, s.depth + 1⟩
  | executed {n : Nat} {channel : UInt16} {s : Running σ} {m : Machine σ} :
      InProgress (n + 1) channel s → Processor.tick w.board s.machine = .ok .executed m →
        InProgress n channel { s with machine := m }
  | served {n : Nat} {channel : UInt16} {s t : Running σ} {m : Machine σ} {callee : FarPtr} :
      InProgress (n + 1) channel s →
        Processor.tick w.board s.machine = .ok (.external callee) m →
        w.externalCall (w.drive n) callee channel { s with machine := m } = (.done (), t) →
        InProgress n channel t

/-- In the course of a run, the module that serves a far call comes to run guest code in state
`t`. -/
def CallsBack (n : Nat) (entry : FarPtr) (o : ExecuteOptions) (t : Running σ) : Prop :=
  ∃ channel s callee m module, w.InProgress (n + 1) channel s ∧
    Processor.tick w.board s.machine = .ok (.external callee) m ∧
    w.modules.get? callee.segment = some module ∧
    (module.invoke channel callee.offset).Requests (w.execute n) { s with machine := m } entry o t

/-- The states between outermost runs. Their owner may do anything to the machine. -/
inductive Idle : Running σ → Prop
  | fresh (m : Machine σ) : Idle ⟨m, 0⟩
  | change {s : Running σ} (m : Machine σ) : Idle s → Idle { s with machine := m }
  | execute {s : Running σ} (n : Nat) (entry : FarPtr) (o : ExecuteOptions) :
      Idle s → Idle (w.execute n entry o s).2
  | start {s : Running σ} (n : Nat) (r : Registers) (channel : UInt16) :
      Idle s → Idle (w.start n r channel s).2

/-- The ticks of a run that is begun in `s` end with the machine halted and with registers `r`. -/
def HaltsWith (n : Nat) (entry : FarPtr) (o : ExecuteOptions) (s : Running σ)
    (r : Registers) : Prop :=
  ∃ t m u, w.opening entry o { s with depth := s.depth + 1 } = (.done (), t) ∧
    w.drive n o.channel t = (.done (), u) ∧
    Processor.tick w.board m = .ok .halted u.machine ∧ u.machine.registers = r

variable {w} {n : Nat} {channel : UInt16} {entry : FarPtr} {o : ExecuteOptions} {s t : Running σ}

theorem InProgress.depth_pos (h : w.InProgress n channel s) : 0 < s.depth := by
  induction h with
  | @execute n entry o s t opened =>
    have kept := w.keepsDepth_opening entry o { s with depth := s.depth + 1 }
    rw [opened] at kept
    exact kept ▸ Nat.succ_pos s.depth
  | start r => exact Nat.succ_pos _
  | executed _ _ ih => exact ih
  | @served n channel s t m callee _ _ ran ih =>
    have kept :=
      keepsDepth_externalCall (w := w) (w.keepsDepth_drive n) callee channel { s with machine := m }
    rw [ran] at kept
    exact kept ▸ ih

theorem depth_of_requests {execute : FarPtr → ExecuteOptions → Run σ Registers}
    (keeps : ∀ entry o, (execute entry o).KeepsDepth) {call : HostCall σ}
    (h : call.Requests execute s entry o t) : t.depth = s.depth := by
  induction h with
  | here => rfl
  | look _ ih => exact ih
  | change _ ih => exact ih
  | @done e _ p _ k s s' t r ran _ ih =>
    have kept := keeps e p s
    rw [ran] at kept
    exact ih.trans kept
  | @faulted e _ p _ k s s' t f ran _ ih =>
    have kept := keeps e p s
    rw [ran] at kept
    exact ih.trans kept

theorem CallsBack.depth_pos (h : w.CallsBack n entry o t) : 0 < t.depth := by
  obtain ⟨channel, s, callee, m, module, running, _, _, requested⟩ := h
  rw [depth_of_requests (w.keepsDepth_execute n) requested]
  exact running.depth_pos

theorem Idle.depth_eq (h : w.Idle s) : s.depth = 0 := by
  induction h with
  | fresh m => rfl
  | change m _ ih => exact ih
  | execute n entry o _ ih => exact (w.keepsDepth_execute n entry o _).trans ih
  | start n r channel _ ih => exact (w.keepsDepth_start n r channel _).trans ih

theorem registers_closing (s : Running σ) :
    (w.closing o s).2.machine.registers = s.machine.registers := by
  rw [closing]
  cases w.modules.primary? with
  | none => rfl
  | some m =>
    dsimp only
    split
    · rfl
    · simp only [Run.ofExec, Exec.onHost]
      cases m.updateSession o.channel s.machine.host <;> rfl

/-- The ticks end well only with a halted machine. -/
theorem of_drive_done (ended : w.drive n channel s = (.done (), t)) :
    ∃ m, Processor.tick w.board m = .ok .halted t.machine := by
  induction n generalizing s with
  | zero => cases ended
  | succ n ih =>
    rw [drive] at ended
    cases ticked : Processor.tick w.board s.machine with
    | error e m =>
      rw [ticked] at ended
      cases ended
    | ok result m =>
      rw [ticked] at ended
      cases result with
      | executed => exact ih ended
      | halted =>
        cases ended
        exact ⟨s.machine, ticked⟩
      | external callee =>
        dsimp only at ended
        split at ended
        · exact ih ended
        · cases ended
        · cases ended

/-- A run that ends well gives the registers that its ticks ended with, and leaves them. -/
theorem of_runFrom_done {r : Registers} (ended : w.runFrom (w.drive n) entry o s = (.done r, t)) :
    ∃ u v, w.opening entry o s = (.done (), u) ∧ w.drive n o.channel u = (.done (), v) ∧
      v.machine.registers = r ∧ t.machine.registers = r := by
  rw [runFrom_eq] at ended
  obtain ⟨_, u, opened, rest₁⟩ := Run.of_bind_done ended
  obtain ⟨_, v, driven, rest₂⟩ := Run.of_bind_done rest₁
  obtain ⟨_, v', read, rest₃⟩ := Run.of_bind_done rest₂
  cases read
  obtain ⟨_, t', closed, last⟩ := Run.of_bind_done rest₃
  cases last
  refine ⟨u, v, opened, driven, rfl, ?_⟩
  have kept := registers_closing (w := w) (o := o) v
  rwa [closed] at kept

/-- What an execution makes of its run: the depth is as before, and so are the registers unless
it is an outermost one. -/
theorem execute_eq (w : Wiring σ) (n : Nat) (entry : FarPtr) (o : ExecuteOptions)
    (s : Running σ) :
    ∃ ending t, w.runFrom (w.drive n) entry o { s with depth := s.depth + 1 } = (ending, t) ∧
      w.execute n entry o s =
        (ending, ⟨if s.depth = 0 then t.machine
          else { t.machine with registers := s.machine.registers }, s.depth⟩) := by
  have kept := keepsDepth_runFrom (w := w) (w.keepsDepth_drive n) entry o
    { s with depth := s.depth + 1 }
  obtain ⟨ending, t, ran⟩ : ∃ ending t,
      w.runFrom (w.drive n) entry o { s with depth := s.depth + 1 } = (ending, t) := ⟨_, _, rfl⟩
  refine ⟨ending, t, ran, ?_⟩
  rw [ran] at kept
  have same : t.depth - 1 = s.depth := Nat.sub_eq_of_eq_add kept
  simp only [execute, executeWith, Run.preserving, Run.deeper, ran, same]
  split <;> rfl

theorem registers_execute_of_nested (w : Wiring σ) (n : Nat) (entry : FarPtr) (o : ExecuteOptions)
    (nested : 0 < s.depth) :
    (w.execute n entry o s).2.machine.registers = s.machine.registers := by
  obtain ⟨ending, t, _, same⟩ := w.execute_eq n entry o s
  rw [same, if_neg (Nat.ne_of_gt nested)]

theorem machine_execute_of_outermost (w : Wiring σ) (n : Nat) (entry : FarPtr)
    (o : ExecuteOptions) (outermost : s.depth = 0) :
    (w.execute n entry o s).2.machine =
      (w.runFrom (w.drive n) entry o { s with depth := 1 }).2.machine := by
  obtain ⟨ending, t, ran, same⟩ := w.execute_eq n entry o s
  rw [outermost] at ran
  rw [same, if_pos outermost, ran]

/-- On a good ending the registers returned are those of the halted machine, and an
outermost run leaves them. -/
theorem of_execute_done {r : Registers} (ended : (w.execute n entry o s).1 = .done r) :
    w.HaltsWith n entry o s r ∧ r.halt = true ∧
      (s.depth = 0 → (w.execute n entry o s).2.machine.registers = r) := by
  obtain ⟨ending, t, ran, same⟩ := w.execute_eq n entry o s
  rw [same] at ended
  cases ended
  obtain ⟨u, v, opened, driven, last, left⟩ := of_runFrom_done ran
  obtain ⟨m, halted⟩ := of_drive_done driven
  refine ⟨⟨u, m, v, opened, driven, halted, last⟩, last ▸ Processor.halt_of_tick halted,
    fun outer => ?_⟩
  rw [same, if_pos outer]
  exact left

/-- Guest code that a module runs leaves the caller's registers as they were, however it ends. If it
ends well, the registers returned are those that its machine halted with. Between outermost runs the
depth is zero again, so that the next one leaves its own registers. -/
theorem nested_runs_invisible (w : Wiring σ) :
    (∀ n entry o s, w.CallsBack n entry o s →
      (w.execute n entry o s).2.machine.registers = s.machine.registers ∧
        ∀ r, (w.execute n entry o s).1 = .done r →
          r.halt = true ∧ w.HaltsWith n entry o s r) ∧
    (∀ s, w.Idle s → s.depth = 0 ∧ ∀ n entry o,
      (w.execute n entry o s).2.machine =
        (w.runFrom (w.drive n) entry o { s with depth := 1 }).2.machine ∧
      ∀ r, (w.execute n entry o s).1 = .done r →
        (w.execute n entry o s).2.machine.registers = r) := by
  refine ⟨fun n entry o s called => ⟨?_, fun r ended => ?_⟩,
    fun s idle => ⟨idle.depth_eq, fun n entry o => ⟨?_, fun r ended => ?_⟩⟩⟩
  · exact w.registers_execute_of_nested n entry o called.depth_pos
  · obtain ⟨halts, halted, _⟩ := of_execute_done ended
    exact ⟨halted, halts⟩
  · exact w.machine_execute_of_outermost n entry o idle.depth_eq
  · exact (of_execute_done ended).2.2 idle.depth_eq

/-- Function 0 runs function 1 as guest code, which changes BX. -/
def callback : NativeModule Unit where
  name := "CALLBACK"
  segment := 0xf001
  setState _ := pure ()
  invoke _ function :=
    if function = 0 then .execute ⟨0xf001, 1⟩ {} fun _ => .finish (.ok .nothing)
    else .change (fun m => { m with registers := { m.registers with bx := 0x1234 } })
      (.finish (.ok .nothing))
  updateSession _ := pure ()

def callbackWiring : Wiring Unit := ofBoard .bare ⟨[callback], some callback.segment⟩

/-- A run that has come to function 0. -/
def beforeCallback : Running Unit :=
  ⟨⟨{ Registers.reset stackTop with cs := callback.segment }, .fresh, ()⟩, 1⟩

/-- The caller does not see that BX was changed. -/
theorem callback_invisible :
    callbackWiring.CallsBack 2 ⟨0xf001, 1⟩ {} beforeCallback ∧
      ∃ r, (callbackWiring.execute 2 ⟨0xf001, 1⟩ {} beforeCallback).1 = .done r ∧
        r.halt = true ∧ r.bx = 0x1234 ∧
        (callbackWiring.execute 2 ⟨0xf001, 1⟩ {} beforeCallback).2.machine.registers.bx =
          0 := by
  have called : callbackWiring.CallsBack 2 ⟨0xf001, 1⟩ {} beforeCallback :=
    ⟨0, beforeCallback, ⟨0xf001, 0⟩, beforeCallback.machine, callback,
      .start (s := ⟨beforeCallback.machine, 0⟩) beforeCallback.machine.registers,
      rfl, rfl, .here⟩
  obtain ⟨r, ended, changed⟩ : ∃ r,
      (callbackWiring.execute 2 ⟨0xf001, 1⟩ {} beforeCallback).1 = .done r ∧ r.bx = 0x1234 :=
    ⟨_, rfl, by decide⟩
  obtain ⟨kept, returned⟩ := (nested_runs_invisible callbackWiring).1 _ _ _ _ called
  exact ⟨called, r, ended, (returned r ended).1, changed, by rw [kept]; rfl⟩

end Wiring

end RealMode
