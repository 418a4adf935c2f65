import RealMode.Run

/-!
# The depth of a run

The depth counts the runs in progress. A run, and everything that happens in it, leaves the depth as
it was, whatever its ending: what is added before a nested run is taken off after it.
-/

namespace RealMode

namespace Run

variable {σ α β : Type}

def KeepsDepth (x : Run σ α) : Prop := ∀ s : Running σ, (x s).2.depth = s.depth

theorem bind_eq (x : Run σ α) (f : α → Run σ β) (s : Running σ) :
    (x >>= f) s =
      match x s with
      | (.done a, s) => f a s
      | (.faulted e, s) => (.faulted e, s)
      | (.unfinished, s) => (.unfinished, s) := rfl

theorem of_bind_done {x : Run σ α} {f : α → Run σ β} {b : β} {s s'' : Running σ}
    (ended : (x >>= f) s = (.done b, s'')) :
    ∃ a s', x s = (.done a, s') ∧ f a s' = (.done b, s'') := by
  rw [bind_eq] at ended
  split at ended
  · rename_i a s' first
    exact ⟨a, s', first, ended⟩
  · cases ended
  · cases ended

theorem bind_assoc {γ : Type} (x : Run σ α) (f : α → Run σ β) (g : β → Run σ γ) :
    x >>= f >>= g = x >>= fun a => f a >>= g := by
  funext s
  simp only [bind_eq]
  obtain ⟨ending, s', ran⟩ : ∃ ending s', x s = (ending, s') := ⟨_, _, rfl⟩
  rw [ran]
  cases ending <;> rfl

namespace KeepsDepth

theorem pure (a : α) : KeepsDepth (pure a : Run σ α) := fun _ => rfl

theorem fault (e : Fault) : KeepsDepth (fault e : Run σ α) := fun _ => rfl

theorem bind {x : Run σ α} {f : α → Run σ β} (hx : KeepsDepth x)
    (hf : ∀ a, KeepsDepth (f a)) :
    KeepsDepth (x >>= f) := by
  intro s
  have first := hx s
  obtain ⟨ending, s', ran⟩ : ∃ ending s', x s = (ending, s') := ⟨_, _, rfl⟩
  rw [ran] at first
  rw [bind_eq, ran]
  cases ending with
  | done a => exact (hf a s').trans first
  | faulted e => exact first
  | unfinished => exact first

theorem ofExec (x : Exec σ α) : KeepsDepth (ofExec x) := by
  intro s
  rw [Run.ofExec]
  cases x s.machine <;> rfl

theorem registers : KeepsDepth (registers : Run σ Registers) := ofExec Exec.registers

theorem deeper {x : Run σ α} (hx : KeepsDepth x) : KeepsDepth (deeper x) := by
  intro s
  have inside := hx { s with depth := s.depth + 1 }
  simp only [Run.deeper, inside, Nat.add_sub_cancel]

theorem preserving {x : Run σ α} (hx : KeepsDepth x) : KeepsDepth (preserving x) := by
  intro s
  rw [Run.preserving]
  dsimp only
  split <;> exact hx s

end KeepsDepth

end Run

namespace Wiring

open Run

variable {σ : Type} (w : Wiring σ)

theorem keepsDepth_setStates (channel : UInt16) (ms : List (NativeModule σ)) :
    KeepsDepth (setStates channel ms) := by
  induction ms with
  | nil => exact .pure ()
  | cons m ms ih => exact .bind (.ofExec _) fun _ => ih

/-- What comes before the ticks of a run. -/
def opening (entry : FarPtr) (o : ExecuteOptions) : Run σ Unit := do
  Run.ofExec (prepare entry o)
  if o.bypassState then pure () else setStates o.channel w.modules.modules

/-- What comes after them. -/
def closing (o : ExecuteOptions) : Run σ Unit :=
  match w.modules.primary? with
  | none => pure ()
  | some m =>
    if o.bypassState || !o.stackValues.isEmpty then pure ()
    else Run.ofExec (Exec.onHost (m.updateSession o.channel))

theorem runFrom_eq (go : UInt16 → Run σ Unit) (entry : FarPtr) (o : ExecuteOptions) :
    w.runFrom go entry o = (do
      w.opening entry o
      go o.channel
      let r ← Run.registers
      w.closing o
      return r) := by
  rw [runFrom, opening, closing]
  rw [bind_assoc]
  cases o.bypassState with
  | true => cases w.modules.primary? <;> rfl
  | false =>
    cases w.modules.primary? with
    | none => rfl
    | some m => cases o.stackValues.isEmpty <;> rfl

theorem keepsDepth_opening (entry : FarPtr) (o : ExecuteOptions) :
    KeepsDepth (w.opening entry o) := by
  refine .bind (.ofExec _) fun _ => ?_
  split
  · exact .pure ()
  · exact keepsDepth_setStates _ _

theorem keepsDepth_closing (o : ExecuteOptions) : KeepsDepth (w.closing o) := by
  rw [closing]
  split
  · exact .pure ()
  · split
    · exact .pure ()
    · exact .ofExec _

variable {w}

theorem keepsDepth_runFrom {go : UInt16 → Run σ Unit}
    (keeps : ∀ channel, KeepsDepth (go channel)) (entry : FarPtr) (o : ExecuteOptions) :
    KeepsDepth (w.runFrom go entry o) := by
  rw [runFrom_eq]
  exact .bind (w.keepsDepth_opening entry o) fun _ => .bind (keeps _) fun _ =>
    .bind .registers fun _ => .bind (w.keepsDepth_closing o) fun _ => .pure _

theorem keepsDepth_executeWith {go : UInt16 → Run σ Unit}
    (keeps : ∀ channel, KeepsDepth (go channel)) (entry : FarPtr) (o : ExecuteOptions) :
    KeepsDepth (w.executeWith go entry o) :=
  .preserving (.deeper (keepsDepth_runFrom keeps entry o))

/-- A module reaches the depth only through the guest code that it runs. -/
theorem keepsDepth_interpret {execute : FarPtr → ExecuteOptions → Run σ Registers}
    (keeps : ∀ entry o, KeepsDepth (execute entry o)) (call : HostCall σ) :
    KeepsDepth (interpret execute call) := by
  induction call with
  | finish result => cases result <;> exact fun _ => rfl
  | look k ih => exact fun s => ih s.machine s
  | change f next ih => exact fun s => ih { s with machine := f s.machine }
  | execute entry o k ih =>
    intro s
    have nested := keeps entry o s
    obtain ⟨ending, s', ran⟩ : ∃ ending s', execute entry o s = (ending, s') :=
      ⟨_, _, rfl⟩
    rw [ran] at nested
    simp only [interpret, ran]
    cases ending with
    | done r => exact (ih (.ok r) s').trans nested
    | faulted e => exact (ih (.error e) s').trans nested
    | unfinished => exact nested

theorem keepsDepth_externalCall {go : UInt16 → Run σ Unit}
    (keeps : ∀ channel, KeepsDepth (go channel)) (entry : FarPtr) (channel : UInt16) :
    KeepsDepth (w.externalCall go entry channel) := by
  rw [externalCall]
  cases w.modules.get? entry.segment with
  | none => exact .fault _
  | some m =>
    exact .bind (keepsDepth_interpret (keepsDepth_executeWith keeps) _) fun _ => .ofExec _

variable (w)

/-- By induction on the ticks, which the runs that modules ask for have fewer of. -/
theorem keepsDepth_drive (ticks : Nat) (channel : UInt16) : KeepsDepth (w.drive ticks channel) := by
  induction ticks generalizing channel with
  | zero => exact fun _ => rfl
  | succ n ih =>
    intro s
    rw [drive]
    cases Processor.tick w.board s.machine with
    | error e m => rfl
    | ok result m =>
      cases result with
      | executed => exact ih channel { s with machine := m }
      | halted => rfl
      | external entry =>
        have served := keepsDepth_externalCall (w := w) ih entry channel { s with machine := m }
        obtain ⟨ending, s', ran⟩ : ∃ ending s',
            w.externalCall (w.drive n) entry channel { s with machine := m } = (ending, s') :=
          ⟨_, _, rfl⟩
        rw [ran] at served
        simp only [ran]
        cases ending with
        | done u => exact (ih channel s').trans served
        | faulted e => exact served
        | unfinished => exact served

theorem keepsDepth_execute (ticks : Nat) (entry : FarPtr) (o : ExecuteOptions) :
    KeepsDepth (w.execute ticks entry o) :=
  keepsDepth_executeWith (w.keepsDepth_drive ticks) entry o

theorem keepsDepth_start (ticks : Nat) (r : Registers) (channel : UInt16) :
    KeepsDepth (w.start ticks r channel) :=
  .bind (.ofExec _) fun _ => .bind (.deeper (w.keepsDepth_drive ticks channel)) fun _ => .registers

end Wiring

end RealMode
