import RealMode.CommandLine
import RealMode.Proofs.AlikeHosts
import RealMode.Proofs.FreshLoads
import RealMode.Proofs.LockstepRuns

/-!
# Running a program again

Loading a program again gives it new memory and new registers, whatever earlier rounds have left
there. The host is not made new: handles that are still open, the rest of a search, interrupt
vectors, the turn of a timer channel and names that were asked for are there for the next round to
find. So a round is like the first one of a new program as long as the host looks new.
-/

namespace RealMode

namespace Timer

variable {c d : Channel}

theorem alike_of_turns (left : c.access = .lowThenHigh) (right : d.access = .lowThenHigh)
    (turns : c.sequence % 2 = d.sequence % 2) : c.Alike d := by
  intro counts
  induction counts generalizing c d with
  | nil => rfl
  | cons count counts ih =>
    have half : c.half count = d.half count := by rw [Channel.half, Channel.half, turns]
    have next : (c.sequence + 1) % 2 = (d.sequence + 1) % 2 := by
      rw [← UInt32.toNat_inj] at turns ⊢
      simp only [UInt32.toNat_mod, UInt32.toNat_add, UInt32.reduceToNat] at turns ⊢
      omega
    simp only [Channel.shows, Channel.read, left, right, half]
    exact congrArg _ (ih rfl rfl next)

/-- The channel shows the low half next, and then the two in turn. -/
structure Channel.LooksNew (c : Channel) : Prop where
  access : c.access = .lowThenHigh
  turn : c.sequence % 2 = 0

theorem Channel.LooksNew.alike (new : c.LooksNew) : c.Alike {} :=
  alike_of_turns new.access rfl new.turn

end Timer

namespace Pc

variable {pc : Pc}

/-- A new host with the same clock, the same disk and directory, and a console that
fails in the same way. -/
def renewed (pc : Pc) : Pc :=
  let files := pc.dos.files
  { clock := pc.clock
    dos :=
      { files := .mount files.disk files.here files.root, console :=
        { failure := pc.dos.console.failure } } }

/-- Nothing is left in the host for a program to find. -/
structure LooksNew (pc : Pc) : Prop where
  channel0 : pc.timer.channel0.LooksNew
  channel1 : pc.timer.channel1.LooksNew
  channel2 : pc.timer.channel2.LooksNew
  handles : ∀ handle, pc.dos.files.openFile? handle = none
  search : pc.dos.files.found = []
  names : pc.dos.files.names.Alike pc.renewed.dos.files.names
  vectors : ∀ vector, (pc.dos.vectors.get? vector).getD .null = .null

theorem LooksNew.alike (new : pc.LooksNew) : pc.Alike pc.dos.console.written #[] pc.renewed where
  clock := rfl
  timer := ⟨new.channel0.alike, new.channel1.alike, new.channel2.alike⟩
  dos.files := {
    disk := rfl
    here := rfl
    root := rfl
    names := new.names
    handles := fun handle =>
    (new.handles handle).trans (Dos.FileSystem.openFile?_mount _ _ _ handle).symm
    found := new.search }
  dos.failure := rfl
  dos.written := ⟨#[], rfl, rfl⟩
  dos.vectors vector := by
    rw [new.vectors]
    rfl

end Pc

namespace Program

section Reloads

variable {σ : Type} {p : Program σ} {arguments : List String}

theorem reload_eq_ok {r : Registers} {m : Memory}
    (loaded : load p.config p.image arguments p.state.machine.memory = .ok r m) :
    p.reload arguments = (.ok r, { p with state.machine.memory := m, initial := some r }) := by
  rw [reload]
  dsimp only
  rw [loaded]

theorem reload_eq_error {e : Fault} {m : Memory}
    (refused : load p.config p.image arguments p.state.machine.memory = .error e m) :
    p.reload arguments = (.error e, { p with state.machine.memory := m, initial := none }) := by
  rw [reload]
  dsimp only
  rw [refused]

end Reloads

section Rounds

variable {p q : Program Pc}

/-- A program that has not been loaded yet, on a machine that nothing has run on. -/
def new (config : ProgramConfig) (image : Image) (wiring : Wiring Pc) (host : Pc) : Program Pc where
  config := config
  image := image
  wiring := wiring
  state := { machine := ⟨{}, .fresh, host⟩ }

def host (p : Program Pc) : Pc := p.state.machine.host

/-- What can become of a program through loads and runs. Clock, files and console can be changed
from outside in between. -/
inductive Used (p : Program Pc) : Program Pc → Prop
  | unused : Used p p
  | reload {q : Program Pc} (arguments : List String) : Used p q → Used p (q.reload arguments).2
  | run {q : Program Pc} (ticks : Nat) : Used p q → Used p (q.run ticks).2
  | resume {q : Program Pc} (ticks : Nat) : Used p q → Used p (q.resume ticks).2
  | outside {q : Program Pc} (f : Pc → Pc) : Used p q → Used p (q.modifyHost f)

/-- The program after a load that has made this memory and these registers. -/
def loaded (p : Program Pc) (m : Memory) (r : Registers) : Program Pc :=
  { p with state.machine.memory := m, initial := some r }

/-- Goes on for so many ticks at a time as long as that does not suffice. The
clock is set each time. -/
def goOn (p : Program Pc) : List (Clock × Nat) → Ending UInt8 × Program Pc
  | [] => (.unfinished, p)
  | (clock, ticks) :: slices =>
    match (p.withClock clock).resume ticks with
    | (.unfinished, p) => p.goOn slices
    | ended => ended

/-- Runs the loaded program, the first slice on the clock as it is. -/
def runThrough (p : Program Pc) (ticks : Nat) (slices : List (Clock × Nat)) :
    Ending UInt8 × Program Pc :=
  match p.run ticks with
  | (.unfinished, p) => p.goOn slices
  | ended => ended

/-- What neither loads nor runs change. -/
structure SameProgram (p q : Program Pc) : Prop where
  config : q.config = p.config
  image : q.image = p.image
  wiring : q.wiring = p.wiring
  depth : q.state.depth = p.state.depth

theorem sameProgram_ended (same : p.SameProgram q) (x : Ending Registers × Running Pc)
    (depth : x.2.depth = q.state.depth) : p.SameProgram (q.ended x).2 := by
  obtain ⟨ending, s⟩ := x
  cases ending <;> exact ⟨same.config, same.image, same.wiring, depth.trans same.depth⟩

theorem Used.same (used : Used p q) : p.SameProgram q := by
  induction used with
  | unused => exact ⟨rfl, rfl, rfl, rfl⟩
  | reload arguments _ ih =>
    rw [Program.reload]
    dsimp only
    split <;> exact ⟨ih.config, ih.image, ih.wiring, ih.depth⟩
  | run ticks _ ih =>
    rw [Program.run]
    split
    · exact ih
    · exact sameProgram_ended ih _ (Wiring.keepsDepth_start _ _ _ _ _)
  | resume ticks _ ih => exact sameProgram_ended ih _ (Wiring.keepsDepth_start _ _ _ _ _)
  | outside f _ ih => exact ⟨ih.config, ih.image, ih.wiring, ih.depth⟩

end Rounds

section Reruns

variable {config : ProgramConfig} {image : Image} {w : Wiring Pc} {before before' : Array UInt8}
  {p q : Program Pc}

/-- Two programs on the same board, in step but for what has been written to
their consoles before. -/
structure InStep (w : Wiring Pc) (before before' : Array UInt8) (p q : Program Pc) : Prop where
  left : p.wiring = w
  right : q.wiring = w
  config : p.config = q.config
  state : p.state.InStep (Pc.Alike before before') q.state

theorem run_loaded (p : Program Pc) (m : Memory) (r : Registers) (ticks : Nat) :
    (p.loaded m r).run ticks =
      (p.loaded m r).ended (p.wiring.start ticks r p.config.channel (p.loaded m r).state) := rfl

theorem InStep.withClock (same : InStep w before before' p q) (clock : Clock) :
    InStep w before before' (p.withClock clock) (q.withClock clock) :=
  have host := same.state.machine.host
  ⟨same.left, same.right, same.config,
    ⟨same.state.machine.registers, same.state.machine.memory, rfl, host.timer, host.dos⟩,
    same.state.depth⟩

theorem ended_alike (left : p.wiring = w) (right : q.wiring = w) (config : p.config = q.config)
    {x y : Ending Registers × Running Pc}
    (ends : SameAnswer (Running.InStep (Pc.Alike before before')) x y) :
    SameAnswer (InStep w before before') (p.ended x) (q.ended y) := by
  obtain ⟨ending, state⟩ := ends
  cases ending <;> exact ⟨_, left, right, config, state⟩

variable (native : ∀ m ∈ w.modules.modules, m.Respects (Pc.Alike before before'))
  (wired : Exec.Wired
    (fun α => @Respects (Machine Pc) α (Machine.InStep Eq (Pc.Alike before before'))) w.board)
include native wired

theorem InStep.resume (same : InStep w before before' p q) (ticks : Nat) :
    SameAnswer (InStep w before before') (p.resume ticks) (q.resume ticks) := by
  have ends := Wiring.start_of_alike native wired ticks p.state.machine.registers p.config.channel
    same.state.machine.memory same.state.machine.host same.state.depth
  rw [Program.resume, Program.resume, ← same.state.machine.registers, ← same.config,
    same.left, same.right]
  exact ended_alike same.left same.right same.config ends

theorem InStep.goOn (same : InStep w before before' p q) (slices : List (Clock × Nat)) :
    SameAnswer (InStep w before before') (p.goOn slices) (q.goOn slices) := by
  induction slices generalizing p q with
  | nil => exact ⟨_, same⟩
  | cons slice slices ih =>
    obtain ⟨clock, ticks⟩ := slice
    have resumed := (same.withClock clock).resume native wired ticks
    rw [Program.goOn, Program.goOn]
    revert resumed
    generalize (p.withClock clock).resume ticks = left, (q.withClock clock).resume ticks = right
    rintro ⟨ending, after⟩
    cases ending with
    | unfinished => exact ih after
    | done code => exact ⟨_, after⟩
    | faulted e => exact ⟨_, after⟩

theorem InStep.runThrough (left : p.wiring = w) (right : q.wiring = w)
    (config : p.config = q.config) (host : p.host.Alike before before' q.host)
    (depth : p.state.depth = q.state.depth) {m n : Memory} (contents : m.SameContents n)
    (r : Registers) (ticks : Nat) (slices : List (Clock × Nat)) :
    SameAnswer (InStep w before before') ((p.loaded m r).runThrough ticks slices)
      ((q.loaded n r).runThrough ticks slices) := by
  have first : SameAnswer (InStep w before before') ((p.loaded m r).run ticks)
      ((q.loaded n r).run ticks) := by
    have ends :=
      Wiring.start_of_alike native wired ticks r p.config.channel (s := (p.loaded m r).state)
      (t := (q.loaded n r).state) contents host depth
    rw [run_loaded, run_loaded, ← config, left, right]
    exact ended_alike (p := p.loaded m r) (q := q.loaded n r) left right config ends
  rw [Program.runThrough, Program.runThrough]
  revert first
  generalize (p.loaded m r).run ticks = left, (q.loaded n r).run ticks = right
  rintro ⟨ending, after⟩
  cases ending with
  | unfinished => exact after.goOn native wired slices
  | done code => exact ⟨_, after⟩
  | faulted e => exact ⟨_, after⟩

omit native wired in
theorem reload_of_error {e : Fault} {m : Memory} {arguments : List String}
    (failed : load p.config p.image arguments p.state.machine.memory = .error e m) :
    (p.reload arguments).1 = .error e ∧ (p.reload arguments).2.initial = none ∧
      (p.reload arguments).2.host = p.host := by
  rw [reload_eq_error failed]
  exact ⟨rfl, rfl, rfl⟩

omit native wired in
theorem reload_of_ok {r : Registers} {m : Memory} {arguments : List String}
    (loaded : load p.config p.image arguments p.state.machine.memory = .ok r m) :
    p.reload arguments = (.ok r, p.loaded m r) := reload_eq_ok loaded

omit native wired in
theorem runThrough_of_unloaded (unloaded : p.initial = none) (ticks : Nat)
    (slices : List (Clock × Nat)) :
    p.runThrough ticks slices = (.faulted .notLoaded, p) := by
  rw [runThrough, Program.run, unloaded]

end Reruns

/-- Wherever earlier rounds have left a program, once its host looks new a load and a run are those
of a new program: the same registers or fault, the same ending, and the same output. -/
theorem rerun_starts_over {config : ProgramConfig} {image : Image}
    {modules : ModuleTable Pc} {host : Pc} {p : Program Pc}
    (native : ∀ before before', ∀ m ∈ modules.modules, m.Respects (Pc.Alike before before'))
    (used : (new config image (.ofBoard Pc.board modules) host).Used p) (looks : p.host.LooksNew)
    (arguments : List String) (ticks : Nat) (slices : List (Clock × Nat)) :
    let again := p.reload arguments
    let first := (new config image (.ofBoard Pc.board modules) p.host.renewed).reload arguments
    again.1 = first.1 ∧
      (again.2.runThrough ticks slices).1 = (first.2.runThrough ticks slices).1 ∧
      (again.2.runThrough ticks slices).2.output =
        p.output ++ (first.2.runThrough ticks slices).2.output := by
  intro again first
  have same := used.same
  have sameConfig : p.config = config := same.config
  have sameImage : p.image = image := same.image
  let fresh := new config image (.ofBoard Pc.board modules) p.host.renewed
  have alike : p.host.Alike p.output #[] fresh.host := looks.alike
  rcases load_cases config image arguments p.state.machine.memory fresh.state.machine.memory with
    ⟨e, m, n, left, right⟩ | ⟨r, m, n, left, right, contents⟩
  · rw [← sameConfig, ← sameImage] at left
    obtain ⟨refused, unloaded, kept⟩ := reload_of_error left
    obtain ⟨refused', unloaded', kept'⟩ := reload_of_error (p := fresh) right
    have ended := runThrough_of_unloaded unloaded ticks slices
    have ended' := runThrough_of_unloaded unloaded' ticks slices
    have written : again.2.output = p.output := congrArg (·.dos.console.written) kept
    have written' : first.2.output = #[] := congrArg (·.dos.console.written) kept'
    refine ⟨refused.trans refused'.symm, by rw [ended, ended'], ?_⟩
    rw [ended, ended']
    exact written.trans (by rw [written', Array.append_empty])
  · rw [← sameConfig, ← sameImage] at left
    have loaded := reload_of_ok left
    have loaded' := reload_of_ok (p := fresh) right
    have ran : SameAnswer (InStep (.ofBoard Pc.board modules) p.output #[])
        (again.2.runThrough ticks slices)
        (first.2.runThrough ticks slices) := by
      rw [show again = _ from loaded, show first = _ from loaded']
      exact InStep.runThrough (native _ _) (Wiring.wired_ofBoard Pc.wired_board modules) same.wiring
        rfl sameConfig
        alike same.depth contents r ticks slices
    refine ⟨(congrArg Prod.fst loaded).trans (congrArg Prod.fst loaded').symm, ?_⟩
    revert ran
    generalize again.2.runThrough ticks slices = left, first.2.runThrough ticks slices = right
    rintro ⟨ending, after⟩
    obtain ⟨output, written, written'⟩ := after.state.machine.host.dos.written
    rw [Array.empty_append] at written'
    exact ⟨rfl, written.trans (congrArg (p.output ++ ·) written'.symm)⟩

section Programs

/-- Code and an empty stack segment. -/
def imageOf (code : List UInt8) : Image where
  segments := [⟨.code, code⟩, ⟨.data, []⟩]
  relocations := []
  entry := ⟨0, 0⟩
  stack := ⟨1, 512⟩

/-- A new program whose root directory is not there. -/
def newWithoutFiles (code : List UInt8) (modules : ModuleTable Pc) : Program Pc :=
  new {} (imageOf code) (.ofBoard Pc.board modules) { dos := { files := .mount .empty [] "r" } }

/-- Function 0, like any other, gives 7. -/
def seven : NativeModule Pc where
  name := "SEVEN"
  segment := 0xf001
  setState _ := pure ()
  invoke _ _ := .finish (.ok (.word 7))
  updateSession _ := pure ()

/-- Sets timer channel 0 up, displays a letter, puts interrupt vector 60 back to what it reads
there, and ends with what a module gives it. -/
def tidy : List UInt8 :=
  [0xb0, 0x34, 0xe6, 0x43, 0xb8, 0x60, 0x35, 0xcd, 0x21, 0xb2, 0x41, 0xb4, 0x02, 0xcd, 0x21, 0x06,
   0x1f, 0x8b, 0xd3,
    0xb8, 0x60, 0x25, 0xcd, 0x21, 0x9a, 0x00, 0x00, 0x01, 0xf0, 0xb4, 0x4c, 0xcd, 0x21]

/-- What the first round has set it sets back, so the second one is like it. -/
theorem tidy_starts_over :
    let modules : ModuleTable Pc := ⟨[seven], none⟩
    let p := (((newWithoutFiles tidy modules).reload []).2.run 16).2
    (newWithoutFiles tidy modules).Used p ∧ p.host.LooksNew ∧ p.output = #[0x41] ∧
      ((p.reload []).2.runThrough 16 []).1 = .done 7 ∧
      ((p.reload []).2.runThrough 16 []).2.output = #[0x41, 0x41] := by
  intro modules p
  have used : (newWithoutFiles tidy modules).Used p := .run 16 (.reload [] .unused)
  have left : p.output = #[0x41] ∧ p.host.timer = ⟨⟨.lowThenHigh, 2, 0, none⟩, {}, {}⟩ ∧
      p.host.dos.files.slots = [] ∧
      p.host.dos.files.found = [] ∧ p.host.dos.files.names = .empty ∧
      p.host.renewed.dos.files.names = .empty ∧
      p.host.dos.vectors = WordMap.empty.insert 0x60 .null := by decide +kernel
  obtain ⟨written, timer, slots, found, names, renewed, vectors⟩ := left
  have looks : p.host.LooksNew :=
    { channel0 := by rw [timer]; exact ⟨rfl, rfl⟩
      channel1 := by rw [timer]; exact ⟨rfl, rfl⟩
      channel2 := by rw [timer]; exact ⟨rfl, rfl⟩
      handles := fun handle => by
        rw [Dos.FileSystem.openFile?, slots]
        split <;> rfl
      search := found
      names := by
        rw [names, renewed]
        exact ⟨fun _ => rfl, fun _ => rfl⟩
      vectors := fun vector => by
        rw [vectors, WordMap.get?_insert]
        split <;> rfl }
  have native (before before' : Array UInt8) : ∀ m ∈ modules.modules,
      m.Respects (Pc.Alike before before') := by
    intro m inside
    obtain rfl : m = seven := List.mem_singleton.1 inside
    exact ⟨fun _ => .pure (), fun _ _ => .finish _, fun _ => .pure ()⟩
  obtain ⟨_, ending, output⟩ := rerun_starts_over native used looks [] 16 []
  refine ⟨used, looks, written, ending.trans (by decide +kernel), output.trans ?_⟩
  rw [written]
  decide +kernel

/-- Reads interrupt vector 60, sets it to DS:0007, and ends with the low byte of the
offset that it has read. -/
def readsVector : List UInt8 :=
  [0xb8, 0x60, 0x35, 0xcd, 0x21, 0xba, 0x07, 0x00, 0xb8, 0x60, 0x25, 0xcd, 0x21, 0x88, 0xd8, 0xb4,
   0x4c, 0xcd, 0x21]

/-- The second round finds the vector that the first one has set, and ends with another exit code
than a new program on the same clock and the same files. -/
theorem vector_outlives_reload :
    let program := newWithoutFiles readsVector .empty
    let first := (program.reload []).2.run 8
    let again := (first.2.reload []).2.run 8
    program.Used first.2 ∧ first.2.host.clock = program.host.clock ∧
      first.2.host.dos.files = program.host.dos.files ∧ first.1 = .done 0 ∧ again.1 = .done 7 :=
  ⟨.run 8 (.reload [] .unused), rfl, rfl, by decide +kernel, by decide +kernel⟩

end Programs

end Program

end RealMode
