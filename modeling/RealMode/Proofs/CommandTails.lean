import RealMode.Proofs.FatalServices
import RealMode.Proofs.Placement
import RealMode.Proofs.Reruns

/-!
# The command tail

A load puts the command tail into the segment prefix, beside other things that it must not run into.
A load succeeds if everything can be placed and the tail has at most 126 bytes. A tail that is too
long is refused before memory is touched, and after a load that was refused there is nothing to run.
-/

namespace RealMode

open Program (commandTail maxTail exitCall memoryTop environmentBlock)

namespace Segment

section Pieces

variable {s : Segment} {first length : Nat} {pieces : List (UInt16 × List UInt8)}

/-- A write that stays clear of some bytes leaves them. -/
theorem slice_write_of_apart (s : Segment) {start : UInt16} {new : List UInt8}
    (fits : start.toNat + new.length ≤ size) (inside : first + length ≤ size)
    (apart : first + length ≤ start.toNat ∨ start.toNat + new.length ≤ first) :
    (s.write start new).slice first length = s.slice first length := by
  refine List.map_congr_left fun i member => ?_
  have below := List.mem_range.1 member
  have place : (UInt16.ofNat (first + i)).toNat = first + i := toNat_ofNat_of_lt (by omega)
  rw [byteAt_write _ _ _ _ fits, place, if_neg (by omega)]

theorem wordAt_of_slice {offset value : UInt16}
    (stored : s.slice offset.toNat 2 = bytesOfWord value) :
    s.wordAt offset = value := by
  rw [slice_two] at stored
  obtain ⟨low, high⟩ := List.cons.inj stored
  rw [wordAt, low, (List.cons.inj high).1]
  simp

/-- Puts some bytes here and some there. -/
def writeAll (s : Segment) (pieces : List (UInt16 × List UInt8)) : Segment :=
  pieces.foldl (fun s piece => s.write piece.1 piece.2) s

/-- The place of a piece and the place after it. -/
def start (piece : UInt16 × List UInt8) : Nat := piece.1.toNat

def stop (piece : UInt16 × List UInt8) : Nat := piece.1.toNat + piece.2.length

theorem slice_writeAll_of_apart (fits : ∀ piece ∈ pieces, stop piece ≤ size)
    (inside : first + length ≤ size)
    (apart : ∀ piece ∈ pieces, first + length ≤ start piece ∨ stop piece ≤ first) :
    (s.writeAll pieces).slice first length = s.slice first length := by
  induction pieces generalizing s with
  | nil => rfl
  | cons piece pieces ih =>
    have later :=
      ih (s := s.write piece.1 piece.2)
        (fun other member => fits other (List.mem_cons_of_mem _ member))
      fun other member => apart other (List.mem_cons_of_mem _ member)
    have here :=
      slice_write_of_apart s (fits piece List.mem_cons_self) inside (apart piece List.mem_cons_self)
    exact later.trans here

/-- Pieces that do not run into each other are all there in the end. -/
theorem slice_writeAll (fits : ∀ piece ∈ pieces, stop piece ≤ size)
    (apart : pieces.Pairwise fun a b => stop a ≤ start b ∨ stop b ≤ start a) :
    ∀ piece ∈ pieces, (s.writeAll pieces).slice piece.1.toNat piece.2.length = piece.2 := by
  induction pieces generalizing s with
  | nil => exact fun piece none => absurd none List.not_mem_nil
  | cons piece pieces ih =>
    obtain ⟨clear, apart⟩ := List.pairwise_cons.1 apart
    have fits' := fun other member => fits other (List.mem_cons_of_mem piece member)
    refine List.forall_mem_cons.2 ⟨?_, ih fits' apart⟩
    have whole := fits piece List.mem_cons_self
    have kept := slice_writeAll_of_apart (s := s.write piece.1 piece.2) fits' whole clear
    exact kept.trans (slice_write s piece.1 piece.2 whole)

end Pieces

/-- What stands in a segment prefix with this tail. -/
structure IsPrefix (s : Segment) (environment : UInt16) (tail : List UInt8) : Prop where
  exit : s.slice 0x00 2 = exitCall
  top : s.wordAt 0x02 = memoryTop
  settings : s.wordAt 0x2c = environment
  length : s.byteAt 0x80 = UInt8.ofNat tail.length
  text : s.slice 0x81 (tail.length + 1) = tail ++ [0x0d]

/-- What a load puts into a prefix, and where. -/
def prefixPieces (environment : UInt16) (tail : List UInt8) : List (UInt16 × List UInt8) :=
  [(0x00, exitCall), (0x02, bytesOfWord memoryTop), (0x2c, bytesOfWord environment),
    (0x80, [UInt8.ofNat tail.length]), (0x81, tail), (UInt16.ofNat (0x81 + tail.length), [0x0d])]

theorem ofPrefix_eq (environment : UInt16) (tail : List UInt8) :
    ofPrefix environment tail = (ofContents .data []).writeAll (prefixPieces environment tail) :=
  rfl

theorem isPrefix_ofPrefix (environment : UInt16) {tail : List UInt8}
    (short : tail.length ≤ maxTail) : (ofPrefix environment tail).IsPrefix environment tail := by
  have small : tail.length ≤ 126 := short
  have past : (UInt16.ofNat (0x81 + tail.length)).toNat = 0x81 + tail.length := by
    rw [UInt16.toNat_ofNat']
    exact Nat.mod_eq_of_lt (by omega)
  have fits : ∀ piece ∈ prefixPieces environment tail, stop piece ≤ size := by
    simp [prefixPieces, stop, size, exitCall, bytesOfWord]
    omega
  have apart : (prefixPieces environment tail).Pairwise fun a b => stop a ≤ start b ∨
      stop b ≤ start a := by
    simp [prefixPieces, stop, start, exitCall, bytesOfWord]
    omega
  have there := slice_writeAll (s := ofContents .data []) fits apart
  rw [← ofPrefix_eq] at there
  simp only [prefixPieces, List.forall_mem_cons, past] at there
  obtain ⟨exit, top, settings, length, text, ended, -⟩ := there
  refine ⟨exit, wordAt_of_slice top, wordAt_of_slice settings, (List.cons.inj length).1, ?_⟩
  rw [slice_append]
  exact congrArg₂ (· ++ ·) text ended

end Segment

namespace Dos

variable {m : Machine Dos}

theorem serve_prefix (asked : m.registers.ah = 0x62) (now : Moment) :
    serve now m = getPrefix m := by
  rw [serve, Exec.bind_of_ok (Exec.registers_eq_ok m), asked]
  rfl

/-- A segment prefix that there is is told, and nothing else happens. -/
theorem getPrefix_eq_ok {p : FarPtr} {segment : UInt16}
    (known : m.memory.variableAddress? prefixVariable = some p)
    (stored : m.memory.readWord p = .ok segment) :
    getPrefix m = .ok () { m with registers := { m.registers with bx := segment } } := by
  have found : prefixSegment m = .ok segment m := by
    rw [prefixSegment, Exec.bind_of_ok (lookup_eq_ok _ m), known]
    exact Exec.reading_eq_ok stored
  rw [getPrefix, Exec.bind_of_ok found]
  rfl

end Dos

namespace Program

section Prefix

variable {c : ProgramConfig} {image : Image} {arguments : List String} {r : Registers} {m : Memory}

/-- A program that starts with these registers finds its segment prefix, and in it all
that a load puts there. -/
structure Arranged (c : ProgramConfig) (arguments : List String) (r : Registers)
    (m : Memory) : Prop where
  segment : r.es = r.ds
  exit : m.readBytes ⟨r.ds, 0x00⟩ 2 = .ok [0xcd, 0x20]
  top : m.readWord ⟨r.ds, 0x02⟩ = .ok 0xa000
  environment : ∃ ordinal, m.readWord ⟨r.ds, 0x2c⟩ = .ok ordinal ∧ ordinal ≠ r.ds ∧
    m.readBytes ⟨ordinal, 0⟩ (environmentBlock c).length = .ok (environmentBlock c)
  length : ∃ b, m.readByte ⟨r.ds, 0x80⟩ = .ok b ∧ b.toNat = (commandTail arguments).length
  text : m.readBytes ⟨r.ds, 0x81⟩ ((commandTail arguments).length + 1) =
    .ok (commandTail arguments ++ [0x0d])
  inside : 0x81 + ((commandTail arguments).length + 1) ≤ 0x100
  told : ∀ now registers (dos : Dos), registers.ah = 0x62 →
    Dos.serve now ⟨registers, m, dos⟩ = .ok () ⟨{ registers with bx := r.ds }, m, dos⟩

theorem Placed.get?_environment (placed : Placed c image arguments m)
    (room : dynamicBase + image.segments.length + 2 ≤ dynamicLimit) :
    m.segments.get? (ordinalAt image.segments.length) =
      some ((Segment.ofContents .data []).write 0 (environmentBlock c)) := by
  rw [placed.holds.same _ (by omega), ← length_relocatedSegments]
  simp

theorem Placed.get?_prefix (placed : Placed c image arguments m)
    (room : dynamicBase + image.segments.length + 2 ≤ dynamicLimit) :
    m.segments.get? (ordinalAt (image.segments.length + 1)) =
      some (.ofPrefix (ordinalAt image.segments.length) (commandTail arguments)) := by
  rw [placed.holds.same _ (by omega), ← length_relocatedSegments]
  simp

theorem Placed.arranged (placed : Placed c image arguments m)
    (room : dynamicBase + image.segments.length + 2 ≤ dynamicLimit)
    (environment : (environmentBlock c).length ≤ Segment.size)
    (short : (commandTail arguments).length ≤ maxTail) :
    Arranged c arguments (initialRegisters image) m := by
  have small : (commandTail arguments).length ≤ 126 := short
  have block := placed.get?_environment room
  have found := placed.get?_prefix room
  have stands := Segment.isPrefix_ofPrefix (ordinalAt image.segments.length) short
  exact
    { segment := rfl
      exit := by
        rw [Memory.readBytes_eq found (by simp [Segment.size])]
        exact congrArg Except.ok stands.exit
      top := by
        rw [Memory.readWord_eq found (by simp [Segment.size])]
        exact congrArg Except.ok stands.top
      environment := by
        refine ⟨ordinalAt image.segments.length, ?_, ?_, ?_⟩
        · rw [Memory.readWord_eq found (by simp [Segment.size])]
          exact congrArg Except.ok stands.settings
        · intro same
          have numbers := (ordinalAt_inj (by omega) (by omega)).1 same
          omega
        · rw [Memory.readBytes_eq block (by simpa using environment)]
          exact congrArg Except.ok (Segment.slice_write _ 0 _ (by simpa using environment))
      length := by
        refine ⟨UInt8.ofNat (commandTail arguments).length, ?_, ?_⟩
        · rw [Memory.readByte_eq found]
          exact congrArg Except.ok stands.length
        · rw [UInt8.toNat_ofNat']
          exact Nat.mod_eq_of_lt (by omega)
      text := by
        rw [Memory.readBytes_eq found (by simp [Segment.size]; omega)]
        exact congrArg Except.ok stands.text
      inside := by omega
      told := by
        intro now registers dos asked
        rw [Dos.serve_prefix asked, Dos.getPrefix_eq_ok placed.name placed.named]
        rfl }

end Prefix

section Placing

variable {c : ProgramConfig} {image : Image}

/-- The segments and the relocations of an image, and the environment, find a place. -/
def Placeable (c : ProgramConfig) (image : Image) : Prop :=
  ∃ ordinals environment m₁ m₂ m₃,
    placeSegments image.segments Memory.fresh = .ok ordinals m₁ ∧
    relocate ordinals image.relocations m₁ = .ok () m₂ ∧
    placeEnvironment c m₂ = .ok environment m₃

theorem placeable (small : ∀ s ∈ image.segments, s.data.length ≤ Segment.size)
    (relocations : ∀ r ∈ image.relocations, r.segment < image.segments.length ∧
      r.target < image.segments.length ∧ r.offset.toNat + 2 ≤ Segment.size)
    (room : dynamicBase + image.segments.length + 1 ≤ dynamicLimit)
    (environment : (environmentBlock c).length ≤ Segment.size) : Placeable c image := by
  obtain ⟨m₁, segments, h₁⟩ :=
    placeSegments_of_room (.clear Memory.fresh) small (by rw [List.length_nil]; omega)
  rw [List.length_nil, ← List.range_eq_range'] at segments
  obtain ⟨m₂, relocated, h₂⟩ := relocate_of_sound h₁ (by simp) relocations
  obtain ⟨m₃, settings, _⟩ :=
    placeEnvironment_of_room (c := c) h₂ (by simp; omega) environment
  exact ⟨_, _, m₁, m₂, m₃, segments, relocated, settings⟩

theorem small_of_placeEnvironment {m m' : Memory} {ordinal : UInt16}
    (settings : placeEnvironment c m = .ok ordinal m') :
    (environmentBlock c).length ≤ Segment.size := by
  obtain ⟨_, _, _, written⟩ := Loading.of_bind settings
  obtain ⟨_, _, stored, _⟩ := Loading.of_bind written
  obtain ⟨_, _, fits, _⟩ := Memory.writeBytes_eq_ok_iff.1 (Loading.of_changing stored)
  simpa using fits

/-- What is asked of an image and an environment beside that: segments to enter and for the stack,
and one more ordinal. -/
theorem fits_iff : Fits c image ↔
    Placeable c image ∧ image.entry.segment < image.segments.length ∧
    image.stack.segment < image.segments.length ∧
    dynamicBase + image.segments.length + 2 ≤ dynamicLimit := by
  constructor
  · intro fits
    exact ⟨placeable fits.small fits.relocations (Nat.le_of_succ_le fits.room) fits.environment,
      fits.entry, fits.stack, fits.room⟩
  · rintro ⟨⟨ordinals, _, m₁, m₂, m₃, segments, relocated, settings⟩, entry,
      stack, room⟩
    obtain ⟨rfl, _⟩ := holds_placeSegments (.clear Memory.fresh) segments
    rw [List.length_nil, ← List.range_eq_range'] at relocated
    exact ⟨⟨small_of_placeSegments segments, sound_of_relocate relocated, entry, stack⟩, room,
      small_of_placeEnvironment settings⟩

end Placing

section Histories

variable {σ : Type} {p q : Program σ} {answer : Option (Except Fault Registers)}
  {arguments : List String}

/-- Where a load succeeds, all that it places fits, and the program finds it. -/
theorem of_reload_ok {r : Registers} (succeeded : (p.reload arguments).1 = .ok r) :
    Fits p.config p.image ∧ (commandTail arguments).length ≤ maxTail ∧
      Arranged p.config arguments r (p.reload arguments).2.state.machine.memory := by
  cases ended : load p.config p.image arguments p.state.machine.memory with
  | ok r' m =>
    rw [reload_eq_ok ended] at succeeded ⊢
    cases succeeded
    obtain ⟨fits, short, rfl, placed⟩ := of_load_ok ended
    exact ⟨fits, short, placed.arranged fits.room fits.environment short⟩
  | error e m =>
    rw [reload_eq_error ended] at succeeded
    cases succeeded

theorem exists_reload_iff :
    (∃ r, (p.reload arguments).1 = .ok r) ↔
      Fits p.config p.image ∧ (commandTail arguments).length ≤ maxTail := by
  constructor
  · rintro ⟨r, succeeded⟩
    obtain ⟨fits, short, _⟩ := of_reload_ok succeeded
    exact ⟨fits, short⟩
  · rintro ⟨fits, short⟩
    obtain ⟨m, loaded⟩ := load_of_fits fits short p.state.machine.memory
    exact ⟨_, congrArg Prod.fst (reload_eq_ok loaded)⟩

/-- What a load leaves to run is what it answers. -/
theorem initial_reload (p : Program σ) (arguments : List String) :
    (p.reload arguments).2.initial = (p.reload arguments).1.toOption := by
  cases ended : load p.config p.image arguments p.state.machine.memory with
  | ok r m =>
    rw [reload_eq_ok ended]
    rfl
  | error e m =>
    rw [reload_eq_error ended]
    rfl

theorem initial_ended (p : Program σ) (x : Ending Registers × Running σ) :
    (p.ended x).2.initial = p.initial := by
  obtain ⟨ending, s⟩ := x
  cases ending <;> rfl

theorem initial_run (p : Program σ) (ticks : Nat) : (p.run ticks).2.initial = p.initial := by
  rw [run]
  split
  · rfl
  · exact initial_ended p _

theorem run_of_unloaded (unloaded : p.initial = none) (ticks : Nat) :
    p.run ticks = (.faulted .notLoaded, p) := by
  rw [run, unloaded]

theorem run_of_loaded {r : Registers} (loaded : p.initial = some r) (ticks : Nat) :
    p.run ticks = p.ended (p.wiring.start ticks r p.config.channel p.state) := by
  rw [run, loaded]

/-- What can become of a program through loads, runs and what happens outside, and what the
last load has answered. -/
inductive Lived (p : Program σ) : Option (Except Fault Registers) → Program σ → Prop
  | new : Lived p none p
  | reload {answer : Option (Except Fault Registers)} {q : Program σ} (arguments : List String) :
      Lived p answer q → Lived p (some (q.reload arguments).1) (q.reload arguments).2
  | run {answer : Option (Except Fault Registers)} {q : Program σ} (ticks : Nat) :
      Lived p answer q → Lived p answer (q.run ticks).2
  | resume {answer : Option (Except Fault Registers)} {q : Program σ} (ticks : Nat) :
      Lived p answer q → Lived p answer (q.resume ticks).2
  | outside {answer : Option (Except Fault Registers)} {q : Program σ} (f : σ → σ) :
      Lived p answer q → Lived p answer { q with state.machine.host := f q.state.machine.host }

/-- There is something to run just when the last load succeeded: the registers that it gave. -/
theorem Lived.initial (lived : p.Lived answer q) (new : p.initial = none) :
    q.initial = answer.bind Except.toOption := by
  induction lived with
  | new => exact new
  | reload arguments => exact initial_reload _ arguments
  | run ticks _ ih => exact (initial_run _ ticks).trans ih
  | resume ticks _ ih => exact (initial_ended _ _).trans ih
  | outside f _ ih => exact ih

/-- Wherever loads, runs and the world outside have left a program, the next load succeeds just
when what it places fits and the tail has at most 126 bytes; then the segment prefix holds the
tail and the rest and is told to the program. A tail that is longer changes nothing but that there
is nothing to run. A run begins where the last load says, or, if that did not succeed, ends at
once and changes nothing. -/
theorem tail_decides_load (new : p.initial = none) (lived : p.Lived answer q)
    (arguments : List String) :
    let load := q.reload arguments
    let tail := commandTail arguments
    ((∃ r, load.1 = .ok r) ↔ Fits q.config q.image ∧ tail.length ≤ 126) ∧
      (∀ r, load.1 = .ok r → Arranged q.config arguments r load.2.state.machine.memory) ∧
      (126 < tail.length →
        load = (.error (.commandLineTooLong tail.length), { q with initial := none })) ∧
      ∀ ticks, q.run ticks =
        match answer with
        | some (.ok r) => q.ended (q.wiring.start ticks r q.config.channel q.state)
        | _ => (.faulted .notLoaded, q) := by
  intro load tail
  refine ⟨exists_reload_iff, fun r succeeded => (of_reload_ok succeeded).2.2, fun long => ?_,
    fun ticks => ?_⟩
  · have refused : Program.load q.config q.image arguments q.state.machine.memory =
        .error (.commandLineTooLong tail.length) q.state.machine.memory := by
      rw [load_eq, if_pos (show maxTail < (commandTail arguments).length from long)]
    exact reload_eq_error refused
  · have known := lived.initial new
    cases answer with
    | none => exact run_of_unloaded known ticks
    | some answer =>
      cases answer with
      | error e => exact run_of_unloaded known ticks
      | ok r => exact run_of_loaded known ticks

end Histories

section Images

/-- A new program from this image on the usual host, without files. -/
def newOf (image : Image) : Program Pc :=
  new {} image (.ofBoard Pc.board .empty) { dos := { files := .mount .empty [] "r" } }

/-- After a tail of 127 bytes there is nothing to run; the next load succeeds. -/
theorem short_tail_loads_after_long_one :
    let p := newOf (imageOf [0xf4])
    let long := String.ofList (List.replicate 126 'x')
    let q := (p.reload [long]).2
    p.initial = none ∧ p.Lived (some (.error (.commandLineTooLong 127))) q ∧
      q.run 3 = (.faulted .notLoaded, q) ∧
      ∃ r, (q.reload ["/N1", "X"]).1 = .ok r ∧
        Arranged {} ["/N1", "X"] r (q.reload ["/N1", "X"]).2.state.machine.memory := by
  intro p long q
  have tail : (commandTail [long]).length = 127 := by decide +kernel
  obtain ⟨_, _, refused, _⟩ := tail_decides_load (q := p) rfl .new [long]
  rw [tail] at refused
  have unloaded : p.reload [long] =
      (.error (.commandLineTooLong 127), { p with initial := none }) := refused (by decide)
  have lived : p.Lived (some (.error (.commandLineTooLong 127))) q := by
    have reloaded := Lived.reload [long] (.new (p := p))
    rwa [show (p.reload [long]).1 = _ from congrArg Prod.fst unloaded] at reloaded
  have same : q = { p with initial := none } := congrArg Prod.snd unloaded
  obtain ⟨succeeds, arranged, _, ran⟩ := tail_decides_load rfl lived ["/N1", "X"]
  have fits : Fits q.config q.image := by
    rw [same]
    exact { small := by decide, relocations := by decide, entry := by decide, stack := by decide,
            room := by decide, environment := by decide +kernel }
  obtain ⟨r, loaded⟩ := succeeds.2 ⟨fits, by decide +kernel⟩
  have config : q.config = {} := by
    rw [same]
    rfl
  refine ⟨rfl, lived, ran 3, r, loaded, ?_⟩
  rw [← config]
  exact arranged r loaded

/-- An image whose entry lies in a third segment that it does not have. -/
def misdirected : Image := { imageOf [0xf4] with entry := ⟨2, 0⟩ }

/-- An image that leaves one ordinal. -/
def crowding : Image where
  segments := List.replicate (dynamicLimit - dynamicBase - 1) ⟨.data, []⟩
  relocations := []
  entry := ⟨0, 0⟩
  stack := ⟨0, 0⟩

theorem sound_crowding : crowding.Sound where
  small s member := by
    rw [List.eq_of_mem_replicate member]
    exact Nat.zero_le _
  relocations r none := absurd none List.not_mem_nil
  entry := by rw [crowding, List.length_replicate]; decide
  stack := by rw [crowding, List.length_replicate]; decide

/-- More is needed than that: a segment to enter, and one more for the segment prefix. -/
theorem placeable_images_are_refused :
    Placeable {} misdirected ∧ Placeable {} crowding ∧ (commandTail []).length ≤ 126 ∧
      ((newOf misdirected).reload []).1 = .error (.invalidImage (.missingSegment 2)) ∧
      ((newOf crowding).reload []).1 = .error .segmentsExhausted := by
  have count : crowding.segments.length = dynamicLimit - dynamicBase - 1 := List.length_replicate
  have short : (environmentBlock {}).length ≤ Segment.size := by decide +kernel
  refine ⟨placeable (by decide) (by decide) (by decide) short,
    placeable sound_crowding.small sound_crowding.relocations ?_ short, by decide +kernel,
    by decide +kernel, ?_⟩
  · rw [count]
    decide
  · have ends := loadEnds sound_crowding {} [] Memory.fresh
    cases ended : load {} crowding [] Memory.fresh with
    | ok r m =>
      obtain ⟨fits, _⟩ := of_load_ok ended
      have room := fits.room
      rw [count] at room
      exact absurd room (by decide)
    | error e m =>
      rw [ended] at ends
      rw [reload_eq_error (p := newOf crowding) ended]
      cases ends with
      | long long => exact absurd long (by decide +kernel)
      | full => rfl
      | large _ _ _ large => exact absurd large (Nat.not_lt.2 short)

end Images

end Program

end RealMode
