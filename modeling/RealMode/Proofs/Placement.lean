import RealMode.Proofs.Allocations
import RealMode.Proofs.FreshLoads
import RealMode.Proofs.Loading
import RealMode.Proofs.Variables

/-!
# When a load succeeds

A load succeeds just when all that it places fits: the command tail into the segment prefix, each
segment and the environment into 65536 bytes, the relocations into their segments, and the whole
into the ordinals that there are. Each step is followed on the list of segments handed out, and
where something does not fit the step ends in the one fault that says so.
-/

namespace RealMode

namespace Memory

variable {m m' : Memory} {ss ss' : List Segment} {s : Segment} {kind : SegmentKind}

theorem firstFree_eq_none_iff {first n : Nat} : m.firstFree first n = none ↔
    ∀ j, first ≤ j → j < first + n → m.hasSegment (UInt16.ofNat j) = true := by
  induction n generalizing first with
  | zero => exact ⟨fun _ j low high => absurd high (by omega), fun _ => rfl⟩
  | succ n ih =>
    rw [firstFree]
    by_cases taken : m.hasSegment (UInt16.ofNat first) = true
    · rw [if_pos taken, ih]
      constructor
      · intro later j low high
        rcases Nat.eq_or_lt_of_le low with rfl | after
        · exact taken
        · exact later j after (by omega)
      · exact fun all j low high => all j (by omega) (by omega)
    · rw [if_neg taken]
      constructor
      · intro found
        cases found
      · exact fun all => absurd (all first (Nat.le_refl _) (by omega)) taken

/-- These segments have been handed out, and nothing has been put among the variables yet. -/
structure Stocked (m : Memory) (ss : List Segment) : Prop extends m.Holds ss where
  unnamed : m.variableTable = []
  unused : m.nextVariable = 0
  mapped : m.hasSegment variablesSegment = true

theorem Holds.writeBytes_of_past (h : m.Holds ss) {k : Nat} (inside : k < ss.length)
    (offset : UInt16) (bytes : List UInt8) (past : Segment.size < offset.toNat + bytes.length) :
    m.writeBytes ⟨ordinalAt k, offset⟩ bytes =
      .error (.offsetOutOfRange ⟨ordinalAt k, offset⟩ bytes.length) := by
  have refused : m.segmentAt ⟨ordinalAt k, offset⟩ bytes.length =
      .error (.offsetOutOfRange ⟨ordinalAt k, offset⟩ bytes.length) := by
    simp only [segmentAt, h.get?_eq inside, if_pos past]
  rw [Memory.writeBytes, refused]
  rfl

namespace Stocked

theorem clear (m : Memory) : m.clear.Stocked [] := ⟨Holds.clear m, rfl, rfl, rfl⟩

theorem of_same (h : m.Stocked ss) (same : m.SameAllocations m') (holds : m'.Holds ss') :
    m'.Stocked ss' :=
  ⟨holds, same.table.trans h.unnamed, same.next.trans h.unused,
    (same.hasSegment _).trans h.mapped⟩

theorem allocateSegment (h : m.Stocked ss) (room : dynamicBase + ss.length < dynamicLimit)
    (kind : SegmentKind) :
    ∃ m', m.allocateSegment kind = .ok (ordinalAt ss.length, m') ∧
      m'.Stocked (ss ++ [.ofContents kind []]) := by
  cases free : m.firstFree dynamicBase (dynamicLimit - dynamicBase) with
  | none =>
    have taken := firstFree_eq_none_iff.1 free (dynamicBase + ss.length) (by omega) (by omega)
    obtain ⟨s, found⟩ := hasSegment_iff.1 taken
    have beyond := h.same ss.length room
    rw [ordinalAt, found, List.getElem?_eq_none (Nat.le_refl _)] at beyond
    cases beyond
  | some ordinal =>
    have allocated : m.allocateSegment kind =
        .ok (ordinal, { m with segments := m.segments.insert ordinal (.ofContents kind []) }) := by
      rw [Memory.allocateSegment, free]
    obtain ⟨rfl, holds⟩ := h.toHolds.allocateSegment allocated
    have more := moreSegment_of_allocateSegment allocated
    exact ⟨_, allocated, holds, more.table.trans h.unnamed, more.next.trans h.unused,
      more.hasSegment h.mapped⟩

theorem allocateSegment_of_full (h : m.Stocked ss) (full : dynamicLimit ≤ dynamicBase + ss.length)
    (kind : SegmentKind) : m.allocateSegment kind = .error .segmentsExhausted := by
  have none : m.firstFree dynamicBase (dynamicLimit - dynamicBase) = none := by
    refine firstFree_eq_none_iff.2 fun j low high => ?_
    obtain ⟨k, rfl⟩ := Nat.exists_eq_add_of_le low
    exact hasSegment_iff.2 ⟨_, h.get?_eq (k := k) (by omega)⟩
  rw [Memory.allocateSegment, none]

theorem loadNewest (h : m.Stocked (ss ++ [.ofContents kind []])) {contents : List UInt8}
    (fits : contents.length ≤ Segment.size) :
    ∃ m', m.loadSegment (ordinalAt ss.length) kind contents = .ok m' ∧
      m'.Stocked (ss ++ [.ofContents kind contents]) := by
  have inside : ss.length < (ss ++ [Segment.ofContents kind []]).length := by simp
  have found : m.segments.get? (ordinalAt ss.length) = some (.ofContents kind []) := by
    simpa using h.get?_eq inside
  let m' : Memory :=
    { m with segments := m.segments.insert (ordinalAt ss.length) (.ofContents kind contents) }
  have loaded : m.loadSegment (ordinalAt ss.length) kind contents = .ok m' := by
    have same : m.kind? (ordinalAt ss.length) = some kind := by
      rw [kind?, found]
      rfl
    simp only [Memory.loadSegment, same, if_pos]
    exact addSegment_eq_ok_iff.2 ⟨fits, rfl⟩
  have same : m.SameAllocations m' :=
    .of_insert (t := .ofContents kind contents) found rfl rfl rfl rfl
  exact ⟨m', loaded, h.of_same same (by simpa using h.toHolds.loadSegment inside loaded)⟩

theorem writeBytes (h : m.Stocked ss) {k : Nat} (inside : k < ss.length) (offset : UInt16)
    (bytes : List UInt8) (fits : offset.toNat + bytes.length ≤ Segment.size) :
    ∃ m', m.writeBytes ⟨ordinalAt k, offset⟩ bytes = .ok m' ∧
      m'.Stocked (ss.set k (ss[k].write offset bytes)) := by
  obtain ⟨m', written⟩ : ∃ m', m.writeBytes ⟨ordinalAt k, offset⟩ bytes = .ok m' :=
    ⟨_, writeBytes_eq_ok_iff.2 ⟨ss[k], h.get?_eq inside, fits, rfl⟩⟩
  exact ⟨m', written, h.of_same (.of_writeBytes written) (h.toHolds.writeBytes inside written)⟩

theorem writeNewest (h : m.Stocked (ss ++ [s])) (offset : UInt16) (bytes : List UInt8)
    (fits : offset.toNat + bytes.length ≤ Segment.size) :
    ∃ m', m.writeBytes ⟨ordinalAt ss.length, offset⟩ bytes = .ok m' ∧
      m'.Stocked (ss ++ [s.write offset bytes]) := by
  obtain ⟨m', written, h'⟩ := h.writeBytes (k := ss.length) (by simp) offset bytes fits
  exact ⟨m', written, by simpa using h'⟩

end Stocked

end Memory

/-- The instruction that ends a program, the end of its memory, its environment
and its command tail. -/
def Segment.ofPrefix (environment : UInt16) (tail : List UInt8) : Segment :=
  (((((Segment.ofContents .data []).write 0x00 Program.exitCall).write 0x02
    (bytesOfWord Program.memoryTop)).write 0x2c
    (bytesOfWord environment)).write 0x80 [UInt8.ofNat tail.length]).write 0x81 tail |>.write
      (UInt16.ofNat (0x81 + tail.length)) [0x0d]

/-- What an image must be for its segments and relocations to be placed and its registers to be
set. -/
structure Image.Sound (image : Image) : Prop where
  small : ∀ s ∈ image.segments, s.data.length ≤ Segment.size
  relocations : ∀ r ∈ image.relocations, r.segment < image.segments.length ∧
    r.target < image.segments.length ∧ r.offset.toNat + 2 ≤ Segment.size
  entry : image.entry.segment < image.segments.length
  stack : image.stack.segment < image.segments.length

namespace Program

variable {α β : Type} {m m' : Memory} {ss : List Segment} {c : ProgramConfig} {image : Image}

namespace Loading

theorem bind_of_ok {x : Loading α} {f : α → Loading β} {a : α} (first : x m = .ok a m') :
    (x >>= f) m = f a m' := by
  simp only [Bind.bind, EStateM.bind, first]

theorem bind_of_error {x : Loading α} {f : α → Loading β} {e : Fault}
    (first : x m = .error e m') :
    (x >>= f) m = .error e m' := by
  simp only [Bind.bind, EStateM.bind, first]

theorem changing_of_ok {f : Memory → Except Fault Memory} (changed : f m = .ok m') :
    changing f m = .ok () m' := by
  rw [changing, changed]

theorem changing_of_error {f : Memory → Except Fault Memory} {e : Fault}
    (refused : f m = .error e) :
    changing f m = .error e m := by
  rw [changing, refused]

theorem allocating_of_ok {f : Memory → Except Fault (α × Memory)} {a : α}
    (changed : f m = .ok (a, m')) :
    allocating f m = .ok a m' := by
  rw [allocating, changed]

theorem allocating_of_error {f : Memory → Except Fault (α × Memory)} {e : Fault}
    (refused : f m = .error e) :
    allocating f m = .error e m := by
  rw [allocating, refused]

end Loading

open Loading

section Segments

variable {segments : List ImageSegment}

theorem placeSegments_of_room (h : m.Stocked ss)
    (small : ∀ s ∈ segments, s.data.length ≤ Segment.size)
    (room : dynamicBase + ss.length + segments.length ≤ dynamicLimit) :
    ∃ m',
      placeSegments segments m = .ok ((List.range' ss.length segments.length).map ordinalAt) m' ∧
      m'.Stocked (ss ++ segments.map fun s => .ofContents s.kind s.data) := by
  induction segments generalizing m ss with
  | nil => exact ⟨m, rfl, by simpa using h⟩
  | cons s segments ih =>
    rw [List.length_cons] at room
    obtain ⟨m₁, allocated, h₁⟩ := h.allocateSegment (by omega) s.kind
    obtain ⟨m₂, loaded, h₂⟩ := h₁.loadNewest (small s List.mem_cons_self)
    obtain ⟨m₃, placed, h₃⟩ :=
      ih h₂ (fun t later => small t (List.mem_cons_of_mem s later)) (by simp; omega)
    refine ⟨m₃, ?_, by simpa using h₃⟩
    rw [placeSegments, bind_of_ok (allocating_of_ok allocated), bind_of_ok (changing_of_ok loaded),
      bind_of_ok placed]
    simp [List.range'_succ]
    rfl

theorem placeSegments_of_full (h : m.Stocked ss)
    (small : ∀ s ∈ segments, s.data.length ≤ Segment.size)
    (full : dynamicLimit < dynamicBase + ss.length + segments.length) :
    ∃ m', placeSegments segments m = .error .segmentsExhausted m' := by
  induction segments generalizing m ss with
  | nil => exact absurd h.room (by simpa using full)
  | cons s segments ih =>
    rw [List.length_cons] at full
    by_cases room : dynamicBase + ss.length < dynamicLimit
    · obtain ⟨m₁, allocated, h₁⟩ := h.allocateSegment room s.kind
      obtain ⟨m₂, loaded, h₂⟩ := h₁.loadNewest (small s List.mem_cons_self)
      obtain ⟨m₃, refused⟩ :=
        ih h₂ (fun t later => small t (List.mem_cons_of_mem s later)) (by simp; omega)
      refine ⟨m₃, ?_⟩
      rw [placeSegments, bind_of_ok (allocating_of_ok allocated),
        bind_of_ok (changing_of_ok loaded), bind_of_error refused]
    · have refused := h.allocateSegment_of_full (Nat.le_of_not_lt room) s.kind
      refine ⟨m, ?_⟩
      rw [placeSegments, bind_of_error (allocating_of_error refused)]

theorem small_of_placeSegments {ordinals : List UInt16}
    (placed : placeSegments segments m = .ok ordinals m') :
    ∀ s ∈ segments, s.data.length ≤ Segment.size := by
  induction segments generalizing m m' ordinals with
  | nil => exact fun s none => absurd none List.not_mem_nil
  | cons s segments ih =>
    obtain ⟨ordinal, m₁, allocated, placed⟩ := of_bind placed
    obtain ⟨_, m₂, loaded, placed⟩ := of_bind placed
    obtain ⟨more, m₃, rest, _⟩ := of_bind placed
    have added := Memory.addSegment_of_loadSegment (of_changing loaded)
    exact List.forall_mem_cons.2 ⟨(Memory.addSegment_eq_ok_iff.1 added).1, ih rest⟩

end Segments

section Relocations

variable {n : Nat} {rs : List Relocation}

theorem ordinalOf_of_lt {index : Nat} (inside : index < n) (m : Memory) :
    ordinalOf ((List.range n).map ordinalAt) index m = .ok (ordinalAt index) m := by
  rw [ordinalOf, List.getElem?_map, List.getElem?_range inside]
  rfl

theorem relocate_of_sound (h : m.Stocked ss) (inUse : n ≤ ss.length)
    (sound : ∀ r ∈ rs, r.segment < n ∧ r.target < n ∧ r.offset.toNat + 2 ≤ Segment.size) :
    ∃ m', relocate ((List.range n).map ordinalAt) rs m = .ok () m' ∧
      m'.Stocked (ss.mapIdx fun index s => s.relocated rs index) := by
  -- What the list becomes is known of every relocation that ends, so only its ending is followed
  -- here.
  have ends : ∃ m', relocate ((List.range n).map ordinalAt) rs m = .ok () m' ∧
      m.SameAllocations m' := by
    induction rs generalizing m ss with
    | nil => exact ⟨m, rfl, .refl m⟩
    | cons r rs ih =>
      obtain ⟨segment, target, fits⟩ := sound r List.mem_cons_self
      obtain ⟨m₁, written, h₁⟩ :=
        h.writeBytes (k := r.segment) (by omega) r.offset (bytesOfWord (ordinalAt r.target)) fits
      obtain ⟨m₂, done, same⟩ :=
        ih h₁ (by simpa using inUse) fun q later => sound q (List.mem_cons_of_mem r later)
      refine ⟨m₂, ?_, .trans (.of_writeBytes written) same⟩
      rw [relocate, bind_of_ok (ordinalOf_of_lt segment m), bind_of_ok (ordinalOf_of_lt target m),
        bind_of_ok (changing_of_ok written), done]
  obtain ⟨m', done, same⟩ := ends
  exact ⟨m', done, h.of_same same (holds_relocate h.toHolds inUse done)⟩

theorem sound_of_relocate (done : relocate ((List.range n).map ordinalAt) rs m = .ok () m') :
    ∀ r ∈ rs, r.segment < n ∧ r.target < n ∧ r.offset.toNat + 2 ≤ Segment.size := by
  induction rs generalizing m with
  | nil => exact fun r none => absurd none List.not_mem_nil
  | cons r rs ih =>
    obtain ⟨_, m₁, segment, retarget⟩ := of_bind done
    obtain ⟨inside, rfl, rfl⟩ := of_ordinalOf segment
    obtain ⟨_, m₂, target, write⟩ := of_bind retarget
    obtain ⟨known, rfl, rfl⟩ := of_ordinalOf target
    obtain ⟨_, m₃, written, rest⟩ := of_bind write
    obtain ⟨_, _, fits, _⟩ := Memory.writeBytes_eq_ok_iff.1 (of_changing written)
    exact List.forall_mem_cons.2 ⟨⟨inside, known, fits⟩, ih rest⟩

end Relocations

section Environment

theorem placeEnvironment_of_room (h : m.Stocked ss) (room : dynamicBase + ss.length < dynamicLimit)
    (fits : (environmentBlock c).length ≤ Segment.size) :
    ∃ m', placeEnvironment c m = .ok (ordinalAt ss.length) m' ∧
      m'.Stocked (ss ++ [(Segment.ofContents .data []).write 0 (environmentBlock c)]) := by
  obtain ⟨m₁, allocated, h₁⟩ := h.allocateSegment room .data
  obtain ⟨m₂, written, h₂⟩ := h₁.writeNewest 0 (environmentBlock c) (by simpa using fits)
  refine ⟨m₂, ?_, h₂⟩
  rw [placeEnvironment, bind_of_ok (allocating_of_ok allocated),
    bind_of_ok (changing_of_ok written)]
  rfl

theorem placeEnvironment_of_large (h : m.Stocked ss) (room : dynamicBase + ss.length < dynamicLimit)
    (large : Segment.size < (environmentBlock c).length) :
    ∃ m', placeEnvironment c m =
      .error (.offsetOutOfRange ⟨ordinalAt ss.length, 0⟩ (environmentBlock c).length) m' := by
  obtain ⟨m₁, allocated, h₁⟩ := h.allocateSegment room .data
  have refused := h₁.toHolds.writeBytes_of_past (k := ss.length) (by simp) 0 (environmentBlock c)
    (by simpa using large)
  refine ⟨m₁, ?_⟩
  rw [placeEnvironment, bind_of_ok (allocating_of_ok allocated),
    bind_of_error (changing_of_error refused)]

theorem placeEnvironment_of_full (h : m.Stocked ss)
    (full : dynamicLimit ≤ dynamicBase + ss.length) :
    placeEnvironment c m = .error .segmentsExhausted m := by
  rw [placeEnvironment, bind_of_error (allocating_of_error (h.allocateSegment_of_full full .data))]

end Environment

section Prefix

variable {environment : UInt16} {tail : List UInt8}

/-- The variable that names the prefix is the first one. -/
def prefixName : FarPtr := ⟨variablesSegment, 0⟩

theorem placePrefix_of_room (environment : UInt16) (h : m.Stocked ss)
    (room : dynamicBase + ss.length < dynamicLimit) (short : tail.length ≤ maxTail) :
    ∃ m', placePrefix environment tail m = .ok (ordinalAt ss.length) m' ∧
      m'.Holds (ss ++ [.ofPrefix environment tail]) ∧
      m'.variableAddress? Dos.prefixVariable = some prefixName ∧
      m'.readWord prefixName = .ok (ordinalAt ss.length) := by
  have stop : (UInt16.ofNat (0x81 + tail.length)).toNat = 0x81 + tail.length := by
    rw [UInt16.toNat_ofNat']
    exact Nat.mod_eq_of_lt (by simp only [maxTail] at short; omega)
  obtain ⟨m₁, allocated, h₁⟩ := h.allocateSegment room .data
  obtain ⟨m₂, exit, h₂⟩ := h₁.writeNewest 0x00 exitCall (by decide)
  obtain ⟨m₃, top, h₃⟩ := h₂.writeNewest 0x02 (bytesOfWord memoryTop) (by decide)
  obtain ⟨m₄, settings, h₄⟩ :=
    h₃.writeNewest 0x2c (bytesOfWord environment) (by simp [Segment.size])
  obtain ⟨m₅, length, h₅⟩ := h₄.writeNewest 0x80 [UInt8.ofNat tail.length]
    (by simp [Segment.size])
  obtain ⟨m₆, text, h₆⟩ := h₅.writeNewest 0x81 tail
    (by simp only [maxTail, Segment.size, UInt16.reduceToNat] at *; omega)
  obtain ⟨m₇, ended, h₇⟩ := h₆.writeNewest (UInt16.ofNat (0x81 + tail.length)) [0x0d]
    (by rw [stop]; simp only [maxTail, Segment.size, List.length_singleton] at *; omega)
  have unknown : m₇.variableAddress? Dos.prefixVariable = none := by
    rw [Memory.variableAddress?, h₇.unnamed]
    rfl
  let m₈ : Memory := { m₇ with
    variableTable := (Dos.prefixVariable, prefixName) :: m₇.variableTable, nextVariable := 2 }
  have named : m₇.allocateVariable Dos.prefixVariable 2 = .ok (prefixName, m₈) := by
    rw [Memory.allocateVariable_of_unknown unknown, h₇.unused]
    rfl
  obtain ⟨elsewhere, h₈⟩ := h₇.toHolds.allocateVariable named
  have maps : m₈.Maps prefixName 2 := ⟨h₇.mapped, by decide⟩
  obtain ⟨m₉, noted⟩ := Memory.exists_writeWord maps (ordinalAt ss.length)
  have stored := Memory.wordStored_of_writeWord noted
  have known : m₉.variableAddress? Dos.prefixVariable = some prefixName := by
    rw [(Memory.SameAllocations.of_writeBytes noted).variableAddress?,
      Memory.variableAddress?_cons, if_pos rfl]
  refine ⟨m₉, ?_, h₈.writeVariable elsewhere noted, known, stored.read⟩
  rw [placePrefix, bind_of_ok (allocating_of_ok allocated), bind_of_ok (changing_of_ok exit),
    bind_of_ok (changing_of_ok (f := (·.writeWord _ _)) top),
    bind_of_ok (changing_of_ok (f := (·.writeWord _ _)) settings),
    bind_of_ok (changing_of_ok (f := (·.writeByte _ _)) length), bind_of_ok (changing_of_ok text),
    bind_of_ok (changing_of_ok (f := (·.writeByte _ _)) ended),
    bind_of_ok (allocating_of_ok named), bind_of_ok (changing_of_ok noted)]
  rfl

theorem placePrefix_of_full (h : m.Stocked ss) (full : dynamicLimit ≤ dynamicBase + ss.length) :
    placePrefix environment tail m = .error .segmentsExhausted m := by
  rw [placePrefix, bind_of_error (allocating_of_error (h.allocateSegment_of_full full .data))]

end Prefix

section Loads

variable {arguments : List String} {r : Registers}

/-- The registers that a program starts with when its segments are the first ones. -/
def initialRegisters (image : Image) : Registers :=
  { Registers.reset image.stack.offset with
    ss := ordinalAt image.stack.segment
    cs := ordinalAt image.entry.segment
    ip := image.entry.offset
    ds := ordinalAt (image.segments.length + 1)
    es := ordinalAt (image.segments.length + 1) }

/-- What a load leaves in memory: the image, the environment and the segment prefix, which the
first variable names. -/
structure Placed (c : ProgramConfig) (image : Image) (arguments : List String)
    (m : Memory) : Prop where
  holds : m.Holds (relocatedSegments image ++
    [(Segment.ofContents .data []).write 0 (environmentBlock c),
      .ofPrefix (ordinalAt image.segments.length) (commandTail arguments)])
  name : m.variableAddress? Dos.prefixVariable = some prefixName
  named : m.readWord prefixName = .ok (ordinalAt (image.segments.length + 1))

theorem length_relocatedSegments (image : Image) :
    (relocatedSegments image).length = image.segments.length := by
  simp [relocatedSegments]

/-- How a load of a sound image can end, and when. -/
inductive LoadEnds (c : ProgramConfig) (image : Image) (arguments : List String) (m : Memory) :
    EStateM.Result Fault Memory Registers → Prop
  | long (long : maxTail < (commandTail arguments).length) :
      LoadEnds c image arguments m (.error (.commandLineTooLong (commandTail arguments).length) m)
  | full (m' : Memory) (short : (commandTail arguments).length ≤ maxTail)
      (full : dynamicLimit ≤ dynamicBase + image.segments.length ∨
        dynamicLimit ≤ dynamicBase + image.segments.length + 1 ∧
        (environmentBlock c).length ≤ Segment.size) :
      LoadEnds c image arguments m (.error .segmentsExhausted m')
  | large (m' : Memory) (short : (commandTail arguments).length ≤ maxTail)
      (room : dynamicBase + image.segments.length < dynamicLimit)
      (large : Segment.size < (environmentBlock c).length) :
      LoadEnds c image arguments m
        (.error
          (.offsetOutOfRange ⟨ordinalAt image.segments.length, 0⟩ (environmentBlock c).length)
            m')
  | loaded (m' : Memory) (short : (commandTail arguments).length ≤ maxTail)
      (room : dynamicBase + image.segments.length + 1 < dynamicLimit)
      (fits : (environmentBlock c).length ≤ Segment.size) (placed : Placed c image arguments m') :
      LoadEnds c image arguments m (.ok (initialRegisters image) m')

theorem loadEnds (sound : image.Sound) (c : ProgramConfig) (arguments : List String) (m : Memory) :
    LoadEnds c image arguments m (load c image arguments m) := by
  rw [load_eq]
  by_cases long : maxTail < (commandTail arguments).length
  · rw [if_pos long]
    exact .long long
  have short := Nat.le_of_not_lt long
  rw [if_neg long, place]
  by_cases beyond : dynamicLimit < dynamicBase + image.segments.length
  · obtain ⟨m₁, refused⟩ :=
      placeSegments_of_full (.clear m) sound.small (by simpa using beyond)
    rw [bind_of_error refused]
    exact .full m₁ short (.inl (Nat.le_of_lt beyond))
  obtain ⟨m₁, segments, h₁⟩ :=
    placeSegments_of_room (.clear m) sound.small (by simpa using Nat.le_of_not_lt beyond)
  rw [List.length_nil, ← List.range_eq_range'] at segments
  obtain ⟨m₂, relocated, h₂⟩ := relocate_of_sound h₁ (by simp) sound.relocations
  have count := length_relocatedSegments image
  replace h₂ : m₂.Stocked (relocatedSegments image) := h₂
  rw [bind_of_ok segments, bind_of_ok relocated]
  by_cases full : dynamicLimit ≤ dynamicBase + image.segments.length
  · rw [bind_of_error (placeEnvironment_of_full h₂ (by rwa [count]))]
    exact .full m₂ short (.inl full)
  have room := Nat.lt_of_not_le full
  by_cases large : Segment.size < (environmentBlock c).length
  · obtain ⟨m₃, refused⟩ := placeEnvironment_of_large h₂ (by rwa [count]) large
    rw [bind_of_error refused, count]
    exact .large m₃ short room large
  have fits := Nat.le_of_not_lt large
  obtain ⟨m₃, environment, h₃⟩ := placeEnvironment_of_room h₂ (by rwa [count]) fits
  rw [bind_of_ok environment, count]
  have count' :
      (relocatedSegments image ++
        [(Segment.ofContents .data []).write 0 (environmentBlock c)]).length =
      image.segments.length + 1 := by rw [List.length_append, count, List.length_singleton]
  by_cases last : dynamicLimit ≤ dynamicBase + image.segments.length + 1
  · rw [bind_of_error (placePrefix_of_full h₃ (by rwa [count', ← Nat.add_assoc]))]
    exact .full m₃ short (.inr ⟨last, fits⟩)
  have room' := Nat.lt_of_not_le last
  obtain ⟨m₄, segment, holds, name, named⟩ :=
    placePrefix_of_room (ordinalAt image.segments.length) h₃
    (by rwa [count', ← Nat.add_assoc]) short
  rw [count'] at segment named
  rw [bind_of_ok segment, bind_of_ok (ordinalOf_of_lt sound.stack m₄),
    bind_of_ok (ordinalOf_of_lt sound.entry m₄)]
  exact .loaded m₄ short room' fits ⟨by simpa using holds, name, named⟩

/-- Only a sound image is ever loaded. -/
theorem sound_of_load (loaded : load c image arguments m = .ok r m') : image.Sound := by
  rw [load_eq] at loaded
  split at loaded
  · cases loaded
  obtain ⟨ordinals, m₁, segments, loaded₁⟩ := of_bind loaded
  obtain ⟨_, m₂, relocated, loaded₂⟩ := of_bind loaded₁
  obtain ⟨_, m₃, _, loaded₃⟩ := of_bind loaded₂
  obtain ⟨_, m₄, _, loaded₄⟩ := of_bind loaded₃
  obtain ⟨_, m₅, stack, loaded₅⟩ := of_bind loaded₄
  obtain ⟨_, m₆, entry, _⟩ := of_bind loaded₅
  have small := small_of_placeSegments segments
  obtain ⟨rfl, _⟩ := holds_placeSegments (.clear m) segments
  rw [List.length_nil, ← List.range_eq_range'] at *
  exact ⟨small, sound_of_relocate relocated, (of_ordinalOf entry).1, (of_ordinalOf stack).1⟩

/-- Everything that a load places fits. -/
structure Fits (c : ProgramConfig) (image : Image) : Prop extends image.Sound where
  /-- The environment and the segment prefix have a segment each. -/
  room : dynamicBase + image.segments.length + 2 ≤ dynamicLimit
  environment : (environmentBlock c).length ≤ Segment.size

theorem of_load_ok (loaded : load c image arguments m = .ok r m') :
    Fits c image ∧ (commandTail arguments).length ≤ maxTail ∧ r = initialRegisters image ∧
      Placed c image arguments m' := by
  have sound := sound_of_load loaded
  have ends := loadEnds sound c arguments m
  rw [loaded] at ends
  cases ends with
  | loaded _ short room fits placed => exact ⟨⟨sound, room, fits⟩, short, rfl, placed⟩

theorem load_of_fits (fits : Fits c image) (short : (commandTail arguments).length ≤ maxTail)
    (m : Memory) :
    ∃ m', load c image arguments m = .ok (initialRegisters image) m' := by
  have room := fits.room
  have environment := fits.environment
  have ends := loadEnds fits.toSound c arguments m
  generalize load c image arguments m = result at ends ⊢
  cases ends with
  | long long => omega
  | full _ _ full => omega
  | large _ _ _ large => omega
  | loaded m' => exact ⟨m', rfl⟩

end Loads

end Program

end RealMode
