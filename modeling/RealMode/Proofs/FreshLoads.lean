import RealMode.Program
import RealMode.Proofs.Lockstep

/-!
# A load starts from nothing

A load clears memory before it places anything, and what it does afterwards does not
look at a journal that may be open. So it comes to the same whatever memory held, down
to the fault if it fails.
-/

namespace RealMode

namespace Memory

variable {m : Memory}

theorem writeBytes_commit (m : Memory) (p : FarPtr) (bytes : List UInt8) :
    m.commit.writeBytes p bytes = (m.writeBytes p bytes).map commit := by
  rw [writeBytes, writeBytes,
    show m.commit.segmentAt p bytes.length = m.segmentAt p bytes.length from rfl]
  cases m.segmentAt p bytes.length <;> rfl

theorem firstFree_commit (m : Memory) (first n : Nat) :
    m.commit.firstFree first n = m.firstFree first n := by
  induction n generalizing first with
  | zero => rfl
  | succ n ih =>
    rw [firstFree, firstFree, ih]
    rfl

theorem allocateSegment_commit (m : Memory) (kind : SegmentKind) :
    m.commit.allocateSegment kind = (m.allocateSegment kind).map fun r => (r.1, r.2.commit) := by
  rw [allocateSegment, allocateSegment, firstFree_commit]
  cases m.firstFree dynamicBase (dynamicLimit - dynamicBase) <;> rfl

theorem addSegment_commit (m : Memory) (ordinal : UInt16) (kind : SegmentKind)
    (contents : List UInt8) :
    m.commit.addSegment ordinal kind contents =
      (m.addSegment ordinal kind contents).map commit := by
  rw [addSegment, addSegment]
  split <;> rfl

theorem loadSegment_commit (m : Memory) (ordinal : UInt16) (kind : SegmentKind)
    (contents : List UInt8) :
    m.commit.loadSegment ordinal kind contents =
      (m.loadSegment ordinal kind contents).map commit := by
  rw [loadSegment, loadSegment, addSegment_commit,
    show m.commit.kind? ordinal = m.kind? ordinal from rfl]
  split
  · split <;> rfl
  · rfl

theorem allocateVariable_commit (m : Memory) (name : String) (length : Nat) :
    m.commit.allocateVariable name length =
      (m.allocateVariable name length).map fun r => (r.1, r.2.commit) := by
  rw [allocateVariable, allocateVariable,
    show m.commit.variableAddress? name = m.variableAddress? name from rfl]
  split
  · rfl
  · dsimp only [commit]
    split <;> rfl

end Memory

namespace Program

section Loads

open Loading
open Memory (SameContents)

variable {α : Type}

theorem respects_changing {f : Memory → Except Fault Memory}
    (blind : ∀ m, f m.commit = (f m).map Memory.commit) : Respects SameContents (changing f) := by
  intro m n same
  have results : (f m).map Memory.commit = (f n).map Memory.commit := by
    rw [← blind, ← blind, same]
  rw [changing, changing]
  revert results
  generalize f m = left, f n = right
  rcases left with e | m' <;> rcases right with e' | n' <;> intro results <;>
    simp only [Except.map, Except.ok.injEq, Except.error.injEq, reduceCtorEq] at results
  · rw [results]
    exact .error e' same
  · exact .ok () results

theorem respects_allocating {f : Memory → Except Fault (α × Memory)}
    (blind : ∀ m, f m.commit = (f m).map fun r => (r.1, r.2.commit)) :
    Respects SameContents (allocating f) := by
  intro m n same
  have results : ((f m).map fun r => (r.1, r.2.commit)) = (f n).map fun r => (r.1, r.2.commit) := by
    rw [← blind, ← blind, same]
  rw [allocating, allocating]
  revert results
  generalize f m = left, f n = right
  rcases left with e | ⟨a, m'⟩ <;> rcases right with e' | ⟨b, n'⟩ <;> intro results <;>
    simp only [Except.map, Except.ok.injEq, Except.error.injEq, Prod.mk.injEq,
      reduceCtorEq] at results
  · rw [results]
    exact .error e' same
  · obtain ⟨rfl, contents⟩ := results
    exact .ok a contents

theorem respects_writeBytes (p : FarPtr) (bytes : List UInt8) :
    Respects SameContents (changing (·.writeBytes p bytes)) :=
  respects_changing fun m => m.writeBytes_commit p bytes

theorem respects_placeSegments (segments : List ImageSegment) :
    Respects SameContents (placeSegments segments) := by
  induction segments with
  | nil => exact .pure []
  | cons s rest ih =>
    exact .bind (respects_allocating fun m => m.allocateSegment_commit _) fun ordinal =>
      .bind (respects_changing fun m => m.loadSegment_commit ordinal _ _) fun _ =>
        .bind ih fun _ => .pure _

theorem respects_ordinalOf (ordinals : List UInt16) (index : Nat) :
    Respects SameContents (ordinalOf ordinals index) := by
  rw [ordinalOf]
  split
  · exact .pure _
  · exact .throw _

theorem respects_relocate (ordinals : List UInt16) (relocations : List Relocation) :
    Respects SameContents (relocate ordinals relocations) := by
  induction relocations with
  | nil => exact .pure ()
  | cons r rest ih =>
    exact .bind (respects_ordinalOf _ _) fun segment => .bind (respects_ordinalOf _ _) fun target =>
      .bind (respects_writeBytes _ (bytesOfWord target)) fun _ => ih

theorem respects_placeEnvironment (c : ProgramConfig) :
    Respects SameContents (placeEnvironment c) :=
  .bind (respects_allocating fun m => m.allocateSegment_commit _) fun segment =>
    .bind (respects_writeBytes _ _) fun _ => .pure segment

theorem respects_placePrefix (environment : UInt16) (tail : List UInt8) :
    Respects SameContents (placePrefix environment tail) :=
  .bind (respects_allocating fun m => m.allocateSegment_commit _) fun segment =>
    .bind (respects_writeBytes _ _) fun _ =>
    .bind (respects_writeBytes _ (bytesOfWord memoryTop)) fun _ =>
    .bind (respects_writeBytes _ (bytesOfWord environment)) fun _ =>
    .bind (respects_writeBytes _ [_]) fun _ =>
    .bind (respects_writeBytes _ _) fun _ =>
    .bind (respects_writeBytes _ [_]) fun _ =>
    .bind (respects_allocating fun m => m.allocateVariable_commit _ _) fun p =>
    .bind (respects_writeBytes p (bytesOfWord segment)) fun _ => .pure segment

/-- What a load does once memory is clear. -/
def place (c : ProgramConfig) (image : Image) (arguments : List String) : Loading Registers := do
  let ordinals ← placeSegments image.segments
  relocate ordinals image.relocations
  let environment ← placeEnvironment c
  let segment ← placePrefix environment (commandTail arguments)
  let ss ← ordinalOf ordinals image.stack.segment
  let cs ← ordinalOf ordinals image.entry.segment
  return { Registers.reset image.stack.offset with
    ss := ss
    cs := cs
    ip := image.entry.offset
    ds := segment
    es := segment }

theorem load_eq (c : ProgramConfig) (image : Image) (arguments : List String) (m : Memory) :
    load c image arguments m =
      if maxTail < (commandTail arguments).length then
        .error (.commandLineTooLong (commandTail arguments).length) m
      else place c image arguments m.clear := by
  simp only [load]
  split <;> rfl

theorem respects_place (c : ProgramConfig) (image : Image) (arguments : List String) :
    Respects SameContents (place c image arguments) :=
  .bind (respects_placeSegments _) fun ordinals =>
    .bind (respects_relocate ordinals _) fun _ =>
    .bind (respects_placeEnvironment c) fun environment =>
    .bind (respects_placePrefix environment _) fun _ =>
    .bind (respects_ordinalOf ordinals _) fun _ =>
    .bind (respects_ordinalOf ordinals _) fun _ => .pure _

/-- What memory held before a load comes to nothing. -/
theorem load_cases (c : ProgramConfig) (image : Image) (arguments : List String) (m n : Memory) :
    (∃ e m' n', load c image arguments m = .error e m' ∧
      load c image arguments n = .error e n') ∨
      ∃ r m' n', load c image arguments m = .ok r m' ∧ load c image arguments n = .ok r n' ∧
        m'.SameContents n' := by
  rw [load_eq, load_eq]
  by_cases long : maxTail < (commandTail arguments).length
  · rw [if_pos long, if_pos long]
    exact .inl ⟨_, _, _, rfl, rfl⟩
  · rw [if_neg long, if_neg long]
    have placed := respects_place c image arguments m.clear n.clear rfl
    revert placed
    generalize place c image arguments m.clear = left, place c image arguments n.clear = right
    rintro (⟨r, contents⟩ | ⟨e, contents⟩)
    · exact .inr ⟨r, _, _, rfl, rfl, contents⟩
    · exact .inl ⟨e, _, _, rfl, rfl⟩

end Loads

end Program

end RealMode
