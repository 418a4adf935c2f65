import Mathlib.Algebra.GroupWithZero.Nat
import Mathlib.Data.List.Induction
import RealMode.Proofs.MemoryAccess
import RealMode.Proofs.SegmentBytes

/-!
# Variables

Variables are laid one behind the other in their segment, and are all forgotten when memory is
cleared. A memory knows the name and the address of a variable; its length stands in the list of
variables that goes with a history. Whatever the history, the listed variables are the ones that
memory knows, they do not overlap, and what they do not take up is free.
-/

namespace RealMode

/-- A variable, with the length that was asked for when it was made. -/
structure Variable where
  name : String
  address : FarPtr
  length : Nat
deriving DecidableEq

namespace Variable

def start (v : Variable) : Nat := v.address.offset.toNat

/-- One past the last byte. -/
def stop (v : Variable) : Nat := v.start + v.length

/-- No byte belongs to both. -/
def Apart (v w : Variable) : Prop := v.stop ≤ w.start ∨ w.stop ≤ v.start

theorem Apart.symm {v w : Variable} (apart : v.Apart w) : w.Apart v := Or.symm apart

instance : Std.Symm Apart := ⟨fun _ _ => Apart.symm⟩

end Variable

/-- What can be asked of a memory, reading apart. -/
inductive MemoryOperation where
  | addSegment (ordinal : UInt16) (kind : SegmentKind) (contents : List UInt8)
  | loadSegment (ordinal : UInt16) (kind : SegmentKind) (contents : List UInt8)
  | allocateSegment (kind : SegmentKind)
  | allocateVariable (name : String) (length : Nat)
  | clear
  | writeBytes (p : FarPtr) (bytes : List UInt8)
  | fetch (p : FarPtr)
  | beginJournal
  | commit
  | rollback
deriving DecidableEq

namespace Memory

variable {m m' : Memory} {vs : List Variable} {name : String} {length : Nat} {p : FarPtr}

/-- The bytes that a list of variables takes up. -/
def occupied (vs : List Variable) : Nat := (vs.map Variable.length).sum

/-- The variables once `length` bytes have been asked for under `name`, where `m` is the memory
afterwards. A name that was there before keeps its length. -/
def listed (m : Memory) (vs : List Variable) (name : String) (length : Nat) : List Variable :=
  if name ∈ vs.map Variable.name then vs
  else
    match m.variableAddress? name with
    | some p => ⟨name, p, length⟩ :: vs
    | none => vs

/-- The variables that the memory knows are those of the list, newest first, and lie
one behind the other. -/
structure LaidOut (m : Memory) (vs : List Variable) : Prop where
  known : ∀ v ∈ vs, m.variableAddress? v.name = some v.address
  complete : ∀ name p, m.variableAddress? name = some p →
    ∃ v ∈ vs, v.name = name ∧ v.address = p
  next : m.nextVariable = occupied vs
  room : m.nextVariable ≤ Segment.size
  placed : ∀ v ∈ vs, v.address.segment = variablesSegment ∧ v.stop ≤ m.nextVariable
  ordered : vs.Pairwise fun v w => v.name ≠ w.name ∧ w.stop ≤ v.start

theorem variableAddress?_cons (m : Memory) (name other : String) (p : FarPtr) (next : Nat) :
    { m with variableTable := (name, p) :: m.variableTable, nextVariable := next }.variableAddress?
      other =
      if other = name then some p else m.variableAddress? other := by
  rw [variableAddress?, variableAddress?, List.lookup_cons]
  by_cases same : other = name
  · rw [if_pos same, beq_iff_eq.2 same]
  · rw [if_neg same, beq_eq_false_iff_ne.2 same]

theorem allocateVariable_of_known (known : m.variableAddress? name = some p) (length : Nat) :
    m.allocateVariable name length = .ok (p, m) := by
  rw [allocateVariable, known]

/-- A name that is not known takes the next bytes, if there are enough of them and one at least. -/
theorem allocateVariable_of_unknown (unknown : m.variableAddress? name = none) (length : Nat) :
    m.allocateVariable name length =
      if Segment.size - m.nextVariable < length ∨ Segment.size - m.nextVariable = 0 then
        .error (.outOfMemory length (Segment.size - m.nextVariable))
      else
        .ok (⟨variablesSegment, UInt16.ofNat m.nextVariable⟩,
          { m with
            variableTable :=
  (name, ⟨variablesSegment, UInt16.ofNat m.nextVariable⟩) :: m.variableTable
            nextVariable := m.nextVariable + length }) := by
  rw [allocateVariable, unknown]

namespace LaidOut

theorem nil (known : ∀ name, m.variableAddress? name = none) (next : m.nextVariable = 0) :
    m.LaidOut [] where
  known _ none := absurd none List.not_mem_nil
  complete name p found := by
    rw [known] at found
    cases found
  next := next
  room := next ▸ Nat.zero_le _
  placed _ none := absurd none List.not_mem_nil
  ordered := .nil

theorem congr (laid : m.LaidOut vs) (table : m'.variableTable = m.variableTable)
    (next : m'.nextVariable = m.nextVariable) : m'.LaidOut vs := by
  have same (name : String) : m'.variableAddress? name = m.variableAddress? name := by
    rw [variableAddress?, variableAddress?, table]
  refine ⟨fun v listed => ?_, fun name p found => ?_, ?_, ?_, fun v listed => ?_, laid.ordered⟩
  · rw [same]
    exact laid.known v listed
  · rw [same] at found
    exact laid.complete name p found
  · rw [next]
    exact laid.next
  · rw [next]
    exact laid.room
  · rw [next]
    exact laid.placed v listed

theorem mem_names_iff (laid : m.LaidOut vs) : name ∈ vs.map Variable.name ↔
    ∃ p, m.variableAddress? name = some p := by
  constructor
  · intro there
    obtain ⟨v, listed, rfl⟩ := List.mem_map.1 there
    exact ⟨v.address, laid.known v listed⟩
  · rintro ⟨p, found⟩
    obtain ⟨v, listed, rfl, -⟩ := laid.complete name p found
    exact List.mem_map_of_mem listed

theorem not_mem_names (laid : m.LaidOut vs) (unknown : m.variableAddress? name = none) :
    name ∉ vs.map Variable.name := by
  intro there
  obtain ⟨p, found⟩ := laid.mem_names_iff.1 there
  rw [unknown] at found
  cases found

/-- The next bytes lie behind all variables that there are. -/
theorem cons (laid : m.LaidOut vs) (unknown : m.variableAddress? name = none)
    (fits : m.nextVariable + length ≤ Segment.size) (some : m.nextVariable < Segment.size) :
    let p : FarPtr := ⟨variablesSegment, UInt16.ofNat m.nextVariable⟩
    { m with variableTable :=
      (name, p) :: m.variableTable, nextVariable := m.nextVariable + length }.LaidOut
      (⟨name, p, length⟩ :: vs) := by
  intro p
  have place : p.offset.toNat = m.nextVariable := Segment.toNat_ofNat_of_lt some
  have differ (v : Variable) (listed : v ∈ vs) : v.name ≠ name := by
    rintro rfl
    rw [laid.known v listed] at unknown
    cases unknown
  refine ⟨fun v listed => ?_, fun other q found => ?_, ?_, fits, fun v listed => ?_, ?_⟩
  · rw [variableAddress?_cons]
    rcases List.mem_cons.1 listed with rfl | older
    · rw [if_pos rfl]
    · rw [if_neg (differ v older)]
      exact laid.known v older
  · rw [variableAddress?_cons] at found
    split at found
    · next same =>
      cases found
      exact ⟨_, List.mem_cons_self, same.symm, rfl⟩
    · obtain ⟨v, older, named, placed⟩ := laid.complete other q found
      exact ⟨v, List.mem_cons_of_mem _ older, named, placed⟩
  · simp only [occupied, List.map_cons, List.sum_cons]
    rw [laid.next, occupied, Nat.add_comm]
  · rcases List.mem_cons.1 listed with rfl | older
    · exact ⟨rfl, Nat.le_of_eq (congrArg (· + length) place)⟩
    · obtain ⟨segment, before⟩ := laid.placed v older
      exact ⟨segment, Nat.le_trans before (Nat.le_add_right _ _)⟩
  · refine List.pairwise_cons.2 ⟨fun v older => ⟨(differ v older).symm, ?_⟩, laid.ordered⟩
    rw [Variable.start, place]
    exact (laid.placed v older).2

theorem allocateVariable (laid : m.LaidOut vs)
    (allocated : m.allocateVariable name length = .ok (p, m')) :
    m'.variableAddress? name = some p ∧ m'.LaidOut (m'.listed vs name length) := by
  cases known : m.variableAddress? name with
  | some q =>
    rw [allocateVariable_of_known known] at allocated
    cases allocated
    rw [listed, if_pos (laid.mem_names_iff.2 ⟨p, known⟩)]
    exact ⟨known, laid⟩
  | none =>
    rw [allocateVariable_of_unknown known] at allocated
    split at allocated
    · cases allocated
    · next free =>
      cases allocated
      have found : ({ m with
          variableTable :=
  (name, ⟨variablesSegment, UInt16.ofNat m.nextVariable⟩) :: m.variableTable
          nextVariable := m.nextVariable + length } : Memory).variableAddress? name =
          some ⟨variablesSegment, UInt16.ofNat m.nextVariable⟩ := by
        rw [variableAddress?_cons, if_pos rfl]
      refine ⟨found, ?_⟩
      rw [listed, if_neg (laid.not_mem_names known), found]
      exact laid.cons known (by omega) (by omega)

/-- A memory that knows the name no better than before has the same list. -/
theorem listed_of_unchanged (laid : m.LaidOut vs) : m.listed vs name length = vs := by
  rw [listed]
  split
  · rfl
  · next missing =>
    cases known : m.variableAddress? name with
    | none => rfl
    | some p => exact absurd (laid.mem_names_iff.2 ⟨p, known⟩) missing

theorem apart (laid : m.LaidOut vs) : vs.Pairwise fun v w => v.name ≠ w.name ∧ v.Apart w :=
  laid.ordered.imp fun both => ⟨both.1, .inr both.2⟩

end LaidOut

/-- An operation that is refused changes nothing. -/
def attempt (m : Memory) : Except Fault Memory → Memory
  | .ok m' => m'
  | .error _ => m

def perform (m : Memory) : MemoryOperation → Memory
  | .addSegment ordinal kind contents => m.attempt (m.addSegment ordinal kind contents)
  | .loadSegment ordinal kind contents => m.attempt (m.loadSegment ordinal kind contents)
  | .allocateSegment kind => m.attempt ((m.allocateSegment kind).map Prod.snd)
  | .allocateVariable name length => m.attempt ((m.allocateVariable name length).map Prod.snd)
  | .clear => m.clear
  | .writeBytes p bytes => m.attempt (m.writeBytes p bytes)
  | .fetch p => m.attempt ((m.fetch p).map Prod.snd)
  | .beginJournal => m.beginJournal
  | .commit => m.commit
  | .rollback => m.rollback

def run (history : List MemoryOperation) : Memory := history.foldl perform fresh

/-- The list of variables after an operation on `m`. -/
def relist (m : Memory) (vs : List Variable) : MemoryOperation → List Variable
  | .clear => []
  | .allocateVariable name length =>
    (m.perform (.allocateVariable name length)).listed vs name length
  | _ => vs

/-- The variables that have been made since memory was last cleared, newest first. -/
def live (history : List MemoryOperation) : List Variable :=
  (history.foldl (fun (m, vs) op => (m.perform op, m.relist vs op)) (fresh, [])).2

theorem run_concat (history : List MemoryOperation) (op : MemoryOperation) :
    run (history ++ [op]) = (run history).perform op := by
  simp [run]

theorem live_concat (history : List MemoryOperation) (op : MemoryOperation) :
    live (history ++ [op]) = (run history).relist (live history) op := by
  have first : (history.foldl (fun (m, vs) op => (m.perform op, m.relist vs op)) (fresh, [])).1 =
      run history := by
    induction history using List.reverseRecOn with
    | nil => rfl
    | append_singleton history op ih => simp [run_concat, ih]
  simp [live, first]

section Steps

variable {op : MemoryOperation}

/-- Only two operations have to do with variables. -/
theorem perform_cases (m : Memory) (op : MemoryOperation) :
    op = .clear ∨ (∃ name length, op = .allocateVariable name length) ∨
      (∀ vs, m.relist vs op = vs) ∧ (m.perform op).variableTable = m.variableTable ∧
        (m.perform op).nextVariable = m.nextVariable := by
  have added {ordinal : UInt16} {kind : SegmentKind} {contents : List UInt8} {m' : Memory}
      (made : m.addSegment ordinal kind contents = .ok m') :
      m'.variableTable = m.variableTable ∧ m'.nextVariable = m.nextVariable := by
    obtain ⟨-, rfl⟩ := addSegment_eq_ok_iff.1 made
    exact ⟨rfl, rfl⟩
  cases op with
  | addSegment ordinal kind contents =>
    refine .inr (.inr ⟨fun _ => rfl, ?_⟩)
    cases made : m.addSegment ordinal kind contents with
    | ok m' => simpa [perform, attempt, made] using added made
    | error e => simp [perform, attempt, made]
  | loadSegment ordinal kind contents =>
    refine .inr (.inr ⟨fun _ => rfl, ?_⟩)
    cases made : m.loadSegment ordinal kind contents with
    | ok m' => simpa [perform, attempt, made] using added (addSegment_of_loadSegment made)
    | error e => simp [perform, attempt, made]
  | allocateSegment kind =>
    refine .inr (.inr ⟨fun _ => rfl, ?_⟩)
    cases made : m.allocateSegment kind with
    | ok r =>
      simpa [perform, attempt, made, Except.map] using added (allocateSegment_eq_ok_iff.1 made).2
    | error e => simp [perform, attempt, made, Except.map]
  | allocateVariable name length => exact .inr (.inl ⟨name, length, rfl⟩)
  | clear => exact .inl rfl
  | writeBytes p bytes =>
    refine .inr (.inr ⟨fun _ => rfl, ?_⟩)
    cases made : m.writeBytes p bytes with
    | ok m' =>
      obtain ⟨s, -, -, rfl⟩ := writeBytes_eq_ok_iff.1 made
      simp [perform, attempt, made]
    | error e => simp [perform, attempt, made]
  | fetch p =>
    refine .inr (.inr ⟨fun _ => rfl, ?_⟩)
    cases made : m.fetch p with
    | ok r =>
      obtain ⟨i, m'⟩ := r
      obtain ⟨s, t, -, -, rfl⟩ := fetch_eq_ok_iff.1 made
      simp [perform, attempt, made, Except.map]
    | error e => simp [perform, attempt, made, Except.map]
  | beginJournal => exact .inr (.inr ⟨fun _ => rfl, rfl, rfl⟩)
  | commit => exact .inr (.inr ⟨fun _ => rfl, rfl, rfl⟩)
  | rollback => exact .inr (.inr ⟨fun _ => rfl, rfl, rfl⟩)

theorem LaidOut.perform (laid : m.LaidOut vs) (op : MemoryOperation) :
    (m.perform op).LaidOut (m.relist vs op) := by
  obtain rfl | ⟨name, length, rfl⟩ | ⟨list, table, next⟩ := perform_cases m op
  · exact .nil (fun _ => rfl) rfl
  · cases made : m.allocateVariable name length with
    | ok r =>
      simpa [relist, Memory.perform, attempt, made, Except.map] using (laid.allocateVariable made).2
    | error e =>
      simpa [relist, Memory.perform, attempt, made, Except.map, laid.listed_of_unchanged] using laid
  · rw [list]
    exact laid.congr table next

/-- A variable stays where it is until memory is cleared. -/
theorem variableAddress?_perform (known : m.variableAddress? name = some p)
    (stays : op ≠ .clear) :
    (m.perform op).variableAddress? name = some p := by
  obtain rfl | ⟨other, length, rfl⟩ | ⟨-, table, -⟩ := perform_cases m op
  · exact absurd rfl stays
  · cases taken : m.variableAddress? other with
    | some q => simpa [perform, attempt, allocateVariable_of_known taken, Except.map] using known
    | none =>
      have differ : name ≠ other := by
        rintro rfl
        rw [known] at taken
        cases taken
      rw [perform, allocateVariable_of_unknown taken]
      split
      · exact known
      · simpa [attempt, Except.map, variableAddress?_cons, differ] using known
  · simpa [variableAddress?, table] using known

end Steps

/-- By induction on the history, from what one operation keeps. -/
theorem laidOut_run (history : List MemoryOperation) : (run history).LaidOut (live history) := by
  induction history using List.reverseRecOn with
  | nil => exact .nil (fun _ => rfl) rfl
  | append_singleton history op ih =>
    rw [run_concat, live_concat]
    exact ih.perform op

theorem variableAddress?_run_append {history later : List MemoryOperation}
    (known : (run history).variableAddress? name = some p) (stays : .clear ∉ later) :
    (run (history ++ later)).variableAddress? name = some p := by
  induction later using List.reverseRecOn with
  | nil => simpa using known
  | append_singleton later op ih =>
    simp only [List.mem_append, List.mem_singleton, not_or] at stays
    rw [← List.append_assoc, run_concat]
    exact variableAddress?_perform (ih stays.1) fun clears => stays.2 clears.symm

/-- Whatever has been done to a memory, the variables made since it was cleared lie in their
segment, do not overlap and are those that it knows. A name that is known keeps its address until
memory is cleared, and asking for it again changes nothing. A new name is refused exactly if it
does not fit into what is left or nothing is left, and then nothing changes; otherwise it stands
first among the variables. -/
theorem variables_kept_apart (history : List MemoryOperation) :
    let m := run history
    let free := Segment.size - occupied (live history)
    (∀ v ∈ live history, v.address.segment = variablesSegment ∧ v.stop ≤ Segment.size) ∧
    ((live history).Pairwise fun v w => v.name ≠ w.name ∧ v.Apart w) ∧
    (∀ name p, m.variableAddress? name = some p ↔
      ∃ v ∈ live history, v.name = name ∧ v.address = p) ∧
    (∀ name p, m.variableAddress? name = some p → ∀ later, .clear ∉ later → ∀ length,
      (run (history ++ later)).allocateVariable name length = .ok (p, run (history ++ later))) ∧
    (∀ name, m.variableAddress? name = none → ∀ length,
      ((∃ requested available,
        m.allocateVariable name length = .error (.outOfMemory requested available)) ↔
        free < length ∨ free = 0) ∧
      (∀ e, m.allocateVariable name length = .error e →
        e = .outOfMemory length free ∧ run (history ++ [.allocateVariable name length]) = m) ∧
      ∀ p m', m.allocateVariable name length = .ok (p, m') →
        run (history ++ [.allocateVariable name length]) = m' ∧
        live (history ++ [.allocateVariable name length]) =
          ⟨name, p, length⟩ :: live history) := by
  intro m free
  have laid : m.LaidOut (live history) := laidOut_run history
  refine ⟨fun v listed => ?_, laid.apart, fun name p => ⟨laid.complete name p, ?_⟩, ?_,
    fun name unknown length => ?_⟩
  · obtain ⟨segment, before⟩ := laid.placed v listed
    exact ⟨segment, Nat.le_trans before laid.room⟩
  · rintro ⟨v, listed, rfl, rfl⟩
    exact laid.known v listed
  · intro name p known later stays length
    exact allocateVariable_of_known (variableAddress?_run_append known stays) length
  · have left : Segment.size - m.nextVariable = free := congrArg (Segment.size - ·) laid.next
    have outcome := allocateVariable_of_unknown unknown length
    rw [left] at outcome
    have ran : run (history ++ [.allocateVariable name length]) =
        m.attempt ((m.allocateVariable name length).map Prod.snd) := run_concat _ _
    refine ⟨?_, fun e refused => ?_, fun p m' made => ?_⟩
    · rw [outcome]
      split
      · next full => exact iff_of_true ⟨length, free, rfl⟩ full
      · next fits =>
        refine iff_of_false ?_ fits
        rintro ⟨_, _, refused⟩
        cases refused
    · refine ⟨?_, by rw [ran, refused]; rfl⟩
      rw [outcome] at refused
      split at refused
      · cases refused
        rfl
      · cases refused
    · obtain ⟨found, -⟩ := laid.allocateVariable made
      rw [made] at ran
      refine ⟨ran, ?_⟩
      rw [live_concat, relist, ← run_concat, ran]
      change m'.listed (live history) name length = _
      rw [listed, if_neg (laid.not_mem_names unknown), found]

/-- The last bytes of the segment are taken up exactly. One variable is of no length and
another is asked for twice. -/
def toTheEnd : List MemoryOperation :=
  [.allocateVariable "A" 65528, .allocateVariable "Z" 0, .allocateVariable "A" 9,
   .allocateVariable "C" 9,
    .allocateVariable "B" 8]

/-- When the segment is full not even a variable of no length is made. -/
theorem full_segment_refuses :
    live toTheEnd =
      [⟨"B", ⟨variablesSegment, 65528⟩, 8⟩, ⟨"Z", ⟨variablesSegment, 65528⟩, 0⟩,
       ⟨"A", ⟨variablesSegment, 0⟩, 65528⟩] ∧
    (⟨"B", ⟨variablesSegment, 65528⟩, 8⟩ : Variable).stop ≤ Segment.size ∧
    (run (toTheEnd ++ [.beginJournal, .rollback])).allocateVariable "Z" 100 =
      .ok (⟨variablesSegment, 65528⟩, run (toTheEnd ++ [.beginJournal, .rollback])) ∧
    (∃ requested available,
      (run toTheEnd).allocateVariable "C" 0 = .error (.outOfMemory requested available)) ∧
    run (toTheEnd ++ [.allocateVariable "C" 0]) = run toTheEnd := by
  obtain ⟨inside, -, -, keeps, new⟩ := variables_kept_apart toTheEnd
  have listed : live toTheEnd =
      [⟨"B", ⟨variablesSegment, 65528⟩, 8⟩, ⟨"Z", ⟨variablesSegment, 65528⟩, 0⟩,
        ⟨"A", ⟨variablesSegment, 0⟩, 65528⟩] := rfl
  have full : Segment.size - occupied (live toTheEnd) = 0 := by rw [listed]; rfl
  obtain ⟨refused, unchanged, -⟩ := new "C" rfl 0
  obtain ⟨requested, available, error⟩ := refused.2 (.inr full)
  refine ⟨listed, ?_, ?_, ⟨requested, available, error⟩, (unchanged _ error).2⟩
  · exact (inside ⟨"B", ⟨variablesSegment, 65528⟩, 8⟩
      (by rw [listed]; exact List.mem_cons_self)).2
  · exact keeps "Z" ⟨variablesSegment, 65528⟩ rfl [.beginJournal, .rollback] (by decide) 100

end Memory

end RealMode
