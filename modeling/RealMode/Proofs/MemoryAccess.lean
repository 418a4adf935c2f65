import RealMode.Memory

/-!
# What operations on memory come to

For each operation, when it succeeds and what it leaves. Every write is `writeBytes`, every new
segment is `addSegment`, and what a failed operation leaves is the memory it was given.
-/

namespace RealMode.Memory

variable {m m' : Memory} {p : FarPtr} {s : Segment}

theorem hasSegment_iff {ordinal : UInt16} :
    m.hasSegment ordinal = true ↔ ∃ s, m.segments.get? ordinal = some s := by
  simp [hasSegment, WordMap.contains, Option.isSome_iff_exists]

theorem hasSegment_eq_false_iff {ordinal : UInt16} :
    m.hasSegment ordinal = false ↔ m.segments.get? ordinal = none := by
  simp [hasSegment, WordMap.contains]

theorem segmentAt_eq_ok_iff {length : Nat} :
    m.segmentAt p length = .ok s ↔
      m.segments.get? p.segment = some s ∧ p.offset.toNat + length ≤ Segment.size := by
  rw [segmentAt]
  split
  · rename_i missing
    simp [missing]
  · rename_i t found
    rw [found]
    split
    · simp only [reduceCtorEq, false_iff, not_and]
      omega
    · simp only [Except.ok.injEq, Option.some.injEq]
      constructor
      · exact fun h => ⟨h, by omega⟩
      · exact fun h => h.1

/-- Whether an access faults, and how, is settled by the segments that there are. -/
theorem segmentAt_eq_error_iff {length : Nat} {e : Fault} : m.segmentAt p length = .error e ↔
    m.hasSegment p.segment = false ∧ e = .segmentNotFound p.segment ∨
      m.hasSegment p.segment = true ∧ Segment.size < p.offset.toNat + length ∧
      e = .offsetOutOfRange p length := by
  rw [segmentAt]
  cases found : m.segments.get? p.segment with
  | none =>
    have unmapped : m.hasSegment p.segment = false := hasSegment_eq_false_iff.2 found
    simp [unmapped, eq_comm]
  | some s =>
    have mapped : m.hasSegment p.segment = true := hasSegment_iff.2 ⟨s, found⟩
    by_cases overruns : Segment.size < p.offset.toNat + length
    · simp [mapped, overruns, eq_comm]
    · simp [mapped, overruns]

theorem readBytes_eq (found : m.segments.get? p.segment = some s) {length : Nat}
    (fits : p.offset.toNat + length ≤ Segment.size) :
    m.readBytes p length = .ok (s.slice p.offset.toNat length) := by
  rw [readBytes, segmentAt_eq_ok_iff.mpr ⟨found, fits⟩]
  rfl

theorem readBytes_eq_ok_iff {length : Nat} {bytes : List UInt8} :
    m.readBytes p length = .ok bytes ↔
      ∃ s, m.segments.get? p.segment = some s ∧ p.offset.toNat + length ≤ Segment.size ∧
        s.slice p.offset.toNat length = bytes := by
  constructor
  · intro read
    cases found : m.segmentAt p length with
    | error e =>
      rw [readBytes, found] at read
      cases read
    | ok s =>
      rw [readBytes, found] at read
      cases read
      obtain ⟨mapped, fits⟩ := segmentAt_eq_ok_iff.1 found
      exact ⟨s, mapped, fits, rfl⟩
  · rintro ⟨s, found, fits, rfl⟩
    exact readBytes_eq found fits

theorem length_of_readBytes {length : Nat} {bytes : List UInt8}
    (read : m.readBytes p length = .ok bytes) :
    bytes.length = length := by
  obtain ⟨s, -, -, rfl⟩ := readBytes_eq_ok_iff.1 read
  exact s.length_slice _ _

/-- One byte always fits. -/
theorem readByte_eq (found : m.segments.get? p.segment = some s) :
    m.readByte p = .ok (s.byteAt p.offset) := by
  have fits : p.offset.toNat + 1 ≤ Segment.size := p.offset.toNat_lt
  rw [readByte, segmentAt_eq_ok_iff.mpr ⟨found, fits⟩]
  rfl

theorem readWord_eq (found : m.segments.get? p.segment = some s)
    (fits : p.offset.toNat + 2 ≤ Segment.size) : m.readWord p = .ok (s.wordAt p.offset) := by
  rw [readWord, segmentAt_eq_ok_iff.mpr ⟨found, fits⟩]
  rfl

theorem writeBytes_eq_ok_iff {bytes : List UInt8} :
    m.writeBytes p bytes = .ok m' ↔
      ∃ s, m.segments.get? p.segment = some s ∧
        p.offset.toNat + bytes.length ≤ Segment.size ∧
        m' = { m with
          segments := m.segments.insert p.segment (s.write p.offset bytes)
          journal := m.journal.map (⟨p, s.slice p.offset.toNat bytes.length⟩ :: ·) } := by
  rw [writeBytes]
  constructor
  · intro h
    cases found : m.segmentAt p bytes.length with
    | error e =>
      rw [found] at h
      cases h
    | ok s =>
      rw [found] at h
      obtain ⟨mapped, fits⟩ := segmentAt_eq_ok_iff.mp found
      cases h
      exact ⟨s, mapped, fits, rfl⟩
  · rintro ⟨s, mapped, fits, rfl⟩
    rw [segmentAt_eq_ok_iff.mpr ⟨mapped, fits⟩]
    rfl

theorem addSegment_eq_ok_iff {ordinal : UInt16} {kind : SegmentKind} {contents : List UInt8} :
    m.addSegment ordinal kind contents = .ok m' ↔
      contents.length ≤ Segment.size ∧
        m' = { m with segments := m.segments.insert ordinal (.ofContents kind contents) } := by
  rw [addSegment]
  split
  · simp only [reduceCtorEq, false_iff, not_and]
    omega
  · simp only [Except.ok.injEq]
    exact ⟨fun h => ⟨by omega, h.symm⟩, fun h => h.2.symm⟩

/-- A load that is not refused is the making of a segment. -/
theorem addSegment_of_loadSegment {ordinal : UInt16} {kind : SegmentKind} {contents : List UInt8}
    (h : m.loadSegment ordinal kind contents = .ok m') :
    m.addSegment ordinal kind contents = .ok m' := by
  rw [loadSegment] at h
  split at h
  · split at h
    · exact h
    · cases h
  · exact h

/-- The first free ordinal has no segment, and those before it have one. -/
theorem of_firstFree {first n : Nat} {ordinal : UInt16} (h : m.firstFree first n = some ordinal) :
    ∃ k, first ≤ k ∧ k < first + n ∧ ordinal = UInt16.ofNat k ∧
      m.hasSegment ordinal = false ∧
      ∀ j, first ≤ j → j < k → m.hasSegment (UInt16.ofNat j) = true := by
  induction n generalizing first with
  | zero => cases h
  | succ n ih =>
    rw [firstFree] at h
    split at h
    · rename_i taken
      obtain ⟨k, low, high, same, free, before⟩ := ih h
      refine ⟨k, by omega, by omega, same, free, fun j hj hk => ?_⟩
      by_cases here : j = first
      · rw [here]
        exact taken
      · exact before j (by omega) hk
    · rename_i free
      cases h
      exact ⟨first, by omega, by omega, rfl, by simpa using free, fun j hj hk => by omega⟩

theorem allocateSegment_eq_ok_iff {kind : SegmentKind} {ordinal : UInt16} :
    m.allocateSegment kind = .ok (ordinal, m') ↔
      m.firstFree dynamicBase (dynamicLimit - dynamicBase) = some ordinal ∧
        m.addSegment ordinal kind [] = .ok m' := by
  have short : ¬ Segment.size < ([] : List UInt8).length := by simp
  rw [allocateSegment]
  split
  · rename_i full
    simp [full]
  · rename_i o free
    rw [free]
    simp only [Except.ok.injEq, Prod.mk.injEq, Option.some.injEq]
    constructor
    · rintro ⟨rfl, rfl⟩
      exact ⟨rfl, by rw [addSegment, if_neg short]⟩
    · rintro ⟨rfl, added⟩
      rw [addSegment, if_neg short] at added
      cases added
      exact ⟨rfl, rfl⟩

theorem fetch_eq_ok_iff {i : Instruction} :
    m.fetch p = .ok (i, m') ↔
      ∃ s t, m.segments.get? p.segment = some s ∧ s.fetch p.offset = some (i, t) ∧
        m' = { m with segments := m.segments.insert p.segment t } := by
  rw [fetch]
  split
  · rename_i missing
    simp [missing]
  · rename_i s found
    rw [found]
    split
    · rename_i none
      simp [none]
    · rename_i j t some
      simp only [Except.ok.injEq, Prod.mk.injEq, Option.some.injEq]
      constructor
      · rintro ⟨rfl, rfl⟩
        exact ⟨s, t, rfl, some, rfl⟩
      · rintro ⟨s', t', rfl, got, rfl⟩
        rw [some] at got
        cases got
        exact ⟨rfl, rfl⟩

/-- Names that are known keep their place, and segments are not touched. -/
theorem of_allocateVariable {name : String} {length : Nat} {q : FarPtr}
    (h : m.allocateVariable name length = .ok (q, m')) :
    m'.segments = m.segments ∧ m'.journal = m.journal := by
  rw [allocateVariable] at h
  split at h
  · cases h
    exact ⟨rfl, rfl⟩
  · dsimp only at h
    split at h
    · cases h
    · cases h
      exact ⟨rfl, rfl⟩

/-- What any operations on memory, journals included, can make of a fresh memory. -/
inductive Reachable : Memory → Prop
  | fresh : Reachable fresh
  | addSegment {m m' : Memory} {ordinal : UInt16} {kind : SegmentKind} {contents : List UInt8} :
      Reachable m → m.addSegment ordinal kind contents = .ok m' → Reachable m'
  | loadSegment {m m' : Memory} {ordinal : UInt16} {kind : SegmentKind} {contents : List UInt8} :
      Reachable m → m.loadSegment ordinal kind contents = .ok m' → Reachable m'
  | allocateSegment {m m' : Memory} {kind : SegmentKind} {ordinal : UInt16} :
      Reachable m → m.allocateSegment kind = .ok (ordinal, m') → Reachable m'
  | allocateVariable {m m' : Memory} {name : String} {length : Nat} {p : FarPtr} :
      Reachable m → m.allocateVariable name length = .ok (p, m') → Reachable m'
  | clear {m : Memory} : Reachable m → Reachable m.clear
  | writeBytes {m m' : Memory} {p : FarPtr} {bytes : List UInt8} :
      Reachable m → m.writeBytes p bytes = .ok m' → Reachable m'
  | fetch {m m' : Memory} {p : FarPtr} {i : Instruction} :
      Reachable m → m.fetch p = .ok (i, m') → Reachable m'
  | beginJournal {m : Memory} : Reachable m → Reachable m.beginJournal
  | commit {m : Memory} : Reachable m → Reachable m.commit
  | rollback {m : Memory} : Reachable m → Reachable m.rollback

end RealMode.Memory
