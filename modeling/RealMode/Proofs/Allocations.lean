import RealMode.Proofs.Journal
import RealMode.Proofs.StackWords

/-!
# What is allocated

The segments that there are with their kinds, the table of variables, and where the next variable
goes. Writes and fetches change none of it, and rolling a journal back does not either: what has
been allocated under it stays.
-/

namespace RealMode

theorem Segment.kind_restored (ordinal : UInt16) (log : List Overwritten) (s : Segment) :
    (s.restored ordinal log).kind = s.kind := by
  induction log generalizing s with
  | nil => rfl
  | cons old log ih =>
    rw [restored, List.foldl_cons]
    have first :
        (if old.address.segment = ordinal then s.write old.address.offset old.bytes else s).kind =
          s.kind := by
      split <;> rfl
    exact (ih _).trans first

namespace Memory

variable {m m' m'' m₀ m₁ : Memory} {ordinal : UInt16} {name : String} {length : Nat}
  {kind : SegmentKind}

theorem hasSegment_eq (m : Memory) (ordinal : UInt16) :
    m.hasSegment ordinal = (m.kind? ordinal).isSome := by
  rw [hasSegment, WordMap.contains, kind?, Option.isSome_map]

/-- The segments that a fresh memory has are never dropped. -/
theorem Reachable.hasSegment_of_fresh (reachable : m.Reachable)
    (first : Memory.fresh.hasSegment ordinal = true) :
    m.hasSegment ordinal = true := by
  have insert {m : Memory} (mapped : m.hasSegment ordinal = true) (other : UInt16) (s : Segment) :
      (m.segments.insert other s).contains ordinal = true := by
    rw [WordMap.contains, WordMap.get?_insert]
    split
    · rfl
    · exact mapped
  induction reachable with
  | fresh => exact first
  | addSegment _ added ih =>
    obtain ⟨_, rfl⟩ := addSegment_eq_ok_iff.1 added
    exact insert ih _ _
  | loadSegment _ loaded ih =>
    obtain ⟨_, rfl⟩ := addSegment_eq_ok_iff.1 (addSegment_of_loadSegment loaded)
    exact insert ih _ _
  | allocateSegment _ allocated ih =>
    obtain ⟨_, rfl⟩ := addSegment_eq_ok_iff.1 (allocateSegment_eq_ok_iff.1 allocated).2
    exact insert ih _ _
  | allocateVariable _ allocated ih => rwa [hasSegment, (of_allocateVariable allocated).1]
  | clear => exact first
  | writeBytes _ written ih =>
    obtain ⟨_, _, _, rfl⟩ := writeBytes_eq_ok_iff.1 written
    exact insert ih _ _
  | fetch _ fetched ih =>
    obtain ⟨_, _, _, _, rfl⟩ := fetch_eq_ok_iff.1 fetched
    exact insert ih _ _
  | beginJournal _ ih => exact ih
  | commit _ ih => exact ih
  | rollback _ ih =>
    rw [hasSegment, WordMap.contains, Memory.rollback, get?_foldl_restore, Option.isSome_map]
    exact ih

theorem Reachable.hasVariables (reachable : m.Reachable) : m.hasSegment variablesSegment = true :=
  reachable.hasSegment_of_fresh rfl

theorem Reachable.hasStack (reachable : m.Reachable) : m.hasSegment stackSegment = true :=
  reachable.hasSegment_of_fresh rfl

structure SameAllocations (m m' : Memory) : Prop where
  kinds : ∀ ordinal, m'.kind? ordinal = m.kind? ordinal
  table : m'.variableTable = m.variableTable
  next : m'.nextVariable = m.nextVariable

namespace SameAllocations

theorem refl (m : Memory) : m.SameAllocations m := ⟨fun _ => rfl, rfl, rfl⟩

theorem symm (same : m.SameAllocations m') : m'.SameAllocations m :=
  ⟨fun ordinal => (same.kinds ordinal).symm, same.table.symm, same.next.symm⟩

theorem trans (first : m.SameAllocations m') (second : m'.SameAllocations m'') :
    m.SameAllocations m'' where
  kinds ordinal := (second.kinds ordinal).trans (first.kinds ordinal)
  table := second.table.trans first.table
  next := second.next.trans first.next

theorem hasSegment (same : m.SameAllocations m') (ordinal : UInt16) :
    m'.hasSegment ordinal = m.hasSegment ordinal := by
  rw [hasSegment_eq, hasSegment_eq, same.kinds]

theorem variableAddress? (same : m.SameAllocations m') (name : String) :
    m'.variableAddress? name = m.variableAddress? name := by
  rw [Memory.variableAddress?, Memory.variableAddress?, same.table]

theorem of_insert {s t : Segment} (found : m.segments.get? ordinal = some s)
    (kind : t.kind = s.kind) (segments : m'.segments = m.segments.insert ordinal t)
    (table : m'.variableTable = m.variableTable) (next : m'.nextVariable = m.nextVariable) :
    m.SameAllocations m' := by
  refine ⟨fun other => ?_, table, next⟩
  rw [kind?, kind?, segments, WordMap.get?_insert]
  split
  · next here => rw [here, found, Option.map_some, Option.map_some, kind]
  · rfl

theorem of_writeBytes {p : FarPtr} {bytes : List UInt8} (written : m.writeBytes p bytes = .ok m') :
    m.SameAllocations m' := by
  obtain ⟨s, found, _, rfl⟩ := writeBytes_eq_ok_iff.1 written
  exact of_insert (t := s.write p.offset bytes) found rfl rfl rfl rfl

theorem of_fetch {p : FarPtr} {i : Instruction} (fetched : m.fetch p = .ok (i, m')) :
    m.SameAllocations m' := by
  obtain ⟨s, t, found, got, rfl⟩ := fetch_eq_ok_iff.1 fetched
  exact of_insert found (Segment.agree_of_fetch got).kind rfl rfl rfl

theorem beginJournal (m : Memory) : m.SameAllocations m.beginJournal := ⟨fun _ => rfl, rfl, rfl⟩

theorem commit (m : Memory) : m.SameAllocations m.commit := ⟨fun _ => rfl, rfl, rfl⟩

theorem rollback (m : Memory) : m.SameAllocations m.rollback := by
  refine ⟨fun ordinal => ?_, rfl, rfl⟩
  rw [kind?, kind?, Memory.rollback, get?_foldl_restore, Option.map_map]
  cases m.segments.get? ordinal with
  | none => rfl
  | some s => exact congrArg some (Segment.kind_restored ordinal _ s)

end SameAllocations

/-- One more variable, and nothing else. -/
structure MoreVariable (m : Memory) (name : String) (length : Nat) (m' : Memory) : Prop where
  kinds : ∀ ordinal, m'.kind? ordinal = m.kind? ordinal
  table : m'.variableTable = (name, ⟨variablesSegment, UInt16.ofNat m.nextVariable⟩) ::
    m.variableTable
  next : m'.nextVariable = m.nextVariable + length

/-- One more segment, and nothing else. -/
structure MoreSegment (m : Memory) (kind : SegmentKind) (m' : Memory) : Prop where
  kinds : ∃ ordinal, m.kind? ordinal = none ∧
    ∀ other, m'.kind? other = if other = ordinal then some kind else m.kind? other
  table : m'.variableTable = m.variableTable
  next : m'.nextVariable = m.nextVariable

theorem MoreVariable.hasSegment (more : m.MoreVariable name length m') (ordinal : UInt16) :
    m'.hasSegment ordinal = m.hasSegment ordinal := by
  rw [hasSegment_eq, hasSegment_eq, more.kinds]

theorem MoreSegment.hasSegment (more : m.MoreSegment kind m')
    (mapped : m.hasSegment ordinal = true) :
    m'.hasSegment ordinal = true := by
  obtain ⟨fresh, _, kinds⟩ := more.kinds
  rw [hasSegment_eq, kinds]
  split
  · rfl
  · rwa [hasSegment_eq] at mapped

theorem MoreVariable.congr (more : m.MoreVariable name length m') (before : m₀.SameAllocations m)
    (later : m'.SameAllocations m₁) : m₀.MoreVariable name length m₁ where
  kinds ordinal := by rw [later.kinds, more.kinds, before.kinds]
  table := by rw [later.table, more.table, before.table, before.next]
  next := by rw [later.next, more.next, before.next]

theorem MoreSegment.congr (more : m.MoreSegment kind m') (before : m₀.SameAllocations m)
    (later : m'.SameAllocations m₁) : m₀.MoreSegment kind m₁ where
  kinds := by
    obtain ⟨ordinal, fresh, kinds⟩ := more.kinds
    refine ⟨ordinal, by rw [← before.kinds, fresh], fun other => ?_⟩
    rw [later.kinds, kinds, before.kinds]
  table := by rw [later.table, more.table, before.table]
  next := by rw [later.next, more.next, before.next]

/-- A variable that is known keeps its place; another is put where the next one goes,
where it can be written. -/
theorem allocateVariable_cases {p : FarPtr} (mapped : m.hasSegment variablesSegment = true)
    (allocated : m.allocateVariable name length = .ok (p, m')) :
    m.variableAddress? name = some p ∧ m' = m ∨
      m.variableAddress? name = none ∧ m.MoreVariable name length m' ∧ m'.Maps p length := by
  rw [allocateVariable] at allocated
  cases known : m.variableAddress? name with
  | some q =>
    rw [known] at allocated
    cases allocated
    exact .inl ⟨rfl, rfl⟩
  | none =>
    rw [known] at allocated
    dsimp only at allocated
    split at allocated
    · cases allocated
    · next room =>
      cases allocated
      have place : (UInt16.ofNat m.nextVariable).toNat = m.nextVariable :=
        Segment.toNat_ofNat_of_lt (by omega)
      exact .inr ⟨rfl, ⟨fun _ => rfl, rfl, rfl⟩, mapped, by rw [place]; omega⟩

theorem of_allocateVariable_error {e : Fault}
    (refused : m.allocateVariable name length = .error e) :
    m.variableAddress? name = none ∧
    (Segment.size < m.nextVariable + length ∨ Segment.size ≤ m.nextVariable) := by
  rw [allocateVariable] at refused
  cases known : m.variableAddress? name with
  | some q =>
    rw [known] at refused
    cases refused
  | none =>
    rw [known] at refused
    dsimp only at refused
    split at refused
    · next full => exact ⟨rfl, by omega⟩
    · cases refused

theorem moreSegment_of_allocateSegment (allocated : m.allocateSegment kind = .ok (ordinal, m')) :
    m.MoreSegment kind m' := by
  obtain ⟨free, added⟩ := allocateSegment_eq_ok_iff.1 allocated
  obtain ⟨_, rfl⟩ := addSegment_eq_ok_iff.1 added
  obtain ⟨_, _, _, _, unused, _⟩ := of_firstFree free
  refine ⟨⟨ordinal, ?_, fun other => ?_⟩, rfl, rfl⟩
  · rw [kind?, hasSegment_eq_false_iff.1 unused]
    rfl
  · rw [kind?, kind?, WordMap.get?_insert]
    split <;> rfl

end Memory

end RealMode
