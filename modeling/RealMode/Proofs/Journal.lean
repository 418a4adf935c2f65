import RealMode.Proofs.MemoryAccess
import RealMode.Proofs.SegmentBytes

/-!
# Taking writes back

A journal is put back into each segment on its own, newest entry first. Whatever writes and
allocations happen under an open journal, and however the writes overlap, the journal leads each
segment that was there back to its old bytes: a new entry undoes its write, and the older entries do
on equal bytes what they did before.
-/

namespace RealMode

/-- The segment at `ordinal` with the entries of a journal put back. -/
def Segment.restored (ordinal : UInt16) (log : List Overwritten) (s : Segment) : Segment :=
  log.foldl (fun s old =>
    if old.address.segment = ordinal then s.write old.address.offset old.bytes else s) s

theorem Segment.Agree.restored {s t : Segment} (h : Agree s t) (ordinal : UInt16)
    (log : List Overwritten) : Agree (s.restored ordinal log) (t.restored ordinal log) := by
  induction log generalizing s t with
  | nil => exact h
  | cons old log ih =>
    apply ih
    by_cases here : old.address.segment = ordinal
    · simpa only [if_pos here] using h.write _ _
    · simpa only [if_neg here] using h

/-- Fetching changes no byte. -/
theorem Segment.agree_of_fetch {s t : Segment} {offset : UInt16} {i : Instruction}
    (h : s.fetch offset = some (i, t)) : Agree t s := by
  rw [Segment.fetch] at h
  split at h
  · cases h
    exact .refl s
  · obtain ⟨j, _, same⟩ := Option.map_eq_some_iff.mp h
    cases same
    exact ⟨rfl, fun _ => rfl⟩

namespace Memory

theorem hasSegment_of_fetch {m m' : Memory} {p : FarPtr} {i : Instruction} {ordinal : UInt16}
    (fetched : m.fetch p = .ok (i, m')) (mapped : m.hasSegment ordinal = true) :
    m'.hasSegment ordinal = true := by
  obtain ⟨s, t, _, _, rfl⟩ := fetch_eq_ok_iff.mp fetched
  obtain ⟨u, found⟩ := hasSegment_iff.mp mapped
  by_cases here : ordinal = p.segment
  · exact hasSegment_iff.mpr ⟨t, by simp [here]⟩
  · exact hasSegment_iff.mpr ⟨u, by simpa [WordMap.get?_insert_of_ne _ _ here] using found⟩

theorem readByte_of_fetch {m m' : Memory} {p q : FarPtr} {i : Instruction}
    (fetched : m.fetch p = .ok (i, m')) (mapped : m.hasSegment q.segment = true) :
    m'.readByte q = m.readByte q := by
  obtain ⟨s, t, here, got, rfl⟩ := fetch_eq_ok_iff.mp fetched
  obtain ⟨u, found⟩ := hasSegment_iff.mp mapped
  by_cases same : q.segment = p.segment
  · rw [same] at found
    cases here.symm.trans found
    rw [readByte_eq (s := t) (by simp [same]), readByte_eq (s := s) (by rwa [same]),
      (Segment.agree_of_fetch got).byteAt]
  · rw [readByte_eq (s := u) (by simpa [WordMap.get?_insert_of_ne _ _ same] using found),
      readByte_eq found]

theorem get?_restore (segments : WordMap Segment) (old : Overwritten) (ordinal : UInt16) :
    (restore segments old).get? ordinal =
      (segments.get? ordinal).map fun s =>
        if old.address.segment = ordinal then s.write old.address.offset old.bytes else s := by
  rw [restore]
  by_cases here : old.address.segment = ordinal
  · subst here
    cases found : segments.get? old.address.segment <;> simp [found]
  · cases segments.get? old.address.segment with
    | none => simp [here]
    | some s => simp [here, WordMap.get?_insert_of_ne _ _ (Ne.symm here)]

theorem get?_foldl_restore (log : List Overwritten) (segments : WordMap Segment)
    (ordinal : UInt16) :
    (log.foldl restore segments).get? ordinal =
      (segments.get? ordinal).map (Segment.restored ordinal log) := by
  induction log generalizing segments with
  | nil =>
    rw [List.foldl_nil]
    exact (congrFun Option.map_id _).symm
  | cons old log ih =>
    rw [List.foldl_cons, ih, get?_restore, Option.map_map]
    rfl

/-- The second memory comes from the first by writes and by new segments and variables. Nothing is
dropped or replaced, and decodings may be remembered on the way. -/
inductive Edits : Memory → Memory → Prop
  | refl (m : Memory) : Edits m m
  | writeBytes {m m' m'' : Memory} {p : FarPtr} {bytes : List UInt8} :
      Edits m m' → m'.writeBytes p bytes = .ok m'' → Edits m m''
  | addSegment {m m' m'' : Memory} {ordinal : UInt16} {kind : SegmentKind}
      {contents : List UInt8} :
      Edits m m' → m'.hasSegment ordinal = false →
        m'.addSegment ordinal kind contents = .ok m'' → Edits m m''
  | allocateVariable {m m' m'' : Memory} {name : String} {length : Nat} {p : FarPtr} :
      Edits m m' → m'.allocateVariable name length = .ok (p, m'') → Edits m m''
  | fetch {m m' m'' : Memory} {p : FarPtr} {i : Instruction} :
      Edits m m' → m'.fetch p = .ok (i, m'') → Edits m m''

namespace Edits

variable {m m' m'' : Memory}

theorem trans (h : Edits m m') (k : Edits m' m'') : Edits m m'' := by
  induction k with
  | refl => exact h
  | writeBytes _ written ih => exact ih.writeBytes written
  | addSegment _ free added ih => exact ih.addSegment free added
  | allocateVariable _ allocated ih => exact ih.allocateVariable allocated
  | fetch _ fetched ih => exact ih.fetch fetched

theorem allocateSegment {kind : SegmentKind} {ordinal : UInt16} (h : Edits m m')
    (allocated : m'.allocateSegment kind = .ok (ordinal, m'')) : Edits m m'' := by
  obtain ⟨free, added⟩ := allocateSegment_eq_ok_iff.mp allocated
  obtain ⟨_, _, _, _, unused, _⟩ := of_firstFree free
  exact h.addSegment unused added

end Edits

/-- The journal of `m'` is open and leads every segment of `m` back to its bytes. -/
def LeadsBack (m m' : Memory) : Prop :=
  ∃ log, m'.journal = some log ∧
    ∀ ordinal s, m.segments.get? ordinal = some s →
      ∃ t, m'.segments.get? ordinal = some t ∧ (t.restored ordinal log).Agree s

namespace LeadsBack

variable {m m' m'' : Memory}

theorem writeBytes {p : FarPtr} {bytes : List UInt8} (h : LeadsBack m m')
    (written : m'.writeBytes p bytes = .ok m'') : LeadsBack m m'' := by
  obtain ⟨log, opened, back⟩ := h
  obtain ⟨u, mapped, fits, rfl⟩ := writeBytes_eq_ok_iff.mp written
  refine ⟨⟨p, u.slice p.offset.toNat bytes.length⟩ :: log, by simp [opened], ?_⟩
  intro ordinal s found
  obtain ⟨t, now, agree⟩ := back ordinal s found
  by_cases here : ordinal = p.segment
  · subst here
    cases mapped.symm.trans now
    refine ⟨u.write p.offset bytes, by simp, ?_⟩
    have undone := u.agree_write_slice p.offset bytes fits
    simpa [Segment.restored] using (undone.restored p.segment log).trans agree
  · refine ⟨t, by simpa [WordMap.get?_insert_of_ne _ _ here] using now, ?_⟩
    simpa [Segment.restored, Ne.symm here] using agree

/-- A segment that takes a place where there was none, or one that it agrees
with, changes nothing. -/
private theorem insert (h : LeadsBack m m') {ordinal : UInt16} {u : Segment}
    (harmless : ∀ t, m'.segments.get? ordinal = some t → u.Agree t)
    (same : m''.segments = m'.segments.insert ordinal u) (journal : m''.journal = m'.journal) :
    LeadsBack m m'' := by
  obtain ⟨log, opened, back⟩ := h
  refine ⟨log, journal.trans opened, fun o s found => ?_⟩
  obtain ⟨t, now, agree⟩ := back o s found
  rw [same]
  by_cases here : o = ordinal
  · subst here
    exact ⟨u, by simp, ((harmless t now).restored o log).trans agree⟩
  · exact ⟨t, by rwa [WordMap.get?_insert_of_ne _ _ here], agree⟩

theorem addSegment {ordinal : UInt16} {kind : SegmentKind} {contents : List UInt8}
    (h : LeadsBack m m') (free : m'.hasSegment ordinal = false)
    (added : m'.addSegment ordinal kind contents = .ok m'') : LeadsBack m m'' := by
  obtain ⟨_, rfl⟩ := addSegment_eq_ok_iff.mp added
  refine h.insert (fun t now => ?_) rfl rfl
  rw [hasSegment_eq_false_iff.mp free] at now
  cases now

theorem fetch {p : FarPtr} {i : Instruction} (h : LeadsBack m m')
    (fetched : m'.fetch p = .ok (i, m'')) : LeadsBack m m'' := by
  obtain ⟨s, u, found, got, rfl⟩ := fetch_eq_ok_iff.mp fetched
  refine h.insert (fun t now => ?_) rfl rfl
  cases found.symm.trans now
  exact Segment.agree_of_fetch got

end LeadsBack

/-- The invariant of an open journal. -/
theorem Edits.leadsBack {m m' : Memory} (h : Edits m.beginJournal m') : LeadsBack m m' := by
  generalize start : m.beginJournal = b at h
  induction h with
  | refl => exact ⟨[], start ▸ rfl, fun o s found => ⟨s, start ▸ found, .refl s⟩⟩
  | writeBytes _ written ih => exact ih.writeBytes written
  | addSegment _ free added ih => exact ih.addSegment free added
  | allocateVariable _ allocated ih =>
    obtain ⟨segments, journal⟩ := of_allocateVariable allocated
    obtain ⟨log, opened, back⟩ := ih
    exact ⟨log, journal.trans opened, segments ▸ back⟩
  | fetch _ fetched ih => exact ih.fetch fetched

/-- Rolling back gives every byte of every old segment its old value. -/
theorem readByte_rollback {m m' : Memory} (h : Edits m.beginJournal m') {p : FarPtr}
    (mapped : m.hasSegment p.segment = true) : m'.rollback.readByte p = m.readByte p := by
  obtain ⟨s, found⟩ := hasSegment_iff.mp mapped
  obtain ⟨log, opened, back⟩ := h.leadsBack
  obtain ⟨t, now, agree⟩ := back _ s found
  have restored : m'.rollback.segments.get? p.segment = some (t.restored p.segment log) := by
    simp only [rollback, opened, Option.getD_some, get?_foldl_restore, now, Option.map_some]
  rw [readByte_eq restored, readByte_eq found, agree.byteAt]

end Memory

end RealMode
