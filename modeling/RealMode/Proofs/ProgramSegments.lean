import RealMode.Proofs.MemoryAccess
import RealMode.Proofs.SegmentBytes

/-!
# The segments handed out to programs

Ordinals are handed out from the lowest on. While nothing is dropped, what has been handed out is a
list of segments, and allocations and writes are operations on that list.
-/

namespace RealMode

/-- The ordinal of the segment with this number. -/
def ordinalAt (index : Nat) : UInt16 := UInt16.ofNat (dynamicBase + index)

theorem toNat_ordinalAt {k : Nat} (inRange : dynamicBase + k < dynamicLimit) :
    (ordinalAt k).toNat = dynamicBase + k := by
  rw [ordinalAt, UInt16.toNat_ofNat']
  exact Nat.mod_eq_of_lt (by simp only [dynamicBase, dynamicLimit] at *; omega)

theorem ordinalAt_inj {j k : Nat} (hj : dynamicBase + j < dynamicLimit)
    (hk : dynamicBase + k < dynamicLimit) : ordinalAt j = ordinalAt k ↔ j = k := by
  rw [← UInt16.toNat_inj, toNat_ordinalAt hj, toNat_ordinalAt hk]
  omega

theorem ordinalAt_ne {k : Nat} (inRange : dynamicBase + k < dynamicLimit) {ordinal : UInt16}
    (low : ordinal.toNat < dynamicBase) : ordinalAt k ≠ ordinal := by
  intro same
  have value := toNat_ordinalAt inRange
  rw [same] at value
  omega

namespace Memory

/-- The segments handed out are these, and the named variables lie elsewhere. -/
structure Holds (m : Memory) (ss : List Segment) : Prop where
  room : dynamicBase + ss.length ≤ dynamicLimit
  same : ∀ k, dynamicBase + k < dynamicLimit → m.segments.get? (ordinalAt k) = ss[k]?
  apart : ∀ name p, m.variableAddress? name = some p → p.segment = variablesSegment

namespace Holds

variable {m m' : Memory} {ss : List Segment}

theorem clear (m : Memory) : m.clear.Holds [] := by
  refine ⟨by decide, fun k inRange => ?_, fun name p known => by cases known⟩
  have stack : ordinalAt k ≠ stackSegment := ordinalAt_ne inRange (by decide)
  have named : ordinalAt k ≠ variablesSegment := ordinalAt_ne inRange (by decide)
  simp [Memory.clear, fresh, WordMap.get?_insert_of_ne, stack, named]

theorem get?_eq (h : m.Holds ss) {k : Nat} (inside : k < ss.length) :
    m.segments.get? (ordinalAt k) = some ss[k] := by
  have room := h.room
  rw [h.same k (by omega), List.getElem?_eq_getElem inside]

/-- A segment put in at a number in use takes the place of the one there. -/
private theorem insert_set (h : m.Holds ss) {k : Nat} (inside : k < ss.length) (s : Segment)
    (segments : m'.segments = m.segments.insert (ordinalAt k) s)
    (table : m'.variableTable = m.variableTable) : m'.Holds (ss.set k s) := by
  have room := h.room
  refine ⟨by simpa using room, fun j inRange => ?_, fun name p known => h.apart name p ?_⟩
  · simp only [segments, WordMap.get?_insert, List.getElem?_set,
      ordinalAt_inj inRange (k := k) (by omega), h.same j inRange]
    by_cases here : j = k
    · simp [here, inside]
    · simp [here, Ne.symm here]
  · rwa [variableAddress?, ← table]

/-- The lowest free ordinal is the one after those in use. -/
private theorem firstFree (h : m.Holds ss) {ordinal : UInt16}
    (free : m.firstFree dynamicBase (dynamicLimit - dynamicBase) = some ordinal) :
    ordinal = ordinalAt ss.length ∧ dynamicBase + ss.length < dynamicLimit := by
  obtain ⟨k, low, high, rfl, unused, before⟩ := of_firstFree free
  obtain ⟨j, rfl⟩ := Nat.exists_eq_add_of_le low
  have inRange : dynamicBase + j < dynamicLimit := by
    simp only [dynamicBase, dynamicLimit] at *
    omega
  have past : ss.length ≤ j := by
    rw [← List.getElem?_eq_none_iff, ← h.same j inRange]
    exact hasSegment_eq_false_iff.mp unused
  rcases Nat.eq_or_lt_of_le past with rfl | later
  · exact ⟨rfl, inRange⟩
  · obtain ⟨s, found⟩ :=
      hasSegment_iff.mp (before (dynamicBase + ss.length) (by omega) (by omega))
    have none := h.same ss.length (by omega)
    rw [ordinalAt, found, List.getElem?_eq_none (Nat.le_refl _)] at none
    cases none

theorem allocateSegment (h : m.Holds ss) {kind : SegmentKind} {ordinal : UInt16}
    (allocated : m.allocateSegment kind = .ok (ordinal, m')) :
    ordinal = ordinalAt ss.length ∧ m'.Holds (ss ++ [.ofContents kind []]) := by
  obtain ⟨free, added⟩ := allocateSegment_eq_ok_iff.mp allocated
  obtain ⟨_, rfl⟩ := addSegment_eq_ok_iff.mp added
  obtain ⟨rfl, room⟩ := h.firstFree free
  refine ⟨rfl, ⟨by rw [List.length_append]; exact room, fun j inRange => ?_, h.apart⟩⟩
  simp only [WordMap.get?_insert, ordinalAt_inj inRange room, h.same j inRange]
  by_cases last : j = ss.length
  · simp [last]
  · rw [if_neg last]
    by_cases inside : j < ss.length
    · rw [List.getElem?_append_left inside]
    · rw [List.getElem?_eq_none (by omega), List.getElem?_eq_none (by simp; omega)]

theorem loadSegment (h : m.Holds ss) {k : Nat} (inside : k < ss.length) {kind : SegmentKind}
    {contents : List UInt8} (loaded : m.loadSegment (ordinalAt k) kind contents = .ok m') :
    m'.Holds (ss.set k (.ofContents kind contents)) := by
  obtain ⟨_, rfl⟩ := addSegment_eq_ok_iff.mp (addSegment_of_loadSegment loaded)
  exact h.insert_set inside _ rfl rfl

theorem writeBytes (h : m.Holds ss) {k : Nat} (inside : k < ss.length) {offset : UInt16}
    {bytes : List UInt8} (written : m.writeBytes ⟨ordinalAt k, offset⟩ bytes = .ok m') :
    m'.Holds (ss.set k (ss[k].write offset bytes)) := by
  obtain ⟨s, found, _, rfl⟩ := writeBytes_eq_ok_iff.mp written
  cases (h.get?_eq inside).symm.trans found
  exact h.insert_set inside _ rfl rfl

/-- What is written into the newest segment concerns no other. -/
theorem writeNewest {s : Segment} (h : m.Holds (ss ++ [s])) {offset : UInt16} {bytes : List UInt8}
    (written : m.writeBytes ⟨ordinalAt ss.length, offset⟩ bytes = .ok m') :
    m'.Holds (ss ++ [s.write offset bytes]) := by
  simpa using h.writeBytes (by simp) written

theorem allocateVariable (h : m.Holds ss) {name : String} {length : Nat} {p : FarPtr}
    (allocated : m.allocateVariable name length = .ok (p, m')) :
    p.segment = variablesSegment ∧ m'.Holds ss := by
  rw [Memory.allocateVariable] at allocated
  split at allocated
  · rename_i known
    cases allocated
    exact ⟨h.apart _ _ known, h⟩
  · dsimp only at allocated
    split at allocated
    · cases allocated
    · cases allocated
      refine ⟨rfl, h.room, h.same, fun other q known => ?_⟩
      simp only [variableAddress?, List.lookup_cons] at known
      split at known
      · cases known
        rfl
      · exact h.apart other q known

theorem writeVariable (h : m.Holds ss) {p : FarPtr} (named : p.segment = variablesSegment)
    {bytes : List UInt8} (written : m.writeBytes p bytes = .ok m') : m'.Holds ss := by
  obtain ⟨s, _, _, rfl⟩ := writeBytes_eq_ok_iff.mp written
  refine ⟨h.room, fun k inRange => ?_, h.apart⟩
  have elsewhere : ordinalAt k ≠ variablesSegment := ordinalAt_ne inRange (by decide)
  rw [named]
  exact (WordMap.get?_insert_of_ne _ _ elsewhere).trans (h.same k inRange)

end Holds

end Memory

end RealMode
