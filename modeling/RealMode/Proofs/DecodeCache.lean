import RealMode.Proofs.MemoryAccess
import RealMode.Proofs.SegmentBytes

/-!
# Remembered instructions

A segment is coherent if every instruction that it remembers is the one that its bytes give at
that offset. An instruction is settled by its own bytes, and a write forgets all that may have
looked at the bytes it changes, so each operation of memory keeps its segments coherent: fetching
shows the bytes as they are now.
-/

namespace RealMode

/-- Bytes that agree along an instruction give that instruction. -/
theorem Instruction.decode_congr {offset : UInt16} {bytes bytes' : List UInt8} {i : Instruction}
    (h : decode offset bytes = some i) (same : ∀ k < i.length, bytes'[k]? = bytes[k]?) :
    decode offset bytes' = some i := by
  have own : bytes'.take i.length = bytes.take i.length := by
    apply List.ext_getElem?
    intro k
    rw [List.getElem?_take, List.getElem?_take]
    split
    · exact same k ‹_›
    · rfl
  have settled := decode_append h (bytes'.drop i.length)
  rwa [← own, List.take_append_drop] at settled

namespace Segment

/-- Every remembered instruction is the one that the bytes at its offset give. -/
def Coherent (s : Segment) : Prop :=
  ∀ offset i, s.decoded.get? offset = some i →
    Instruction.decode offset (s.instructionBytes offset) = some i

theorem getElem?_instructionBytes (s : Segment) (offset : UInt16) {k : Nat}
    (near : k < maxInstructionLength) (inside : offset.toNat + k < size) :
    (s.instructionBytes offset)[k]? = some (s.byteAt (UInt16.ofNat (offset.toNat + k))) := by
  rw [instructionBytes, getElem?_slice, if_pos (by omega)]

theorem length_instructionBytes (s : Segment) (offset : UInt16) :
    (s.instructionBytes offset).length = min maxInstructionLength (size - offset.toNat) :=
  length_slice ..

theorem get?_eraseRange (decoded : WordMap Instruction) (first n : Nat) (fits : first + n ≤ size)
    (j : UInt16) :
    (eraseRange decoded first n).get? j =
      if first ≤ j.toNat ∧ j.toNat < first + n then none else decoded.get? j := by
  induction n generalizing decoded first with
  | zero =>
    rw [if_neg (by omega)]
    rfl
  | succ n ih =>
    have here : j = UInt16.ofNat first ↔ j.toNat = first := by
      rw [← UInt16.toNat_inj, toNat_ofNat_of_lt (by omega)]
    rw [eraseRange, ih _ _ (by omega), WordMap.get?_erase]
    simp only [here]
    by_cases same : j.toNat = first
    · rw [if_neg (by omega), if_pos same, if_pos (by omega)]
    · simp only [if_neg same]
      congr 1
      simp only [eq_iff_iff]
      omega

/-- What a write leaves remembered lies behind it, or too far ahead to reach it. -/
theorem of_get?_forget {decoded : WordMap Instruction} {start length : Nat} {j : UInt16}
    {i : Instruction} (fits : start + length ≤ size)
    (h : (forget decoded start length).get? j = some i) :
    decoded.get? j = some i ∧
      (length = 0 ∨ start + length ≤ j.toNat ∨ j.toNat + maxInstructionLength ≤ start) := by
  by_cases nothing : length = 0
  · rw [forget, if_pos nothing] at h
    exact ⟨h, Or.inl nothing⟩
  · have long : 0 < maxInstructionLength := by decide
    rw [forget, if_neg nothing, get?_eraseRange _ _ _ (by omega)] at h
    split at h
    · cases h
    · exact ⟨h, by omega⟩

namespace Coherent

variable {s : Segment}

theorem write (coherent : s.Coherent) (start : UInt16) (new : List UInt8)
    (fits : start.toNat + new.length ≤ size) : (s.write start new).Coherent := by
  intro offset i h
  obtain ⟨kept, apart⟩ := of_get?_forget fits h
  have old := coherent offset i kept
  have short := Instruction.decode_length_le old
  rw [length_instructionBytes] at short
  apply Instruction.decode_congr old
  intro k own
  have place : (UInt16.ofNat (offset.toNat + k)).toNat = offset.toNat + k :=
    toNat_ofNat_of_lt (by omega)
  rw [getElem?_instructionBytes _ _ (by omega) (by omega),
    getElem?_instructionBytes _ _ (by omega) (by omega), byteAt_write _ _ _ _ fits, place,
    if_neg (by omega)]

/-- What the sweep over `contents` remembers from the place `k` on. -/
private theorem sweep_sound (contents : List UInt8) (fits : contents.length ≤ size)
    (rest : List UInt8) (k : Nat) (here : contents.drop k = rest) (skip : Nat)
    (decoded : WordMap Instruction)
    (sound : ∀ offset i, decoded.get? offset = some i →
      Instruction.decode offset (contents.drop offset.toNat) = some i) (offset : UInt16)
    (i : Instruction) (h : (sweep decoded (UInt16.ofNat k) skip rest).get? offset = some i) :
    Instruction.decode offset (contents.drop offset.toNat) = some i := by
  induction rest generalizing k skip decoded with
  | nil => exact sound offset i h
  | cons b bs ih =>
    have inside : k < contents.length := by
      apply Nat.lt_of_not_le
      intro past
      rw [List.drop_eq_nil_of_le past] at here
      cases here
    have later : contents.drop (k + 1) = bs := by
      rw [← List.drop_drop, here]
      rfl
    have next : UInt16.ofNat k + 1 = UInt16.ofNat (k + 1) := (UInt16.ofNat_add k 1).symm
    simp only [sweep, next] at h
    split at h
    · exact ih _ later _ _ sound h
    · split at h
      · exact ih _ later _ _ sound h
      · rename_i first found
        refine ih _ later _ _ (fun o j known => ?_) h
        rw [WordMap.get?_insert] at known
        split at known
        · rename_i same
          have place : (UInt16.ofNat k).toNat = k := toNat_ofNat_of_lt (by omega)
          cases known
          rw [same, place, here]
          exact found
        · exact sound o j known

theorem ofContents (kind : SegmentKind) (contents : List UInt8) (fits : contents.length ≤ size) :
    (Segment.ofContents kind contents).Coherent := by
  intro offset i h
  cases kind with
  | data => simp [Segment.ofContents] at h
  | code =>
    have swept : Instruction.decode offset (contents.drop offset.toNat) = some i :=
      sweep_sound contents fits contents 0 rfl 0 .empty (by simp) offset i h
    have short := Instruction.decode_length_le swept
    rw [List.length_drop] at short
    apply Instruction.decode_congr swept
    intro k own
    have place : (UInt16.ofNat (offset.toNat + k)).toNat = offset.toNat + k :=
      toNat_ofNat_of_lt (by omega)
    rw [getElem?_instructionBytes _ _ (by omega) (by omega), byteAt_ofContents _ _ fits, place,
      List.getElem?_drop, List.getD_eq_getElem?_getD, List.getElem?_eq_getElem (by omega)]
    rfl

/-- Whether an instruction is remembered or not, its bytes settle it. -/
theorem fetch (coherent : s.Coherent) (offset : UInt16) :
    (s.fetch offset).map Prod.fst = Instruction.decode offset (s.instructionBytes offset) := by
  rw [Segment.fetch]
  split
  · rename_i i known
    exact (coherent offset i known).symm
  · cases Instruction.decode offset (s.instructionBytes offset) <;> rfl

theorem of_fetch (coherent : s.Coherent) {offset : UInt16} {i : Instruction} {t : Segment}
    (h : s.fetch offset = some (i, t)) : t.Coherent := by
  rw [Segment.fetch] at h
  split at h
  · cases h
    exact coherent
  · rw [Option.map_eq_some_iff] at h
    obtain ⟨j, decoded, same⟩ := h
    cases same
    intro o j known
    rw [WordMap.get?_insert] at known
    split at known
    · rename_i here
      cases known
      subst here
      exact decoded
    · exact coherent o j known

end Coherent

end Segment

/-- The bytes go back to a place where they fit. -/
def Overwritten.Fits (old : Overwritten) : Prop :=
  old.address.offset.toNat + old.bytes.length ≤ Segment.size

namespace Memory

def AllCoherent (segments : WordMap Segment) : Prop :=
  ∀ ordinal s, segments.get? ordinal = some s → s.Coherent

/-- Every segment is coherent, and what an open journal would put back fits. -/
structure Coherent (m : Memory) : Prop where
  segments : AllCoherent m.segments
  journal : ∀ log, m.journal = some log → ∀ old ∈ log, old.Fits

theorem AllCoherent.insert {segments : WordMap Segment} (all : AllCoherent segments)
    {s : Segment} (one : s.Coherent) (ordinal : UInt16) :
    AllCoherent (segments.insert ordinal s) := by
  intro o t found
  rw [WordMap.get?_insert] at found
  split at found
  · cases found
    exact one
  · exact all o t found

theorem AllCoherent.restore {segments : WordMap Segment} (all : AllCoherent segments)
    {old : Overwritten} (fits : old.Fits) : AllCoherent (Memory.restore segments old) := by
  rw [Memory.restore]
  split
  · exact all
  · rename_i s found
    exact all.insert ((all _ s found).write _ _ fits) _

theorem AllCoherent.foldl_restore (log : List Overwritten) {segments : WordMap Segment}
    (all : AllCoherent segments) (fits : ∀ old ∈ log, old.Fits) :
    AllCoherent (log.foldl Memory.restore segments) := by
  induction log generalizing segments with
  | nil => exact all
  | cons old log ih =>
    exact ih (all.restore (fits old List.mem_cons_self))
      fun o ho => fits o (List.mem_cons_of_mem old ho)

namespace Coherent

variable {m m' : Memory}

theorem fresh : Coherent Memory.fresh := by
  have empty : (Segment.ofContents .data []).Coherent := .ofContents .data [] (by decide)
  refine ⟨AllCoherent.insert (AllCoherent.insert ?_ empty _) empty _, fun log h => by cases h⟩
  intro o s h
  simp at h

theorem addSegment {ordinal : UInt16} {kind : SegmentKind} {contents : List UInt8}
    (coherent : m.Coherent) (h : m.addSegment ordinal kind contents = .ok m') : m'.Coherent := by
  obtain ⟨fits, rfl⟩ := addSegment_eq_ok_iff.mp h
  exact ⟨coherent.segments.insert (.ofContents kind contents fits) ordinal, coherent.journal⟩

theorem writeBytes {p : FarPtr} {bytes : List UInt8} (coherent : m.Coherent)
    (h : m.writeBytes p bytes = .ok m') : m'.Coherent := by
  obtain ⟨s, found, fits, rfl⟩ := writeBytes_eq_ok_iff.mp h
  refine ⟨coherent.segments.insert ((coherent.segments _ s found).write _ _ fits) _, ?_⟩
  intro log' opened old member
  obtain ⟨log, before, rfl⟩ := Option.map_eq_some_iff.mp opened
  rcases List.mem_cons.mp member with rfl | earlier
  · simpa [Overwritten.Fits] using fits
  · exact coherent.journal log before old earlier

theorem of_fetch {p : FarPtr} {i : Instruction} (coherent : m.Coherent)
    (h : m.fetch p = .ok (i, m')) : m'.Coherent := by
  obtain ⟨s, t, found, got, rfl⟩ := fetch_eq_ok_iff.mp h
  exact ⟨coherent.segments.insert ((coherent.segments _ s found).of_fetch got) _,
    coherent.journal⟩

theorem rollback (coherent : m.Coherent) : m.rollback.Coherent := by
  refine ⟨coherent.segments.foldl_restore _ ?_, fun log h => by cases h⟩
  intro old member
  cases opened : m.journal with
  | none => simp [opened] at member
  | some log => exact coherent.journal log opened old (by simpa [opened] using member)

end Coherent

theorem Reachable.coherent {m : Memory} (h : m.Reachable) : m.Coherent := by
  induction h with
  | fresh => exact .fresh
  | addSegment _ added ih => exact ih.addSegment added
  | loadSegment _ loaded ih => exact ih.addSegment (addSegment_of_loadSegment loaded)
  | allocateSegment _ allocated ih =>
    exact ih.addSegment (allocateSegment_eq_ok_iff.mp allocated).2
  | allocateVariable _ allocated ih =>
    obtain ⟨segments, journal⟩ := of_allocateVariable allocated
    exact ⟨segments ▸ ih.segments, journal ▸ ih.journal⟩
  | clear _ ih => exact ⟨Coherent.fresh.segments, ih.journal⟩
  | writeBytes _ written ih => exact ih.writeBytes written
  | fetch _ fetched ih => exact ih.of_fetch fetched
  | beginJournal _ ih =>
    refine ⟨ih.segments, fun log opened old member => ?_⟩
    cases opened
    simp at member
  | commit _ ih => exact ⟨ih.segments, fun log h => by cases h⟩
  | rollback _ ih => exact ih.rollback

theorem Reachable.offset_of_fetch {m m' : Memory} {p : FarPtr} {i : Instruction}
    (reachable : m.Reachable) (fetched : m.fetch p = .ok (i, m')) : i.offset = p.offset := by
  obtain ⟨s, t, found, got, _⟩ := fetch_eq_ok_iff.mp fetched
  have decoded := (reachable.coherent.segments _ s found).fetch p.offset
  rw [got] at decoded
  obtain ⟨r, _, rfl⟩ := Option.map_eq_some_iff.mp decoded.symm
  rfl

/-- In every reachable memory, an instruction is what decoding the bytes that now stand at its
address gives: fifteen of them, or as many as the segment still has. Where they give none, the
fault names the address. -/
theorem fetch_eq_decode {m : Memory} (reachable : m.Reachable) (p : FarPtr)
    (mapped : m.hasSegment p.segment = true) :
    ∃ bytes,
      m.readBytes p (min maxInstructionLength (Segment.size - p.offset.toNat)) = .ok bytes ∧
      (m.fetch p).map Prod.fst =
        match Instruction.decode p.offset bytes with
        | some i => .ok i
        | none => .error (.invalidInstruction p) := by
  obtain ⟨s, found⟩ := hasSegment_iff.mp mapped
  have inside : p.offset.toNat < Segment.size := p.offset.toNat_lt
  refine ⟨s.instructionBytes p.offset, readBytes_eq found (by omega), ?_⟩
  rw [← (reachable.coherent.segments _ s found).fetch p.offset]
  simp only [fetch, found]
  cases s.fetch p.offset <;> rfl

/-- The constant of a remembered `MOV AX, 1` becomes 4201 when only its last byte is overwritten. -/
theorem fetch_overwritten_tail :
    ∃ m : Memory, m.Reachable ∧ m.hasSegment 2 = true ∧
      (m.fetch ⟨2, 0⟩).map Prod.fst =
        .ok ⟨0, 3, .mov (.register (.word .ax)) (.immediate .word 0x4201)⟩ := by
  obtain ⟨m, i, m', m'', added, fetched, written, mapped, read⟩ :
      ∃ m i m' m'', Memory.fresh.addSegment 2 .code [0xb8, 0x01, 0x00, 0xcb] = .ok m ∧
        m.fetch ⟨2, 0⟩ = .ok (i, m') ∧ m'.writeBytes ⟨2, 2⟩ [0x42] = .ok m'' ∧
        m''.hasSegment 2 = true ∧
        m''.readBytes ⟨2, 0⟩ 15 =
          .ok [0xb8, 0x01, 0x42, 0xcb, 0, 0, 0, 0, 0, 0, 0, 0, 0, 0, 0] :=
    ⟨_, _, _, _, rfl, rfl, rfl, rfl, rfl⟩
  have reachable : m''.Reachable := .writeBytes (.fetch (.addSegment .fresh added) fetched) written
  obtain ⟨bytes, now, same⟩ := fetch_eq_decode reachable ⟨2, 0⟩ mapped
  cases read.symm.trans now
  exact ⟨m'', reachable, mapped, same⟩

end Memory

end RealMode
