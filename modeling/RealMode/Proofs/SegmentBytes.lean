import RealMode.Memory.Segment

/-!
# The bytes of a segment

What a segment holds when it is made, and what slices, writes and writes that are taken back make
of it. Two segments agree if they have the same kind and the same bytes. The instructions that
they remember may differ.
-/

namespace RealMode.Segment

/-- A number below the size of a segment is an offset in it. -/
theorem toNat_ofNat_of_lt {n : Nat} (below : n < size) : (UInt16.ofNat n).toNat = n :=
  UInt16.toNat_ofNat_of_lt' below

theorem getElem?_slice (s : Segment) (start length k : Nat) :
    (s.slice start length)[k]? =
      if k < length then some (s.byteAt (UInt16.ofNat (start + k))) else none := by
  simp only [slice, List.getElem?_map]
  by_cases inside : k < length
  · simp [inside]
  · rw [if_neg inside, List.getElem?_eq_none (by simpa using inside)]
    rfl

theorem slice_append (s : Segment) (first length more : Nat) :
    s.slice first (length + more) = s.slice first length ++ s.slice (first + length) more := by
  simp only [slice, List.range_add, List.map_append, List.map_map, Function.comp_def, Nat.add_assoc]

theorem slice_succ (s : Segment) (first length : Nat) :
    s.slice first (length + 1) = s.byteAt (UInt16.ofNat first) :: s.slice (first + 1) length := by
  rw [Nat.add_comm length, slice_append]
  simp [slice]

theorem slice_two (s : Segment) (offset : UInt16) :
    s.slice offset.toNat 2 = [s.byteAt offset, s.byteAt (offset + 1)] := by
  simp [slice, List.range_succ]

theorem slice_four (s : Segment) (offset : UInt16) :
    s.slice offset.toNat 4 =
      [s.byteAt offset, s.byteAt (offset + 1), s.byteAt (offset + 2),
        s.byteAt (offset + 2 + 1)] := by
  have last : offset + 2 + 1 = offset + 3 := UInt16.add_assoc offset 2 1
  simp [slice, List.range_succ, last]

section Texts

variable (s : Segment) (stop : UInt8)

theorem le_indexFrom (length start : Nat) : start ≤ s.indexFrom stop length start := by
  induction length generalizing start with
  | zero => exact Nat.le_refl start
  | succ length ih =>
    rw [indexFrom]
    split
    · exact Nat.le_refl start
    · exact Nat.le_of_succ_le (ih (start + 1))

theorem slice_indexFrom (length start : Nat) :
    s.slice start (s.indexFrom stop length start - start) =
      (s.slice start length).takeWhile (· ≠ stop) := by
  induction length generalizing start with
  | zero => simp [indexFrom, slice]
  | succ length ih =>
    rw [indexFrom, slice_succ]
    by_cases here : s.byteAt (UInt16.ofNat start) = stop
    · rw [if_pos here, Nat.sub_self, List.takeWhile_cons_of_neg (by simpa using here)]
      rfl
    · have later := le_indexFrom s stop length (start + 1)
      have more : s.indexFrom stop length (start + 1) - start =
          s.indexFrom stop length (start + 1) - (start + 1) + 1 := by omega
      rw [if_neg here, List.takeWhile_cons_of_pos (by simpa using here), more, slice_succ, ih]

/-- A text goes up to the byte that ends it or to the end of the segment. -/
theorem textAt_eq_takeWhile (start : Nat) :
    s.textAt stop start = (s.slice start (size - start)).takeWhile (· ≠ stop) :=
  s.slice_indexFrom stop (size - start) start

end Texts

/-- A new segment begins with its contents, and zeros follow. -/
theorem byteAt_ofContents (kind : SegmentKind) (contents : List UInt8)
    (fits : contents.length ≤ size) (j : UInt16) :
    (ofContents kind contents).byteAt j = contents.getD j.toNat 0 := by
  have zero : (0 : UInt16).toNat = 0 := rfl
  simp only [byteAt, ofContents]
  rw [get?_store .empty 0 j contents (by simpa [zero] using fits)]
  simp only [zero, Nat.zero_le, true_and, Nat.zero_add, Nat.sub_zero, WordMap.get?_empty]
  split
  · rw [List.getD_eq_getElem?_getD]
  · rename_i past
    rw [List.getD_eq_getElem?_getD, List.getElem?_eq_none (by omega)]

/-- What has been written is read again. -/
theorem slice_write (s : Segment) (start : UInt16) (new : List UInt8)
    (fits : start.toNat + new.length ≤ size) :
    (s.write start new).slice start.toNat new.length = new := by
  refine List.ext_getElem? fun k => ?_
  rw [getElem?_slice]
  by_cases inside : k < new.length
  · have place : (UInt16.ofNat (start.toNat + k)).toNat = start.toNat + k :=
      toNat_ofNat_of_lt (by omega)
    have offset : start.toNat + k - start.toNat = k := by omega
    rw [if_pos inside, byteAt_write _ _ _ _ fits, place, if_pos (by omega), offset,
      List.getD_eq_getElem?_getD, List.getElem?_eq_getElem inside]
    rfl
  · rw [if_neg inside, List.getElem?_eq_none (Nat.le_of_not_lt inside)]

section Words

variable (s : Segment) {offset : UInt16}

theorem toNat_add_one (fits : offset.toNat + 2 ≤ size) :
    (offset + 1).toNat = offset.toNat + 1 := by
  rw [UInt16.toNat_add]
  exact Nat.mod_eq_of_lt (by simp only [size, UInt16.toNat_one] at *; omega)

theorem wordAt_write (fits : offset.toNat + 2 ≤ size) (value : UInt16) :
    (s.write offset (bytesOfWord value)).wordAt offset = value := by
  rw [wordAt, byteAt_write _ _ _ _ fits, byteAt_write _ _ _ _ fits, toNat_add_one fits]
  simp [bytesOfWord]

/-- A write that stays clear of a word leaves it. -/
theorem wordAt_write_of_apart {start : UInt16} {new : List UInt8}
    (fits : start.toNat + new.length ≤ size) (word : offset.toNat + 2 ≤ size)
    (apart : offset.toNat + 2 ≤ start.toNat ∨ start.toNat + new.length ≤ offset.toNat) :
    (s.write start new).wordAt offset = s.wordAt offset := by
  rw [wordAt, byteAt_write _ _ _ _ fits, byteAt_write _ _ _ _ fits, toNat_add_one word,
    if_neg (by omega), if_neg (by omega), wordAt]

end Words

/-- The same kind and the same bytes. -/
structure Agree (s t : Segment) : Prop where
  kind : s.kind = t.kind
  byteAt : ∀ j, s.byteAt j = t.byteAt j

namespace Agree

variable {s t u : Segment}

theorem refl (s : Segment) : Agree s s := ⟨rfl, fun _ => rfl⟩

theorem trans (h : Agree s t) (k : Agree t u) : Agree s u :=
  ⟨h.kind.trans k.kind, fun j => (h.byteAt j).trans (k.byteAt j)⟩

private theorem store_congr (new : List UInt8) {a b : WordMap UInt8}
    (same : ∀ j, (a.get? j).getD 0 = (b.get? j).getD 0) (start j : UInt16) :
    ((store a start new).get? j).getD 0 = ((store b start new).get? j).getD 0 := by
  induction new generalizing a b start with
  | nil => exact same j
  | cons x rest ih =>
    apply ih
    intro k
    simp only [WordMap.get?_insert]
    by_cases here : k = start
    · simp [here]
    · simpa [here] using same k

/-- Equal writes keep segments in agreement, also where they run past the end. -/
theorem write (h : Agree s t) (start : UInt16) (new : List UInt8) :
    Agree (s.write start new) (t.write start new) :=
  ⟨h.kind, fun j => store_congr new h.byteAt start j⟩

end Agree

/-- Writing the old bytes back undoes a write. -/
theorem agree_write_slice (s : Segment) (start : UInt16) (new : List UInt8)
    (fits : start.toNat + new.length ≤ size) :
    Agree ((s.write start new).write start (s.slice start.toNat new.length)) s := by
  refine ⟨rfl, fun j => ?_⟩
  rw [byteAt_write _ _ _ _ (by simpa using fits), byteAt_write _ _ _ _ fits, length_slice]
  by_cases inside : start.toNat ≤ j.toNat ∧ j.toNat < start.toNat + new.length
  · have here : start.toNat + (j.toNat - start.toNat) = j.toNat := by omega
    rw [if_pos inside, List.getD_eq_getElem?_getD, getElem?_slice, if_pos (by omega), here]
    simp
  · rw [if_neg inside, if_neg inside]

end RealMode.Segment
