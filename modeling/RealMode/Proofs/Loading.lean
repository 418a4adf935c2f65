import RealMode.Program
import RealMode.Proofs.ProgramSegments

/-!
# What a load leaves

Each step of a load as an operation on the list of segments handed out: segments are appended,
relocations are writes into them, and what is placed afterwards is appended again.
-/

namespace RealMode

/-- A segment after the relocations that concern it, which is the one with this number. -/
def Segment.relocated (rs : List Relocation) (index : Nat) (s : Segment) : Segment :=
  rs.foldl (fun s r =>
    if r.segment = index then s.write r.offset (bytesOfWord (ordinalAt r.target)) else s) s

namespace Segment

variable {rs : List Relocation} {index : Nat}

theorem relocated_cons (r : Relocation) (s : Segment) :
    s.relocated (r :: rs) index =
      (if r.segment = index then s.write r.offset (bytesOfWord (ordinalAt r.target)) else
        s).relocated rs index := rfl

/-- What is relocated in this segment is the same word to the same target, or stays clear of it. -/
def Settled (rs : List Relocation) (index : Nat) (offset : UInt16) (target : Nat) : Prop :=
  ∀ r ∈ rs, r.segment = index → r.offset.toNat + 2 ≤ size ∧
    (r.offset = offset ∧ r.target = target ∨
      offset.toNat + 2 ≤ r.offset.toNat ∨ r.offset.toNat + 2 ≤ offset.toNat)

namespace Settled

variable {offset : UInt16} {target : Nat}

/-- Once a settled word names its target, it goes on doing so. -/
private theorem keeps (settled : Settled rs index offset target) (word : offset.toNat + 2 ≤ size)
    {s : Segment} (already : s.wordAt offset = ordinalAt target) :
    (s.relocated rs index).wordAt offset = ordinalAt target := by
  induction rs generalizing s with
  | nil => exact already
  | cons r rs ih =>
    rw [relocated_cons]
    refine ih (fun q member => settled q (.tail r member)) ?_
    split
    · rename_i here
      rcases settled r (.head rs) here with ⟨fits, ⟨rfl, rfl⟩ | apart⟩
      · exact wordAt_write s word _
      · exact (wordAt_write_of_apart s fits word apart).trans already
    · exact already

end Settled

end Segment

namespace Program

open Loading

variable {α β : Type} {m m' m'' : Memory}

namespace Loading

theorem of_bind {x : Loading α} {f : α → Loading β} {b : β} (done : (x >>= f) m = .ok b m'') :
    ∃ a m', x m = .ok a m' ∧ f a m' = .ok b m'' := by
  simp only [Bind.bind, EStateM.bind] at done
  split at done
  · rename_i a m' first
    exact ⟨a, m', first, done⟩
  · cases done

theorem of_changing {f : Memory → Except Fault Memory} {u : Unit}
    (done : changing f m = .ok u m') :
    f m = .ok m' := by
  rw [changing] at done
  split at done <;> cases done
  assumption

theorem of_allocating {f : Memory → Except Fault (α × Memory)} {a : α}
    (done : allocating f m = .ok a m') : f m = .ok (a, m') := by
  rw [allocating] at done
  split at done <;> cases done
  assumption

end Loading

variable {ss : List Segment}

/-- The segments are appended, and their ordinals are the ones that follow. -/
theorem holds_placeSegments {segments : List ImageSegment} {ordinals : List UInt16}
    (holds : m.Holds ss) (placed : placeSegments segments m = .ok ordinals m') :
    ordinals = (List.range' ss.length segments.length).map ordinalAt ∧
      m'.Holds (ss ++ segments.map fun s => .ofContents s.kind s.data) := by
  induction segments generalizing m ss ordinals with
  | nil =>
    cases placed
    exact ⟨rfl, by simpa using holds⟩
  | cons s segments ih =>
    obtain ⟨ordinal, m₁, allocated, placed⟩ := of_bind placed
    obtain ⟨_, m₂, loaded, placed⟩ := of_bind placed
    obtain ⟨more, m₃, rest, placed⟩ := of_bind placed
    cases placed
    obtain ⟨rfl, holds₁⟩ := holds.allocateSegment (of_allocating allocated)
    have holds₂ := holds₁.loadSegment (by simp) (of_changing loaded)
    obtain ⟨rfl, holds₃⟩ := ih holds₂ rest
    exact ⟨by simp [List.range'_succ], by simpa using holds₃⟩

theorem of_ordinalOf {n : Nat} {index : Nat} {ordinal : UInt16}
    (known : ordinalOf ((List.range n).map ordinalAt) index m = .ok ordinal m') :
    index < n ∧ ordinal = ordinalAt index ∧ m' = m := by
  rw [ordinalOf] at known
  cases found : ((List.range n).map ordinalAt)[index]? with
  | none =>
    rw [found] at known
    cases known
  | some o =>
    rw [found] at known
    cases known
    rw [List.getElem?_map, Option.map_eq_some_iff] at found
    obtain ⟨k, inside, rfl⟩ := found
    have less : index < n := by simpa using (List.getElem?_eq_some_iff.mp inside).1
    rw [List.getElem?_range less] at inside
    cases inside
    exact ⟨less, rfl, rfl⟩

/-- The relocations are carried out on the list. -/
theorem holds_relocate {n : Nat} {rs : List Relocation} {u : Unit} (holds : m.Holds ss)
    (inUse : n ≤ ss.length) (done : relocate ((List.range n).map ordinalAt) rs m = .ok u m') :
    m'.Holds (ss.mapIdx fun index s => s.relocated rs index) := by
  induction rs generalizing m ss with
  | nil =>
    cases done
    have same : ss.mapIdx (fun index s => s.relocated [] index) = ss := by
      simp [Segment.relocated, List.mapIdx_eq_zipIdx_map]
    rwa [same]
  | cons r rs ih =>
    obtain ⟨_, m₁, segment, retarget⟩ := of_bind done
    obtain ⟨inside, rfl, rfl⟩ := of_ordinalOf segment
    obtain ⟨_, m₂, target, write⟩ := of_bind retarget
    obtain ⟨_, rfl, rfl⟩ := of_ordinalOf target
    obtain ⟨_, m₃, written, rest⟩ := of_bind write
    have less : r.segment < ss.length := Nat.lt_of_lt_of_le inside inUse
    have holds₃ := ih (holds.writeBytes less (of_changing written)) (by simpa using inUse) rest
    have same : (ss.set r.segment (ss[r.segment].write r.offset
          (bytesOfWord (ordinalAt r.target)))).mapIdx (fun index s => s.relocated rs index) =
        ss.mapIdx fun index s => s.relocated (r :: rs) index := by
      apply List.ext_getElem?
      intro k
      simp only [List.getElem?_mapIdx, List.getElem?_set, Segment.relocated_cons]
      by_cases here : r.segment = k
      · subst here
        simp [less]
      · simp [here]
    rwa [same] at holds₃

/-- The segments of an image as they are placed, with the relocations carried out. -/
def relocatedSegments (image : Image) : List Segment :=
  (image.segments.map fun s => Segment.ofContents s.kind s.data).mapIdx fun index s =>
    s.relocated image.relocations index

end Program

end RealMode
