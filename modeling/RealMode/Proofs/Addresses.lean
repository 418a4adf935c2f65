import RealMode.Proofs.CheckedReading
import RealMode.Proofs.Loading

/-!
# A load keeps the program's addresses

Every paragraph in use is given a segment of its own, and that segment holds the load module
from the paragraph on. Only the words listed for relocation differ, and they name the
segment of the paragraph they named. The words may be listed more than once, but two of them
must not overlap by one byte.
-/

namespace RealMode.Image.Source

variable {bytes : List UInt8} (source : Source bytes)

/-- The segment that is loaded for a paragraph. -/
def ordinal (base : UInt16) : UInt16 := ordinalAt (source.bases.idxOf base)

/-- No two listed words overlap by one byte. -/
def Apart : Prop := ∀ p ∈ source.entries, ∀ q ∈ source.entries, linear p ≠ linear q + 1

/-- The byte of a copy lies in no listed word that lies wholly in the copy. -/
def Plain (base offset : UInt16) : Prop :=
  ∀ p ∈ source.entries, InCopy base p →
    paragraphStart base + offset.toNat ≠ linear p ∧
      paragraphStart base + offset.toNat ≠ linear p + 1

variable {source} {base : UInt16}

theorem getElem?_idxOf (member : base ∈ source.bases) :
    source.bases[source.bases.idxOf base]? = some base := by
  have inside := List.idxOf_lt_length_of_mem member
  rw [List.getElem?_eq_getElem inside, List.getElem_idxOf inside]

variable {m : Memory} {others : List Segment}

theorem paragraph_mem {p : FarPtr} (listed : p ∈ source.entries) {paragraph : UInt16}
    (word : wordAt? source.loadModule (linear p) = some paragraph) : paragraph ∈ source.bases :=
  source.mem_bases_iff.mpr (.inr (.inr ⟨p, listed, .inr word⟩))

end RealMode.Image.Source

namespace RealMode.Program

end RealMode.Program
