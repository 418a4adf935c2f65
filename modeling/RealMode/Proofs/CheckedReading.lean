import RealMode.Proofs.ImageLayout

/-!
# A reading that checks its accesses

A file says where the load module begins and ends, where its relocations stand and what they point
at. Here a place outside the file, a number that would be cut and a difference below zero are all
refused. Only a last block with more bytes than a block has is a reason to refuse anything, and a
reading that is not refused comes to what the unchecked one comes to.
-/

namespace RealMode

/-- The difference, unless it is below zero. -/
def difference? (a b : Nat) : Option Nat := if b ≤ a then some (a - b) else none

/-- The number as a word, unless it would be cut. -/
def word? (n : Nat) : Option UInt16 := if n < 65536 then some (UInt16.ofNat n) else none

/-- The bytes from `start` to `stop`, unless these are no places of the list in this order. -/
def between? (bytes : List UInt8) (start stop : Nat) : Option (List UInt8) :=
  if start ≤ stop ∧ stop ≤ bytes.length then some ((bytes.take stop).drop start) else none

theorem mapM_eq_some_map {α β : Type} {f : α → Option β} {g : α → β} (xs : List α)
    (each : ∀ x ∈ xs, f x = some (g x)) : xs.mapM f = some (xs.map g) := by
  induction xs with
  | nil => rfl
  | cons x xs ih =>
    rw [List.mapM_cons, each x List.mem_cons_self,
      ih fun y later => each y (List.mem_cons_of_mem x later)]
    rfl

/-- Where the load module ends, by a difference that is checked. -/
def ImageHeader.dataEnd? (h : ImageHeader) : Option Nat := do
  let unused ← if h.lastBlockBytes = 0 then some 0
      else difference? blockBytes h.lastBlockBytes.toNat
  return h.fileBlockCount.toNat * blockBytes - unused

/-- The last block has no more bytes than a block. -/
theorem ImageHeader.dataEnd?_eq {h : ImageHeader} (whole : h.lastBlockBytes ≤ 512) :
    h.dataEnd? = some h.dataEnd := by
  rw [dataEnd?, dataEnd]
  split
  · rfl
  · have inside : h.lastBlockBytes.toNat ≤ blockBytes := UInt16.le_iff_toNat_le.1 whole
    have lacking : (UInt64.ofNat blockBytes - h.lastBlockBytes.toUInt64).toNat =
        blockBytes - h.lastBlockBytes.toNat :=
      UInt64.toNat_sub_of_le _ _ (UInt64.le_iff_toNat_le.2 inside)
    rw [difference?, if_pos inside, lacking]
    rfl

namespace Image

/-- The number of a paragraph, if it is there. -/
def index? (bases : List UInt16) (paragraph : UInt16) : Option Nat :=
  if paragraph ∈ bases then some (bases.idxOf paragraph) else none

/-- The segment of a paragraph, which may begin or end past the load module, by places inside it. -/
def segment? (h : ImageHeader) (loadModule : List UInt8) (base : UInt16) : Option ImageSegment := do
  let start := min (paragraphStart base) loadModule.length
  let data ← between? loadModule start (min (start + Segment.size) loadModule.length)
  return ⟨if base = h.initialCs then .code else .data, data⟩

def relocation? (bases : List UInt16) (s : Site) (base : UInt16) (index : Nat) :
    Option Relocation := do
  let distance ← difference? s.position (paragraphStart base)
  let offset ← word? distance
  let target ← index? bases s.paragraph
  return ⟨index, offset, target⟩

def relocations? (bases : List UInt16) (s : Site) : Option (List Relocation) :=
  (bases.zipIdx.filter fun (base, _) => covers base s).mapM fun (base, index) =>
    relocation? bases s base index

/-- The reading of a file in which every access is checked: none if one is refused. -/
def ofBytes? (bytes : List UInt8) : Option (Except ImageDefect Image) :=
  match ImageHeader.parse bytes with
  | .error e => return .error e
  | .ok h => do
    let dataEnd ← h.dataEnd?
    let stop := min dataEnd bytes.length
    if stop < h.dataStart then return .error (.headerPastEnd h.dataStart stop)
    let loadModule ← between? bytes h.dataStart stop
    match sites loadModule h.relocationItems.toNat (bytes.drop h.relocationTable.toNat) with
    | .error e => return .error e
    | .ok sites => do
      let bases := bases h sites
      let segments ← bases.mapM (segment? h loadModule)
      let relocations ← sites.mapM (relocations? bases)
      let entry ← index? bases h.initialCs
      let stack ← index? bases h.initialSs
      return .ok ⟨segments, relocations.flatten, ⟨entry, h.initialIp⟩,
        ⟨stack, h.initialSp⟩⟩

section Checked

variable {h : ImageHeader} {loadModule : List UInt8} {bases : List UInt16}
  {base : UInt16} {s : Site}

theorem index?_eq (member : base ∈ bases) :
    index? bases base = some (bases.idxOf base) := if_pos member

theorem segment?_eq (h : ImageHeader) (loadModule : List UInt8) (base : UInt16) :
    segment? h loadModule base = some (segmentOf h loadModule base) := by
  have data :
      (loadModule.take
        (min (min (paragraphStart base) loadModule.length + Segment.size) loadModule.length)).drop
      (min (paragraphStart base) loadModule.length) =
        (loadModule.drop (paragraphStart base)).take Segment.size := by
    apply List.ext_getElem?
    intro k
    simp only [List.getElem?_drop, List.getElem?_take]
    by_cases inside : paragraphStart base + k < loadModule.length
    · have start : min (paragraphStart base) loadModule.length = paragraphStart base := by omega
      rw [start]
      by_cases early : k < Segment.size
      · rw [if_pos (by omega), if_pos early]
      · rw [if_neg (by omega), if_neg early]
    · rw [List.getElem?_eq_none (Nat.le_of_not_lt inside), ite_self]
      split
      · exact List.getElem?_eq_none (by omega)
      · rfl
  rw [segment?, between?, if_pos ⟨by omega, Nat.min_le_right ..⟩, data]
  rfl

theorem relocation?_eq (covered : covers base s = true) (member : s.paragraph ∈ bases)
    (index : Nat) :
    relocation? bases s base index =
      some ⟨index, UInt16.ofNat (s.position - paragraphStart base),
        bases.idxOf s.paragraph⟩ := by
  obtain ⟨low, high⟩ : paragraphStart base ≤ s.position ∧
      s.position + 2 ≤ paragraphStart base + Segment.size := by
    simpa [covers] using covered
  have near : s.position - paragraphStart base < 65536 := by
    simp only [Segment.size] at high
    omega
  have distance : difference? s.position (paragraphStart base) =
      some (s.position - paragraphStart base) := if_pos low
  have offset : word? (s.position - paragraphStart base) =
      some (UInt16.ofNat (s.position - paragraphStart base)) :=
    if_pos near
  simp only [relocation?, distance, offset, index?_eq member, Option.bind_eq_bind, Option.bind_some]
  rfl

theorem relocations?_eq (member : s.paragraph ∈ bases) :
    relocations? bases s = some (relocationsOf bases s) := by
  let record (entry : UInt16 × Nat) : Relocation :=
    ⟨entry.2, UInt16.ofNat (s.position - paragraphStart entry.1), bases.idxOf s.paragraph⟩
  have listed : relocationsOf bases s =
      (bases.zipIdx.filter fun entry => covers entry.1 s).map record := by
    rw [relocationsOf, ← List.filterMap_eq_map, List.filterMap_filter]
    rfl
  rw [listed, relocations?]
  exact mapM_eq_some_map _ fun entry kept =>
    relocation?_eq (List.mem_filter.1 kept).2 member entry.2

/-- No access is refused, as long as the last block has no more bytes than a block. -/
theorem ofBytes?_eq {bytes : List UInt8}
    (whole : ∀ h, ImageHeader.parse bytes = .ok h → h.lastBlockBytes ≤ 512) :
    ofBytes? bytes = some (ofBytes bytes) := by
  rw [ofBytes?, ofBytes]
  cases parsed : ImageHeader.parse bytes with
  | error e => rfl
  | ok h =>
    simp only [ImageHeader.dataEnd?_eq (whole h parsed), Option.bind_eq_bind, Option.bind_some]
    simp only [Bind.bind, Except.bind]
    by_cases past : min h.dataEnd bytes.length < h.dataStart
    · rw [if_pos past, if_pos past]
      rfl
    rw [if_neg past, if_neg past, between?, if_pos ⟨Nat.le_of_not_lt past, Nat.min_le_right ..⟩]
    simp only [Option.bind_some]
    cases listed :
      sites ((bytes.take (min h.dataEnd bytes.length)).drop h.dataStart) h.relocationItems.toNat
        (bytes.drop h.relocationTable.toNat) with
    | error e => rfl
    | ok ss =>
      have code : h.initialCs ∈ Image.bases h ss := mem_bases_iff.2 (.inl rfl)
      have stack : h.initialSs ∈ Image.bases h ss := mem_bases_iff.2 (.inr (.inl rfl))
      have named (s : Site) (member : s ∈ ss) : s.paragraph ∈ Image.bases h ss :=
        mem_bases_iff.2 (.inr (.inr ⟨s, member, .inr rfl⟩))
      have segments := mapM_eq_some_map (Image.bases h ss) fun base _ =>
        segment?_eq h ((bytes.take (min h.dataEnd bytes.length)).drop h.dataStart) base
      have relocations := mapM_eq_some_map ss fun s member => relocations?_eq (named s member)
      simp only [segments, relocations, index?_eq code, index?_eq stack,
        Option.bind_some, List.flatMap]
      rfl

/-- A last block of 513 bytes is refused where the count is checked. Otherwise nothing is loaded. -/
example :
    let h : ImageHeader :=
      { (default : ImageHeader) with lastBlockBytes := 513, fileBlockCount := 3 }
    h.dataEnd? = none ∧ h.dataEnd = 0 := by
  decide

end Checked

end Image

end RealMode
