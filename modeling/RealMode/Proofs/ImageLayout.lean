import RealMode.Image

/-!
# The layout of an image

What a file that makes an image says: its header, the addresses in its relocation table and the
paragraphs they name. The paragraphs in use come out sorted and once each, and the relocations are
those of every listed word in every segment that covers it.
-/

namespace RealMode

/-- The bytes of the file that are the program. -/
def ImageHeader.loadModule (h : ImageHeader) (bytes : List UInt8) : List UInt8 :=
  (bytes.take (min h.dataEnd bytes.length)).drop h.dataStart

namespace Image

section Bases

theorem mem_withoutRepeats {l : List UInt16} {p : UInt16} : p ∈ withoutRepeats l ↔ p ∈ l := by
  fun_induction withoutRepeats l with
  | case1 => exact .rfl
  | case2 q => exact .rfl
  | case3 q rest ih => simp [ih]
  | case4 q r rest different ih => simp [ih]

theorem pairwise_withoutRepeats {l : List UInt16} (sorted : l.Pairwise (· ≤ ·)) :
    (withoutRepeats l).Pairwise (· < ·) := by
  fun_induction withoutRepeats l with
  | case1 => exact .nil
  | case2 q => exact List.pairwise_singleton _ q
  | case3 q rest ih => exact ih sorted.tail
  | case4 q r rest different ih =>
    obtain ⟨first, more⟩ := List.pairwise_cons.mp sorted
    refine List.pairwise_cons.mpr ⟨fun p member => ?_, ih more⟩
    have low : q < r := UInt16.lt_of_le_of_ne (first r (by simp)) different
    rcases List.mem_cons.mp (mem_withoutRepeats.mp member) with rfl | later
    · exact low
    · exact UInt16.lt_of_lt_of_le low ((List.pairwise_cons.mp more).1 p later)

variable {h : ImageHeader} {sites : List Site}

theorem mem_bases_iff {b : UInt16} :
    b ∈ bases h sites ↔
      b = h.initialCs ∨ b = h.initialSs ∨ ∃ s ∈ sites, b = s.segment ∨
      b = s.paragraph := by
  simp [bases, mem_withoutRepeats, List.mem_mergeSort]

theorem pairwise_bases (h : ImageHeader) (sites : List Site) :
    (bases h sites).Pairwise (· < ·) := by
  refine pairwise_withoutRepeats ?_
  let le (a b : UInt16) : Bool := decide (a ≤ b)
  have trans (a b c : UInt16) : le a b → le b c → le a c := by simpa [le] using UInt16.le_trans
  have total (a b : UInt16) : le a b || le b a := by simpa [le] using UInt16.le_total a b
  exact (List.pairwise_mergeSort trans total _).imp fun less => by simpa [le] using less

end Bases

section Sites

/-- Where an address of the program lies in the load module. -/
def linear (p : FarPtr) : Nat := paragraphStart p.segment + p.offset.toNat

/-- The addresses in the first `n` entries of a relocation table. -/
def entries : Nat → List UInt8 → List FarPtr
  | n + 1, o0 :: o1 :: s0 :: s1 :: rest => FarPtr.ofBytes o0 o1 s0 s1 :: entries n rest
  | _, _ => []

/-- What an entry makes known, if its word is in the load module. -/
def siteOf? (loadModule : List UInt8) (p : FarPtr) : Option Site :=
  (wordAt? loadModule (linear p)).map fun paragraph => ⟨p.segment, linear p, paragraph⟩

theorem sites_succ (loadModule : List UInt8) (n : Nat) (o0 o1 s0 s1 : UInt8) (rest : List UInt8) :
    sites loadModule (n + 1) (o0 :: o1 :: s0 :: s1 :: rest) =
      match siteOf? loadModule (.ofBytes o0 o1 s0 s1) with
      | none => .error (.relocationOutside (.ofBytes o0 o1 s0 s1))
      | some s => (sites loadModule n rest).map (s :: ·) := by
  rw [sites, siteOf?]
  cases found : wordAt? loadModule (linear (.ofBytes o0 o1 s0 s1)) <;> rw [linear] at found
  · simp only [found]
    rfl
  · simp only [found]
    cases sites loadModule n rest <;> rfl

/-- A table that is accepted has all its entries, and one site for each. -/
theorem of_sites {loadModule : List UInt8} {n : Nat} {table : List UInt8} {ss : List Site}
    (listed : sites loadModule n table = .ok ss) :
    (entries n table).length = n ∧ (entries n table).map (siteOf? loadModule) = ss.map some := by
  induction n generalizing table ss with
  | zero =>
    cases listed
    exact ⟨rfl, rfl⟩
  | succ n ih =>
    match table with
    | o0 :: o1 :: s0 :: s1 :: rest =>
      rw [sites_succ] at listed
      split at listed
      · cases listed
      rename_i s found
      cases later : sites loadModule n rest with
      | error e =>
        rw [later] at listed
        cases listed
      | ok more =>
        rw [later] at listed
        cases listed
        obtain ⟨all, same⟩ := ih later
        refine ⟨by rw [entries, List.length_cons, all], ?_⟩
        rw [entries, List.map_cons, found, same]
        rfl
    | [] => cases listed
    | [_] => cases listed
    | [_, _] => cases listed
    | [_, _, _] => cases listed

end Sites

section Relocations

theorem mem_relocationsOf_iff {bases : List UInt16} {s : Site} {r : Relocation} :
    r ∈ relocationsOf bases s ↔
      ∃ (index : Nat) (base : UInt16), bases[index]? = some base ∧ covers base s = true ∧
        r = ⟨index, UInt16.ofNat (s.position - paragraphStart base),
          bases.idxOf s.paragraph⟩ := by
  simp only [relocationsOf, List.mem_filterMap, Prod.exists, List.mem_zipIdx_iff_getElem?]
  constructor
  · rintro ⟨base, index, found, made⟩
    split at made
    · rename_i covered
      cases made
      exact ⟨index, base, found, covered, rfl⟩
    · cases made
  · rintro ⟨index, base, found, covered, rfl⟩
    exact ⟨base, index, found, by rw [if_pos covered]⟩

end Relocations

/-- What a file says before it is split into segments. -/
structure Source (bytes : List UInt8) where
  header : ImageHeader
  sites : List Site
  parsed : ImageHeader.parse bytes = .ok header
  listed : Image.sites (header.loadModule bytes) header.relocationItems.toNat
    (bytes.drop header.relocationTable.toNat) = .ok sites

namespace Source

variable {bytes : List UInt8} (source : Source bytes)

/-- The program itself. -/
def loadModule : List UInt8 := source.header.loadModule bytes

/-- The addresses of the words that name paragraphs. -/
def entries : List FarPtr :=
  Image.entries source.header.relocationItems.toNat (bytes.drop source.header.relocationTable.toNat)

/-- The paragraphs that the program uses. -/
def bases : List UInt16 := Image.bases source.header source.sites

def image : Image where
  segments := source.bases.map (segmentOf source.header source.loadModule)
  relocations := source.sites.flatMap (relocationsOf source.bases)
  entry := ⟨source.bases.idxOf source.header.initialCs, source.header.initialIp⟩
  stack := ⟨source.bases.idxOf source.header.initialSs, source.header.initialSp⟩

theorem mem_sites_iff {s : Site} :
    s ∈ source.sites ↔ ∃ p ∈ source.entries, ∃ paragraph,
      wordAt? source.loadModule (linear p) = some paragraph ∧
        s = ⟨p.segment, linear p, paragraph⟩ := by
  have same := (of_sites source.listed).2
  calc s ∈ source.sites
    _ ↔ some s ∈ source.sites.map some := by simp
    _ ↔ ∃ p ∈ source.entries, siteOf? source.loadModule p = some s := by
      rw [← same, List.mem_map]
      rfl
    _ ↔ _ := by simp only [siteOf?, Option.map_eq_some_iff, @eq_comm _ _ s]

/-- Every entry is the address of a whole word. -/
theorem exists_paragraph {p : FarPtr} (member : p ∈ source.entries) :
    ∃ paragraph, wordAt? source.loadModule (linear p) = some paragraph := by
  have made : siteOf? source.loadModule p ∈ source.sites.map some := by
    rw [← (of_sites source.listed).2]
    exact List.mem_map_of_mem member
  obtain ⟨s, _, same⟩ := List.mem_map.mp made
  obtain ⟨paragraph, word, _⟩ := Option.map_eq_some_iff.mp same.symm
  exact ⟨paragraph, word⟩

theorem mem_bases_iff {b : UInt16} :
    b ∈ source.bases ↔ b = source.header.initialCs ∨ b = source.header.initialSs ∨
      ∃ p ∈ source.entries, b = p.segment ∨
        wordAt? source.loadModule (linear p) = some b := by
  rw [bases, Image.mem_bases_iff]
  refine or_congr .rfl (or_congr .rfl ⟨?_, ?_⟩)
  · rintro ⟨s, member, named⟩
    obtain ⟨p, listed, paragraph, word, rfl⟩ := source.mem_sites_iff.mp member
    exact ⟨p, listed, named.elim .inl fun same => .inr (by rw [same, word])⟩
  · rintro ⟨p, listed, named⟩
    obtain ⟨paragraph, word⟩ := source.exists_paragraph listed
    refine ⟨⟨p.segment, linear p, paragraph⟩,
      source.mem_sites_iff.mpr ⟨p, listed, paragraph, word, rfl⟩,
      named.elim .inl fun same => .inr ?_⟩
    rw [word] at same
    exact (Option.some.inj same).symm

/-- The word at `p` lies wholly in the copy that begins at `base`. -/
def InCopy (base : UInt16) (p : FarPtr) : Prop :=
  paragraphStart base ≤ linear p ∧ linear p + 2 ≤ paragraphStart base + Segment.size

theorem InCopy.toNat_offset {base : UInt16} {p : FarPtr} (inside : InCopy base p) :
    (UInt16.ofNat (linear p - paragraphStart base)).toNat = linear p - paragraphStart base := by
  obtain ⟨low, high⟩ := inside
  rw [UInt16.toNat_ofNat']
  exact Nat.mod_eq_of_lt (by simp only [Segment.size] at high; omega)

/-- The relocations are those of every listed word in every copy that it lies in. -/
theorem mem_relocations_iff {r : Relocation} :
    r ∈ source.image.relocations ↔
      ∃ p ∈ source.entries, ∃ base paragraph, source.bases[r.segment]? = some base ∧
        InCopy base p ∧ wordAt? source.loadModule (linear p) = some paragraph ∧
        r.offset = UInt16.ofNat (linear p - paragraphStart base) ∧
        r.target = source.bases.idxOf paragraph := by
  simp only [image, List.mem_flatMap, mem_relocationsOf_iff]
  constructor
  · rintro ⟨s, member, index, base, found, covered, rfl⟩
    obtain ⟨p, listed, paragraph, word, rfl⟩ := source.mem_sites_iff.mp member
    exact ⟨p, listed, base, paragraph,
      found, by simpa [covers, InCopy] using covered, word, rfl, rfl⟩
  · rintro ⟨p, listed, base, paragraph, found, inside, word, offset, target⟩
    refine ⟨⟨p.segment, linear p, paragraph⟩,
      source.mem_sites_iff.mpr ⟨p, listed, paragraph, word, rfl⟩, r.segment, base,
      found, ?_, ?_⟩
    · simpa [covers, InCopy] using inside
    · rw [← offset, ← target]

end Source

/-- A file says it in one way only. -/
theorem Source.unique {bytes : List UInt8} (a b : Source bytes) : a = b := by
  obtain ⟨h, ss, parsed, listed⟩ := a
  obtain ⟨h', ss', parsed', listed'⟩ := b
  cases parsed.symm.trans parsed'
  cases listed.symm.trans listed'
  rfl

/-- An image is made of what the file says, unless the load module would end before it begins. -/
theorem ofBytes_eq_ok_iff {bytes : List UInt8} {image : Image} :
    ofBytes bytes = .ok image ↔ ∃ source : Source bytes,
      source.header.dataStart ≤ min source.header.dataEnd bytes.length ∧
      image = source.image := by
  constructor
  · intro accepted
    rw [ofBytes] at accepted
    cases parsed : ImageHeader.parse bytes with
    | error e =>
      rw [parsed] at accepted
      cases accepted
    | ok h =>
      simp only [parsed, Bind.bind, Except.bind] at accepted
      split at accepted
      · cases accepted
      rename_i fits
      cases listed : sites (h.loadModule bytes) h.relocationItems.toNat
          (bytes.drop h.relocationTable.toNat) with
      | error e =>
        rw [ImageHeader.loadModule] at listed
        simp only [listed] at accepted
        cases accepted
      | ok ss =>
        refine ⟨⟨h, ss, parsed, listed⟩, Nat.le_of_not_lt fits, ?_⟩
        rw [ImageHeader.loadModule] at listed
        simp only [listed] at accepted
        cases accepted
        rfl
  · rintro ⟨⟨h, ss, parsed, listed⟩, fits, rfl⟩
    have listed' := listed
    rw [ImageHeader.loadModule] at listed'
    simp only [ofBytes, parsed, Bind.bind, Except.bind, if_neg (Nat.not_lt_of_le fits), listed']
    rfl

end Image

end RealMode
