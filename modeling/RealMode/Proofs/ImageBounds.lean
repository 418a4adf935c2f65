import RealMode.Proofs.Addresses
import RealMode.Proofs.Placement

/-!
# Images stay inside their file

Where the load module begins and ends, where the relocations stand and what they point at is
whatever the file says. A reading in which every access is checked has none that is refused, and the
image that comes of it is sound, so it can always be placed. Only a word at the very end of its own
segment can be listed for relocation and be in no segment.
-/

namespace RealMode

namespace Image

/-- What can be relied on in an image that comes from a file. -/
structure WellFormed (image : Image) : Prop where
  present : 0 < image.segments.length
  small : ∀ s ∈ image.segments, s.data.length ≤ Segment.size
  entry : image.entry.segment < image.segments.length
  stack : image.stack.segment < image.segments.length
  relocations : ∀ r ∈ image.relocations, r.target < image.segments.length ∧
    ∃ s, image.segments[r.segment]? = some s ∧ r.offset.toNat + 2 ≤ s.data.length
  code : ∀ index s, image.segments[index]? = some s →
    (s.kind = .code ↔ index = image.entry.segment)

theorem WellFormed.sound {image : Image} (formed : image.WellFormed) : image.Sound := by
  refine ⟨formed.small, fun r member => ?_, formed.entry, formed.stack⟩
  obtain ⟨target, s, found, fits⟩ := formed.relocations r member
  obtain ⟨inside, rfl⟩ := List.getElem?_eq_some_iff.1 found
  exact ⟨inside, target, Nat.le_trans fits (formed.small _ (List.getElem_mem inside))⟩

theorem wordAt?_inside {bytes : List UInt8} {position : Nat} {w : UInt16}
    (word : wordAt? bytes position = some w) : position + 2 ≤ bytes.length := by
  rw [wordAt?] at word
  split at word
  · next low high rest found =>
    have count := congrArg List.length found
    simp only [List.length_drop, List.length_cons] at count
    omega
  · cases word

theorem length_segmentOf (h : ImageHeader) (loadModule : List UInt8) (base : UInt16) :
    (segmentOf h loadModule base).data.length =
      min Segment.size (loadModule.length - paragraphStart base) := by
  rw [segmentOf, List.length_take, List.length_drop]

theorem kind_segmentOf_iff {h : ImageHeader} {loadModule : List UInt8} {base : UInt16} :
    (segmentOf h loadModule base).kind = .code ↔ base = h.initialCs := by
  rw [segmentOf]
  split
  · next same => exact ⟨fun _ => same, fun _ => rfl⟩
  · next other => exact ⟨fun code => (by cases code), fun same => absurd same other⟩

namespace Source

variable {bytes : List UInt8} {source : Source bytes} {base : UInt16} {p : FarPtr}

theorem nodup_bases (source : Source bytes) : source.bases.Nodup :=
  (pairwise_bases source.header source.sites).imp fun less => UInt16.ne_of_lt less

theorem initialCs_mem (source : Source bytes) : source.header.initialCs ∈ source.bases :=
  source.mem_bases_iff.2 (.inl rfl)

theorem initialSs_mem (source : Source bytes) : source.header.initialSs ∈ source.bases :=
  source.mem_bases_iff.2 (.inr (.inl rfl))

theorem getElem?_segments (source : Source bytes) (index : Nat) :
    source.image.segments[index]? =
      source.bases[index]?.map (segmentOf source.header source.loadModule) :=
  List.getElem?_map

theorem wellFormed (source : Source bytes) : source.image.WellFormed where
  present := by
    have inside := List.idxOf_lt_length_of_mem source.initialCs_mem
    simp only [image, List.length_map]
    omega
  small := by
    intro s member
    obtain ⟨base, _, rfl⟩ := List.mem_map.1 member
    rw [length_segmentOf]
    exact Nat.min_le_left ..
  entry := by
    rw [image, List.length_map]
    exact List.idxOf_lt_length_of_mem source.initialCs_mem
  stack := by
    rw [image, List.length_map]
    exact List.idxOf_lt_length_of_mem source.initialSs_mem
  relocations := by
    intro r member
    obtain ⟨p, listed, base, paragraph, found, inside, word, offset, target⟩ :=
      source.mem_relocations_iff.1 member
    refine ⟨?_, segmentOf source.header source.loadModule base, ?_, ?_⟩
    · rw [target, image, List.length_map]
      exact List.idxOf_lt_length_of_mem (paragraph_mem listed word)
    · rw [getElem?_segments, found, Option.map_some]
    · have last := wordAt?_inside word
      rw [offset, inside.toNat_offset, length_segmentOf]
      obtain ⟨low, high⟩ := inside
      omega
  code := by
    intro index s found
    rw [getElem?_segments, Option.map_eq_some_iff] at found
    obtain ⟨base, here, rfl⟩ := found
    obtain ⟨inside, rfl⟩ := List.getElem?_eq_some_iff.1 here
    rw [kind_segmentOf_iff]
    constructor
    · intro same
      rw [image, ← same, source.nodup_bases.idxOf_getElem index inside]
    · intro same
      subst same
      exact List.getElem_idxOf inside

/-- The relocation is that of the word listed at `p`, in a segment that holds it. -/
def Carries (source : Source bytes) (r : Relocation) (p : FarPtr) : Prop :=
  ∃ base paragraph, source.bases[r.segment]? = some base ∧
    paragraphStart base + r.offset.toNat = linear p ∧
    wordAt? source.loadModule (linear p) = some paragraph ∧
    source.bases[r.target]? = some paragraph

/-- A listed word is relocated where some copy holds all of it, and nowhere else. -/
theorem carried_iff (listed : p ∈ source.entries) :
    (∃ r ∈ source.image.relocations, source.Carries r p) ↔
      ∃ base ∈ source.bases, InCopy base p := by
  constructor
  · rintro ⟨r, member, base, paragraph, here, place, _, _⟩
    obtain ⟨q, _, base', _, here', inside, _, offset, _⟩ := source.mem_relocations_iff.1 member
    cases here.symm.trans here'
    rw [offset, inside.toNat_offset] at place
    obtain ⟨low, high⟩ := inside
    exact ⟨base, List.mem_of_getElem? here, by omega, by omega⟩
  · rintro ⟨base, member, inside⟩
    obtain ⟨paragraph, word⟩ := source.exists_paragraph listed
    have here := getElem?_idxOf member
    refine ⟨⟨source.bases.idxOf base, UInt16.ofNat (linear p - paragraphStart base),
      source.bases.idxOf paragraph⟩,
      source.mem_relocations_iff.2 ⟨p, listed, base, paragraph, here, inside, word, rfl, rfl⟩,
      base, paragraph, here, ?_, word, getElem?_idxOf (paragraph_mem listed word)⟩
    rw [inside.toNat_offset]
    exact Nat.add_sub_cancel' inside.1

/-- A word lies in the copy of its own segment, unless it begins at the last byte of it. -/
theorem inCopy_segment_iff : InCopy p.segment p ↔ p.offset ≠ 0xffff := by
  have bound := p.offset.toNat_lt
  have last : p.offset ≠ 0xffff ↔ p.offset.toNat ≠ 65535 := not_congr UInt16.toNat_inj.symm
  rw [last, InCopy, linear, Segment.size]
  omega

theorem carried_of_offset (listed : p ∈ source.entries) (early : p.offset ≠ 0xffff) :
    ∃ r ∈ source.image.relocations, source.Carries r p :=
  (carried_iff listed).2
    ⟨p.segment, source.mem_bases_iff.2 (.inr (.inr ⟨p, listed, .inl rfl⟩)),
      inCopy_segment_iff.2 early⟩

end Source

/-- Where the last block has no more bytes than a block, no access of the reading is refused, and it
ends in a defect or in a well-formed image. Each listed word is relocated in some segment, unless it
begins at the last byte of its own and no other one holds it. As long as there are ordinals, all
segments of the image are placed and all its relocations carried out. -/
theorem file_makes_sound_image {bytes : List UInt8}
    (whole : ∀ h, ImageHeader.parse bytes = .ok h → h.lastBlockBytes ≤ 512) :
    ofBytes? bytes = some (ofBytes bytes) ∧ ∀ image, ofBytes bytes = .ok image →
      image.WellFormed ∧
      (∃ source : Source bytes, source.entries.length = source.header.relocationItems.toNat ∧
        ∀ p ∈ source.entries, ((∃ r ∈ image.relocations, source.Carries r p) ↔
            ∃ base ∈ source.bases, Source.InCopy base p) ∧
          (p.offset ≠ 0xffff → ∃ r ∈ image.relocations, source.Carries r p)) ∧
      ∀ m : Memory,
        (image.segments.length ≤ dynamicLimit - dynamicBase → ∃ ordinals m₁ m₂,
          Program.placeSegments image.segments m.clear = .ok ordinals m₁ ∧
          Program.relocate ordinals image.relocations m₁ = .ok () m₂) ∧
        ∀ c arguments,
          Program.LoadEnds c image arguments m (Program.load c image arguments m) := by
  refine ⟨ofBytes?_eq whole, fun image accepted => ?_⟩
  obtain ⟨source, _, rfl⟩ := ofBytes_eq_ok_iff.1 accepted
  have sound := source.wellFormed.sound
  refine ⟨source.wellFormed, ⟨source, (of_sites source.listed).1, fun p listed => ?_⟩,
    fun m => ⟨fun room => ?_, ?_⟩⟩
  · exact ⟨Source.carried_iff listed, Source.carried_of_offset listed⟩
  · obtain ⟨m₁, placed, h₁⟩ := Program.placeSegments_of_room (.clear m) sound.small
      (by simp only [dynamicLimit, dynamicBase, List.length_nil] at room ⊢; omega)
    rw [List.length_nil, ← List.range_eq_range'] at placed
    obtain ⟨m₂, relocated, _⟩ := Program.relocate_of_sound h₁ (by simp) sound.relocations
    exact ⟨_, m₁, m₂, placed, relocated⟩
  · exact fun c arguments => Program.loadEnds sound c arguments m

section SegmentEnd

/-- A header and the one relocation of the word at 0000:FFFF. Only the paragraph of the stack can
be another one than 0. -/
def straddlingStart (stack : UInt8) : List UInt8 :=
  [0x4d, 0x5a, 0x21, 0x00, 0x81, 0x00, 0x01, 0x00, 0x02, 0x00, 0x00, 0x00, 0xff, 0xff,
    stack, 0x00, 0x00, 0x01, 0x00, 0x00, 0x00, 0x00, 0x00, 0x00, 0x1c, 0x00, 0x00, 0x00,
    0xff, 0xff, 0x00, 0x00]

/-- The file, whose load module is 65537 zero bytes. -/
def straddling (stack : UInt8) : List UInt8 := straddlingStart stack ++ List.replicate 65537 0

def straddlingHeader (stack : UInt8) : ImageHeader :=
  ⟨0x5a4d, 0x21, 0x81, 1, 2, 0, 0xffff, wordOfBytes stack 0, 0x100, 0, 0, 0, 0x1c, 0⟩

theorem parse_straddling (stack : UInt8) :
    ImageHeader.parse (straddling stack) = .ok (straddlingHeader stack) := rfl

theorem dataEnd_straddling (stack : UInt8) :
    (straddlingHeader stack).dataEnd = (straddling stack).length := by
  have blocks : (straddlingHeader stack).fileBlockCount = 0x81 := rfl
  have rest : (straddlingHeader stack).lastBlockBytes = 0x21 := rfl
  have count : (straddling stack).length = 65569 := by
    rw [straddling, List.length_append, List.length_replicate]
    simp [straddlingStart]
  rw [ImageHeader.dataEnd, blocks, rest, count]
  decide +kernel

theorem dataStart_straddling (stack : UInt8) :
    (straddlingHeader stack).dataStart = (straddlingStart stack).length := by
  simp [ImageHeader.dataStart, ImageHeader.paragraphBytes, straddlingHeader, straddlingStart]

theorem loadModule_straddling (stack : UInt8) :
    (straddlingHeader stack).loadModule (straddling stack) = List.replicate 65537 0 := by
  rw [ImageHeader.loadModule, dataEnd_straddling, Nat.min_self, List.take_length,
    dataStart_straddling, straddling, List.drop_left]

theorem wordAt?_straddling : wordAt? (List.replicate 65537 0) 65535 = some 0 := by
  rw [wordAt?, List.drop_replicate]
  rfl

def straddlingSource (stack : UInt8) : Source (straddling stack) where
  header := straddlingHeader stack
  sites := [⟨0, 0xffff, 0⟩]
  parsed := parse_straddling stack
  listed := by
    rw [loadModule_straddling]
    show sites (List.replicate 65537 0) 1 (0xff :: 0xff :: 0 :: 0 :: List.replicate 65537 0) = _
    rw [sites_succ, siteOf?, show linear (.ofBytes 0xff 0xff 0 0) = 65535 from rfl,
      wordAt?_straddling]
    rfl

theorem ofBytes_straddling (stack : UInt8) :
    ofBytes (straddling stack) = .ok (straddlingSource stack).image := by
  refine ofBytes_eq_ok_iff.2 ⟨straddlingSource stack, ?_, rfl⟩
  show (straddlingHeader stack).dataStart ≤
      min (straddlingHeader stack).dataEnd (straddling stack).length
  rw [dataEnd_straddling, Nat.min_self, dataStart_straddling, straddling, List.length_append]
  exact Nat.le_add_right ..

theorem whole_straddling (stack : UInt8) :
    ∀ h, ImageHeader.parse (straddling stack) = .ok h → h.lastBlockBytes ≤ 512 := by
  intro h parsed
  cases (parse_straddling stack).symm.trans parsed
  show (0x21 : UInt16) ≤ 512
  decide

/-- With the stack at paragraph 1 the word is relocated in the copy that begins there. -/
theorem straddling_word_is_carried :
    (∀ h, ImageHeader.parse (straddling 1) = .ok h → h.lastBlockBytes ≤ 512) ∧
      ∃ image, ofBytes (straddling 1) = .ok image ∧ image.WellFormed ∧
        ∃ source : Source (straddling 1), ⟨0, 0xffff⟩ ∈ source.entries ∧
          ∃ r ∈ image.relocations, source.Carries r ⟨0, 0xffff⟩ := by
  obtain ⟨_, sound⟩ := file_makes_sound_image (whole_straddling 1)
  obtain ⟨formed, ⟨source, _, carried⟩, _⟩ := sound _ (ofBytes_straddling 1)
  cases source.unique (straddlingSource 1)
  have listed : (⟨0, 0xffff⟩ : FarPtr) ∈ (straddlingSource 1).entries := List.mem_cons_self
  have stack : (1 : UInt16) ∈ (straddlingSource 1).bases := (straddlingSource 1).initialSs_mem
  exact ⟨whole_straddling 1, _, ofBytes_straddling 1, formed, straddlingSource 1, listed,
    (carried _ listed).1.2 ⟨1, stack, by decide, by decide⟩⟩

/-- With everything at paragraph 0 the file makes an image, and the relocation is not in it. -/
theorem straddling_word_is_dropped :
    (∀ h, ImageHeader.parse (straddling 0) = .ok h → h.lastBlockBytes ≤ 512) ∧
      ∃ image, ofBytes (straddling 0) = .ok image ∧
        ∃ source : Source (straddling 0), source.entries = [⟨0, 0xffff⟩] ∧
          image.relocations = [] := by
  refine ⟨whole_straddling 0, _, ofBytes_straddling 0, straddlingSource 0, rfl, ?_⟩
  have bases : (straddlingSource 0).bases = [0] := by
    have sorted : ([0, 0, 0, 0] : List UInt16).mergeSort (fun a b => decide (a ≤ b)) =
        [0, 0, 0, 0] :=
      List.mergeSort_of_pairwise (by decide)
    exact congrArg withoutRepeats sorted
  show (straddlingSource 0).sites.flatMap (relocationsOf (straddlingSource 0).bases) = []
  rw [bases]
  decide +kernel

end SegmentEnd

end Image

end RealMode
