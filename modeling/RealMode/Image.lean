import RealMode.Fault
import RealMode.Memory.Segment

/-!
# Executable images

An executable file has a header, a table of relocations and a load module. It has no table of
segments, so the segments are the paragraphs that the program is seen to use: those of CS and
SS, of every relocation, and every paragraph that a relocated word names. Each is given up to
65536 bytes of the load module from its paragraph on. Segments overlap, and a relocation holds
in every one that covers it.
-/

namespace RealMode

structure ImageHeader where
  signature : UInt16
  lastBlockBytes : UInt16
  fileBlockCount : UInt16
  relocationItems : UInt16
  headerParagraphCount : UInt16
  minimumMemoryParagraphs : UInt16
  maximumMemoryParagraphs : UInt16
  initialSs : UInt16
  initialSp : UInt16
  checksum : UInt16
  initialIp : UInt16
  initialCs : UInt16
  relocationTable : UInt16
  overlay : UInt16
deriving DecidableEq, Inhabited

namespace ImageHeader

/-- The letters MZ, in either order. -/
def signatures : List UInt16 := [0x5a4d, 0x4d5a]

/-- Takes the next word of the header. -/
def field (name : String) : StateT (List UInt8) (Except ImageDefect) UInt16 := fun bytes =>
  match bytes with
  | low :: high :: rest => .ok (wordOfBytes low high, rest)
  | _ => .error (.missingField name)

def fields : StateT (List UInt8) (Except ImageDefect) ImageHeader := do
  let signature ← field "signature"
  let lastBlockBytes ← field "last_block_bytes"
  let fileBlockCount ← field "file_block_count"
  let relocationItems ← field "relocation_items"
  let headerParagraphCount ← field "header_paragraph_count"
  let minimumMemoryParagraphs ← field "minimum_memory_paragraphs"
  let maximumMemoryParagraphs ← field "maximum_memory_paragraphs"
  let initialSs ← field "initial_ss"
  let initialSp ← field "initial_sp"
  let checksum ← field "checksum"
  let initialIp ← field "initial_ip"
  let initialCs ← field "initial_cs"
  let relocationTable ← field "relocation_table"
  let overlay ← field "overlay"
  return { signature, lastBlockBytes, fileBlockCount, relocationItems, headerParagraphCount,
           minimumMemoryParagraphs, maximumMemoryParagraphs, initialSs, initialSp, checksum,
           initialIp, initialCs, relocationTable, overlay }

/-- The signature is looked at when the whole header has been read. -/
def parse (bytes : List UInt8) : Except ImageDefect ImageHeader := do
  let (header, _) ← fields bytes
  if signatures.contains header.signature then return header
  else throw (.badSignature header.signature)

def words (h : ImageHeader) : List UInt16 :=
  [h.signature, h.lastBlockBytes, h.fileBlockCount, h.relocationItems, h.headerParagraphCount,
   h.minimumMemoryParagraphs, h.maximumMemoryParagraphs, h.initialSs, h.initialSp, h.checksum,
   h.initialIp, h.initialCs, h.relocationTable, h.overlay]

def paragraphBytes : Nat := 16

def blockBytes : Nat := 512

/-- Where the load module begins. -/
def dataStart (h : ImageHeader) : Nat := h.headerParagraphCount.toNat * paragraphBytes

/-- Where the load module ends. A last block of zero bytes is a full one. What the last block lacks
is counted in 64 bits, so nothing is loaded if it claims more bytes than a block has. -/
def dataEnd (h : ImageHeader) : Nat :=
  let unused : UInt64 :=
    if h.lastBlockBytes = 0 then 0 else UInt64.ofNat blockBytes - h.lastBlockBytes.toUInt64
  h.fileBlockCount.toNat * blockBytes - unused.toNat

end ImageHeader

structure ImageSegment where
  kind : SegmentKind
  data : List UInt8
deriving DecidableEq

/-- A word that is to hold the ordinal of the segment with number `target`. -/
structure Relocation where
  segment : Nat
  offset : UInt16
  target : Nat
deriving DecidableEq

/-- An address by the segment's number. -/
structure ImageAddress where
  segment : Nat
  offset : UInt16
deriving DecidableEq

structure Image where
  segments : List ImageSegment
  relocations : List Relocation
  entry : ImageAddress
  stack : ImageAddress
deriving DecidableEq

namespace Image

/-- A word of the load module that names a paragraph. -/
structure Site where
  segment : UInt16
  /-- Where it stands in the load module. -/
  position : Nat
  paragraph : UInt16

def paragraphStart (paragraph : UInt16) : Nat := paragraph.toNat * ImageHeader.paragraphBytes

/-- The word at `position`, if all of it is there. -/
def wordAt? (bytes : List UInt8) (position : Nat) : Option UInt16 :=
  match bytes.drop position with
  | low :: high :: _ => some (wordOfBytes low high)
  | _ => none

/-- The next `count` entries of the relocation table. -/
def sites (loadModule : List UInt8) : Nat → List UInt8 → Except ImageDefect (List Site)
  | 0, _ => .ok []
  | n + 1, o0 :: o1 :: s0 :: s1 :: rest => do
    let address := FarPtr.ofBytes o0 o1 s0 s1
    let position := paragraphStart address.segment + address.offset.toNat
    match wordAt? loadModule position with
    | none => throw (.relocationOutside address)
    | some paragraph =>
      let more ← sites loadModule n rest
      return ⟨address.segment, position, paragraph⟩ :: more
  | _ + 1, _ => .error .truncatedRelocations

/-- Drops every word that is equal to the one before it. -/
def withoutRepeats : List UInt16 → List UInt16
  | [] => []
  | [p] => [p]
  | p :: q :: rest => if p = q then withoutRepeats (q :: rest) else p :: withoutRepeats (q :: rest)

/-- The paragraphs that the program uses, in rising order. -/
def bases (h : ImageHeader) (sites : List Site) : List UInt16 :=
  let used := h.initialCs :: h.initialSs :: sites.flatMap fun s => [s.segment, s.paragraph]
  withoutRepeats (used.mergeSort fun a b => decide (a ≤ b))

def segmentOf (h : ImageHeader) (loadModule : List UInt8) (base : UInt16) : ImageSegment where
  kind := if base = h.initialCs then .code else .data
  data := (loadModule.drop (paragraphStart base)).take Segment.size

/-- The word lies wholly in the segment that begins at `base`. -/
def covers (base : UInt16) (s : Site) : Bool :=
  paragraphStart base ≤ s.position && s.position + 2 ≤ paragraphStart base + Segment.size

/-- The relocations of one site, in the order of the segments. -/
def relocationsOf (bases : List UInt16) (s : Site) : List Relocation :=
  bases.zipIdx.filterMap fun (base, index) =>
    if covers base s then
      some ⟨index, UInt16.ofNat (s.position - paragraphStart base), bases.idxOf s.paragraph⟩
    else none

def ofBytes (bytes : List UInt8) : Except ImageDefect Image := do
  let h ← ImageHeader.parse bytes
  let stop := min h.dataEnd bytes.length
  if stop < h.dataStart then throw (.headerPastEnd h.dataStart stop)
  let loadModule := (bytes.take stop).drop h.dataStart
  let sites ← sites loadModule h.relocationItems.toNat (bytes.drop h.relocationTable.toNat)
  let bases := bases h sites
  return {
    segments := bases.map (segmentOf h loadModule)
    relocations := sites.flatMap (relocationsOf bases)
    entry := ⟨bases.idxOf h.initialCs, h.initialIp⟩
    stack := ⟨bases.idxOf h.initialSs, h.initialSp⟩ }

end Image

end RealMode
