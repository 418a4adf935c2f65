import Mathlib.Data.List.Chain
import RealMode.Proofs.CommandTails

/-!
# Reading the environment back

A program finds the strings of its environment, and its own path, by their zero bytes alone. That
goes well because a string is never empty, and none of them, nor the path, holds a zero byte of its
own: the first two zero bytes side by side are those that end the strings. Without any strings there
are two zero bytes as well.
-/

namespace RealMode

namespace Text.Utf8

theorem encode_eq (s : String) : encode s = s.toList.flatMap String.utf8EncodeChar := by
  rw [encode, String.toUTF8, ← String.utf8Encode_toList, List.utf8Encode, List.data_toByteArray]

theorem encode_append (s t : String) : encode (s ++ t) = encode s ++ encode t := by
  rw [encode_eq, encode_eq, encode_eq, String.toList_append, List.flatMap_append]

/-- The one character with a zero byte is NUL. -/
theorem eq_nul_of_zero_mem {c : Char} (inside : (0 : UInt8) ∈ String.utf8EncodeChar c) :
    c = '\x00' := by
  have high (n : Nat) {mark : Nat} (low : 0 < mark) (bound : n + mark < 256) : (0 : UInt8) ≠
      UInt8.ofNat (n + mark) := by
    intro same
    have value := congrArg UInt8.toNat same
    rw [UInt8.toNat_ofNat', Nat.mod_eq_of_lt bound, UInt8.toNat_zero] at value
    omega
  unfold String.utf8EncodeChar at inside
  dsimp only at inside
  split at inside
  · next small =>
    have value := congrArg UInt8.toNat (List.mem_singleton.1 inside)
    rw [UInt8.toNat_ofNat', Nat.mod_eq_of_lt (by omega), UInt8.toNat_zero] at value
    exact Char.toNat_inj.1 value.symm
  -- Every byte of a longer form has its highest bit set.
  · exfalso
    split at inside
    · simp only [List.mem_cons, List.not_mem_nil, or_false] at inside
      rcases inside with same | same <;> exact high _ (by decide) (by omega) same
    split at inside
    · simp only [List.mem_cons, List.not_mem_nil, or_false] at inside
      rcases inside with same | same | same <;> exact high _ (by decide) (by omega) same
    · simp only [List.mem_cons, List.not_mem_nil, or_false] at inside
      rcases inside with same | same | same | same <;> exact high _ (by decide) (by omega) same

theorem zero_not_mem_encode {s : String} (clean : '\x00' ∉ s.toList) : 0 ∉ encode s := by
  rw [encode_eq]
  intro inside
  obtain ⟨c, member, zero⟩ := List.mem_flatMap.1 inside
  rw [eq_nul_of_zero_mem zero] at member
  exact clean member

end Text.Utf8

open Text.Utf8 (encode encode_append zero_not_mem_encode)

section Strings

variable {strings : List (List UInt8)}

/-- Strings of which each ends in a zero byte have single zero bytes between
them and one at the end. -/
theorem flatMap_ended (some : strings ≠ []) :
    strings.flatMap (· ++ [0]) = [0].intercalate strings ++ [(0 : UInt8)] := by
  induction strings with
  | nil => exact absurd rfl some
  | cons s strings ih =>
    cases strings with
    | nil => simp
    | cons t strings =>
      rw [List.flatMap_cons, ih (List.cons_ne_nil t strings), List.intercalate_cons_cons]
      simp

/-- Two bytes that are not both zero. -/
def NotBothZero (a b : UInt8) : Prop := ¬ (a = 0 ∧ b = 0)

theorem isChain_ended {s : List UInt8} (clean : (0 : UInt8) ∉ s) :
    (s ++ [0]).IsChain NotBothZero := by
  induction s with
  | nil => exact .singleton 0
  | cons a s ih =>
    have other : a ≠ 0 := fun same => clean (same ▸ List.mem_cons_self)
    rw [List.cons_append, List.isChain_cons]
    exact ⟨fun b _ both => other both.1, ih fun inside => clean (List.mem_cons_of_mem a inside)⟩

/-- Where no string is empty, no two of these zero bytes are side by side. -/
theorem isChain_flatMap_ended (clean : ∀ s ∈ strings, s ≠ [] ∧ (0 : UInt8) ∉ s) :
    (strings.flatMap (· ++ [0])).IsChain NotBothZero := by
  induction strings with
  | nil => exact .nil
  | cons s strings ih =>
    have first := isChain_ended (clean s List.mem_cons_self).2
    have later := ih fun t inside => clean t (List.mem_cons_of_mem s inside)
    rw [List.flatMap_cons]
    refine first.append later fun a _ b head both => ?_
    -- The next string begins with a byte of its own.
    cases strings with
    | nil => cases head
    | cons t strings =>
      obtain ⟨some, clear⟩ := clean t (List.mem_cons_of_mem s List.mem_cons_self)
      obtain ⟨x, rest, rfl⟩ := List.exists_cons_of_ne_nil some
      cases head
      exact clear (both.2 ▸ List.mem_cons_self)

/-- Before the last string ends, every two bytes side by side are not both zero. -/
theorem exists_notBothZero_at (clean : ∀ s ∈ strings, s ≠ [] ∧ (0 : UInt8) ∉ s) {k : Nat}
    (below : k < ([0].intercalate strings).length) :
    ∃ front a b rest, [0].intercalate strings ++ [0] = front ++ [a, b] ++ rest ∧
      front.length = k ∧ NotBothZero a b := by
  have some : strings ≠ [] := by
    rintro rfl
    exact Nat.not_lt_zero k below
  have chain := isChain_flatMap_ended clean
  have long : k + 1 < (strings.flatMap (· ++ [0])).length := by
    rw [flatMap_ended some]
    simpa using below
  rw [← flatMap_ended some]
  generalize strings.flatMap (· ++ [0]) = bytes at chain long ⊢
  refine ⟨bytes.take k, bytes[k], bytes[k + 1], bytes.drop (k + 2), ?_,
    List.length_take_of_le (by omega), List.isChain_iff_getElem.1 chain k long⟩
  have two : bytes.drop k = [bytes[k], bytes[k + 1]] ++ bytes.drop (k + 2) := by
    rw [List.drop_eq_getElem_cons (Nat.lt_of_succ_lt long), List.drop_eq_getElem_cons long]
    rfl
  rw [List.append_assoc, ← two, List.take_append_drop]

/-- What a program makes of the bytes before the first two zero bytes. -/
def entries (bytes : List UInt8) : List (List UInt8) := if bytes = [] then [] else bytes.splitOn 0

theorem entries_intercalate (clean : ∀ s ∈ strings, s ≠ [] ∧ (0 : UInt8) ∉ s) :
    entries ([0].intercalate strings) = strings := by
  cases strings with
  | nil => rfl
  | cons s strings =>
    have some : [(0 : UInt8)].intercalate (s :: strings) ≠ [] := by
      cases strings with
      | nil =>
        rw [List.intercalate_singleton]
        exact (clean s List.mem_cons_self).1
      | cons t strings =>
        rw [List.intercalate_cons_cons]
        simp
    rw [entries, if_neg some]
    exact List.splitOn_intercalate 0 (fun t inside => (clean t inside).2)
      (List.cons_ne_nil s strings)

end Strings

namespace Segment

theorem slice_of_append {s : Segment} {a b c : List UInt8} {first : Nat}
    (stored : s.slice first (a ++ b ++ c).length = a ++ b ++ c) :
    s.slice (first + a.length) b.length = b := by
  rw [List.length_append, List.length_append, slice_append, slice_append] at stored
  have front := (List.append_inj stored (by simp)).1
  exact (List.append_inj front (by simp)).2

/-- A text is read up to the first byte that ends it. -/
theorem textAt_of_slice {s : Segment} {stop : UInt8} {text : List UInt8} {start : Nat}
    (stored : s.slice start (text.length + 1) = text ++ [stop]) (clear : stop ∉ text)
    (inside : start + text.length < size) : s.textAt stop start = text := by
  have behind : size - start = text.length + 1 + (size - start - (text.length + 1)) := by omega
  have whole : ∀ b ∈ text, decide (b ≠ stop) = true := by
    intro b within
    rw [decide_eq_true_eq]
    rintro rfl
    exact clear within
  rw [textAt_eq_takeWhile, behind, slice_append, stored, List.append_assoc,
    List.takeWhile_append_of_pos whole, List.singleton_append, List.takeWhile_cons_of_neg (by simp),
    List.append_nil]

end Segment

namespace Memory

variable {m : Memory} {ordinal : UInt16} {a b c : List UInt8}

/-- What stands in the middle of bytes that can be read can be read on its own. -/
theorem readBytes_of_append
    (stored : m.readBytes ⟨ordinal, 0⟩ (a ++ b ++ c).length = .ok (a ++ b ++ c))
    (inside : a.length < Segment.size) :
    m.readBytes ⟨ordinal, UInt16.ofNat a.length⟩ b.length = .ok b := by
  obtain ⟨s, found, fits, bytes⟩ := readBytes_eq_ok_iff.1 stored
  simp only [List.length_append, UInt16.toNat_zero, Nat.zero_add] at fits
  have place : (UInt16.ofNat a.length).toNat = a.length := Segment.toNat_ofNat_of_lt inside
  refine readBytes_eq_ok_iff.2 ⟨s, found, by rw [place]; omega, ?_⟩
  have middle := Segment.slice_of_append bytes
  rw [UInt16.toNat_zero, Nat.zero_add] at middle
  rw [place]
  exact middle

theorem readByte_of_readBytes {p : FarPtr} {x : UInt8} (stored : m.readBytes p 1 = .ok [x]) :
    m.readByte p = .ok x := by
  obtain ⟨s, found, fits, bytes⟩ := readBytes_eq_ok_iff.1 stored
  have here : s.byteAt p.offset = x := by
    have first := congrArg List.head? bytes
    simpa [Segment.slice] using first
  rw [readByte_eq found, here]

theorem readWord_of_readBytes {p : FarPtr} {value : UInt16}
    (stored : m.readBytes p 2 = .ok (bytesOfWord value)) :
    m.readWord p = .ok value := by
  obtain ⟨s, found, fits, bytes⟩ := readBytes_eq_ok_iff.1 stored
  rw [readWord_eq found fits, Segment.wordAt_of_slice bytes]

theorem readString_of_readBytes {p : FarPtr} {text : List UInt8}
    (stored : m.readBytes p (text.length + 1) = .ok (text ++ [0])) (clear : 0 ∉ text) :
    m.readString p = .ok text := by
  obtain ⟨s, found, fits, bytes⟩ := readBytes_eq_ok_iff.1 stored
  have there : m.segmentAt p 0 = .ok s := segmentAt_eq_ok_iff.2 ⟨found, by omega⟩
  rw [readString, readText, there]
  exact congrArg Except.ok (Segment.textAt_of_slice bytes clear (by omega))

end Memory

namespace Program

variable {c : ProgramConfig}

/-- The strings that a configuration asks for. -/
def settings (c : ProgramConfig) : List (List UInt8) :=
  c.environment.map fun (key, value) => encode (key ++ "=" ++ value)

/-- Nothing that a configuration asks for has a NUL in it. -/
structure Clean (c : ProgramConfig) : Prop where
  path : '\x00' ∉ c.path.toList
  environment : ∀ key value, (key, value) ∈ c.environment →
    '\x00' ∉ key.toList ∧ '\x00' ∉ value.toList

theorem clean_settings (clean : Clean c) :
    ∀ s ∈ settings c, s ≠ [] ∧ (0 : UInt8) ∉ s := by
  intro s inside
  obtain ⟨⟨key, value⟩, member, rfl⟩ := List.mem_map.1 inside
  obtain ⟨front, behind⟩ := clean.environment key value member
  have parts : encode (key ++ "=" ++ value) = encode key ++ [0x3d] ++ encode value := by
    rw [encode_append, encode_append]
    rfl
  dsimp only
  rw [parts]
  constructor
  · simp
  · simp [zero_not_mem_encode front, zero_not_mem_encode behind]

theorem environmentBlock_eq (c : ProgramConfig) :
    environmentBlock c = [0].intercalate (settings c) ++ [0, 0] ++ bytesOfWord 1 ++
      encode c.path ++ [0] := by
  by_cases none : c.environment = []
  · simp [environmentBlock, settings, none]
  · have some : settings c ≠ [] := fun empty => none (List.map_eq_nil_iff.1 empty)
    have ended : (c.environment.flatMap fun (key, value) => encode (key ++ "=" ++ value) ++ [0]) =
        [0].intercalate (settings c) ++ [0] := by
      rw [← flatMap_ended some, settings, List.flatMap_map]
    simp only [environmentBlock, ended, List.isEmpty_iff, none]
    simp

/-- A program that scans this segment for its first two zero bytes side by side finds them at
`place`, the strings before them, and the word 1 and the path, ended by a zero byte, behind them. -/
structure ReadsBack (m : Memory) (ordinal : UInt16) (strings : List (List UInt8))
    (path : List UInt8) (place : Nat) : Prop where
  pair : m.readBytes ⟨ordinal, UInt16.ofNat place⟩ 2 = .ok [0, 0]
  first : ∀ k < place, ∃ a b, m.readBytes ⟨ordinal, UInt16.ofNat k⟩ 2 = .ok [a, b] ∧
    NotBothZero a b
  strings : ∃ bytes, m.readBytes ⟨ordinal, 0⟩ place = .ok bytes ∧
    bytes = [0].intercalate strings ∧ entries bytes = strings
  one : m.readWord ⟨ordinal, UInt16.ofNat (place + 2)⟩ = .ok 1
  text : m.readString ⟨ordinal, UInt16.ofNat (place + 4)⟩ = .ok path
  ended : m.readByte ⟨ordinal, UInt16.ofNat (place + 4 + path.length)⟩ = .ok 0
  inside : place + 4 + path.length < Segment.size

theorem readsBack (clean : Clean c) {m : Memory} {ordinal : UInt16}
    (stored : m.readBytes ⟨ordinal, 0⟩ (environmentBlock c).length = .ok (environmentBlock c)) :
    ReadsBack m ordinal (settings c) (encode c.path) ([0].intercalate (settings c)).length := by
  have strings := clean_settings clean
  have clear := zero_not_mem_encode clean.path
  have read := entries_intercalate strings
  have apart := fun k => exists_notBothZero_at strings (k := k)
  have blocked := environmentBlock_eq c
  generalize encode c.path = path at blocked clear ⊢
  generalize before : [(0 : UInt8)].intercalate (settings c) = bytes at blocked read apart ⊢
  obtain ⟨_, _, fits, _⟩ := Memory.readBytes_eq_ok_iff.1 stored
  have room : bytes.length + 4 + path.length < Segment.size := by
    simp only [blocked, List.length_append, List.length_cons, List.length_nil, length_bytesOfWord,
      UInt16.toNat_zero] at fits
    omega
  have piece (a b d : List UInt8) (same : environmentBlock c = a ++ b ++ d)
      (inside : a.length < Segment.size) :
      m.readBytes ⟨ordinal, UInt16.ofNat a.length⟩ b.length = .ok b :=
    Memory.readBytes_of_append (same ▸ stored) inside
  refine ⟨?_, fun k below => ?_, ⟨bytes, ?_, before.symm, read⟩, ?_, ?_, ?_, room⟩
  · exact piece bytes [0, 0] (bytesOfWord 1 ++ path ++ [0]) (by simp [blocked]) (by omega)
  · obtain ⟨front, x, y, rest, split, rfl, different⟩ := apart k below
    have same : environmentBlock c = front ++ [x, y] ++
        (rest ++ [0] ++ bytesOfWord 1 ++ path ++ [0]) := by
      have once : bytes ++ [0, 0] = bytes ++ [0] ++ [0] := by simp
      rw [blocked, once, split]
      simp
    exact ⟨x, y, piece front [x, y] _ same (by omega), different⟩
  · exact piece [] bytes ([0, 0] ++ bytesOfWord 1 ++ path ++ [0]) (by simp [blocked]) (by decide)
  · have word :=
      piece (bytes ++ [0, 0]) (bytesOfWord 1) (path ++ [0]) (by simp [blocked]) (by simp; omega)
    rw [List.length_append] at word
    exact Memory.readWord_of_readBytes word
  · have text :=
      piece (bytes ++ [0, 0] ++ bytesOfWord 1) (path ++ [0]) [] (by simp [blocked]) (by simp; omega)
    rw [List.length_append, List.length_append, List.length_append] at text
    exact Memory.readString_of_readBytes text clear
  · have zero :=
      piece (bytes ++ [0, 0] ++ bytesOfWord 1 ++ path) [0] [] (by simp [blocked]) (by simp; omega)
    rw [List.length_append, List.length_append, List.length_append] at zero
    exact Memory.readByte_of_readBytes zero

section Loads

variable {σ : Type} {p : Program σ} {image : Image} {arguments : List String}

/-- The image can be loaded with these arguments, in some environment. -/
def Loadable (image : Image) (arguments : List String) : Prop :=
  ∃ c r m m', load c image arguments m = .ok r m'

theorem Loadable.fits_iff (loadable : Loadable image arguments) (c : ProgramConfig) :
    Fits c image ∧ (commandTail arguments).length ≤ maxTail ↔
    (environmentBlock c).length ≤ Segment.size := by
  obtain ⟨_, _, _, _, loaded⟩ := loadable
  obtain ⟨fits, short, _⟩ := of_load_ok loaded
  exact ⟨fun ⟨here, _⟩ => here.environment,
    fun small => ⟨⟨fits.toSound, fits.room, small⟩, short⟩⟩

/-- Where nothing else is in the way, a load fails at the environment just when that is too
large. -/
theorem Loadable.reload_of_large (loadable : Loadable p.image arguments)
    (large : Segment.size < (environmentBlock p.config).length) :
    (p.reload arguments).1 =
      .error
        (.offsetOutOfRange ⟨ordinalAt p.image.segments.length, 0⟩
          (environmentBlock p.config).length) := by
  obtain ⟨_, _, _, _, loaded⟩ := loadable
  obtain ⟨fits, short, _⟩ := of_load_ok loaded
  have room := fits.room
  have ends := loadEnds fits.toSound p.config arguments p.state.machine.memory
  cases ended : load p.config p.image arguments p.state.machine.memory with
  | ok r m =>
    rw [ended] at ends
    cases ends with
    | loaded _ _ _ small => exact absurd small (Nat.not_le.2 large)
  | error e m =>
    rw [reload_eq_error ended]
    rw [ended] at ends
    cases ends with
    | long long => exact absurd short (Nat.not_le.2 long)
    | full _ _ full => omega
    | large => rfl

/-- The environment of a loaded program can be read back by its zero bytes. Where arguments and
image can be loaded in some environment, a load fails with an offset out of range just when the
block has more than 65536 bytes, and then there is nothing to run. -/
theorem environment_reads_back (clean : Clean p.config) (arguments : List String) :
    let load := p.reload arguments
    let block := environmentBlock p.config
    let m := load.2.state.machine.memory
    (∀ r, load.1 = .ok r → ∃ ordinal place, m.readWord ⟨r.ds, 0x2c⟩ = .ok ordinal ∧
        ReadsBack m ordinal (settings p.config) (encode p.config.path) place) ∧
      (Loadable p.image arguments →
        ((∃ q length, load.1 = .error (.offsetOutOfRange q length)) ↔ 65536 < block.length) ∧
          ((∃ r, load.1 = .ok r) ↔ block.length ≤ 65536)) ∧
      (∀ e, load.1 = .error e →
        load.2.initial = none ∧ ∀ ticks, load.2.run ticks = (.faulted .notLoaded, load.2)) := by
  intro load block m
  refine ⟨fun r succeeded => ?_, fun loadable => ⟨⟨?_, ?_⟩, ?_⟩, fun e refused => ?_⟩
  · obtain ⟨_, _, arranged⟩ := of_reload_ok succeeded
    obtain ⟨ordinal, named, _, stored⟩ := arranged.environment
    exact ⟨ordinal, _, named, readsBack clean stored⟩
  · rintro ⟨q, length, refused⟩
    refine Nat.lt_of_not_le fun small => ?_
    obtain ⟨r, succeeded⟩ := exists_reload_iff.2 ((loadable.fits_iff p.config).2 small)
    rw [succeeded] at refused
    cases refused
  · exact fun large => ⟨_, _, loadable.reload_of_large large⟩
  · exact exists_reload_iff.trans (loadable.fits_iff p.config)
  · have unloaded : load.2.initial = none := by
      rw [initial_reload, refused]
      rfl
    exact ⟨unloaded, run_of_unloaded unloaded⟩

end Loads

section Images

/-- A key and two values may be empty, and so may the path. -/
theorem empty_values_read_back :
    let config : ProgramConfig := { path := "", environment := [("", ""), ("A", "")] }
    let p := { newOf (imageOf [0xf4]) with config := config }
    let load := p.reload ["X"]
    let m := load.2.state.machine.memory
    Clean config ∧ ∃ r ordinal place, load.1 = .ok r ∧
      m.readWord ⟨r.ds, 0x2c⟩ = .ok ordinal ∧
      ReadsBack m ordinal [[0x3d], [0x41, 0x3d]] [] place := by
  intro config p load m
  have clean : Clean config := by
    refine ⟨by decide, fun key value member => ?_⟩
    simp only [config, List.mem_cons, Prod.mk.injEq, List.not_mem_nil, or_false] at member
    rcases member with ⟨rfl, rfl⟩ | ⟨rfl, rfl⟩
    · decide
    · decide
  have fits : Fits p.config p.image :=
    { small := by decide, relocations := by decide, entry := by decide, stack := by decide,
      room := by decide, environment := by decide +kernel }
  obtain ⟨r, loaded⟩ :=
    exists_reload_iff.2 ⟨fits, show (commandTail ["X"]).length ≤ maxTail by decide +kernel⟩
  obtain ⟨found, _⟩ := environment_reads_back (p := p) clean ["X"]
  obtain ⟨ordinal, place, named, read⟩ := found r loaded
  have strings : settings p.config = [[0x3d], [0x41, 0x3d]] := by decide +kernel
  have path : encode p.config.path = [] := by decide +kernel
  rw [strings, path] at read
  exact ⟨clean, r, ordinal, place, loaded, named, read⟩

/-- No variables, and a path of this many letters. -/
def pathOf (n : Nat) : ProgramConfig :=
  { path := String.ofList (List.replicate n 'x'), environment := [] }

theorem clean_pathOf (n : Nat) : Clean (pathOf n) := by
  refine ⟨fun inside => ?_, fun key value none => absurd none List.not_mem_nil⟩
  rw [pathOf, String.toList_ofList] at inside
  exact absurd (List.eq_of_mem_replicate inside) (by decide)

theorem length_environmentBlock_pathOf (n : Nat) :
    (environmentBlock (pathOf n)).length = n + 5 := by
  have path : (encode (pathOf n).path).length = n := by
    rw [Text.Utf8.encode_eq, pathOf, String.toList_ofList, List.length_flatMap, List.map_replicate,
      List.sum_replicate_nat]
    exact Nat.mul_one n
  have strings : settings (pathOf n) = [] := rfl
  rw [environmentBlock_eq, strings, List.length_append, List.length_append, path]
  simp
  omega

/-- An image whose one relocation lies across the end of its segment. -/
def straddling : Image := { imageOf [0xf4] with relocations := [⟨0, 0xffff, 1⟩] }

/-- With a tail that is too long, a load does not get as far as the environment; and an offset can
be out of range in a relocation as well. -/
theorem loads_fail_before_environment :
    let p := { newOf (imageOf [0xf4]) with config := pathOf 65536 }
    Clean p.config ∧ 65536 < (environmentBlock p.config).length ∧
      (p.reload [String.ofList (List.replicate 126 'x')]).1 = .error (.commandLineTooLong 127) ∧
      (environmentBlock {}).length ≤ 65536 ∧
      ((newOf straddling).reload []).1 = .error (.offsetOutOfRange ⟨0x2000, 0xffff⟩ 2) := by
  intro p
  have tail : (commandTail [String.ofList (List.replicate 126 'x')]).length = 127 := by
    decide +kernel
  have refused :
      load p.config p.image [String.ofList (List.replicate 126 'x')] p.state.machine.memory =
      .error (.commandLineTooLong 127) p.state.machine.memory := by
    rw [load_eq, tail, if_pos (by decide)]
  refine ⟨clean_pathOf _, ?_, ?_, by decide +kernel, by decide +kernel⟩
  · rw [length_environmentBlock_pathOf]
    decide
  · rw [reload_eq_error refused]

end Images

end Program

end RealMode
