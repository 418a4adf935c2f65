import RealMode.Proofs.FileOperations
import RealMode.Proofs.KnownNames

/-!
# What a search puts into its record

A name fits into its field of the record if its title has at most eight bytes and its extension at
most three. Short names of host files do, as long as the number that tells them apart has at most
seven digits, and so does every name that the search shows, unless a program has asked for a file by
a name with a longer title: that name is kept as it is.
-/

namespace RealMode.Dos

/-- From this number of names on, the number that tells a name apart can have eight digits. -/
def manyNames : Nat := 10000000

namespace FileName

/-- A name that fits into the record of a search. -/
structure Short (n : FileName) : Prop where
  title : n.title.length ≤ 8
  extension : n.extension.length ≤ 3

theorem Short.length_toBytes {n : FileName} (short : n.Short) : n.toBytes.length ≤ 12 := by
  obtain ⟨title, extension⟩ := short
  rw [toBytes]
  split
  · omega
  · rw [List.length_append, List.length_cons]
    omega

theorem length_splitExtension (name : List UInt8) :
    ((splitExtension name).2.getD []).length ≤ 3 := by
  rw [splitExtension]
  split
  · exact Nat.zero_le _
  · exact List.length_take_le _ _

/-- What is cut off a parsed name is the end of its extension, never the title. -/
theorem short_parse_iff (name : List UInt8) : (parse name).Short ↔
    (parse name).title.length ≤ 8 := by
  refine ⟨Short.title, fun title => ⟨title, ?_⟩⟩
  have bound := length_splitExtension (withoutPath name)
  unfold parse
  generalize splitExtension (withoutPath name) = parts at bound ⊢
  rw [List.length_map]
  exact bound

theorem length_suffix {index : Option Nat} (small : ∀ k ∈ index, k < manyNames) :
    (suffix index).length ≤ 8 := by
  cases index with
  | none => exact Nat.zero_le _
  | some k =>
    have digits :=
      (Nat.length_toDigits_le_iff (n := k) (by decide : 1 < 10) (by decide : 0 < 7)).2 (small k rfl)
    rw [suffix, List.length_cons, List.length_map]
    omega

theorem short_ofHostName (host : String) {index : Option Nat}
    (small : ∀ k ∈ index, k < manyNames) : (ofHostName host index).Short := by
  have digits := length_suffix small
  have bound := length_splitExtension (host.toList.map hostByte)
  unfold ofHostName
  generalize splitExtension (host.toList.map hostByte) = parts at bound ⊢
  refine ⟨?_, bound⟩
  rw [List.length_append, List.length_take]
  omega

end FileName

theorem NameTable.short_candidate (host : String) {k : Nat} (small : k < manyNames) :
    (candidate host k).Short := by
  cases k with
  | zero => exact FileName.short_ofHostName host fun _ none => by cases none
  | succ k =>
    refine FileName.short_ofHostName host fun other same => ?_
    cases same
    exact small

namespace FileSystem

variable {fs : FileSystem}

/-- An operation that looks up no name with a title of more than eight bytes. -/
def AsksShortly (op : FileOperation) : Prop :=
  ∀ name ∈ op.asksFor, (FileName.parse name).title.length ≤ 8

instance (op : FileOperation) : Decidable (AsksShortly op) :=
  inferInstanceAs (Decidable (∀ name ∈ op.asksFor, (FileName.parse name).title.length ≤ 8))

/-- Every name that is known or still to be shown is short. -/
structure ShortNames (fs : FileSystem) : Prop where
  known : fs.names.Holds fun _ name => name.Short
  shown : ∀ name ∈ fs.found, name.Short

theorem Step.size_le {op : FileOperation} {fs' : FileSystem} (step : Step fs op fs') :
    fs.names.size ≤ fs'.names.size := by
  have looked (name : FileName) : fs.names.size ≤ (fs.knowing name).names.size :=
    Nat.le_trans (fs.names.size_le_list fs.listing) (fs.names.size_list_le_resolve fs.listing name)
  rcases step.names with same | ⟨name, _, same⟩ | ⟨pattern, rfl⟩ | ⟨name, rest, _, rfl⟩
  · exact Nat.le_of_eq (by rw [same.names])
  · rw [same.names]
    exact looked _
  · rw [search_eq]
    exact fs.names.size_le_list fs.listing
  · exact looked name

theorem ShortNames.list (short : ShortNames fs)
    (few : (fs.names.list fs.listing).2.size < manyNames) :
    (∀ name ∈ (fs.names.list fs.listing).1, name.Short) ∧
      (fs.names.list fs.listing).2.Holds fun _ name => name.Short := by
  obtain ⟨names, table⟩ := short.known.list (Nat.le_refl _)
    fun host _ _ bound => NameTable.short_candidate host (Nat.lt_of_le_of_lt bound few)
  refine ⟨fun name inside => ?_, table⟩
  obtain ⟨_, fits⟩ := names name inside
  exact fits

theorem ShortNames.resolve (short : ShortNames fs) {name : FileName} (asked : name.Short)
    (few : (fs.knowing name).names.size < manyNames) :
    (fs.knowing name).names.Holds fun _ name => name.Short :=
  (short.known.resolve (Nat.le_refl _)
    (fun host _ _ bound => NameTable.short_candidate host (Nat.lt_of_le_of_lt bound few)) asked).2

theorem ShortNames.step (short : ShortNames fs) {op : FileOperation} {fs' : FileSystem}
    (step : Step fs op fs') (asked : AsksShortly op) (few : fs'.names.size < manyNames) :
    ShortNames fs' := by
  rcases step.names with same | ⟨name, asks, same⟩ | ⟨pattern, rfl⟩ |
    ⟨name, rest, shown, rfl⟩
  · refine ⟨?_, ?_⟩
    · rw [same.names]
      exact short.known
    · rw [same.found]
      exact short.shown
  · have parsed := (FileName.short_parse_iff name).2 (asked name asks)
    refine ⟨?_, ?_⟩
    · rw [same.names] at few ⊢
      exact short.resolve parsed few
    · rw [same.found]
      exact short.shown
  · rw [search_eq] at few ⊢
    obtain ⟨names, table⟩ := short.list few
    exact ⟨table, fun name inside => names name (List.mem_filter.1 inside).1⟩
  · -- The search looks its own name up again, and that may enter it as it stands.
    have first : name.Short := short.shown name (shown ▸ List.mem_cons_self)
    exact ⟨short.resolve first few,
      fun other inside => short.shown other (shown ▸ List.mem_cons_of_mem _ inside)⟩

theorem Reachable.shortNames (reachable : Reachable AsksShortly fs)
    (few : fs.names.size < manyNames) : ShortNames fs := by
  induction reachable with
  | @mount disk here root _ _ =>
    have fresh : ShortNames ⟨disk, here, root, .empty, [], []⟩ :=
      ⟨NameTable.holds_empty, fun _ none => absurd none List.not_mem_nil⟩
    rw [FileSystem.mount, refresh_eq] at few ⊢
    exact ⟨(fresh.list few).2, fun _ none => absurd none List.not_mem_nil⟩
  | @perform fs op _ asked ih =>
    -- The table only grows, so the names were few before the step as well.
    have step := step_perform op fs
    exact (ih (Nat.lt_of_le_of_lt step.size_le few)).step step asked few
  | host _ _ ih => exact ⟨(ih few).known, (ih few).shown⟩

end FileSystem

namespace SearchRecord

variable {record : List UInt8} {start i : Nat} {new : List UInt8}

theorem length_overlay (fits : start + new.length ≤ record.length) :
    (overlay record start new).length = record.length := by
  simp only [overlay, List.length_append, List.length_take, List.length_drop]
  omega

theorem getElem?_overlay_outside (fits : start + new.length ≤ record.length)
    (outside : i < start ∨ start + new.length ≤ i) :
    (overlay record start new)[i]? = record[i]? := by
  have front : (record.take start).length = start := by
    rw [List.length_take]
    omega
  rw [overlay, List.append_assoc]
  rcases outside with before | behind
  · rw [List.getElem?_append_left (by omega), List.getElem?_take_of_lt before]
  · rw [List.getElem?_append_right (by omega), List.getElem?_append_right (by omega),
      List.getElem?_drop]
    congr 1
    omega

theorem getElem?_overlay_inside (fits : start + new.length ≤ record.length)
    (within : i < new.length) :
    (overlay record start new)[start + i]? = new[i]? := by
  have front : (record.take start).length = start := by
    rw [List.length_take]
    omega
  rw [overlay, List.append_assoc, List.getElem?_append_right (by omega),
    List.getElem?_append_left (by omega)]
  congr 1
  omega

/-- What a search may do to its record: only the bytes from the attributes to the end of the name
field change, and the name in its field is followed by zeros, of which there is at least one. -/
structure Filled (before after : List UInt8) (name : FileName) : Prop where
  length : after.length = before.length
  outside : ∀ i, i < attributesAt ∨ nameAt + nameField ≤ i → after[i]? = before[i]?
  field : ∃ rest, (after.drop nameAt).take nameField = name.toBytes ++ 0 :: rest

section Fill

/-- The record with zeros from the attributes to the end of the name field. -/
def cleared (record : List UInt8) : List UInt8 :=
  overlay record attributesAt (List.replicate (nameAt + nameField - attributesAt) 0)

/-- The record with everything but the name. -/
def prepared (record : List UInt8) (fileSize : Nat) : List UInt8 :=
  overlay (cleared record) sizeAt (bytesOfDword (UInt32.ofNat (min fileSize 0xffffffff)))

theorem fill_eq (record : List UInt8) (name : FileName) (fileSize : Nat) :
    fill record name fileSize =
      if record.length < nameAt + name.toBytes.length then none
      else some (overlay (prepared record fileSize) nameAt name.toBytes) := rfl

variable (whole : record.length = size) (fileSize : Nat)
include whole

theorem clear_fits :
    attributesAt + (List.replicate (nameAt + nameField - attributesAt) (0 : UInt8)).length ≤
      record.length := by
  rw [List.length_replicate, whole]
  decide

theorem length_cleared : (cleared record).length = size := by
  rw [cleared, length_overlay (clear_fits whole), whole]

theorem size_fits :
    sizeAt + (bytesOfDword (UInt32.ofNat (min fileSize 0xffffffff))).length ≤
      (cleared record).length := by
  rw [length_bytesOfDword, length_cleared whole]
  decide

theorem length_prepared : (prepared record fileSize).length = size := by
  rw [prepared, length_overlay (size_fits whole fileSize), length_cleared whole]

theorem getElem?_prepared (outside : i < sizeAt ∨ nameAt ≤ i) :
    (prepared record fileSize)[i]? = (cleared record)[i]? := by
  refine getElem?_overlay_outside (size_fits whole fileSize) ?_
  rw [length_bytesOfDword]
  exact outside

theorem getElem?_prepared_outside (outside : i < attributesAt ∨ nameAt + nameField ≤ i) :
    (prepared record fileSize)[i]? = record[i]? := by
  rw [getElem?_prepared whole fileSize, cleared, getElem?_overlay_outside (clear_fits whole)]
  · rw [List.length_replicate]
    exact outside
  · simp only [attributesAt, sizeAt, nameAt, nameField] at outside ⊢
    omega

theorem getElem?_prepared_name (within : i < nameField) :
    (prepared record fileSize)[nameAt + i]? = some 0 := by
  rw [getElem?_prepared whole fileSize (.inr (Nat.le_add_right _ _)), cleared]
  simp only [nameField] at within
  have place : nameAt + i = attributesAt + (9 + i) := by
    simp only [nameAt, attributesAt]
    omega
  have inside : 9 + i < nameAt + nameField - attributesAt := by
    simp only [nameAt, nameField, attributesAt]
    omega
  rw [place, getElem?_overlay_inside (clear_fits whole) (by rwa [List.length_replicate]),
    List.getElem?_replicate_of_lt inside]

/-- A short name fits, and a zero is left behind it. -/
theorem fill_of_short {name : FileName} (short : name.Short) :
    ∃ after, fill record name fileSize = some after ∧ Filled record after name := by
  have bound := short.length_toBytes
  have prepares := length_prepared whole fileSize
  have fits : nameAt + name.toBytes.length ≤ (prepared record fileSize).length := by
    rw [prepares, nameAt, size]
    omega
  have enough : ¬ record.length < nameAt + name.toBytes.length := by
    rw [whole, ← prepares]
    exact Nat.not_lt.2 fits
  refine ⟨_, by rw [fill_eq, if_neg enough], ?_, ?_, ?_⟩
  · rw [length_overlay fits, prepares, whole]
  · intro i outside
    rw [getElem?_overlay_outside fits, getElem?_prepared_outside whole fileSize outside]
    simp only [attributesAt, nameAt, nameField] at outside ⊢
    omega
  · refine ⟨List.replicate (12 - name.toBytes.length) 0, ?_⟩
    rw [← List.replicate_succ]
    refine List.ext_getElem? fun i => ?_
    rw [List.getElem?_take, List.getElem?_drop]
    split
    · next within =>
      by_cases early : i < name.toBytes.length
      · rw [getElem?_overlay_inside fits early, List.getElem?_append_left early]
      · rw [getElem?_overlay_outside fits (.inr (by omega)),
          getElem?_prepared_name whole fileSize within, List.getElem?_append_right (by omega),
          List.getElem?_replicate_of_lt]
        rw [nameField] at within
        omega
    · next beyond =>
      rw [nameField] at beyond
      rw [List.getElem?_eq_none]
      rw [List.length_append, List.length_replicate]
      omega

end Fill

end SearchRecord

namespace FileSystem

variable {fs : FileSystem}

/-- Whatever the host does, and whatever programs do that ask for no title of more than
eight bytes, what the search shows next is a short name, and it and its zero fit into the
name field of the record. -/
theorem search_fills_record (reachable : Reachable AsksShortly fs) (few : fs.names.size < manyNames)
    {name : FileName} {fileSize : Nat} (found : fs.nextFound.1 = .ok (name, fileSize))
    {record : List UInt8} (whole : record.length = SearchRecord.size) :
    name.Short ∧ ∃ after, SearchRecord.fill record name fileSize = some after ∧
      SearchRecord.Filled record after name := by
  have short : name.Short := by
    rcases fs.nextFound_cases with ⟨_, none⟩ | ⟨name', rest, size, shown, next⟩
    · rw [none] at found
      cases found
    · rw [next] at found
      cases found
      exact (reachable.shortNames few).shown name (shown ▸ List.mem_cons_self)
  exact ⟨short, SearchRecord.fill_of_short whole fileSize short⟩

section Shown

theorem ok_of_toOption {α : Type} {x : Except Error α} {a : α} (given : x.toOption = some a) :
    x = .ok a := by
  cases x with
  | error e => cases given
  | ok b => exact congrArg Except.ok (Option.some.inj given)

/-- An empty root directory in which `name` is created and then searched for. -/
def searched (name : List UInt8) : FileSystem :=
  (mount (Disk.empty.addDirectories ["r"]) [] "/r").performAll [.create name,
    .search "*.*".toUTF8.data.toList]

theorem reachable_searched {allowed : FileOperation → Prop} (name : List UInt8)
    (create : allowed (.create name)) (search : ∀ pattern, allowed (.search pattern)) :
    Reachable allowed (searched name) := by
  refine (Reachable.mount "/r" (by decide +kernel) (by decide)).performAll fun op inside => ?_
  rcases List.mem_cons.1 inside with rfl | inside
  · exact create
  · rw [List.mem_singleton.1 inside]
    exact search _

def untouched : List UInt8 := List.replicate SearchRecord.size 0xff

def shortName : FileName := ⟨"SHORT".toUTF8.data.toList, "TXT".toUTF8.data.toList⟩

theorem short_name_fills_record :
    ∃ after, SearchRecord.fill untouched shortName 0 = some after ∧
      SearchRecord.Filled untouched after shortName :=
  (search_fills_record
    (reachable_searched "short.txt".toUTF8.data.toList (by decide +kernel)
      fun _ _ none => by cases none)
    (by decide +kernel) (ok_of_toOption (by decide +kernel)) List.length_replicate).2

def longName : FileName := ⟨"LONGFILENAME".toUTF8.data.toList, "TXT".toUTF8.data.toList⟩

/-- A long name that a program has asked for is shown as it is, and runs over
the end of its field. -/
theorem long_name_overruns_field :
    Reachable (fun _ => True) (searched "LONGFILENAME.TXT".toUTF8.data.toList) ∧
      (searched "LONGFILENAME.TXT".toUTF8.data.toList).nextFound.1 = .ok (longName, 0) ∧
      ∃ after, SearchRecord.fill untouched longName 0 = some after ∧
        ¬ SearchRecord.Filled untouched after longName := by
  refine ⟨reachable_searched _ trivial fun _ => trivial, ok_of_toOption (by decide +kernel), ?_⟩
  have overrun : (SearchRecord.fill untouched longName 0).map (·[0x2b]?) = some (some 0x54) := by
    decide +kernel
  obtain ⟨after, filled, byte⟩ := Option.map_eq_some_iff.1 overrun
  refine ⟨after, filled, fun fits => ?_⟩
  have same := fits.outside 0x2b (.inr (by decide))
  rw [byte] at same
  exact absurd same (by decide +kernel)

end Shown

end FileSystem

end RealMode.Dos
