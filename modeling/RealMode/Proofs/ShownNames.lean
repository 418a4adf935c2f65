import RealMode.Proofs.NameHistory
import RealMode.Proofs.RootDirectory
import RealMode.Proofs.Searches

/-!
# Opening what a search shows

The name that a search shows stands for its host file from then on, and hardly any other name does:
only one that spells the host name out can. So a program that opens a shown name as it stands opens
the file it was shown for just when the name is read as it is written.
-/

namespace RealMode.Dos

namespace Disk

variable {d : Disk} {here dir : Path} {root host : String} {number : Nat}

/-- Entries that a host can have: one for each path, with plain names that are not too
long and hold no NUL. -/
structure WellFormed (d : Disk) : Prop where
  proper : d.Proper
  single : d.Single
  clean : ∀ e ∈ d.entries, ∀ name ∈ e.1, '\x00' ∉ name.toList
  short : ∀ e ∈ d.entries, ∀ name ∈ e.1, name.utf8ByteSize ≤ maxName

instance (d : Disk) : Decidable d.WellFormed :=
  decidable_of_iff
    (d.Proper ∧ d.Single ∧ (∀ e ∈ d.entries, ∀ name ∈ e.1, '\x00' ∉ name.toList) ∧
      ∀ e ∈ d.entries, ∀ name ∈ e.1, name.utf8ByteSize ≤ maxName)
    ⟨fun ⟨a, b, c, d⟩ => ⟨a, b, c, d⟩, fun ⟨a, b, c, d⟩ => ⟨a, b, c, d⟩⟩

theorem followable_join (plain : Plain host) (clean : '\x00' ∉ host.toList)
    (short : host.utf8ByteSize ≤ maxName) (near : root.utf8ByteSize + maxName < maxPath)
    (followable : Followable root) : Followable (join root host) := by
  have parts : ∃ middle, join root host = root ++ middle ++ host ∧ '\x00' ∉ middle.toList ∧
      middle.utf8ByteSize ≤ 1 := by
    rcases join_plain root plain with ⟨joined, _⟩ | ⟨joined, _⟩
    · exact ⟨"", by rw [joined, String.append_empty], by decide, by decide⟩
    · exact ⟨"/", joined, by decide, by decide⟩
  obtain ⟨middle, joined, between, narrow⟩ := parts
  rw [joined]
  constructor
  · intro none
    exact plain.nonempty (String.append_eq_empty_iff.1 none).2
  · rw [String.toList_append, String.toList_append, List.mem_append, List.mem_append]
    rintro ((front | here) | behind)
    · exact followable.clean front
    · exact between here
    · exact clean behind
  · rw [String.utf8ByteSize_append, String.utf8ByteSize_append]
    omega

/-- An entry of a directory is found behind the path of the directory. -/
theorem find_join_file (wellFormed : d.WellFormed) (near : root.utf8ByteSize + maxName < maxPath)
    (leads : d.find here root = .ok (.directory dir))
    (there : d.entry? (dir ++ [host]) = some (.file number)) :
    d.find here (join root host) = .ok (.file number) := by
  have followable := followable_of_find leads
  have below : dir ++ [host] ≠ [] := List.append_ne_nil_of_right_ne_nil _ (List.cons_ne_nil _ _)
  have inside := (entry?_eq_some_iff wellFormed.single below).1 there
  have last : host ∈ dir ++ [host] := List.mem_append_right _ List.mem_cons_self
  have plain : Plain host := wellFormed.proper _ inside host last
  have short : host.utf8ByteSize ≤ maxName := wellFormed.short _ inside host last
  have joined := followable_join plain (wellFormed.clean _ inside host last) short near followable
  have walked : d.walk (origin here root) (namesOf root) = .ok dir := by
    rw [find_eq_follow followable] at leads
    exact follow_eq_directory_iff.1 leads
  have arrived : d.arrive dir host false = .ok (.file number) := by
    unfold arrive
    rw [if_neg plain.not_here, if_neg plain.not_above, if_neg (Nat.not_lt.2 short), there]
    rfl
  rw [find_eq_follow joined, origin_join plain, namesOf_join plain, follow_concat, walked,
    beq_eq_false_iff_ne.2 (getLast?_join plain)]
  exact arrived

end Disk

namespace NameTable

variable {t t' : NameTable} {host : String} {name : FileName} {hosts : List String}

/-- The name leads to the host file, and no other name does unless it spells the host name out. -/
structure Owns (t : NameTable) (host : String) (name : FileName) : Prop where
  leads : t.hostName? name = some host
  known : t.shortName? host ≠ none
  only : ∀ other, t.hostName? other = some host →
    other = name ∨ host = Text.Utf8.decodeLossy other.toBytes

theorem Inverse.owns (inverse : t.Inverse) (known : t.shortName? host = some name) :
    t.Owns host name where
  leads := (inverse host name).1 known
  known := by
    rw [known]
    exact Option.some_ne_none name
  only other leads := by
    have same := (inverse host other).2 leads
    rw [known] at same
    exact .inl (Option.some.inj same).symm

theorem Owns.enter {host' : String} {name' : FileName} (owns : t.Owns host name)
    (entry : t.Entry host' name') : (t.enter host' name').Owns host name where
  leads := by
    rw [hostName?_enter, if_neg]
    · exact owns.leads
    · rintro rfl
      have free := entry.free
      rw [owns.leads] at free
      cases free
  known := by
    rw [shortName?_enter]
    split
    · exact Option.some_ne_none name'
    · exact owns.known
  only other leads := by
    rw [hostName?_enter] at leads
    by_cases new : other = name'
    · rw [if_pos new] at leads
      cases leads
      cases entry with
      | assigned _ unknown _ => exact absurd unknown owns.known
      | guessed _ => exact .inr (by rw [new])
    · rw [if_neg new] at leads
      exact owns.only other leads

theorem Owns.grows (owns : t.Owns host name) (grows : t.Grows t') : t'.Owns host name := by
  induction grows with
  | refl => exact owns
  | enter _ entry ih => exact ih.enter entry

theorem host_ne_of_not_legible {k : Nat} (illegible : ¬ (candidate host k).Legible) :
    host ≠ Text.Utf8.decodeLossy (FileName.parse (candidate host k).toBytes).toBytes := by
  cases k with
  | zero => exact FileName.host_ne_of_not_legible illegible
  | succ k => exact FileName.host_ne_of_not_legible illegible

/-- What a program gets for its own short name as it is written: the host file, just
when the name is legible. -/
theorem Owns.resolve_iff {k : Nat} (owns : t.Owns host (candidate host k)) :
    (t.resolve hosts (.parse (candidate host k).toBytes)).1 = host ↔
      (candidate host k).Legible := by
  have listed := owns.grows (t.grows_list hosts)
  have issued := issued_candidate host k
  constructor
  · intro resolved
    by_contra illegible
    have apart := host_ne_of_not_legible illegible
    rcases t.resolve_cases hosts (.parse (candidate host k).toBytes) with ⟨other, known, same⟩ |
      ⟨_, same⟩
    · rw [same] at resolved
      cases resolved
      rcases listed.only _ known with read | itself
      · exact illegible (issued.parse_toBytes_iff.1 read)
      · exact apart itself
    · rw [same] at resolved
      exact apart resolved.symm
  · intro legible
    rw [issued.parse_toBytes_iff.2 legible]
    rcases t.resolve_cases hosts (candidate host k) with ⟨other, known, same⟩ | ⟨free, _⟩
    · rw [same]
      exact Option.some.inj (known.symm.trans listed.leads)
    · rw [listed.leads] at free
      cases free

end NameTable

namespace FileSystem

variable {fs fs' : FileSystem} {disk : Disk} {here : Path} {root host : String}
  {events later : List FileEvent}
  {name : FileName} {pattern : List UInt8}

section Runs

theorem Step.grows {op : FileOperation} (step : Step fs op fs') : fs.names.Grows fs'.names := by
  rcases step.names with same | ⟨name, _, same⟩ | ⟨pattern, rfl⟩ | ⟨name, rest, _, rfl⟩
  · rw [same.names]
    exact .refl
  · rw [same.names]
    exact fs.names.grows_resolve _ _
  · rw [search_eq]
    exact fs.names.grows_list _
  · exact fs.names.grows_resolve _ _

/-- Whatever happens, the table of names only grows. -/
theorem grows_run (fs : FileSystem) (events : List FileEvent) :
    fs.names.Grows (fs.run events).names := by
  induction events using List.reverseRecOn with
  | nil => exact .refl
  | append_singleton before event ih =>
    rw [run_concat]
    cases event with
    | operation op => exact ih.trans (step_perform op _).grows
    | host disk => exact ih

theorem place_run (fs : FileSystem) (events : List FileEvent) :
    (fs.run events).here = fs.here ∧ (fs.run events).root = fs.root := by
  induction events using List.reverseRecOn with
  | nil => exact ⟨rfl, rfl⟩
  | append_singleton before event ih =>
    rw [run_concat]
    cases event with
    | operation op =>
      have same := (step_perform op (fs.run before)).place
      exact ⟨same.1.trans ih.1, same.2.trans ih.2⟩
    | host disk => exact ih

end Runs

section Shown

theorem mem_found_of_shown (quiet : ∀ event ∈ events, event.isSearch = false)
    (shown : (fs.run events).nextFound.1.map Prod.fst = .ok name) : name ∈ fs.found := by
  rw [nextFound_run quiet, answerAfter] at shown
  split at shown
  · next other inside =>
    cases shown
    exact List.mem_of_getElem? inside
  · cases shown

/-- Every name that a search in a new file system shows is the short name of a file that
is there, made for it. -/
theorem owns_of_mem_found (single : disk.Single)
    (shown : name ∈ ((mount disk here root).search pattern).found) :
    ∃ host number k, (mount disk here root).FileHere host number ∧
      name = NameTable.candidate host k ∧
      ((mount disk here root).search pattern).names.Owns host name := by
  obtain ⟨host, listed, known, k, _, same⟩ := exists_listed_of_mem_found shown
  have present : ∃ number, (mount disk here root).FileHere host number :=
    (mem_listing_iff single).1 listed
  obtain ⟨number, there⟩ := present
  have inverse := (NameTable.linked_empty.inverse_list_iff (mount disk here root).listing).2
    NameTable.inverse_empty
  rw [← (search_mount disk here root pattern).1] at inverse
  exact ⟨host, number, k, there, same, inverse.owns known⟩

/-- A search in a new file system shows names of files that are there. Whatever happens afterwards,
the bytes of such a name stand for the host file just when the name is legible. As long as the disk
is as it was and there is a free handle, a legible name opens that file at its start. -/
theorem shown_name_opens_iff (wellFormed : disk.WellFormed)
    (near : root.utf8ByteSize + Disk.maxName < Disk.maxPath)
    (quiet : ∀ event ∈ events, event.isSearch = false)
    (shown : (((mount disk here root).search pattern).run events).nextFound.1.map Prod.fst =
      .ok name) :
    ∃ host number, (mount disk here root).FileHere host number ∧
      ((mount disk here root).search pattern).names.hostName? name = some host ∧
      ∀ later, let fs := ((mount disk here root).search pattern).run later
        (fs.hostOf (.parse name.toBytes) = host ↔ name.Legible) ∧
          (name.Legible → fs.disk = disk → freeSlot fs.slots ≠ none →
            ∃ handle, (fs.openFile name.toBytes .readOnly).1 = .ok handle ∧
              (fs.openFile name.toBytes .readOnly).2.openFile? handle =
                some ⟨some number, .readOnly, 0⟩) := by
  obtain ⟨host, number, k, there, rfl, owns⟩ :=
    owns_of_mem_found wellFormed.single (mem_found_of_shown quiet shown)
  refine ⟨host, number, there, owns.leads, fun later => ?_⟩
  intro fs
  have resolved : fs.hostOf (.parse (NameTable.candidate host k).toBytes) = host ↔
      (NameTable.candidate host k).Legible := (owns.grows (grows_run _ later)).resolve_iff
  refine ⟨resolved, fun legible same free => ?_⟩
  have place : fs.here = here ∧ fs.root = root := by
    have run := place_run ((mount disk here root).search pattern) later
    rw [search_eq] at run
    exact run
  obtain ⟨dir, leads, entry⟩ := there
  have target : fs.target (NameTable.candidate host k).toBytes = .ok (.file number) := by
    rw [target_eq, resolved.2 legible, same, place.1, place.2]
    exact Disk.find_join_file wellFormed near leads entry
  exact exists_handle_of_target target free .readOnly

open Text.Utf8 (encode)

/-- A directory with one file, whose short name has a space and a shorter extension. -/
def readMe : Disk := rootWith ["Read Me.Text"]

/-- The system once it has searched for everything and shown the one file. -/
def readMeShown : FileSystem := ((mount readMe [] "/r").search anything).run [.operation .nextFound]

theorem read_me_opens :
    ∃ handle, (readMeShown.openFile (encode "READ ME.TEX") .readOnly).1 = .ok handle ∧
      (readMeShown.openFile (encode "READ ME.TEX") .readOnly).2.openFile? handle =
        some ⟨some 0, .readOnly, 0⟩ := by
  have wellFormed : readMe.WellFormed := by decide +kernel
  have shown : (((mount readMe [] "/r").search anything).run []).nextFound.1.map Prod.fst =
      .ok ⟨encode "READ ME", encode "TEX"⟩ := by decide +kernel
  obtain ⟨host, number, ⟨dir, leads, entry⟩, known, opens⟩ :=
    shown_name_opens_iff wellFormed (by decide) (fun _ none => absurd none List.not_mem_nil) shown
  -- There is only one file that it can be.
  have root : (mount readMe [] "/r").disk.find [] "/r" = .ok (.directory ["r"]) := by decide +kernel
  have own : ((mount readMe [] "/r").search anything).names.hostName? ⟨encode "READ ME",
      encode "TEX"⟩ =
      some "Read Me.Text" := by decide +kernel
  have file : (mount readMe [] "/r").disk.entry? ["r", "Read Me.Text"] = some (.file 0) := by
    decide +kernel
  cases root.symm.trans leads
  cases own.symm.trans known
  cases file.symm.trans entry
  have same : readMeShown.disk = readMe :=
    (spared_nextFound _).disk.trans (spared_search (mount readMe [] "/r") anything).disk
  exact (opens [.operation .nextFound]).2 (by decide +kernel) same (by decide +kernel)

/-- A directory with one file, whose name has a colon. -/
def colonHost : Disk := rootWith ["a:b.txt"]

/-- The file is shown as `A:B.TXT` and cannot be opened by that name, in which
the colon ends a drive. -/
theorem colon_name_is_shown_and_not_found :
    let fs := (mount colonHost [] "/r").search anything
    (mount colonHost [] "/r").FileHere "a:b.txt" 0 ∧
      fs.names.hostName? ⟨encode "A:B", encode "TXT"⟩ = some "a:b.txt" ∧
      fs.nextFound.1.map Prod.fst = .ok ⟨encode "A:B", encode "TXT"⟩ ∧
      FileName.toBytes ⟨encode "A:B", encode "TXT"⟩ = encode "A:B.TXT" ∧
      (fs.nextFound.2.openFile (encode "A:B.TXT") .readOnly).1 = .error .fileNotFound := by
  refine ⟨⟨["r"], ?_, ?_⟩, ?_⟩
  · decide +kernel
  · decide +kernel
  · decide +kernel

end Shown

end FileSystem

end RealMode.Dos
