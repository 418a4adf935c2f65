import RealMode.Proofs.DirectoryListing
import RealMode.Proofs.HandleTable
import RealMode.Proofs.LegibleNames
import RealMode.Proofs.SearchRecords

/-!
# What a search shows

A search fixes its names when it starts: one for each file that it is for, in the order of
the files. From then on each step takes the first name that is left, and nothing else that
happens changes what is left. The names are different, but two of them are written alike
where one spells the other out.
-/

namespace RealMode.Dos

/-- The search is asked for its next name. -/
def FileEvent.isNext : FileEvent → Bool
  | .operation .nextFound => true
  | _ => false

/-- A new search begins. -/
def FileEvent.isSearch : FileEvent → Bool
  | .operation (.search _) => true
  | _ => false

theorem NameTable.issued_candidate (host : String) (k : Nat) :
    (NameTable.candidate host k).Issued := by
  cases k with
  | zero => exact FileName.issued_ofHostName host none
  | succ k => exact FileName.issued_ofHostName host (some (k + 1))

namespace FileSystem

variable {fs : FileSystem} {event : FileEvent} {events : List FileEvent}
  {names rest : List FileName} {name : FileName}
  {pattern : List UInt8}

section Steps

theorem nextFound_of_empty (none : fs.found = []) : fs.nextFound = (.error .noMoreFiles, fs) := by
  unfold nextFound
  rw [none]

theorem listing_found (fs : FileSystem) (rest : List FileName) :
    ({ fs with found := rest } : FileSystem).listing = fs.listing := rfl

theorem hostOf_found (fs : FileSystem) (rest : List FileName) (name : FileName) :
    ({ fs with found := rest } : FileSystem).hostOf name = fs.hostOf name := by
  unfold hostOf
  rw [listing_found]

theorem listing_search (fs : FileSystem) (pattern : List UInt8) :
    (fs.search pattern).listing = fs.listing := by
  rw [search_eq]
  rfl

/-- The name that is shown stands beside the size of the file that it leads to. -/
theorem nextFound_of_cons (shown : fs.found = name :: rest) :
    fs.nextFound =
      (.ok (name, fs.sizeOf (fs.hostOf name)), { fs.knowing name with found := rest }) := by
  unfold nextFound
  rw [shown]
  dsimp only
  rw [hostName_eq, hostOf_found]
  unfold knowing
  rw [listing_found]
  generalize fs.names.resolve fs.listing name = resolved
  generalize fs.hostOf name = host
  rfl

theorem found_nextFound (fs : FileSystem) : fs.nextFound.2.found = fs.found.tail := by
  rcases fs.nextFound_cases with ⟨none, same⟩ | ⟨name, rest, size, shown, same⟩
  · rw [same, none]
    rfl
  · rw [same, shown]
    rfl

/-- Nothing but a search and its next name touches what is left of a search. -/
theorem found_perform {op : FileOperation} (quiet : (FileEvent.operation op).isSearch = false)
    (other : (FileEvent.operation op).isNext = false) : (op.perform fs).2.found = fs.found := by
  cases op with
  | create name =>
    rw [FileOperation.perform, FileOperation.outcome_snd, (sameView_create fs name).found]
    rfl
  | openFile name mode =>
    rw [FileOperation.perform, FileOperation.outcome_snd, (sameView_openFile fs name mode).found]
    rfl
  | close handle => exact (handled_close fs handle).byHandle.found
  | read handle count => exact (handled_read fs handle count).byHandle.found
  | write handle data => exact (handled_write fs handle data).byHandle.found
  | seek handle offset origin => exact (handled_seek fs handle offset origin).byHandle.found
  | search pattern => cases quiet
  | nextFound => cases other

theorem found_afterEvent (fs : FileSystem) (quiet : event.isSearch = false) :
    (fs.afterEvent event).found = if event.isNext then fs.found.tail else fs.found := by
  by_cases next : event.isNext = true
  · rw [if_pos next]
    cases event with
    | host disk => cases next
    | operation op =>
      cases op with
      | nextFound => exact found_nextFound fs
      | _ => cases next
  · rw [if_neg next]
    cases event with
    | host disk => rfl
    | operation op => exact found_perform quiet (Bool.eq_false_iff.2 next)

/-- What is left of a search depends on nothing but how often it has been asked. -/
theorem found_run (fs : FileSystem) (quiet : ∀ event ∈ events, event.isSearch = false) :
    (fs.run events).found = fs.found.drop (events.countP FileEvent.isNext) := by
  induction events using List.reverseRecOn with
  | nil => rfl
  | append_singleton before event ih =>
    have earlier := ih fun other inside => quiet other (List.mem_append_left _ inside)
    have step :=
      found_afterEvent (fs.run before) (quiet event (List.mem_append_right _ List.mem_cons_self))
    rw [run_concat, step, earlier, List.countP_append, List.countP_singleton]
    by_cases next : event.isNext = true
    · rw [if_pos next, if_pos next, List.tail_drop]
    · rw [if_neg next, if_neg next, Nat.add_zero]

/-- What a search with these names answers when it is asked again after `asked` answers. -/
def answerAfter (names : List FileName) (asked : Nat) : Except Error FileName :=
  match names[asked]? with
  | some name => .ok name
  | none => .error .noMoreFiles

theorem nextFound_run (quiet : ∀ event ∈ events, event.isSearch = false) :
    (fs.run events).nextFound.1.map Prod.fst =
      answerAfter fs.found (events.countP FileEvent.isNext) := by
  have left := found_run fs quiet
  generalize events.countP FileEvent.isNext = asked at left ⊢
  rw [answerAfter]
  cases shown : fs.found[asked]? with
  | none =>
    rw [List.drop_eq_nil_of_le (List.getElem?_eq_none_iff.1 shown)] at left
    rw [nextFound_of_empty left]
    rfl
  | some name =>
    obtain ⟨inside, same⟩ := List.getElem?_eq_some_iff.1 shown
    rw [List.drop_eq_getElem_cons inside, same] at left
    rw [nextFound_of_cons left]
    rfl

end Steps

section NewSearch

variable {disk : Disk} {here : Path} {root : String}

/-- The names stand for the files of the directory that the search is for, each for one, in
ascending order of the files. -/
structure Matches (fs : FileSystem) (pattern : List UInt8) (hosts : List String)
    (names : List FileName) : Prop where
  ascending : hosts.Pairwise (· < ·)
  complete : ∀ host, host ∈ hosts ↔
    (∃ number, fs.FileHere host number) ∧ ∃ name, fs.names.shortName? host = some name ∧
      name.answers pattern = true
  named : names.map some = hosts.map fs.names.shortName?
  different : names.Nodup

theorem matches_search (here : Path) (root : String) (single : disk.Single) (pattern : List UInt8) :
    let fs := (mount disk here root).search pattern
    fs.Matches pattern
      (fs.listing.filter fun host => (fs.names.shortName? host).any (·.answers pattern))
        fs.found := by
  intro fs
  obtain ⟨table, found⟩ := search_mount disk here root pattern
  have known := NameTable.empty.list_names (mount disk here root).listing
  have single' : fs.disk.Single := by
    rw [(spared_search _ pattern).disk]
    exact single
  refine ⟨(pairwise_listing single').filter _, fun host => ?_, ?_, ?_⟩
  · rw [List.mem_filter, mem_listing_iff single', Option.any_eq_true]
  · have same : (fun name : FileName => name.answers pattern) =
        (Option.any (·.answers pattern)) ∘ some := rfl
    have listed : fs.listing = (mount disk here root).listing := listing_search _ pattern
    rw [found, same, ← List.filter_map, known, ← table, List.filter_map, listed]
    rfl
  · rw [found]
    exact (NameTable.nodup_list NameTable.linked_empty (nodup_listing single)).filter _

/-- The names that a new search shows are those of files in the directory. -/
theorem exists_listed_of_mem_found
    (shown : name ∈ ((mount disk here root).search pattern).found) :
    ∃ host ∈ (mount disk here root).listing,
      ((mount disk here root).search pattern).names.shortName? host = some name ∧
        ∃ k ≤ (mount disk here root).listing.length, name = NameTable.candidate host k := by
  obtain ⟨table, found⟩ := search_mount disk here root pattern
  rw [found] at shown
  have named : some name ∈ (NameTable.empty.list (mount disk here root).listing).1.map some :=
    List.mem_map_of_mem (List.mem_filter.1 shown).1
  rw [NameTable.list_names] at named
  obtain ⟨host, listed, known⟩ := List.mem_map.1 named
  rw [table]
  have pair := (NameTable.holds_list_empty (mount disk here root).listing).of_shortName? known
  exact ⟨host, listed, known, pair⟩

/-- Different names are written differently just when none of them spells another one out. -/
theorem nodup_toBytes_iff (issued : ∀ name ∈ names, name.Issued) (different : names.Nodup) :
    (names.map FileName.toBytes).Nodup ↔
      ∀ name ∈ names, ∀ other ∈ names, ¬ name.SpellsOut other := by
  constructor
  · intro apart name inside other inside' spells
    have alike :=
      ((issued name inside).toBytes_eq_iff (issued other inside')).2 (.inr (.inl spells))
    have same := List.inj_on_of_nodup_map apart inside inside' alike
    rw [same] at spells
    exact spells.2.1 spells.1
  · intro none
    refine different.map_on fun name inside other inside' alike => ?_
    rcases ((issued name inside).toBytes_eq_iff (issued other inside')).1 alike with same |
      spells | spells
    · exact same
    · exact absurd spells (none name inside other inside')
    · exact absurd spells (none other inside' name inside)

/-- A search in a new file system has one name for each file that it is for. Whatever happens in
between, short of another search, it shows these names one after the other, in the order of the
files, and then tells each time that there are no more. Every name fits into the record of the
search, and the names are written differently just when none of them spells another one out. -/
theorem search_shows_each_file_once (single : disk.Single)
    (few : (mount disk here root).listing.length < manyNames) (pattern : List UInt8) :
    let fs := (mount disk here root).search pattern
    ∃ hosts names, fs.Matches pattern hosts names ∧
      (∀ events : List FileEvent, (∀ event ∈ events, event.isSearch = false) →
        (fs.run events).nextFound.1.map Prod.fst =
          answerAfter names (events.countP FileEvent.isNext)) ∧
      (∀ name ∈ names, ∀ record fileSize, record.length = SearchRecord.size →
        ∃ after, SearchRecord.fill record name fileSize = some after ∧
          SearchRecord.Filled record after name) ∧
      ((names.map FileName.toBytes).Nodup ↔
        ∀ name ∈ names, ∀ other ∈ names, ¬ name.SpellsOut other) := by
  intro fs
  have found := matches_search here root single pattern
  refine ⟨_, fs.found, found, fun events quiet => nextFound_run quiet, ?_, ?_⟩
  · intro name shown record fileSize whole
    obtain ⟨host, _, _, k, bound, rfl⟩ := exists_listed_of_mem_found shown
    have short := NameTable.short_candidate host (Nat.lt_of_le_of_lt bound few)
    exact SearchRecord.fill_of_short whole fileSize short
  · refine nodup_toBytes_iff (fun name shown => ?_) found.different
    obtain ⟨host, _, _, k, _, rfl⟩ := exists_listed_of_mem_found shown
    exact NameTable.issued_candidate host k

end NewSearch

section Alike

open Text.Utf8 (encode)

def anything : List UInt8 := encode "*.*"

/-- A root directory with these files, all empty. -/
def rootWith (hosts : List String) : Disk :=
  hosts.foldr (fun host disk => disk.put ["r", host] []) (Disk.empty.addDirectories ["r"])

/-- Files whose short names collide. -/
def feet : Disk := rootWith ["Foot.texture", "foot.text", "foot.txt"]

/-- A file comes and another one goes while the search for names like `foot` and `.te` goes on. -/
theorem colliding_names_are_shown :
    feet.Single ∧ (mount feet [] "/r").listing.length < manyNames ∧
      ∃ hosts names,
        ((mount feet [] "/r").search (encode "foot*.te?")).Matches (encode "foot*.te?")
          hosts names ∧
        (((mount feet [] "/r").search (encode "foot*.te?")).run
            [.operation (.create (encode "FOOT.TEA")), .operation .nextFound,
              .host (feet.remove ["r", "foot.text"])]).nextFound.1.map Prod.fst =
          answerAfter names 1 := by
  have single : feet.Single := by decide +kernel
  have entries : (mount feet [] "/r").disk.entries.length = 4 := by decide +kernel
  have few : (mount feet [] "/r").listing.length < manyNames :=
    Nat.lt_of_le_of_lt (length_listing_le _) (by rw [entries]; decide)
  obtain ⟨hosts, names, found, shown, _⟩ :=
    search_shows_each_file_once single few (encode "foot*.te?")
  exact ⟨single, few, hosts, names, found, shown _ (by decide)⟩

/-- Two files whose names are written alike, though the one has an extension and the
other a title with a dot. -/
def alike : Disk := rootWith ["a.b", "a.b."]

/-- Both are shown as `A.B`. -/
theorem dotted_title_is_shown_twice :
    let fs := (mount alike [] "/r").search anything
    alike.Single ∧ fs.found.map FileName.toBytes = [encode "A.B", encode "A.B"] ∧
      fs.nextFound.1.map Prod.fst = .ok ⟨encode "A", encode "B"⟩ ∧
      fs.nextFound.2.nextFound.1.map Prod.fst = .ok ⟨encode "A.B", []⟩ := by
  intro fs
  have leads : alike.find [] "/r" = .ok (.directory ["r"]) := by decide +kernel
  have sorted : (alike.entries.filterMap (Disk.fileName? ["r"])).Pairwise (· ≤ ·) := by
    decide +kernel
  have found : fs.found = [⟨encode "A", encode "B"⟩, ⟨encode "A.B", []⟩] := by
    rw [(search_mount alike [] "/r" anything).2, listing_of_sorted leads sorted]
    decide +kernel
  have next : fs.nextFound.2.found = [⟨encode "A.B", []⟩] := by
    rw [found_nextFound, found]
    rfl
  refine ⟨by decide +kernel, by rw [found]; decide +kernel, ?_, ?_⟩
  · rw [nextFound_of_cons found]
    rfl
  · rw [nextFound_of_cons next]
    rfl

end Alike

end FileSystem

end RealMode.Dos
