import Mathlib.Data.List.Nodup
import RealMode.Proofs.FileOperations
import RealMode.Proofs.NameMapping

/-!
# What a listing of the directory shows

A listing shows each file of the directory once, in ascending order, whatever the order of the
disk's entries. The short names that go with it are those that the table has after the listing, and
no two files have the same.
-/

namespace RealMode.Dos

namespace Disk

variable {d : Disk} {dir path : Path} {name : String} {entry : Entry}

/-- No path has two entries. -/
def Single (d : Disk) : Prop := (d.entries.map Prod.fst).Nodup

instance (d : Disk) : Decidable d.Single :=
  inferInstanceAs (Decidable (d.entries.map Prod.fst).Nodup)

theorem lookup_eq_some_iff_mem {pairs : List (Path × Entry)}
    (single : (pairs.map Prod.fst).Nodup) :
    pairs.lookup path = some entry ↔ (path, entry) ∈ pairs := by
  constructor
  · intro found
    obtain ⟨before, after, rfl, _⟩ := List.lookup_eq_some_iff.1 found
    exact List.mem_append_right _ List.mem_cons_self
  · intro inside
    induction pairs with
    | nil => cases inside
    | cons pair pairs ih =>
      obtain ⟨first, value⟩ := pair
      rw [List.map_cons, List.nodup_cons] at single
      rw [List.lookup_cons]
      rcases List.mem_cons.1 inside with same | later
      · cases same
        rw [beq_self_eq_true]
      · have apart : path ≠ first := by
          rintro rfl
          have known := List.mem_map_of_mem (f := Prod.fst) later
          exact single.1 known
        rw [beq_eq_false_iff_ne.2 apart]
        exact ih single.2 later

theorem entry?_eq_some_iff (single : d.Single) (below : path ≠ []) :
    d.entry? path = some entry ↔ (path, entry) ∈ d.entries := by
  cases path with
  | nil => exact absurd rfl below
  | cons name names => exact lookup_eq_some_iff_mem single

/-- The name of a file directly in the directory. -/
def fileName? (dir : Path) : Path × Entry → Option String
  | (path, .file _) => if path.dropLast = dir then path.getLast? else none
  | (_, .directory) => none

theorem fileNames_eq (d : Disk) (dir : Path) :
    d.fileNames dir =
      (d.entries.filterMap (fileName? dir)).mergeSort fun a b => decide (a ≤ b) := by
  have same : (fun e : Path × Entry =>
      match e with
      | (path, .file _) => if path.dropLast = dir then path.getLast? else none
      | (_, .directory) => none) = fileName? dir := by
    funext ⟨path, entry⟩
    cases entry <;> rfl
  rw [← same]
  rfl

theorem fileName?_eq_some_iff {e : Path × Entry} :
    fileName? dir e = some name ↔ ∃ number, e = (dir ++ [name], .file number) := by
  obtain ⟨path, _ | number⟩ := e
  · constructor
    · intro none
      cases none
    · rintro ⟨number, same⟩
      cases same
  · rw [fileName?]
    constructor
    · intro named
      split at named
      · next below =>
        obtain ⟨front, rfl⟩ := List.getLast?_eq_some_iff.1 named
        rw [List.dropLast_concat] at below
        exact ⟨number, by rw [below]⟩
      · cases named
    · rintro ⟨number', same⟩
      cases same
      rw [List.dropLast_concat, if_pos rfl, List.getLast?_concat]

theorem mem_fileNames_iff (single : d.Single) :
    name ∈ d.fileNames dir ↔ ∃ number, d.entry? (dir ++ [name]) = some (.file number) := by
  have below : dir ++ [name] ≠ [] := List.append_ne_nil_of_right_ne_nil _ (List.cons_ne_nil _ _)
  rw [fileNames_eq, List.mem_mergeSort, List.mem_filterMap]
  constructor
  · rintro ⟨e, inside, named⟩
    obtain ⟨number, rfl⟩ := fileName?_eq_some_iff.1 named
    exact ⟨number, (entry?_eq_some_iff single below).2 inside⟩
  · rintro ⟨number, there⟩
    exact ⟨_, (entry?_eq_some_iff single below).1 there,
      fileName?_eq_some_iff.2 ⟨number, rfl⟩⟩

/-- The names are in order, and none of them comes twice. -/
theorem pairwise_fileNames (single : d.Single) (dir : Path) :
    (d.fileNames dir).Pairwise (· < ·) := by
  have sorted : (d.fileNames dir).Pairwise (· ≤ ·) := by
    have trans (a b c : String) (first : decide (a ≤ b) = true)
        (second : decide (b ≤ c) = true) :
        decide (a ≤ c) = true := by
      rw [decide_eq_true_eq] at first second ⊢
      exact String.le_trans first second
    have total (a b : String) : (decide (a ≤ b) || decide (b ≤ a)) = true := by
      rw [Bool.or_eq_true, decide_eq_true_eq, decide_eq_true_eq]
      exact String.le_total a b
    have ordered := List.pairwise_mergeSort trans total (d.entries.filterMap (fileName? dir))
    rw [fileNames_eq]
    exact ordered.imp fun le => of_decide_eq_true le
  have different : (d.fileNames dir).Nodup := by
    rw [fileNames_eq, (List.mergeSort_perm _ _).nodup_iff]
    have paths : d.entries.Pairwise fun e e' => e.1 ≠ e'.1 := List.pairwise_map.1 single
    refine paths.filterMap _ fun e e' apart name named name' named' => ?_
    obtain ⟨number, rfl⟩ := fileName?_eq_some_iff.1 named
    obtain ⟨number', rfl⟩ := fileName?_eq_some_iff.1 named'
    rintro rfl
    exact apart rfl
  exact sorted.imp₂ (fun a b le ne => Std.lt_of_le_of_ne le ne) different

end Disk

namespace NameTable

variable {t t' : NameTable} {host : String} {name : FileName} {hosts : List String} {most : Nat}

/-- Listings and names for host files change no short name that is known. -/
theorem shortName?_assign (known : t.shortName? host = some name) (other : String) :
    (t.assign other).2.shortName? host = some name := by
  rcases t.assign_cases other with ⟨_, _, same⟩ | ⟨unknown, k, _, same⟩
  · rw [same]
    exact known
  · rw [same, shortName?_enter, if_neg]
    · exact known
    · rintro rfl
      rw [known] at unknown
      cases unknown

theorem shortName?_list (known : t.shortName? host = some name) (hosts : List String) :
    (t.list hosts).2.shortName? host = some name := by
  induction hosts generalizing t with
  | nil => exact known
  | cons other hosts ih => exact ih (shortName?_assign known other)

theorem shortName?_assign_self (t : NameTable) (host : String) :
    (t.assign host).2.shortName? host = some (t.assign host).1 := by
  rcases t.assign_cases host with ⟨name, known, same⟩ | ⟨_, k, _, same⟩
  · rw [same]
    exact known
  · rw [same, shortName?_enter, if_pos rfl]

/-- The names that a listing gives are those that its files have from then on. -/
theorem list_names (t : NameTable) (hosts : List String) :
    (t.list hosts).1.map some = hosts.map (t.list hosts).2.shortName? := by
  induction hosts generalizing t with
  | nil => rfl
  | cons host hosts ih =>
    have first := shortName?_list (t.shortName?_assign_self host) hosts
    have rest := ih (t.assign host).2
    rw [list, List.map_cons, List.map_cons, rest, first]

/-- A listing of known files changes nothing. -/
theorem list_of_known (known : ∀ host ∈ hosts, t.shortName? host ≠ none) :
    (t.list hosts).2 = t := by
  induction hosts with
  | nil => rfl
  | cons host hosts ih =>
    have first := known host List.mem_cons_self
    have rest := ih fun other inside => known other (List.mem_cons_of_mem _ inside)
    rcases t.assign_cases host with ⟨name, _, same⟩ | ⟨unknown, _⟩
    · rw [list, same]
      exact rest
    · exact absurd unknown first

theorem known_of_list (t : NameTable) (listed : host ∈ hosts) :
    (t.list hosts).2.shortName? host ≠ none := by
  have named : (t.list hosts).2.shortName? host ∈ (t.list hosts).1.map some := by
    rw [list_names]
    exact List.mem_map_of_mem listed
  obtain ⟨name, _, same⟩ := List.mem_map.1 named
  rw [← same]
  exact Option.some_ne_none name

theorem list_list (t : NameTable) (hosts : List String) :
    (t.list hosts).2.list hosts = t.list hosts := by
  have same : ((t.list hosts).2.list hosts).2 = (t.list hosts).2 :=
    list_of_known fun _ listed => t.known_of_list listed
  have names := (t.list hosts).2.list_names hosts
  rw [same, ← t.list_names] at names
  exact Prod.ext (List.map_injective_iff.2 (fun _ _ => Option.some.inj) names) same

/-- Different files have different names. -/
theorem nodup_list (linked : t.Linked) (different : hosts.Nodup) : (t.list hosts).1.Nodup := by
  refine List.Nodup.of_map some ?_
  rw [list_names]
  refine different.map_on fun host listed other _ same => ?_
  obtain ⟨name, known⟩ := Option.ne_none_iff_exists'.1 (t.known_of_list listed)
  exact (linked.grows (t.grows_list hosts)).shortName?_inj known (same ▸ known)

theorem size_assign_le (t : NameTable) (host : String) : (t.assign host).2.size ≤ t.size + 1 := by
  rcases t.assign_cases host with ⟨name, _, same⟩ | ⟨_, k, _, same⟩
  · rw [same]
    exact Nat.le_succ _
  · rw [same]
    exact Nat.le_refl _

theorem size_list_le (t : NameTable) (hosts : List String) :
    (t.list hosts).2.size ≤ t.size + hosts.length := by
  induction hosts generalizing t with
  | nil => exact Nat.le_refl _
  | cons host hosts ih =>
    have first := t.size_assign_le host
    have rest := ih (t.assign host).2
    rw [list, List.length_cons]
    dsimp only
    omega

/-- In a new table every name is a candidate for its file, with a number that is at
most the number of files. -/
theorem holds_list_empty (hosts : List String) :
    (empty.list hosts).2.Holds fun host name => ∃ k ≤ hosts.length,
      name = candidate host k := by
  have few := empty.size_list_le hosts
  have none : empty.size = 0 := rfl
  rw [none, Nat.zero_add] at few
  exact (holds_empty.list few fun host _ k bound => ⟨k, bound, rfl⟩).2

end NameTable

namespace FileSystem

variable {fs : FileSystem} {host : String}

/-- There is a file of that name in the directory. -/
def FileHere (fs : FileSystem) (host : String) (number : Nat) : Prop :=
  ∃ dir, fs.disk.find fs.here fs.root = .ok (.directory dir) ∧
    fs.disk.entry? (dir ++ [host]) = some (.file number)

theorem mem_listing_iff (single : fs.disk.Single) : host ∈ fs.listing ↔
    ∃ number, fs.FileHere host number := by
  unfold listing FileHere
  split
  · next dir leads =>
    rw [Disk.mem_fileNames_iff single, leads]
    constructor
    · rintro ⟨number, there⟩
      exact ⟨number, dir, rfl, there⟩
    · rintro ⟨number, dir', same, there⟩
      cases same
      exact ⟨number, there⟩
  · next other =>
    constructor
    · intro none
      cases none
    · rintro ⟨number, dir, leads, _⟩
      exact absurd leads (other dir)

theorem pairwise_listing (single : fs.disk.Single) : fs.listing.Pairwise (· < ·) := by
  unfold listing
  split
  · exact Disk.pairwise_fileNames single _
  · exact List.Pairwise.nil

theorem nodup_listing (single : fs.disk.Single) : fs.listing.Nodup := by
  refine (pairwise_listing single).imp fun {a b} less same => ?_
  rw [same] at less
  exact String.lt_irrefl b less

theorem length_listing_le (fs : FileSystem) : fs.listing.length ≤ fs.disk.entries.length := by
  unfold listing
  split
  · rw [Disk.fileNames_eq, List.length_mergeSort]
    exact List.length_filterMap_le _ _
  · exact Nat.zero_le _

/-- Where the disk has the names in order already, they are listed as they are. -/
theorem listing_of_sorted {dir : Path} (leads : fs.disk.find fs.here fs.root = .ok (.directory dir))
    (sorted : (fs.disk.entries.filterMap (Disk.fileName? dir)).Pairwise (· ≤ ·)) :
    fs.listing = fs.disk.entries.filterMap (Disk.fileName? dir) := by
  unfold listing
  rw [leads]
  dsimp only
  rw [Disk.fileNames_eq]
  exact List.mergeSort_of_pairwise (sorted.imp fun le => decide_eq_true le)

/-- A search in a new file system finds the table as it is, with a name for every file. -/
theorem search_mount (disk : Disk) (here : Path) (root : String) (pattern : List UInt8) :
    let fs := mount disk here root
    (fs.search pattern).names = (NameTable.empty.list fs.listing).2 ∧
      (fs.search pattern).found =
        (NameTable.empty.list fs.listing).1.filter (·.answers pattern) := by
  intro fs
  have names : fs.names = (NameTable.empty.list fs.listing).2 := by
    simp only [fs, mount, refresh_eq]
    rfl
  rw [search_eq, names, NameTable.list_list]
  exact ⟨rfl, rfl⟩

end FileSystem

end RealMode.Dos
