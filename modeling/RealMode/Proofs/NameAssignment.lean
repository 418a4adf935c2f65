import Mathlib.Data.Finset.Card
import RealMode.Proofs.DirectoryListing
import RealMode.Proofs.SearchRecords

/-!
# The short name that a host file is given

A host file without a short name is given the first of its candidates that stands for no host file.
The search for it has no bound of its own. It ends because the numbered candidates all differ and
every one that it passes over stands for a host file, so that it passes over one more candidate than
there are names at most. The name then stays with the host file, whatever names are given later.
-/

namespace RealMode.Dos.NameTable

variable {t : NameTable} {host : String} {name : FileName} {index tries k : Nat}

/-- The short names that stand for a host file, each counted once. -/
def taken (t : NameTable) : Finset FileName := (t.hostNames.map Prod.fst).toFinset

theorem mem_taken_of_hostName? (known : t.hostName? name ≠ none) : name ∈ t.taken :=
  List.mem_toFinset.2 (mem_names_of_taken known)

/-- Trying one candidate after the other from number `index` on ends after so many
tries with this name. -/
inductive Finds (t : NameTable) (host : String) : Nat → Nat → FileName → Prop where
  | free {index : Nat} (free : t.hostName? (candidate host index) = none) :
      Finds t host index 1 (candidate host index)
  | passed {index tries : Nat} {name : FileName}
      (known : t.hostName? (candidate host index) ≠ none)
      (later : Finds t host (index + 1) tries name) : Finds t host index (tries + 1) name

theorem finds_candidate (index k : Nat) (free : t.hostName? (candidate host (k + index)) = none)
    (before : ∀ j, index ≤ j → j < k + index → t.hostName? (candidate host j) ≠ none) :
    t.Finds host index (k + 1) (candidate host (k + index)) := by
  induction k generalizing index with
  | zero =>
    rw [Nat.zero_add index] at free ⊢
    exact .free free
  | succ k ih =>
    have next : k + 1 + index = k + (index + 1) := by omega
    rw [next] at free before ⊢
    apply Finds.passed
    · exact before index (Nat.le_refl index) (by omega)
    · apply ih (index + 1) free
      intro j above below
      exact before j (by omega) below

theorem Finds.exists_candidate (finds : t.Finds host index tries name) :
    ∃ j < index + tries, name = candidate host j ∧ t.hostName? name = none := by
  induction finds with
  | @free index free => exact ⟨index, Nat.lt_succ_self index, rfl, free⟩
  | passed _ _ ih =>
    obtain ⟨j, below, same, free⟩ := ih
    exact ⟨j, by omega, same, free⟩

/-- No more candidates are passed over than there are names, and one without a number. -/
theorem le_card_taken (passed : ∀ j < k, t.hostName? (candidate host j) ≠ none) :
    k ≤ t.taken.card + 1 := by
  have numbered : (Finset.range (k - 1)).image (fun j => candidate host (j + 1)) ⊆ t.taken := by
    intro name inside
    obtain ⟨j, below, rfl⟩ := Finset.mem_image.1 inside
    have below := Finset.mem_range.1 below
    exact mem_taken_of_hostName? (passed (j + 1) (by omega))
  have different : Function.Injective fun j => candidate host (j + 1) :=
    fun _ _ same => candidate_injective same
  have count := Finset.card_le_card numbered
  rw [Finset.card_image_of_injective _ different, Finset.card_range] at count
  omega

theorem exists_finds_assign (unknown : t.shortName? host = none) :
    ∃ tries ≤ t.taken.card + 2, t.Finds host 0 tries (t.assign host).1 := by
  have given : (t.assign host).1 = t.firstFree host 0 (t.hostNames.length + 1) := by
    rw [assign, unknown]
  obtain ⟨k, -, same, before⟩ := t.exists_firstFree_eq host 0 (t.hostNames.length + 1)
  have free := t.hostName?_firstFree host
  rw [same] at free
  have passed : ∀ j < k, t.hostName? (candidate host j) ≠ none :=
    fun j below => before j (Nat.zero_le j) below
  have few := le_card_taken passed
  refine ⟨k + 1, by omega, ?_⟩
  rw [given, same]
  exact finds_candidate 0 k free fun j _ below => passed j below

theorem short_of_finds (finds : t.Finds host 0 tries name) (few : tries ≤ manyNames) :
    name.Short := by
  obtain ⟨j, below, rfl, -⟩ := finds.exists_candidate
  exact short_candidate host (by omega)

/-- However a table has come about, a host file without a name gets the first candidate that
stands for no host file, after at most two candidates more than there are names. With fewer than
9999999 names it is a name of eight and three bytes. Whether it is new or not, no other host file
has the name or is meant by it, no name that was given before changes, and the host file is given
this name ever after. -/
theorem assigned_name_stays (consultations : List Consultation) (host : String) :
    let t := empty.consultAll consultations
    let name := (t.assign host).1
    let after := (t.assign host).2
    (t.shortName? host = none →
      (∃ tries ≤ t.taken.card + 2, t.Finds host 0 tries name) ∧
        (t.taken.card < 9999999 → name.title.length ≤ 8 ∧ name.extension.length ≤ 3)) ∧
    (∀ known, t.shortName? host = some known → t.assign host = (known, t)) ∧
    (∀ other, other ≠ host →
      t.shortName? other ≠ some name ∧ t.hostName? name ≠ some other) ∧
    (∀ other given, t.shortName? other = some given → after.shortName? other = some given) ∧
    (∀ shown other, t.hostName? shown = some other → after.hostName? shown = some other) ∧
    (after.shortName? host = some name ∧ after.hostName? name = some host) ∧
    ∀ others, (after.list others).2.assign host = (name, (after.list others).2) := by
  intro t name after
  have linked : t.Linked := linked_consultAll consultations
  have grows : t.Grows after := t.grows_assign host
  have own : after.shortName? host = some name := t.shortName?_assign_self host
  have back : after.hostName? name = some host := (linked.grows grows).back host name own
  have kept {t : NameTable} {known : FileName} (there : t.shortName? host = some known) :
      t.assign host = (known, t) := by
    rw [assign, there]
  refine ⟨fun unknown => ?_, fun known there => kept there, fun other differs => ?_, ?_, ?_,
    ⟨own, back⟩, ?_⟩
  · obtain ⟨tries, bound, finds⟩ := exists_finds_assign unknown
    refine ⟨⟨tries, bound, finds⟩, fun few => ?_⟩
    have short := short_of_finds finds (by rw [manyNames]; omega)
    exact ⟨short.title, short.extension⟩
  · have nobodys : t.hostName? name ≠ some other := by
      intro known
      rw [grows.hostName? known] at back
      exact differs (Option.some.inj back)
    exact ⟨fun known => nobodys (linked.back other name known), nobodys⟩
  · intro other given known
    exact shortName?_assign known host
  · intro shown other known
    exact grows.hostName? known
  · intro others
    exact kept (shortName?_list own others)

/-- Two host files that are cut to the same eight and three bytes, and a third one that looks
like the numbered name. -/
def crowded : List Consultation := [.shortName "foot.text", .listing ["FOOT~1.TEX"]]

/-- The third candidate is free. -/
theorem third_candidate_given :
    (empty.consultAll crowded).shortName? "foot.text2" = none ∧
      (empty.consultAll crowded).taken.card = 2 ∧
      ((empty.consultAll crowded).assign "foot.text2").1 = candidate "foot.text2" 2 ∧
      (candidate "foot.text2" 2).toBytes = Text.Utf8.encode "FOOT~2.TEX" ∧
      (candidate "foot.text2" 2).title.length ≤ 8 ∧
      (((empty.consultAll crowded).assign "foot.text2").2.list
        ["foot.text3", "foot.text2"]).2.assign "foot.text2" =
        (candidate "foot.text2" 2, (((empty.consultAll crowded).assign "foot.text2").2.list
          ["foot.text3", "foot.text2"]).2) := by
  have unknown : (empty.consultAll crowded).shortName? "foot.text2" = none := by decide +kernel
  have count : (empty.consultAll crowded).taken.card = 2 := by decide +kernel
  have given : ((empty.consultAll crowded).assign "foot.text2").1 = candidate "foot.text2" 2 := by
    decide +kernel
  obtain ⟨new, -, -, -, -, -, later⟩ := assigned_name_stays crowded "foot.text2"
  obtain ⟨-, short⟩ := new unknown
  have short := short (by rw [count]; decide)
  have again := later ["foot.text3", "foot.text2"]
  rw [given] at short again
  exact ⟨unknown, count, given, by decide +kernel, short.1, again⟩

end RealMode.Dos.NameTable
