import RealMode.Dos.NameTable

/-!
# What a table of short names knows

The pairs of a table come from three sources: names given to host files, where the number that tells
a name from others is bounded by the size of the table, and names that a program asked for, whose
host name is the name itself. A property of all such pairs is one of the whole table.
-/

namespace RealMode.Dos.NameTable

variable {P : String → FileName → Prop} {t : NameTable} {host : String} {name : FileName}
  {hosts : List String}
  {most : Nat}

/-- Every pair that the table has in either direction satisfies `P`. -/
structure Holds (P : String → FileName → Prop) (t : NameTable) : Prop where
  ofShort : ∀ pair ∈ t.shortNames, P pair.1 pair.2
  ofHost : ∀ pair ∈ t.hostNames, P pair.2 pair.1

/-- The number of names that the table has a host file for. -/
def size (t : NameTable) : Nat := t.hostNames.length

theorem mem_of_lookup {α β : Type} [DecidableEq α] {key : α} {value : β}
    {pairs : List (α × β)} (found : pairs.lookup key = some value) : (key, value) ∈ pairs := by
  obtain ⟨before, after, same, _⟩ := List.lookup_eq_some_iff.1 found
  rw [same]
  exact List.mem_append_right _ List.mem_cons_self

theorem holds_empty : Holds P empty where
  ofShort _ none := absurd none List.not_mem_nil
  ofHost _ none := absurd none List.not_mem_nil

theorem Holds.enter (holds : Holds P t) (pair : P host name) : Holds P (t.enter host name) where
  ofShort := by
    rintro other (_ | ⟨_, inside⟩)
    · exact pair
    · exact holds.ofShort other inside
  ofHost := by
    rintro other (_ | ⟨_, inside⟩)
    · exact pair
    · exact holds.ofHost other inside

theorem Holds.of_hostName? (holds : Holds P t) (known : t.hostName? name = some host) :
    P host name :=
  holds.ofHost _ (mem_of_lookup known)

theorem Holds.of_shortName? (holds : Holds P t) (known : t.shortName? host = some name) :
    P host name :=
  holds.ofShort _ (mem_of_lookup known)

/-- The candidates before the one that is chosen are taken. -/
theorem exists_firstFree_eq (t : NameTable) (host : String) (index tries : Nat) :
    ∃ k ≤ index + tries, t.firstFree host index tries = candidate host k ∧
      ∀ j, index ≤ j → j < k → t.hostName? (candidate host j) ≠ none := by
  induction tries generalizing index with
  | zero => exact ⟨index, Nat.le_refl _, rfl, fun j above below => by omega⟩
  | succ tries ih =>
    rw [firstFree]
    split
    · next taken =>
      obtain ⟨k, bound, same, before⟩ := ih (index + 1)
      refine ⟨k, by omega, same, fun j above below => ?_⟩
      by_cases first : j = index
      · rw [first]
        exact Option.isSome_iff_ne_none.1 taken
      · exact before j (by omega) below
    · exact ⟨index, Nat.le_add_right _ _, rfl, fun j above below => by omega⟩

/-- A host file has a name already or gets one whose number is bounded by the size of the table. -/
theorem assign_cases (t : NameTable) (host : String) :
    (∃ name, t.shortName? host = some name ∧ t.assign host = (name, t)) ∨
      t.shortName? host = none ∧
        ∃ k ≤ t.size + 1,
          t.assign host = (candidate host k, t.enter host (candidate host k)) := by
  rw [assign]
  cases t.shortName? host with
  | some name => exact .inl ⟨name, rfl, rfl⟩
  | none =>
    obtain ⟨k, bound, same, _⟩ := t.exists_firstFree_eq host 0 (t.hostNames.length + 1)
    refine .inr ⟨rfl, k, by rw [size]; omega, ?_⟩
    dsimp only
    rw [same]

theorem size_le_assign (t : NameTable) (host : String) : t.size ≤ (t.assign host).2.size := by
  rcases t.assign_cases host with ⟨name, _, same⟩ | ⟨_, k, _, same⟩
  · exact Nat.le_of_eq (by rw [same])
  · rw [same]
    exact Nat.le_succ _

theorem size_le_list (t : NameTable) (hosts : List String) : t.size ≤ (t.list hosts).2.size := by
  induction hosts generalizing t with
  | nil => exact Nat.le_refl _
  | cons host hosts ih => exact Nat.le_trans (t.size_le_assign host) (ih _)

theorem Holds.assign (holds : Holds P t) (host : String)
    (given : ∀ k ≤ (t.assign host).2.size, P host (candidate host k)) :
    P host (t.assign host).1 ∧ Holds P (t.assign host).2 := by
  rcases t.assign_cases host with ⟨name, known, same⟩ | ⟨_, k, bound, same⟩
  · rw [same]
    exact ⟨holds.of_shortName? known, holds⟩
  · rw [same] at given ⊢
    exact ⟨given k bound, holds.enter (given k bound)⟩

/-- A listing adds pairs of its files and shows no other names. -/
theorem Holds.list (holds : Holds P t) (small : (t.list hosts).2.size ≤ most)
    (given : ∀ host ∈ hosts, ∀ k ≤ most, P host (candidate host k)) :
    (∀ name ∈ (t.list hosts).1, ∃ host, P host name) ∧ Holds P (t.list hosts).2 := by
  induction hosts generalizing t with
  | nil => exact ⟨fun _ none => absurd none List.not_mem_nil, holds⟩
  | cons host hosts ih =>
    rw [NameTable.list] at small ⊢
    dsimp only at small ⊢
    have before : (t.assign host).2.size ≤ most := Nat.le_trans (size_le_list _ hosts) small
    obtain ⟨first, entered⟩ := holds.assign host
      fun k bound => given host List.mem_cons_self k (Nat.le_trans bound before)
    obtain ⟨rest, table⟩ :=
      ih entered small fun other inside => given other (List.mem_cons_of_mem _ inside)
    refine ⟨?_, table⟩
    intro name inside
    rcases List.mem_cons.1 inside with rfl | inside
    · exact ⟨host, first⟩
    · exact rest name inside

/-- A name is known after a look at the listing or stands for itself from then on. -/
theorem resolve_cases (t : NameTable) (listing : List String) (name : FileName) :
    (∃ host, (t.list listing).2.hostName? name = some host ∧
        t.resolve listing name = (host, (t.list listing).2)) ∨
      (t.list listing).2.hostName? name = none ∧
        t.resolve listing name =
          (Text.Utf8.decodeLossy name.toBytes,
            (t.list listing).2.enter (Text.Utf8.decodeLossy name.toBytes) name) := by
  rw [resolve]
  cases (t.list listing).2.hostName? name with
  | some host => exact .inl ⟨host, rfl, rfl⟩
  | none => exact .inr ⟨rfl, rfl⟩

theorem size_list_le_resolve (t : NameTable) (listing : List String) (name : FileName) :
    (t.list listing).2.size ≤ (t.resolve listing name).2.size := by
  rcases t.resolve_cases listing name with ⟨host, _, same⟩ | ⟨_, same⟩
  · exact Nat.le_of_eq (by rw [same])
  · rw [same]
    exact Nat.le_succ _

theorem Holds.resolve (holds : Holds P t) (small : (t.resolve hosts name).2.size ≤ most)
    (given : ∀ host ∈ hosts, ∀ k ≤ most, P host (candidate host k))
    (itself : P (Text.Utf8.decodeLossy name.toBytes) name) :
    P (t.resolve hosts name).1 name ∧ Holds P (t.resolve hosts name).2 := by
  have listed := (holds.list (Nat.le_trans (t.size_list_le_resolve hosts name) small) given).2
  rcases t.resolve_cases hosts name with ⟨host, known, same⟩ | ⟨_, same⟩
  · rw [same]
    exact ⟨listed.of_hostName? known, listed⟩
  · rw [same]
    exact ⟨itself, listed.enter itself⟩

end RealMode.Dos.NameTable
