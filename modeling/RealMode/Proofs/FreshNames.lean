import Mathlib.Data.List.Nodup
import RealMode.Proofs.KnownNames
import RealMode.Proofs.SpelledNames

/-!
# Short names that are free

The numbered candidates for a host file all differ, however far the title is cut back to make room
for the number: what follows the last tilde is the number. A table knows only so many names, so one
of the candidates that are tried is not taken.
-/

namespace RealMode.Dos

namespace FileName

/-- The digits of a number, as they stand in a name. -/
def digits (k : Nat) : List UInt8 := (Nat.toDigits 10 k).map fun c => UInt8.ofNat c.toNat

theorem suffix_some (k : Nat) : suffix (some k) = tilde :: digits k := rfl

theorem digit_bounds {k : Nat} {c : Char} (inside : c ∈ Nat.toDigits 10 k) :
    0x30 ≤ c.toNat ∧ c.toNat ≤ 0x39 :=
  Char.isDigit_iff_toNat.1 (Nat.isDigit_of_mem_toDigits (by decide) (by decide) inside)

theorem toNat_digit {k : Nat} {c : Char} (inside : c ∈ Nat.toDigits 10 k) :
    (UInt8.ofNat c.toNat).toNat = c.toNat := by
  have bounds := digit_bounds inside
  rw [UInt8.toNat_ofNat']
  exact Nat.mod_eq_of_lt (by omega)

theorem not_tilde_of_mem_digits {k : Nat} {b : UInt8} (inside : b ∈ digits k) : b ≠ tilde := by
  obtain ⟨c, digit, rfl⟩ := List.mem_map.1 inside
  intro same
  have value := congrArg UInt8.toNat same
  rw [toNat_digit digit] at value
  have above : tilde.toNat = 0x7e := rfl
  have bounds := digit_bounds digit
  omega

/-- The number can be read back. -/
theorem chars_digits (k : Nat) :
    (digits k).map (fun b => Char.ofNat b.toNat) = Nat.toDigits 10 k := by
  rw [digits, List.map_map]
  refine (List.map_congr_left fun c inside => ?_).trans (List.map_id _)
  rw [Function.comp_apply, toNat_digit inside, Char.ofNat_toNat, id_eq]

theorem digits_injective {j k : Nat} (same : digits j = digits k) : j = k := by
  have chars : Nat.toDigits 10 j = Nat.toDigits 10 k := by
    rw [← chars_digits, ← chars_digits, same]
  have numbers := congrArg (fun ds => Nat.ofDigitChars 10 ds 0) chars
  simpa using numbers

/-- A number after the last tilde of the title tells the names of one host file apart. -/
theorem ofHostName_some_injective (host : String) {j k : Nat}
    (same : ofHostName host (some j) = ofHostName host (some k)) : j = k := by
  have clear (k : Nat) : ∀ b ∈ digits k, (b == tilde) = false := by
    intro b inside
    rw [beq_eq_false_iff_ne]
    exact not_tilde_of_mem_digits inside
  have titles := congrArg FileName.title same
  simp only [ofHostName, suffix_some] at titles
  have parts := congrArg (splitLast (· == tilde)) titles
  rw [splitLast_append (p := (· == tilde)) rfl (clear j),
    splitLast_append (p := (· == tilde)) rfl (clear k)] at parts
  exact digits_injective (Prod.mk.inj (Option.some.inj parts)).2

end FileName

namespace NameTable

variable {t : NameTable} {host : String} {index tries : Nat}

theorem candidate_injective {j k : Nat}
    (same : candidate host (j + 1) = candidate host (k + 1)) : j = k :=
  Nat.succ.inj (FileName.ofHostName_some_injective host same)

/-- Where the last candidate that is tried is taken, so are all before it. -/
theorem taken_of_firstFree (taken : t.hostName? (t.firstFree host index tries) ≠ none) :
    ∀ k, index ≤ k → k ≤ index + tries → t.hostName? (candidate host k) ≠ none := by
  induction tries generalizing index with
  | zero =>
    intro k above below
    have same : k = index := by omega
    rw [same]
    exact taken
  | succ tries ih =>
    rw [firstFree] at taken
    split at taken
    · next here =>
      intro k above below
      by_cases first : k = index
      · rw [first]
        exact Option.isSome_iff_ne_none.1 here
      · exact ih taken k (by omega) (by omega)
    · next free => exact absurd (Option.not_isSome_iff_eq_none.1 free) taken

theorem mem_names_of_taken {name : FileName} (taken : t.hostName? name ≠ none) :
    name ∈ t.hostNames.map Prod.fst := by
  obtain ⟨host, known⟩ := Option.ne_none_iff_exists'.1 taken
  exact List.mem_map_of_mem (f := Prod.fst) (mem_of_lookup known)

/-- The name that a host file is given was nobody's. -/
theorem hostName?_firstFree (t : NameTable) (host : String) :
    t.hostName? (t.firstFree host 0 (t.hostNames.length + 1)) = none := by
  refine Decidable.byContradiction fun taken => ?_
  have all := taken_of_firstFree taken
  let numbered := (List.range (t.hostNames.length + 1)).map fun k => candidate host (k + 1)
  have different : numbered.Nodup := List.nodup_range.map fun _ _ same => candidate_injective same
  have known : numbered ⊆ t.hostNames.map Prod.fst := by
    intro name inside
    obtain ⟨k, small, rfl⟩ := List.mem_map.1 inside
    have bound := List.mem_range.1 small
    exact mem_names_of_taken (all (k + 1) (by omega) (by omega))
  have count := different.length_le_of_subset known
  rw [List.length_map, List.length_range, List.length_map] at count
  omega

/-- A host file without a name gets a candidate that is nobody's. -/
theorem assign_fresh (unknown : t.shortName? host = none) :
    ∃ k, t.hostName? (candidate host k) = none ∧
      t.assign host = (candidate host k, t.enter host (candidate host k)) := by
  rcases t.assign_cases host with ⟨name, known, _⟩ | ⟨_, k, _, same⟩
  · rw [unknown] at known
    cases known
  · refine ⟨k, ?_, same⟩
    have given : (t.assign host).1 = t.firstFree host 0 (t.hostNames.length + 1) := by
      rw [assign, unknown]
    rw [same] at given
    rw [show candidate host k = _ from given]
    exact t.hostName?_firstFree host

end NameTable

end RealMode.Dos
