import Mathlib.Data.List.TakeDrop
import Mathlib.Data.List.TakeWhile
import RealMode.Dos.FileName

/-!
# Names as programs spell them

An ordinary short name has a title of up to eight bytes and perhaps an extension of up to
three. A program may spell it in small letters, with a drive and a path in front; the name
that is parsed is the same.
-/

namespace RealMode.Dos.FileName

section Splitting

variable {α : Type} {p : α → Bool} {xs before after : List α} {x : α}

theorem splitLast_eq_none (nowhere : ∀ y ∈ xs, p y = false) : splitLast p xs = none := by
  have all : ∀ y ∈ xs.reverse, (!p y) = true := by
    intro y inside
    rw [nowhere y (List.mem_reverse.1 inside)]
    rfl
  have rest : xs.reverse.dropWhile (!p ·) = [] := List.dropWhile_eq_nil_iff.2 all
  rw [splitLast, List.span_eq_takeWhile_dropWhile, rest]

theorem splitLast_append (here : p x = true) (last : ∀ y ∈ after, p y = false) :
    splitLast p (before ++ x :: after) = some (before, after) := by
  have all : ∀ y ∈ after.reverse, (!p y) = true := by
    intro y inside
    rw [last y (List.mem_reverse.1 inside)]
    rfl
  have stop : (!p x) = false := by rw [here]; rfl
  have reversed : (before ++ x :: after).reverse = after.reverse ++ x :: before.reverse := by simp
  rw [splitLast, List.span_eq_takeWhile_dropWhile, reversed, List.takeWhile_append_of_pos all,
    List.dropWhile_append_of_pos all, List.takeWhile_cons, List.dropWhile_cons, stop]
  simp

end Splitting

/-- Only letters become capital letters. -/
theorem capital_eq_iff {b c : UInt8} (large : ¬ (0x41 ≤ c ∧ c ≤ 0x5a))
    (small : ¬ (0x61 ≤ c ∧ c ≤ 0x7a)) :
    capital b = c ↔ b = c := by
  rw [capital]
  split
  · next letter =>
    rw [Bool.and_eq_true, decide_eq_true_eq, decide_eq_true_eq] at letter
    constructor
    · rintro rfl
      have above : (0x20 : UInt8) ≤ b := UInt8.le_trans (by decide) letter.1
      have value := UInt8.toNat_sub_of_le b 0x20 above
      obtain ⟨first, last⟩ := letter
      rw [UInt8.le_iff_toNat_le] at first last
      refine absurd ⟨?_, ?_⟩ large
      · rw [UInt8.le_iff_toNat_le, value]
        exact Nat.sub_le_sub_right first 0x20
      · rw [UInt8.le_iff_toNat_le, value]
        exact Nat.sub_le_sub_right last 0x20
    · rintro rfl
      exact absurd letter small
  · rfl

structure Ordinary (n : FileName) : Prop where
  title : n.title ≠ [] ∧ n.title.length ≤ 8
  extension : n.extension.length ≤ 3
  plain : ∀ b ∈ n.title ++ n.extension, b ≠ dot ∧ b ≠ backslash ∧ b ≠ colon

instance (n : FileName) : Decidable n.Ordinary :=
  decidable_of_iff
    ((n.title ≠ [] ∧ n.title.length ≤ 8) ∧ n.extension.length ≤ 3 ∧
      (n.title ++ n.extension).all fun b => b ≠ dot ∧ b ≠ backslash ∧ b ≠ colon) <| by
    simp only [List.all_eq_true, decide_eq_true_eq]
    exact ⟨fun ⟨title, extension, plain⟩ => ⟨title, extension, plain⟩,
      fun ⟨title, extension, plain⟩ => ⟨title, extension, plain⟩⟩

/-- A drive, a path or nothing. -/
def IsFront (front : List UInt8) : Prop :=
  front = [] ∨ front.getLast? = some backslash ∨ front.getLast? = some colon

instance (front : List UInt8) : Decidable (IsFront front) :=
  inferInstanceAs
    (Decidable (front = [] ∨ front.getLast? = some backslash ∨ front.getLast? = some colon))

variable {n : FileName} {front bytes : List UInt8}

theorem withoutPath_append (ends : IsFront front)
    (plain : ∀ b ∈ bytes, b ≠ backslash ∧ b ≠ colon) :
    withoutPath (front ++ bytes) = bytes := by
  have nowhere : ∀ b ∈ bytes, (b == backslash || b == colon) = false := by
    intro b inside
    obtain ⟨notBackslash, notColon⟩ := plain b inside
    simp [notBackslash, notColon]
  rw [withoutPath]
  rcases ends with rfl | ends
  · rw [List.nil_append, splitLast_eq_none nowhere]
  · have separated : ∃ init sep, front = init ++ [sep] ∧
        (sep == backslash || sep == colon) = true := by
      rcases ends with ends | ends
      · obtain ⟨init, same⟩ := List.getLast?_eq_some_iff.1 ends
        exact ⟨init, backslash, same, rfl⟩
      · obtain ⟨init, same⟩ := List.getLast?_eq_some_iff.1 ends
        exact ⟨init, colon, same, rfl⟩
    obtain ⟨init, sep, rfl, here⟩ := separated
    rw [List.append_assoc, List.singleton_append]
    rw [splitLast_append (p := fun b => b == backslash || b == colon) here nowhere]

theorem mem_toBytes {b : UInt8} (inside : b ∈ n.toBytes) :
    b ∈ n.title ++ n.extension ∨ b = dot := by
  rw [toBytes] at inside
  split at inside
  · exact .inl (List.mem_append_left _ inside)
  · rcases List.mem_append.1 inside with title | rest
    · exact .inl (List.mem_append_left _ title)
    · rcases List.mem_cons.1 rest with same | extension
      · exact .inr same
      · exact .inl (List.mem_append_right _ extension)

theorem Ordinary.not_separator (ordinary : n.Ordinary) (spelled : bytes.map capital = n.toBytes) :
    ∀ b ∈ bytes, b ≠ backslash ∧ b ≠ colon := by
  intro b inside
  have image : capital b ∈ n.toBytes := spelled ▸ List.mem_map_of_mem inside
  constructor
  · rintro rfl
    rcases mem_toBytes image with part | same
    · exact (ordinary.plain _ part).2.1 rfl
    · cases same
  · rintro rfl
    rcases mem_toBytes image with part | same
    · exact (ordinary.plain _ part).2.2 rfl
    · cases same

theorem dot_of_capital {b : UInt8} (same : capital b = dot) : b = dot :=
  (capital_eq_iff (by decide) (by decide)).1 same

/-- Where the capital letters have no dot, there is none. -/
theorem not_dot_of_map (plain : ∀ b ∈ bytes.map capital, b ≠ dot) :
    ∀ b ∈ bytes, (b == dot) = false := by
  intro b inside
  rw [beq_eq_false_iff_ne]
  rintro rfl
  exact plain _ (List.mem_map_of_mem inside) rfl

theorem Ordinary.parse_eq (ordinary : n.Ordinary) (spelled : bytes.map capital = n.toBytes)
    (ends : IsFront front) :
    parse (front ++ bytes) = n := by
  rw [parse, withoutPath_append ends (ordinary.not_separator spelled), splitExtension]
  rw [toBytes] at spelled
  split at spelled
  · next none =>
    have title : ∀ b ∈ bytes.map capital, b ≠ dot := by
      intro b inside
      rw [spelled] at inside
      exact (ordinary.plain b (List.mem_append_left _ inside)).1
    rw [splitLast_eq_none (not_dot_of_map title)]
    rw [List.isEmpty_iff] at none
    dsimp only
    rw [spelled, Option.getD_none, List.map_nil, ← none]
  · obtain ⟨first, rest, rfl, title, tail⟩ := List.map_eq_append_iff.1 spelled
    obtain ⟨b, last, rfl, same, extension⟩ := List.map_eq_cons_iff.1 tail
    have undotted : ∀ b ∈ last.map capital, b ≠ dot := by
      intro b inside
      rw [extension] at inside
      exact (ordinary.plain b (List.mem_append_right _ inside)).1
    have short : last.length ≤ 3 := by
      rw [← List.length_map (f := capital), extension]
      exact ordinary.extension
    rw [dot_of_capital same,
      splitLast_append (p := fun b => b == dot) (beq_self_eq_true dot) (not_dot_of_map undotted)]
    simp only [Option.getD_some, List.take_of_length_le short, title, extension]

end RealMode.Dos.FileName
