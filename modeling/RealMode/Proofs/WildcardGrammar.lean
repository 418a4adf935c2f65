import Mathlib.Data.List.DropRight
import RealMode.Dos.Wildcard

/-!
# The grammar of wildcards

In the classical sense a star stands for any bytes, a question mark for one byte, and any other byte
for itself. A search is more generous with the end of its pattern: of the run of question marks and
stars that it ends in, question marks may be deleted. In front of that run a pattern covers what it
stands for. A run that covers a text covers what follows the first byte as well, so that putting a
deleted question mark back loses no text.
-/

namespace RealMode.Dos.Wildcard

variable {pattern front run left text : List UInt8} {c : UInt8} {P : List UInt8 → Prop}

def isWild (c : UInt8) : Bool := c == questionMark || c == star

/-- What a pattern stands for in the classical sense. -/
inductive StandsFor : List UInt8 → List UInt8 → Prop where
  | nil : StandsFor [] []
  | star {pattern text : List UInt8} (any : List UInt8) (rest : StandsFor pattern text) :
      StandsFor (star :: pattern) (any ++ text)
  | questionMark {pattern text : List UInt8} (any : UInt8) (rest : StandsFor pattern text) :
      StandsFor (questionMark :: pattern) (any :: text)
  | itself {pattern text : List UInt8} {c : UInt8} (plain : isWild c = false)
      (rest : StandsFor pattern text) :
      StandsFor (c :: pattern) (c :: text)

/-- What may be left of a pattern when some of its question marks are deleted. -/
inductive Leaves : List UInt8 → List UInt8 → Prop where
  | nil : Leaves [] []
  | keep {pattern left : List UInt8} (c : UInt8) (rest : Leaves pattern left) :
      Leaves (c :: pattern) (c :: left)
  | delete {pattern left : List UInt8} (rest : Leaves pattern left) :
      Leaves (questionMark :: pattern) left

/-- The question marks and stars that a pattern ends in. -/
def lastRun (pattern : List UInt8) : List UInt8 := pattern.rtakeWhile isWild

/-- What stands in front of the last run. -/
def beforeRun (pattern : List UInt8) : List UInt8 := pattern.rdropWhile isWild

theorem isWild_iff : isWild c = true ↔ c = questionMark ∨ c = star := by
  simp [isWild]

section Classical

theorem standsFor_nil_iff : StandsFor [] text ↔ text = [] := by
  constructor
  · intro stands
    cases stands
    rfl
  · rintro rfl
    exact .nil

theorem standsFor_star_iff :
    StandsFor (star :: pattern) text ↔
    ∃ any rest, text = any ++ rest ∧ StandsFor pattern rest := by
  constructor
  · intro stands
    generalize opened : star :: pattern = whole at stands
    cases stands with
    | nil => cases opened
    | star any rest =>
      cases opened
      exact ⟨any, _, rfl, rest⟩
    | questionMark any rest => exact absurd (List.cons.inj opened).1 (by decide)
    | itself plain rest =>
      obtain ⟨rfl, -⟩ := List.cons.inj opened
      cases plain
  · rintro ⟨any, rest, rfl, stands⟩
    exact .star any stands

theorem standsFor_cons_iff (other : c ≠ star) :
    StandsFor (c :: pattern) text ↔
      ∃ b rest, text = b :: rest ∧ (c = questionMark ∨ c = b) ∧ StandsFor pattern rest := by
  constructor
  · intro stands
    generalize opened : c :: pattern = whole at stands
    cases stands with
    | nil => cases opened
    | star any rest => exact absurd (List.cons.inj opened).1 other
    | questionMark any rest =>
      cases opened
      exact ⟨any, _, rfl, .inl rfl, rest⟩
    | itself plain rest =>
      cases opened
      exact ⟨_, _, rfl, .inr rfl, rest⟩
  · rintro ⟨b, rest, rfl, mark | same, stands⟩
    · rw [mark]
      exact .questionMark b stands
    · subst same
      by_cases mark : c = questionMark
      · rw [mark]
        exact .questionMark _ stands
      · refine .itself ?_ stands
        simp [isWild, mark, other]

/-- Some beginning of the text is one that `front` stands for, and the rest satisfies `P`. -/
def Opens (front : List UInt8) (P : List UInt8 → Prop) (text : List UInt8) : Prop :=
  ∃ beginning rest, text = beginning ++ rest ∧ StandsFor front beginning ∧ P rest

theorem opens_nil_iff : Opens [] P text ↔ P text := by
  constructor
  · rintro ⟨beginning, rest, rfl, none, holds⟩
    obtain rfl := standsFor_nil_iff.1 none
    exact holds
  · intro holds
    exact ⟨[], text, rfl, .nil, holds⟩

theorem opens_star_iff : Opens (star :: front) P text ↔
    ∃ any rest, text = any ++ rest ∧ Opens front P rest := by
  constructor
  · rintro ⟨_, after, rfl, whole, holds⟩
    obtain ⟨any, beginning, rfl, stands⟩ := standsFor_star_iff.1 whole
    exact ⟨any, beginning ++ after, List.append_assoc any beginning after, beginning, after, rfl,
      stands, holds⟩
  · rintro ⟨any, _, rfl, beginning, after, rfl, stands, holds⟩
    exact ⟨any ++ beginning, after, (List.append_assoc any beginning after).symm,
      .star any stands, holds⟩

theorem opens_cons_iff (other : c ≠ star) :
    Opens (c :: front) P text ↔
    ∃ b rest, text = b :: rest ∧ (c = questionMark ∨ c = b) ∧ Opens front P rest := by
  constructor
  · rintro ⟨_, after, rfl, whole, holds⟩
    obtain ⟨b, beginning, rfl, here, stands⟩ := (standsFor_cons_iff other).1 whole
    exact ⟨b, beginning ++ after, rfl, here, beginning, after, rfl, stands, holds⟩
  · rintro ⟨b, _, rfl, here, beginning, after, rfl, stands, holds⟩
    exact ⟨b :: beginning, after, rfl,
      (standsFor_cons_iff other).2 ⟨b, beginning, rfl, here, stands⟩, holds⟩

theorem standsFor_append_iff : StandsFor (front ++ run) text ↔
    Opens front (StandsFor run) text := by
  induction front generalizing text with
  | nil => exact opens_nil_iff.symm
  | cons c front ih =>
    by_cases isStar : c = star
    · subst isStar
      simp only [List.cons_append, standsFor_star_iff, opens_star_iff, ih]
    · simp only [List.cons_append, standsFor_cons_iff isStar, opens_cons_iff isStar, ih]

end Classical

section Covering

theorem someSuffix_iff {f : List UInt8 → Bool} :
    someSuffix f text = true ↔ ∃ any rest, text = any ++ rest ∧ f rest = true := by
  induction text with
  | nil => simp [someSuffix]
  | cons b text ih =>
    rw [someSuffix, Bool.or_eq_true, ih]
    constructor
    · rintro (whole | ⟨any, rest, rfl, holds⟩)
      · exact ⟨[], b :: text, rfl, whole⟩
      · exact ⟨b :: any, rest, rfl, holds⟩
    · rintro ⟨any, rest, split, holds⟩
      cases any with
      | nil =>
        left
        rw [split]
        exact holds
      | cons d any =>
        right
        exact ⟨any, rest, (List.cons.inj split).2, holds⟩

theorem covers_star_iff :
    covers (star :: pattern) text = true ↔
    ∃ any rest, text = any ++ rest ∧ covers pattern rest = true := by
  have opened : covers (star :: pattern) text = someSuffix (covers pattern) text := rfl
  rw [opened, someSuffix_iff]

theorem covers_cons_iff (other : c ≠ star) :
    covers (c :: pattern) text = true ↔
      (∃ b rest, text = b :: rest ∧ (c = questionMark ∨ c = b) ∧
        covers pattern rest = true) ∨
        text = [] ∧ c = questionMark ∧ ∀ d ∈ pattern, isWild d = true := by
  cases text with
  | nil => simp [covers, other, isWild]
  | cons b text => simp [covers, other]

/-- In a pattern that ends in a byte that stands for itself, no question mark may be deleted. -/
theorem covers_append_iff (ends : ∀ c, front.getLast? = some c → isWild c = false) :
    covers (front ++ run) text = true ↔ Opens front (covers run · = true) text := by
  induction front generalizing text with
  | nil => exact (opens_nil_iff (P := (covers run · = true))).symm
  | cons c front ih =>
    have later : ∀ d, front.getLast? = some d → isWild d = false := by
      intro d last
      apply ends
      rw [List.getLast?_cons, last, Option.getD_some]
    have ih (text : List UInt8) : covers (front ++ run) text = true ↔
        Opens front (covers run · = true) text := ih later
    by_cases isStar : c = star
    · subst isStar
      simp only [List.cons_append, covers_star_iff, opens_star_iff, ih]
    · rw [List.cons_append, covers_cons_iff isStar, opens_cons_iff isStar]
      simp only [ih]
      apply or_iff_left
      -- The last byte of the front would be a question mark or a star.
      rintro ⟨-, mark, wild⟩
      cases last : front.getLast? with
      | none =>
        have plain := ends c (by rw [List.getLast?_cons, last, Option.getD_none])
        rw [mark] at plain
        cases plain
      | some d =>
        have plain := later d last
        rw [wild d (List.mem_append_left run (List.mem_of_getLast? last))] at plain
        cases plain

end Covering

section Runs

theorem covers_nil_of_wild (wild : ∀ c ∈ run, isWild c = true) : covers run [] = true := by
  induction run with
  | nil => rfl
  | cons c run ih =>
    obtain ⟨here, later⟩ := List.forall_mem_cons.1 wild
    rcases isWild_iff.1 here with rfl | rfl
    · exact (covers_cons_iff (by decide)).2 (.inr ⟨rfl, rfl, later⟩)
    · exact covers_star_iff.2 ⟨[], [], rfl, ih later⟩

/-- A run covers a text with one byte less, too. -/
theorem covers_of_covers_cons (wild : ∀ c ∈ run, isWild c = true) {b : UInt8}
    (covered : covers run (b :: text) = true) :
    covers run text = true := by
  induction run generalizing b text with
  | nil => cases covered
  | cons c run ih =>
    obtain ⟨here, later⟩ := List.forall_mem_cons.1 wild
    rcases isWild_iff.1 here with rfl | rfl
    · rcases (covers_cons_iff (by decide)).1 covered with ⟨d, rest, split, -, covered⟩ |
        ⟨none, -⟩
      · obtain ⟨rfl, rfl⟩ := List.cons.inj split
        cases text with
        | nil => exact covers_nil_of_wild wild
        | cons d text =>
          exact (covers_cons_iff (by decide)).2
            (.inl ⟨d, text, rfl, .inl rfl, ih later covered⟩)
      · cases none
    · obtain ⟨any, rest, split, behind⟩ := covers_star_iff.1 covered
      cases any with
      | nil =>
        subst split
        exact covers_star_iff.2 ⟨[], text, rfl, ih later behind⟩
      | cons d any => exact covers_star_iff.2 ⟨any, rest, (List.cons.inj split).2, behind⟩

theorem exists_leaves_of_covers (wild : ∀ c ∈ run, isWild c = true)
    (covered : covers run text = true) :
    ∃ left, Leaves run left ∧ StandsFor left text := by
  induction run generalizing text with
  | nil =>
    obtain rfl := List.isEmpty_iff.1 covered
    exact ⟨[], .nil, .nil⟩
  | cons c run ih =>
    obtain ⟨here, later⟩ := List.forall_mem_cons.1 wild
    rcases isWild_iff.1 here with rfl | rfl
    · rcases (covers_cons_iff (by decide)).1 covered with ⟨b, rest, rfl, -, covered⟩ |
        ⟨rfl, -⟩
      · obtain ⟨left, leaves, stands⟩ := ih later covered
        exact ⟨questionMark :: left, .keep _ leaves, .questionMark b stands⟩
      · obtain ⟨left, leaves, stands⟩ := ih later (covers_nil_of_wild later)
        exact ⟨left, .delete leaves, stands⟩
    · obtain ⟨any, rest, rfl, behind⟩ := covers_star_iff.1 covered
      obtain ⟨left, leaves, stands⟩ := ih later behind
      exact ⟨star :: left, .keep _ leaves, .star any stands⟩

theorem covers_of_leaves (wild : ∀ c ∈ run, isWild c = true) (leaves : Leaves run left)
    (stands : StandsFor left text) :
    covers run text = true := by
  induction leaves generalizing text with
  | nil =>
    obtain rfl := standsFor_nil_iff.1 stands
    rfl
  | keep c leaves ih =>
    obtain ⟨here, later⟩ := List.forall_mem_cons.1 wild
    rcases isWild_iff.1 here with rfl | rfl
    · obtain ⟨b, rest, rfl, mark, stands⟩ := (standsFor_cons_iff (by decide)).1 stands
      exact (covers_cons_iff (by decide)).2 (.inl ⟨b, rest, rfl, mark, ih later stands⟩)
    · obtain ⟨any, rest, rfl, behind⟩ := standsFor_star_iff.1 stands
      exact covers_star_iff.2 ⟨any, rest, rfl, ih later behind⟩
  | delete leaves ih =>
    obtain ⟨-, later⟩ := List.forall_mem_cons.1 wild
    have covered := ih later stands
    cases text with
    | nil => exact covers_nil_of_wild wild
    | cons b text =>
      exact (covers_cons_iff (by decide)).2
        (.inl ⟨b, text, rfl, .inl rfl, covers_of_covers_cons later covered⟩)

theorem covers_run_iff (wild : ∀ c ∈ run, isWild c = true) :
    covers run text = true ↔ ∃ left, Leaves run left ∧ StandsFor left text := by
  constructor
  · exact exists_leaves_of_covers wild
  · rintro ⟨left, leaves, stands⟩
    exact covers_of_leaves wild leaves stands

end Runs

theorem plain_of_getLast?_beforeRun (pattern : List UInt8) :
    ∀ c, (beforeRun pattern).getLast? = some c → isWild c = false := by
  intro c last
  have some : beforeRun pattern ≠ [] := by
    intro none
    rw [none] at last
    cases last
  have plain := List.rdropWhile_last_not isWild pattern some
  rw [List.getLast?_eq_some_getLast some] at last
  rw [← Option.some.inj last]
  exact Bool.eq_false_iff.2 plain

/-- A pattern covers a text just when some of the question marks in the run of question marks and
stars at its end can be deleted so that what is left stands for the text. -/
theorem covers_iff_leaves (pattern text : List UInt8) :
    covers pattern text = true ↔
      ∃ left, Leaves (lastRun pattern) left ∧ StandsFor (beforeRun pattern ++ left) text := by
  have wild : ∀ c ∈ lastRun pattern, isWild c = true :=
    fun c inside => List.mem_rtakeWhile_imp inside
  calc covers pattern text = true
    _ ↔ covers (beforeRun pattern ++ lastRun pattern) text = true := by
      rw [beforeRun, lastRun, List.rdropWhile_append_rtakeWhile]
    _ ↔ Opens (beforeRun pattern) (covers (lastRun pattern) · = true) text :=
      covers_append_iff (plain_of_getLast?_beforeRun pattern)
    _ ↔ ∃ left, Leaves (lastRun pattern) left ∧
    Opens (beforeRun pattern) (StandsFor left) text := by
      constructor
      · rintro ⟨beginning, rest, split, stands, covered⟩
        obtain ⟨left, leaves, behind⟩ := (covers_run_iff wild).1 covered
        exact ⟨left, leaves, beginning, rest, split, stands, behind⟩
      · rintro ⟨left, leaves, beginning, rest, split, stands, behind⟩
        exact ⟨beginning, rest, split, stands,
          (covers_run_iff wild).2 ⟨left, leaves, behind⟩⟩
    _ ↔
    ∃ left, Leaves (lastRun pattern) left ∧ StandsFor (beforeRun pattern ++ left) text := by
      simp only [standsFor_append_iff]

/-- Two of the three question marks in the last run are deleted. In front of a byte that stands
for itself none may be. -/
example : covers [0x41, questionMark, star, questionMark, questionMark] [0x41, 0x42] = true ∧
    covers [questionMark, star, 0x41] [0x41] = false := by
  decide

end RealMode.Dos.Wildcard
