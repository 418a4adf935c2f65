import RealMode.Text.Utf8

/-!
# Characters below 0x80 in decoded text

Each byte below 0x80 is a character of its own, and no other bytes give such a character: overlong
forms are not read, and what cannot be read becomes a character far above them.
-/

namespace RealMode.Text.Utf8

/-- A byte that is a character of its own. -/
def Ascii (b : UInt8) : Prop := b.toNat < 0x80

instance (b : UInt8) : Decidable (Ascii b) := inferInstanceAs (Decidable (b.toNat < 0x80))

def charOf (b : UInt8) : Char := Char.ofNat b.toNat

theorem toNat_ofNat_of_valid {n : Nat} (valid : n.isValidChar) : (Char.ofNat n).toNat = n := by
  rw [Char.ofNat, dif_pos valid]
  rfl

theorem toNat_charOf {b : UInt8} (ascii : Ascii b) : (charOf b).toNat = b.toNat := by
  have valid : b.toNat.isValidChar := .inl (Nat.lt_trans ascii (by decide))
  exact toNat_ofNat_of_valid valid

theorem first_of_ascii {b : UInt8} {bs : List UInt8} (ascii : Ascii b) :
    first b bs = (charOf b, 0) := by
  rw [Ascii] at ascii
  rw [first, if_pos ascii]
  rfl

/-- The bytes that follow are a beginning of the rest. The first of them lies in its range and the
others are no characters of their own. -/
theorem following_cases (l : Lead) (bs : List UInt8) :
    following l bs = [] ∨ ∃ c rest, following l bs = c :: rest ∧ following l bs <+: bs ∧
      (l.low ≤ c.toNat ∧ c.toNat ≤ l.high) ∧ ∀ x ∈ rest, ¬ Ascii x := by
  rw [following]
  cases ahead : bs.take l.more with
  | nil => exact .inl rfl
  | cons c rest =>
    dsimp only
    split
    · next within =>
      rw [Bool.and_eq_true, decide_eq_true_eq, decide_eq_true_eq] at within
      refine .inr ⟨c, _, rfl, ?_, within, ?_⟩
      · have front : c :: rest <+: bs := ahead ▸ List.take_prefix _ _
        exact ((List.prefix_cons_inj c).2 (List.takeWhile_prefix _)).trans front
      · intro x inside
        have high := List.all_eq_true.1 List.all_takeWhile x inside
        rw [continues, Bool.and_eq_true, decide_eq_true_eq, decide_eq_true_eq] at high
        exact fun ascii => absurd ascii (Nat.not_lt.2 high.1)
    · exact .inl rfl

/-- What a first byte tells of the bytes behind it. -/
theorem lead?_cases {b : Nat} {l : Lead} (leads : lead? b = some l) :
    l.more = 1 ∧ 0xc2 ≤ b ∧ b ≤ 0xdf ∧ l.low = 0x80 ∧ l.high = 0xbf ∨
    l.more = 2 ∧ (0xe0 ≤ b ∧ b ≤ 0xef) ∧ (0x80 ≤ l.low ∧ l.high ≤ 0xbf) ∧
      (b = 0xe0 → l.low = 0xa0) ∧ (b = 0xed → l.high = 0x9f) ∨
    l.more = 3 ∧ (0xf0 ≤ b ∧ b ≤ 0xf4) ∧ (0x80 ≤ l.low ∧ l.high ≤ 0xbf) ∧
      (b = 0xf0 → l.low = 0x90) ∧ (b = 0xf4 → l.high = 0x8f) := by
  unfold lead? at leads
  simp only [Bool.and_eq_true, decide_eq_true_eq, beq_iff_eq] at leads
  repeat' split at leads
  all_goals
    cases leads
    try dsimp only; omega

/-- The number that a first byte and the bytes behind it stand for. -/
def codePoint (high : Nat) (rest : List UInt8) : Nat :=
  rest.foldl (fun n c => n * 64 + c.toNat % 64) high

/-- It is the number of a character, and that character does not fit into one byte. -/
theorem codePoint_valid {b : Nat} {l : Lead} {bs : List UInt8} (leads : lead? b = some l)
    (full : (following l bs).length = l.more) :
    let n := codePoint (b % (1 <<< (6 - l.more))) (following l bs)
    0x80 ≤ n ∧ n.isValidChar := by
  rcases following_cases l bs with none | ⟨c, tail, bytes, _, ⟨low, high⟩, _⟩
  · rw [none, List.length_nil] at full
    rcases lead?_cases leads with ⟨more, _⟩ | ⟨more, _⟩ | ⟨more, _⟩ <;> omega
  rw [bytes, List.length_cons] at full
  dsimp only
  rw [bytes, codePoint, List.foldl_cons, Nat.isValidChar]
  -- The range of the second byte keeps overlong forms, surrogates and too large numbers away.
  rcases lead?_cases leads with ⟨more, first⟩ | ⟨more, first, range, overlong, surrogate⟩ |
    ⟨more, first, range, overlong, last⟩
  · obtain rfl : tail = [] := List.length_eq_zero_iff.1 (by omega)
    have size : 1 <<< (6 - l.more) = 32 := by
      rw [more]
      rfl
    rw [size, List.foldl_nil]
    omega
  · obtain ⟨c', rfl⟩ : ∃ c', tail = [c'] := List.length_eq_one_iff.1 (by omega)
    have size : 1 <<< (6 - l.more) = 16 := by
      rw [more]
      rfl
    rw [size, List.foldl_cons, List.foldl_nil]
    omega
  · obtain ⟨c', tail, rfl⟩ :=
      List.exists_cons_of_length_eq_add_one (show tail.length = 1 + 1 by omega)
    rw [List.length_cons] at full
    obtain ⟨c'', rfl⟩ : ∃ c'', tail = [c''] := List.length_eq_one_iff.1 (by omega)
    have size : 1 <<< (6 - l.more) = 8 := by
      rw [more]
      rfl
    rw [size, List.foldl_cons, List.foldl_cons, List.foldl_nil]
    omega

/-- No byte from 0x80 on begins a character below 0x80. -/
theorem first_of_not_ascii {b : UInt8} (bs : List UInt8) (high : ¬ Ascii b) :
    0x80 ≤ (first b bs).1.toNat := by
  rw [Ascii] at high
  rw [first, if_neg high]
  have unreadable : 0x80 ≤ replacement.toNat := by decide
  cases leads : lead? b.toNat with
  | none => exact unreadable
  | some l =>
    dsimp only
    split
    · next full =>
      obtain ⟨low, valid⟩ := codePoint_valid leads full
      rw [codePoint] at low valid
      rwa [toNat_ofNat_of_valid valid]
    · exact unreadable

theorem take_length_following (l : Lead) (bs : List UInt8) :
    bs.take (following l bs).length = following l bs := by
  rcases following_cases l bs with none | ⟨_, _, _, front, _⟩
  · rw [none, List.length_nil, List.take_zero]
  · exact (List.prefix_iff_eq_take.1 front).symm

theorem not_ascii_of_mem_following {b : Nat} {l : Lead} {bs : List UInt8} {x : UInt8}
    (leads : lead? b = some l) (inside : x ∈ following l bs) : ¬ Ascii x := by
  rcases following_cases l bs with none | ⟨c, tail, bytes, _, ⟨low, _⟩, rest⟩
  · rw [none] at inside
    cases inside
  · rw [bytes] at inside
    rcases List.mem_cons.1 inside with rfl | inside
    · rw [Ascii]
      rcases lead?_cases leads with ⟨_, _⟩ | ⟨_, _, _, _⟩ | ⟨_, _, _, _⟩ <;> omega
    · exact rest x inside

/-- A character never takes up a byte that is one of its own. -/
theorem not_ascii_of_taken {b x : UInt8} {bs : List UInt8} (taken : x ∈ bs.take (first b bs).2) :
    ¬ Ascii x := by
  by_cases ascii : Ascii b
  · rw [first_of_ascii ascii] at taken
    cases taken
  rw [Ascii] at ascii
  rw [first, if_neg ascii] at taken
  cases leads : lead? b.toNat with
  | none =>
    rw [leads] at taken
    cases taken
  | some l =>
    rw [leads] at taken
    dsimp only at taken
    split at taken
    · next full =>
      rw [← full, take_length_following] at taken
      exact not_ascii_of_mem_following leads taken
    · rw [take_length_following] at taken
      exact not_ascii_of_mem_following leads taken

theorem mem_charsAfter_iff {c : Char} {bs : List UInt8} {skip : Nat} (small : c.toNat < 0x80)
    (skipped : ∀ x ∈ bs.take skip, ¬ Ascii x) :
    c ∈ charsAfter skip bs ↔ ∃ b ∈ bs, Ascii b ∧ charOf b = c := by
  induction bs generalizing skip with
  | nil => simp [charsAfter]
  | cons b bs ih =>
    cases skip with
    | succ n =>
      have high : ¬ Ascii b := skipped b (by simp)
      rw [charsAfter, ih fun x inside => skipped x (by simp [inside])]
      simp [high]
    | zero =>
      rw [charsAfter, List.mem_cons, ih fun x taken => not_ascii_of_taken taken]
      by_cases ascii : Ascii b
      · rw [first_of_ascii ascii]
        simp [ascii, eq_comm]
      · have large := first_of_not_ascii bs ascii
        have other : c ≠ (first b bs).1 := by
          rintro rfl
          omega
        simp [ascii, other]

/-- Text below 0x80 has been decoded from these very bytes. -/
theorem charsAfter_inj {bs bs' : List UInt8} (ascii : ∀ b ∈ bs', Ascii b)
    (same : charsAfter 0 bs = charsAfter 0 bs') : bs = bs' := by
  induction bs' generalizing bs with
  | nil =>
    cases bs with
    | nil => rfl
    | cons b bs => cases same
  | cons b' bs' ih =>
    have ascii' := ascii b' List.mem_cons_self
    cases bs with
    | nil => cases same
    | cons b bs =>
      rw [charsAfter, charsAfter, first_of_ascii ascii'] at same
      obtain ⟨head, tail⟩ := List.cons.inj same
      have low : Ascii b := by
        refine Decidable.byContradiction fun high => ?_
        have large := first_of_not_ascii bs high
        rw [head, toNat_charOf ascii'] at large
        exact absurd ascii' (Nat.not_lt.2 large)
      rw [first_of_ascii low] at head tail
      have value := congrArg Char.toNat head
      rw [toNat_charOf low, toNat_charOf ascii'] at value
      rw [UInt8.toNat_inj.1 value,
        ih (fun x inside => ascii x (List.mem_cons_of_mem _ inside)) tail]

/-- Bytes below 0x80 are read one by one. -/
theorem toList_decodeLossy {bs : List UInt8} (ascii : ∀ b ∈ bs, Ascii b) :
    (decodeLossy bs).toList = bs.map charOf := by
  rw [decodeLossy, String.toList_ofList]
  induction bs with
  | nil => rfl
  | cons b bs ih =>
    have rest := ih fun x inside => ascii x (List.mem_cons_of_mem _ inside)
    rw [charsAfter, first_of_ascii (ascii b List.mem_cons_self), rest, List.map_cons]

theorem mem_decodeLossy_iff {c : Char} {bs : List UInt8} (small : c.toNat < 0x80) :
    c ∈ (decodeLossy bs).toList ↔ ∃ b ∈ bs, Ascii b ∧ charOf b = c := by
  rw [decodeLossy, String.toList_ofList]
  exact mem_charsAfter_iff small (fun x none => absurd none List.not_mem_nil)

theorem decodeLossy_inj {bs bs' : List UInt8} (ascii : ∀ b ∈ bs', Ascii b)
    (same : decodeLossy bs = decodeLossy bs') : bs = bs' :=
  charsAfter_inj ascii (String.ofList_inj.1 same)

end RealMode.Text.Utf8
