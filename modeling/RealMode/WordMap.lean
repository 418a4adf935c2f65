/-!
# Maps keyed by 16-bit words

A binary tree of depth sixteen that branches on the bits of the key, lowest bit first. Reading,
writing and erasing follow one path. The look-up laws need no premise on the shape of the tree:
wherever the shape is not the expected one, the key counts as absent.
-/

namespace RealMode

universe u

inductive BitTree (α : Type u) where
  | empty
  | leaf (value : α)
  | branch (even odd : BitTree α)
deriving DecidableEq

namespace BitTree

variable {α : Type u}

def find? : Nat → BitTree α → Nat → Option α
  | 0, leaf a, _ => some a
  | n + 1, branch l r, k => if k % 2 = 0 then find? n l (k / 2) else find? n r (k / 2)
  | _, _, _ => none

def insert : Nat → BitTree α → Nat → α → BitTree α
  | 0, _, _, a => leaf a
  | n + 1, branch l r, k, a =>
    if k % 2 = 0 then branch (insert n l (k / 2) a) r else branch l (insert n r (k / 2) a)
  | n + 1, _, k, a =>
    if k % 2 = 0 then branch (insert n empty (k / 2) a) empty
    else branch empty (insert n empty (k / 2) a)

/-- A branch, unless both sides are empty. -/
def join : BitTree α → BitTree α → BitTree α
  | empty, empty => empty
  | l, r => branch l r

def erase : Nat → BitTree α → Nat → BitTree α
  | 0, _, _ => empty
  | n + 1, branch l r, k =>
    if k % 2 = 0 then join (erase n l (k / 2)) r else join l (erase n r (k / 2))
  | _ + 1, _, _ => empty

@[simp] theorem find?_empty (n k : Nat) : find? n (empty : BitTree α) k = none := by
  cases n <;> rfl

theorem find?_join (n k : Nat) (l r : BitTree α) :
    find? (n + 1) (join l r) k = find? (n + 1) (branch l r) k := by
  cases l <;> cases r <;> simp [join, find?]

/-- Two keys are told apart by their lowest `n` bits. -/
private theorem low_bits_succ_eq_iff (n j k : Nat) :
    j % (1 <<< (n + 1)) = k % (1 <<< (n + 1)) ↔
      j % 2 = k % 2 ∧ j / 2 % (1 <<< n) = k / 2 % (1 <<< n) := by
  have half (x : Nat) : x % (1 <<< (n + 1)) = x % 2 + 2 * (x / 2 % (1 <<< n)) := by
    rw [Nat.shiftLeft_succ, Nat.mod_mul]
  rw [half j, half k]
  omega

theorem find?_insert (n : Nat) (t : BitTree α) (k j : Nat) (a : α) :
    find? n (insert n t k a) j = if j % (1 <<< n) = k % (1 <<< n) then some a else find? n t j := by
  induction n generalizing t k j with
  | zero => simp [insert, find?, Nat.mod_one]
  | succ n ih =>
    simp only [low_bits_succ_eq_iff]
    have split : (j % 2 = 0 ∨ j % 2 = 1) ∧ (k % 2 = 0 ∨ k % 2 = 1) := by omega
    obtain ⟨hj | hj, hk | hk⟩ := split <;> cases t <;> simp [insert, find?, hj, hk, ih]

theorem find?_erase (n : Nat) (t : BitTree α) (k j : Nat) :
    find? n (erase n t k) j = if j % (1 <<< n) = k % (1 <<< n) then none else find? n t j := by
  induction n generalizing t k j with
  | zero => simp [erase, Nat.mod_one]
  | succ n ih =>
    simp only [low_bits_succ_eq_iff]
    have split : (j % 2 = 0 ∨ j % 2 = 1) ∧ (k % 2 = 0 ∨ k % 2 = 1) := by omega
    cases t with
    | empty => simp [erase]
    | leaf a => simp [erase, find?]
    | branch l r =>
      obtain ⟨hj | hj, hk | hk⟩ := split <;> simp [erase, find?_join, find?, hj, hk, ih]

end BitTree

structure WordMap (α : Type u) where
  tree : BitTree α
deriving DecidableEq

namespace WordMap

variable {α : Type u}

def empty : WordMap α := ⟨.empty⟩

instance : Inhabited (WordMap α) := ⟨empty⟩

def get? (m : WordMap α) (k : UInt16) : Option α := m.tree.find? 16 k.toNat

def contains (m : WordMap α) (k : UInt16) : Bool := (m.get? k).isSome

def insert (m : WordMap α) (k : UInt16) (a : α) : WordMap α := ⟨m.tree.insert 16 k.toNat a⟩

def erase (m : WordMap α) (k : UInt16) : WordMap α := ⟨m.tree.erase 16 k.toNat⟩

@[simp] theorem get?_empty (k : UInt16) : (empty : WordMap α).get? k = none :=
  BitTree.find?_empty 16 _

private theorem toNat_mod_eq_iff (j k : UInt16) :
    j.toNat % (1 <<< 16) = k.toNat % (1 <<< 16) ↔ j = k := by
  have hj : j.toNat < 1 <<< 16 := j.toNat_lt
  have hk : k.toNat < 1 <<< 16 := k.toNat_lt
  rw [Nat.mod_eq_of_lt hj, Nat.mod_eq_of_lt hk, UInt16.toNat_inj]

theorem get?_insert (m : WordMap α) (k j : UInt16) (a : α) :
    (m.insert k a).get? j = if j = k then some a else m.get? j := by
  simp only [get?, insert, BitTree.find?_insert, toNat_mod_eq_iff]

theorem get?_erase (m : WordMap α) (k j : UInt16) :
    (m.erase k).get? j = if j = k then none else m.get? j := by
  simp only [get?, erase, BitTree.find?_erase, toNat_mod_eq_iff]

@[simp] theorem get?_insert_self (m : WordMap α) (k : UInt16) (a : α) :
    (m.insert k a).get? k = some a := by simp [get?_insert]

theorem get?_insert_of_ne (m : WordMap α) {k j : UInt16} (a : α) (h : j ≠ k) :
    (m.insert k a).get? j = m.get? j := by simp [get?_insert, h]

end WordMap

end RealMode
