import RealMode.LittleEndian

/-!
# Readers of bytes

A reader is a tree that branches on the next byte. It can look at nothing but the bytes it
takes, so a reading is settled by those bytes alone: `run_take_append` says that what
follows them does not matter.
-/

namespace RealMode

inductive ByteReader (α : Type) where
  | done (a : α)
  | fail
  | next (k : UInt8 → ByteReader α)

namespace ByteReader

variable {α β : Type}

def bind : ByteReader α → (α → ByteReader β) → ByteReader β
  | done a, f => f a
  | fail, _ => fail
  | next k, f => next fun b => bind (k b) f

instance : Monad ByteReader where
  pure := done
  bind := bind

/-- The value read and the number of bytes taken. -/
def run : ByteReader α → List UInt8 → Option (α × Nat)
  | done a, _ => some (a, 0)
  | fail, _ => none
  | next _, [] => none
  | next k, b :: bs => (run (k b) bs).map fun r => (r.1, r.2 + 1)

def byte : ByteReader UInt8 := next done

def word : ByteReader UInt16 := do
  let low ← byte
  let high ← byte
  return wordOfBytes low high

def dword : ByteReader UInt32 := do
  let low ← word
  let high ← word
  return dwordOfWords low high

/-- Takes `n` bytes. -/
def skip : Nat → ByteReader Unit
  | 0 => done ()
  | n + 1 => next fun _ => skip n

theorem run_length_le (r : ByteReader α) (bs : List UInt8) {a : α} {n : Nat}
    (h : r.run bs = some (a, n)) : n ≤ bs.length := by
  induction r generalizing bs n with
  | done b => simp [run] at h; omega
  | fail => simp [run] at h
  | next k ih =>
    cases bs with
    | nil => simp [run] at h
    | cons b bs =>
      simp only [run, Option.map_eq_some_iff, Prod.mk.injEq] at h
      obtain ⟨⟨c, m⟩, hm, rfl, rfl⟩ := h
      have := ih b bs hm
      simp only [List.length_cons]
      omega

theorem run_take_append (r : ByteReader α) (bs : List UInt8) {a : α} {n : Nat}
    (h : r.run bs = some (a, n)) (rest : List UInt8) :
    r.run (bs.take n ++ rest) = some (a, n) := by
  induction r generalizing bs n with
  | done b => simp_all [run]
  | fail => simp [run] at h
  | next k ih =>
    cases bs with
    | nil => simp [run] at h
    | cons b bs =>
      simp only [run, Option.map_eq_some_iff, Prod.mk.injEq] at h
      obtain ⟨⟨c, m⟩, hm, rfl, rfl⟩ := h
      simp [run, ih b bs hm]

end ByteReader

end RealMode
