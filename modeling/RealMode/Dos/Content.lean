/-!
# What a file holds

The bytes of a file, in pieces. A gap that no write has filled reads as zeros and is kept as its
length, so a write far past the end costs no more than another. `toList` is all of the bytes, and
`toList_overwrite` says what a write makes of them.
-/

namespace RealMode.Dos

inductive Piece where
  | written (bytes : List UInt8)
  | gap (length : Nat)
deriving DecidableEq, Inhabited

namespace Piece

def length : Piece → Nat
  | written bytes => bytes.length
  | gap n => n

def toList : Piece → List UInt8
  | written bytes => bytes
  | gap n => List.replicate n 0

def take (n : Nat) : Piece → Piece
  | written bytes => written (bytes.take n)
  | gap m => gap (min n m)

def drop (n : Nat) : Piece → Piece
  | written bytes => written (bytes.drop n)
  | gap m => gap (m - n)

@[simp] theorem length_toList (p : Piece) : p.toList.length = p.length := by
  cases p <;> simp [toList, length]

@[simp] theorem toList_take (n : Nat) (p : Piece) : (p.take n).toList = p.toList.take n := by
  cases p <;> simp [toList, take]

@[simp] theorem toList_drop (n : Nat) (p : Piece) : (p.drop n).toList = p.toList.drop n := by
  cases p <;> simp [toList, drop]

/-- The bytes of several pieces. -/
def bytes (ps : List Piece) : List UInt8 := ps.flatMap toList

def total : List Piece → Nat
  | [] => 0
  | p :: ps => p.length + total ps

/-- The first `n` bytes. -/
def takeFrom (n : Nat) : List Piece → List Piece
  | [] => []
  | p :: ps =>
    if n = 0 then []
    else if p.length ≤ n then p :: takeFrom (n - p.length) ps
    else [p.take n]

/-- All but the first `n` bytes. -/
def dropFrom (n : Nat) : List Piece → List Piece
  | [] => []
  | p :: ps => if p.length ≤ n then dropFrom (n - p.length) ps else p.drop n :: ps

/-- A gap of `n` bytes, and nothing if there is none. -/
def gapOf (n : Nat) : List Piece := if n = 0 then [] else [.gap n]

@[simp] theorem length_bytes (ps : List Piece) : (bytes ps).length = total ps := by
  induction ps with
  | nil => rfl
  | cons p ps ih =>
    simp only [bytes] at ih
    simp [bytes, total, ih]

theorem bytes_takeFrom (n : Nat) (ps : List Piece) :
    bytes (takeFrom n ps) = (bytes ps).take n := by
  induction ps generalizing n with
  | nil => simp [takeFrom, bytes]
  | cons p ps ih =>
    simp only [bytes] at ih
    unfold takeFrom
    by_cases zero : n = 0
    · simp [zero, bytes]
    · by_cases fits : p.length ≤ n
      · have whole : p.toList.length ≤ n := by simpa using fits
        simp [zero, fits, bytes, ih, List.take_append, List.take_of_length_le whole]
      · have short : n - p.length = 0 := by omega
        simp [zero, fits, bytes, List.take_append, short]

theorem bytes_dropFrom (n : Nat) (ps : List Piece) :
    bytes (dropFrom n ps) = (bytes ps).drop n := by
  induction ps generalizing n with
  | nil => simp [dropFrom, bytes]
  | cons p ps ih =>
    simp only [bytes] at ih
    unfold dropFrom
    by_cases fits : p.length ≤ n
    · have whole : p.toList.length ≤ n := by simpa using fits
      simp [fits, bytes, ih, List.drop_append, List.drop_of_length_le whole]
    · have short : n - p.length = 0 := by omega
      simp [fits, bytes, List.drop_append, short]

theorem bytes_gapOf (n : Nat) : bytes (gapOf n) = List.replicate n 0 := by
  unfold gapOf
  by_cases zero : n = 0
  · simp [zero, bytes]
  · simp [zero, bytes, toList]

end Piece

structure Content where
  pieces : List Piece
deriving DecidableEq, Inhabited

namespace Content

def empty : Content := ⟨[]⟩

def ofList (bytes : List UInt8) : Content := ⟨[.written bytes]⟩

def toList (c : Content) : List UInt8 := Piece.bytes c.pieces

def length (c : Content) : Nat := Piece.total c.pieces

/-- At most `count` bytes from `start` on. -/
def slice (c : Content) (start count : Nat) : List UInt8 :=
  Piece.bytes (Piece.takeFrom count (Piece.dropFrom start c.pieces))

/-- The content with `data` at `position`. Past the end there is a gap first. -/
def overwrite (c : Content) (position : Nat) (data : List UInt8) : Content :=
  ⟨Piece.takeFrom position c.pieces ++ Piece.gapOf (position - c.length)
    ++ .written data :: Piece.dropFrom (position + data.length) c.pieces⟩

@[simp] theorem toList_empty : empty.toList = [] := rfl

@[simp] theorem toList_ofList (bytes : List UInt8) : (ofList bytes).toList = bytes := by
  simp [ofList, toList, Piece.bytes, Piece.toList]

@[simp] theorem length_toList (c : Content) : c.toList.length = c.length := by
  simp [toList, length]

theorem slice_eq (c : Content) (start count : Nat) :
    c.slice start count = (c.toList.drop start).take count := by
  simp [slice, toList, Piece.bytes_takeFrom, Piece.bytes_dropFrom]

/-- A write replaces the bytes that it covers, after zeros if it begins past the end. -/
theorem toList_overwrite (c : Content) (position : Nat) (data : List UInt8) :
    (c.overwrite position data).toList =
      c.toList.take position ++ List.replicate (position - c.length) 0 ++ data
        ++ c.toList.drop (position + data.length) := by
  have before := Piece.bytes_takeFrom position c.pieces
  have between := Piece.bytes_gapOf (position - c.length)
  have after := Piece.bytes_dropFrom (position + data.length) c.pieces
  simp only [Piece.bytes] at before between after
  simp [overwrite, toList, Piece.bytes, Piece.toList, before, between, after]

end Content

end RealMode.Dos
