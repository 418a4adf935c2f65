/-!
# Text as bytes

`encode` gives the UTF-8 bytes of a text. `decodeLossy` reads any bytes: where they are not UTF-8,
each longest run that could have begun a character becomes one replacement character.
-/

namespace RealMode.Text.Utf8

def encode (s : String) : List UInt8 := s.toUTF8.data.toList

/-- What stands for bytes that are no character. -/
def replacement : Char := Char.ofNat 0xfffd

/-- What may follow a first byte: `more` bytes, of which the next one lies from `low` to `high`. -/
structure Lead where
  more : Nat
  low : Nat
  high : Nat

/-- Overlong forms, surrogates and numbers above the last code point are kept out by the
range of the second byte. -/
def lead? (b : Nat) : Option Lead :=
  if 0xc2 ≤ b && b ≤ 0xdf then some ⟨1, 0x80, 0xbf⟩
  else if b == 0xe0 then some ⟨2, 0xa0, 0xbf⟩
  else if b == 0xed then some ⟨2, 0x80, 0x9f⟩
  else if 0xe1 ≤ b && b ≤ 0xef then some ⟨2, 0x80, 0xbf⟩
  else if b == 0xf0 then some ⟨3, 0x90, 0xbf⟩
  else if 0xf1 ≤ b && b ≤ 0xf3 then some ⟨3, 0x80, 0xbf⟩
  else if b == 0xf4 then some ⟨3, 0x80, 0x8f⟩
  else none

def continues (b : UInt8) : Bool := 0x80 ≤ b.toNat && b.toNat ≤ 0xbf

/-- The bytes of `bs` that can follow the first byte. -/
def following (l : Lead) (bs : List UInt8) : List UInt8 :=
  match bs.take l.more with
  | [] => []
  | b :: rest =>
    if l.low ≤ b.toNat && b.toNat ≤ l.high then b :: rest.takeWhile continues else []

/-- The character that `b` and what follows it begin with, and how many more bytes it takes. -/
def first (b : UInt8) (bs : List UInt8) : Char × Nat :=
  if b.toNat < 0x80 then (Char.ofNat b.toNat, 0)
  else
    match lead? b.toNat with
    | none => (replacement, 0)
    | some l =>
      let rest := following l bs
      if rest.length = l.more then
        let high := b.toNat % (1 <<< (6 - l.more))
        (Char.ofNat (rest.foldl (fun n c => n * 64 + c.toNat % 64) high), l.more)
      else (replacement, rest.length)

/-- Passes over `skip` bytes and reads the rest. -/
def charsAfter (skip : Nat) : List UInt8 → List Char
  | [] => []
  | b :: bs =>
    match skip with
    | n + 1 => charsAfter n bs
    | 0 =>
      let c := first b bs
      c.1 :: charsAfter c.2 bs

def decodeLossy (bytes : List UInt8) : String := String.ofList (charsAfter 0 bytes)

end RealMode.Text.Utf8
