import RealMode.Text.Utf8

/-!
# Short file names

A title and an extension of at most three bytes. Everything lives in one directory, so a name given
by a program loses its drive and path, and its letters become capitals. A host file gets a short
name of at most eight and three bytes; a number after a tilde tells it from others like it.
-/

namespace RealMode.Dos

structure FileName where
  title : List UInt8
  extension : List UInt8
deriving DecidableEq, Inhabited

namespace FileName

def dot : UInt8 := 0x2e

def backslash : UInt8 := 0x5c

def colon : UInt8 := 0x3a

/-- What stands for a character outside ASCII. -/
def underscore : UInt8 := 0x5f

def tilde : UInt8 := 0x7e

/-- Capital letters; bytes outside ASCII stay. -/
def capital (b : UInt8) : UInt8 := if 0x61 ≤ b && b ≤ 0x7a then b - 0x20 else b

/-- Splits at the last place where `p` holds; the element there is dropped. -/
def splitLast {α : Type} (p : α → Bool) (xs : List α) : Option (List α × List α) :=
  match xs.reverse.span (!p ·) with
  | (_, []) => none
  | (after, _ :: before) => some (before.reverse, after.reverse)

/-- The title and, if there is a dot, what follows the last one. -/
def splitExtension (name : List UInt8) : List UInt8 × Option (List UInt8) :=
  match splitLast (· == dot) name with
  | none => (name, none)
  | some (title, extension) => (title, some (extension.take 3))

/-- What follows the last backslash or colon. -/
def withoutPath (name : List UInt8) : List UInt8 :=
  match splitLast (fun b => b == backslash || b == colon) name with
  | none => name
  | some (_, name) => name

/-- A name as a program gives it. -/
def parse (name : List UInt8) : FileName :=
  let (title, extension) := splitExtension (withoutPath name)
  ⟨title.map capital, (extension.getD []).map capital⟩

def toBytes (n : FileName) : List UInt8 :=
  if n.extension.isEmpty then n.title else n.title ++ dot :: n.extension

def hostByte (c : Char) : UInt8 :=
  if c.toNat < 0x80 then capital (UInt8.ofNat c.toNat) else underscore

/-- The ending that tells names apart. -/
def suffix : Option Nat → List UInt8
  | none => []
  | some index => tilde :: (Nat.toDigits 10 index).map fun c => UInt8.ofNat c.toNat

/-- The short name of a host file, with a number if one is needed. -/
def ofHostName (host : String) (index : Option Nat) : FileName :=
  let (title, extension) := splitExtension (host.toList.map hostByte)
  ⟨title.take (8 - (suffix index).length) ++ suffix index, extension.getD []⟩

end FileName

end RealMode.Dos
