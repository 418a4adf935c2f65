import RealMode.Dos.FileName

/-!
# Wildcards

A star stands for any bytes and a question mark for one byte. Question marks at the end of a pattern
may also stand for nothing. A search for names without a dot matches titles alone.
-/

namespace RealMode.Dos

namespace Wildcard

def star : UInt8 := 0x2a

def questionMark : UInt8 := 0x3f

/-- `f` holds of some ending of the list. -/
def someSuffix (f : List UInt8 → Bool) : List UInt8 → Bool
  | [] => f []
  | b :: bs => f (b :: bs) || someSuffix f bs

/-- The pattern, taken as a whole, stands for the text. -/
def covers : List UInt8 → List UInt8 → Bool
  | [], text => text.isEmpty
  | p :: pattern, text =>
    if p == star then someSuffix (covers pattern) text
    else
      match text with
      | [] => p == questionMark && pattern.all fun c => c == questionMark || c == star
      | b :: text => (p == questionMark || p == b) && covers pattern text

end Wildcard

/-- The name is one that the search is for. -/
def FileName.answers (n : FileName) (search : List UInt8) : Bool :=
  let pattern := parse search
  Wildcard.covers pattern.title n.title
    && ((splitExtension search).2.isNone || Wildcard.covers pattern.extension n.extension)

end RealMode.Dos
