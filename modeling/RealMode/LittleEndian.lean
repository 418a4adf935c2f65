/-!
# Little-endian words

A word is its low byte plus 256 times its high byte, a double word its low word plus 65536 times its
high word. The low half is stored first.
-/

namespace RealMode

def lowByte (w : UInt16) : UInt8 := UInt8.ofNat w.toNat

def highByte (w : UInt16) : UInt8 := UInt8.ofNat (w.toNat / 256)

def wordOfBytes (low high : UInt8) : UInt16 := UInt16.ofNat (low.toNat + 256 * high.toNat)

def lowWord (d : UInt32) : UInt16 := UInt16.ofNat d.toNat

def highWord (d : UInt32) : UInt16 := UInt16.ofNat (d.toNat / 65536)

def dwordOfWords (low high : UInt16) : UInt32 := UInt32.ofNat (low.toNat + 65536 * high.toNat)

def bytesOfWord (w : UInt16) : List UInt8 := [lowByte w, highByte w]

def bytesOfDword (d : UInt32) : List UInt8 := bytesOfWord (lowWord d) ++ bytesOfWord (highWord d)

@[simp] theorem wordOfBytes_low_high (w : UInt16) : wordOfBytes (lowByte w) (highByte w) = w := by
  have h := w.toNat_lt
  apply UInt16.toNat_inj.mp
  simp only [wordOfBytes, lowByte, highByte, UInt16.toNat_ofNat', UInt8.toNat_ofNat']
  omega

@[simp] theorem lowByte_wordOfBytes (l h : UInt8) : lowByte (wordOfBytes l h) = l := by
  have hl := l.toNat_lt
  have hh := h.toNat_lt
  apply UInt8.toNat_inj.mp
  simp only [wordOfBytes, lowByte, UInt16.toNat_ofNat', UInt8.toNat_ofNat']
  omega

@[simp] theorem highByte_wordOfBytes (l h : UInt8) : highByte (wordOfBytes l h) = h := by
  have hl := l.toNat_lt
  have hh := h.toNat_lt
  apply UInt8.toNat_inj.mp
  simp only [wordOfBytes, highByte, UInt16.toNat_ofNat', UInt8.toNat_ofNat']
  omega

@[simp] theorem dwordOfWords_low_high (d : UInt32) : dwordOfWords (lowWord d) (highWord d) = d := by
  have h := d.toNat_lt
  apply UInt32.toNat_inj.mp
  simp only [dwordOfWords, lowWord, highWord, UInt32.toNat_ofNat', UInt16.toNat_ofNat']
  omega

@[simp] theorem lowWord_dwordOfWords (l h : UInt16) : lowWord (dwordOfWords l h) = l := by
  have hl := l.toNat_lt
  have hh := h.toNat_lt
  apply UInt16.toNat_inj.mp
  simp only [dwordOfWords, lowWord, UInt32.toNat_ofNat', UInt16.toNat_ofNat']
  omega

@[simp] theorem highWord_dwordOfWords (l h : UInt16) : highWord (dwordOfWords l h) = h := by
  have hl := l.toNat_lt
  have hh := h.toNat_lt
  apply UInt16.toNat_inj.mp
  simp only [dwordOfWords, highWord, UInt32.toNat_ofNat', UInt16.toNat_ofNat']
  omega

@[simp] theorem length_bytesOfWord (w : UInt16) : (bytesOfWord w).length = 2 := rfl

@[simp] theorem length_bytesOfDword (d : UInt32) : (bytesOfDword d).length = 4 := rfl

end RealMode
