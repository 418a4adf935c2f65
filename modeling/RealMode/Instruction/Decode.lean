import RealMode.Instruction.OpcodeMap

/-!
# Decoding

An instruction is its prefix bytes, an opcode and what the opcode asks for, fifteen bytes at most. A
locked instruction must write memory with one of the operations that allow it. `decode_append` says
that the bytes after an instruction do not matter.
-/

namespace RealMode

/-- The longest instruction in bytes. -/
def maxInstructionLength : Nat := 15

/-- Unexecuted operations that the lock prefix allows. -/
def lockableNames : List String := ["Bts", "Btr", "Btc", "Cmpxchg", "Cmpxchg8b", "Xadd"]

def Operation.lockable : Operation → Bool
  | arith op dst _ => op != .cmp && dst.isMemory
  | logic op dst _ => op != .test && dst.isMemory
  | unary _ dst => dst.isMemory
  | not dst => dst.isMemory
  | xchg a _ => a.isMemory
  | unsupported mnemonic => lockableNames.contains mnemonic
  | _ => false

namespace Instruction

private def checked (p : Prefixes) (op : Operation) : ByteReader Operation :=
  if p.lock && !op.lockable then .fail else .done op

/-- Reads prefix bytes, at most `n` bytes in all, and then an operation. -/
def operationAfter : Nat → Prefixes → ByteReader Operation
  | 0, _ => .fail
  | n + 1, p => .next fun b =>
    match p.extend? b with
    | some q => operationAfter n q
    | none => (OpcodeMap.primary p b).bind (checked p)

def reader : ByteReader Operation := operationAfter maxInstructionLength {}

/-- The instruction that `bytes` begin with, standing at `offset`. -/
def decode (offset : UInt16) (bytes : List UInt8) : Option Instruction :=
  (reader.run (bytes.take maxInstructionLength)).map fun r => ⟨offset, r.2, r.1⟩

theorem decode_length_le {offset : UInt16} {bytes : List UInt8} {i : Instruction}
    (h : decode offset bytes = some i) :
    i.length ≤ maxInstructionLength ∧ i.length ≤ bytes.length := by
  simp only [decode, Option.map_eq_some_iff] at h
  obtain ⟨⟨op, n⟩, hr, rfl⟩ := h
  have := ByteReader.run_length_le _ _ hr
  simp only [List.length_take] at this
  exact ⟨by dsimp only; omega, by dsimp only; omega⟩

theorem decode_append {offset : UInt16} {bytes : List UInt8} {i : Instruction}
    (h : decode offset bytes = some i) (rest : List UInt8) :
    decode offset (bytes.take i.length ++ rest) = some i := by
  have hl := decode_length_le h
  simp only [decode, Option.map_eq_some_iff] at h ⊢
  obtain ⟨⟨op, n⟩, hr, rfl⟩ := h
  obtain ⟨hmax, hlen⟩ : n ≤ maxInstructionLength ∧ n ≤ bytes.length := hl
  refine ⟨(op, n), ?_, rfl⟩
  have taken : (bytes.take n ++ rest).take maxInstructionLength =
      (bytes.take maxInstructionLength).take n ++ rest.take (maxInstructionLength - n) := by
    have hn : (bytes.take n).length = n := by simp; omega
    rw [List.take_append, hn, List.take_take, List.take_take, Nat.min_eq_right hmax,
      Nat.min_eq_left hmax]
  dsimp only
  rw [taken]
  exact ByteReader.run_take_append _ _ hr _

end Instruction

end RealMode
