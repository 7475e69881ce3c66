import WordMachine.Opcode

/-! Instructions and the words that hold them, most significant bit first:
four bits of operation, the bits immediate, deref c, deref b, deref a, twelve
reserved bits, and four bits each for the fields c, b and a. -/
namespace WordMachine

/-- How the operands are addressed: the last one may be the word that follows,
and each one may name a cell of memory in place of a value. -/
structure Modes where
  immediate : Bool := false
  derefA : Bool := false
  derefB : Bool := false
  derefC : Bool := false
  deriving DecidableEq, Repr

namespace Modes

def immediateBit : Nat := 27
def derefCBit : Nat := 26
def derefBBit : Nat := 25
def derefABit : Nat := 24

def ofWord (w : Word) : Modes where
  immediate := Word.bit w immediateBit
  derefA := Word.bit w derefABit
  derefB := Word.bit w derefBBit
  derefC := Word.bit w derefCBit

def toWord (m : Modes) : Word :=
  Word.ofBit immediateBit m.immediate ||| Word.ofBit derefCBit m.derefC |||
    Word.ofBit derefBBit m.derefB ||| Word.ofBit derefABit m.derefA

theorem bit_toWord (m : Modes) (k : Nat) : Word.bit m.toWord k =
    (m.immediate && decide (k = immediateBit) || m.derefC && decide (k = derefCBit) ||
      m.derefB && decide (k = derefBBit) || m.derefA && decide (k = derefABit)) := by
  simp only [toWord, Word.bit_or]
  rw [Word.bit_ofBit (by decide), Word.bit_ofBit (by decide), Word.bit_ofBit (by decide),
    Word.bit_ofBit (by decide)]

@[simp] theorem ofWord_toWord (m : Modes) : ofWord m.toWord = m := by
  cases m
  simp [ofWord, bit_toWord, immediateBit, derefABit, derefBBit, derefCBit]

end Modes

/-- An unpacked instruction. Whether a field names a register is asked when it is used. -/
structure Instruction where
  code : UInt8 := 0
  a : UInt8 := 0
  b : UInt8 := 0
  c : UInt8 := 0
  modes : Modes := {}
  deriving DecidableEq, Repr

namespace Instruction

/-- Bits that an instruction word leaves clear. -/
def reservedMask : Word := 0x00FFF000

def nibble (byte : UInt8) : UInt8 := byte &&& 0xF

def of (op : Opcode) (a b c : UInt8) : Instruction :=
  { code := op.code, a := nibble a, b := nibble b, c := nibble c }

def withModes (ins : Instruction) (modes : Modes) : Instruction := { ins with modes }

def withImmediate (ins : Instruction) : Instruction :=
  ins.withModes { ins.modes with immediate := true }

def withDerefA (ins : Instruction) : Instruction :=
  ins.withModes { ins.modes with derefA := true }

def withDerefB (ins : Instruction) : Instruction :=
  ins.withModes { ins.modes with derefB := true }

def withDerefC (ins : Instruction) : Instruction :=
  ins.withModes { ins.modes with derefC := true }

def opcode (ins : Instruction) : Except Fault Opcode := Opcode.ofCode ins.code

def field (w : Word) (shift : Word) : UInt8 := ((w >>> shift) &&& 0xF).toUInt8

/-- Unpacks any word, whatever its reserved bits. -/
def decode (w : Word) : Instruction where
  code := field w 28
  a := field w 0
  b := field w 4
  c := field w 8
  modes := Modes.ofWord w

def decodeChecked (w : Word) : Except Fault Instruction :=
  if w &&& reservedMask = 0 then .ok (decode w) else .error (.reservedBits w)

def encode (ins : Instruction) : Word :=
  (nibble ins.code).toUInt32 <<< 28 ||| ins.modes.toWord ||| (nibble ins.c).toUInt32 <<< 8 |||
    (nibble ins.b).toUInt32 <<< 4 ||| (nibble ins.a).toUInt32

@[simp] theorem opcode_of (op : Opcode) (a b c : UInt8) : (of op a b c).opcode = .ok op :=
  Opcode.ofCode_code op

theorem decodeChecked_eq_ok_iff {w : Word} {ins : Instruction} :
    decodeChecked w = .ok ins ↔ w &&& reservedMask = 0 ∧ decode w = ins := by
  unfold decodeChecked
  split <;> simp_all

theorem decodeChecked_eq_error_iff {w : Word} {e : Fault} :
    decodeChecked w = .error e ↔ w &&& reservedMask ≠ 0 ∧ e = .reservedBits w := by
  unfold decodeChecked
  split <;> simp_all [eq_comm]

theorem field_lt (w shift : Word) : (field w shift).toNat < 16 := by
  have h : (w >>> shift &&& 15).toNat ≤ 15 := by
    rw [UInt32.toNat_and]
    exact Nat.and_le_right
  simp only [field, UInt32.toNat_toUInt8]
  omega

theorem opcode_decode_isOk (w : Word) : ∃ op, (decode w).opcode = .ok op :=
  Opcode.ofCode_isOk_iff.mpr (field_lt w 28)

end Instruction
end WordMachine
