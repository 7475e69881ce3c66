/-! Machine words. Registers, memory cells, addresses and instructions all hold one. -/
namespace WordMachine

abbrev Word := UInt32

namespace Word

def addressSpace : Nat := UInt32.size

@[simp] theorem toNat_lt_addressSpace (w : Word) : w.toNat < addressSpace := w.toNat_lt

theorem toNat_add_of_lt {v w : Word} (h : v.toNat + w.toNat < addressSpace) :
    (v + w).toNat = v.toNat + w.toNat := by
  rw [UInt32.toNat_add]
  exact Nat.mod_eq_of_lt h

/-- The bit of weight `2 ^ k`. -/
def bit (w : Word) (k : Nat) : Bool := w.toBitVec.getLsbD k

/-- The word with the one bit `k` if `b` holds, else zero. -/
def ofBit (k : Nat) (b : Bool) : Word := if b then ⟨BitVec.twoPow 32 k⟩ else 0

/-- A word is nothing but its bits. -/
theorem ext_bit {v w : Word} (h : ∀ k < 32, v.bit k = w.bit k) : v = w :=
  UInt32.toBitVec_inj.mp (BitVec.eq_of_getLsbD_eq h)

@[simp] theorem bit_zero (k : Nat) : bit 0 k = false := by simp [bit]

@[simp] theorem bit_or (v w : Word) (k : Nat) : bit (v ||| w) k = (bit v k || bit w k) := by
  simp [bit]

@[simp] theorem bit_and (v w : Word) (k : Nat) : bit (v &&& w) k = (bit v k && bit w k) := by
  simp [bit]

theorem bit_not (w : Word) {k : Nat} (h : k < 32) : bit (~~~w) k = !bit w k := by
  simp [bit, h]

theorem bit_ofBit {k : Nat} (h : k < 32) (b : Bool) (i : Nat) :
    (ofBit k b).bit i = (b && decide (i = k)) := by
  cases b <;> simp [ofBit, bit, BitVec.getLsbD_twoPow, h, eq_comm]

def digits (w : Word) : List Char := Nat.toDigits 16 w.toNat

def hex (w : Word) : String := "0x" ++ String.ofList (digits w)

def hexPadded (w : Word) : String :=
  "0x" ++ String.ofList (List.replicate (8 - (digits w).length) '0' ++ digits w)

end Word
end WordMachine
