import WordMachine.Word

/-! The two-operand operations on words. -/
namespace WordMachine

inductive Arithmetic
  | add | sub | mul | div | shr | shl | nand | xor
  deriving DecidableEq, Repr

namespace Arithmetic

/-- Sums, differences and products wrap, a shift by the whole width or more leaves
nothing. A quotient is asked for only when `c` is not zero. -/
def apply (op : Arithmetic) (b c : Word) : Word :=
  match op with
  | add => b + c
  | sub => b - c
  | mul => b * c
  | div => b / c
  | shr => if c < 32 then b >>> c else 0
  | shl => if c < 32 then b <<< c else 0
  | nand => ~~~(b &&& c)
  | xor => b ^^^ c

theorem toNat_apply_add (b c : Word) :
    (add.apply b c).toNat = (b.toNat + c.toNat) % Word.addressSpace := UInt32.toNat_add b c

theorem toNat_apply_sub (b c : Word) :
    (sub.apply b c).toNat = (Word.addressSpace - c.toNat + b.toNat) % Word.addressSpace :=
  UInt32.toNat_sub b c

theorem toNat_apply_mul (b c : Word) :
    (mul.apply b c).toNat = b.toNat * c.toNat % Word.addressSpace := UInt32.toNat_mul b c

theorem toNat_apply_div (b c : Word) : (div.apply b c).toNat = b.toNat / c.toNat :=
  UInt32.toNat_div b c

theorem toNat_apply_shr (b c : Word) : (shr.apply b c).toNat = b.toNat >>> c.toNat := by
  rw [Nat.shiftRight_eq_div_pow]
  have hb := b.toNat_lt
  by_cases h : c < 32
  · have hc : c.toNat < 32 := UInt32.lt_iff_toNat_lt.mp h
    simp [apply, h, UInt32.toNat_shiftRight, Nat.shiftRight_eq_div_pow, Nat.mod_eq_of_lt hc]
  · have hc : 32 ≤ c.toNat := by
      have := mt UInt32.lt_iff_toNat_lt.mpr h
      simpa using this
    have hp : 2 ^ 32 ≤ 2 ^ c.toNat := Nat.pow_le_pow_right (by decide) hc
    simp only [apply, h, if_false]
    exact (Nat.div_eq_of_lt (Nat.lt_of_lt_of_le hb hp)).symm

theorem toNat_apply_shl (b c : Word) :
    (shl.apply b c).toNat = b.toNat <<< c.toNat % Word.addressSpace := by
  have hs : Word.addressSpace = 2 ^ 32 := rfl
  rw [Nat.shiftLeft_eq, hs]
  by_cases h : c < 32
  · have hc : c.toNat < 32 := UInt32.lt_iff_toNat_lt.mp h
    simp [apply, h, UInt32.toNat_shiftLeft, Nat.shiftLeft_eq, Nat.mod_eq_of_lt hc]
  · have hc : 32 ≤ c.toNat := by
      have := mt UInt32.lt_iff_toNat_lt.mpr h
      simpa using this
    have hp : 2 ^ 32 ∣ b.toNat * 2 ^ c.toNat := Nat.dvd_mul_left_of_dvd (Nat.pow_dvd_pow 2 hc) _
    simp only [apply, h, if_false]
    exact (Nat.mod_eq_zero_of_dvd hp).symm

end Arithmetic
end WordMachine
