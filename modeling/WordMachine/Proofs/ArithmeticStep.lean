import Mathlib.Algebra.Group.Int.Defs
import Mathlib.Algebra.Group.Nat.Defs
import WordMachine.Proofs.Course

/-! An arithmetic instruction takes its operands from the machine as it stands after the fetch
and puts back what the operation is worth over unbounded numbers, whichever of its registers
and cells are the same ones. -/
namespace WordMachine

namespace Arithmetic

/-- What an operation is worth, over numbers without bounds. -/
def exact : Arithmetic → Nat → Nat → Int
  | add, b, c => (b + c) % 2 ^ 32
  | sub, b, c => (b - c) % 2 ^ 32
  | mul, b, c => b * c % 2 ^ 32
  | div, b, c => b / c
  | shr, b, c => b / 2 ^ c
  | shl, b, c => b * 2 ^ c % 2 ^ 32
  | nand, b, c => 2 ^ 32 - 1 - (b &&& c : Nat)
  | xor, b, c => (b ^^^ c : Nat)

theorem toNat_apply_nand (b c : Word) :
    (nand.apply b c).toNat = 2 ^ 32 - 1 - (b.toNat &&& c.toNat) := by
  rw [← UInt32.toNat_and]
  exact UInt32.toNat_not (b &&& c)

theorem toNat_apply_xor (b c : Word) : (xor.apply b c).toNat = b.toNat ^^^ c.toNat :=
  UInt32.toNat_xor b c

theorem toNat_apply (op : Arithmetic) (b c : Word) :
    ((op.apply b c).toNat : Int) = op.exact b.toNat c.toNat := by
  have hs : Word.addressSpace = 2 ^ 32 := rfl
  have hb := b.toNat_lt
  have hc := c.toNat_lt
  cases op with
  | add => rw [toNat_apply_add, hs]; rfl
  | sub =>
    rw [toNat_apply_sub, hs, exact]
    omega
  | mul => rw [toNat_apply_mul, hs]; rfl
  | div => rw [toNat_apply_div]; rfl
  | shr =>
    rw [toNat_apply_shr, Nat.shiftRight_eq_div_pow, exact]
    norm_cast
  | shl =>
    rw [toNat_apply_shl, hs, Nat.shiftLeft_eq, exact]
    norm_cast
  | nand =>
    rw [toNat_apply_nand, exact]
    have hle : b.toNat &&& c.toNat ≤ b.toNat := Nat.and_le_left
    omega
  | xor => rw [toNat_apply_xor]; rfl

end Arithmetic

def Destination.Within (mem : Memory) : Destination → Prop
  | .register _ => True
  | .cell address => address.toNat < mem.length

namespace Machine

variable {σ : Type} {m : Machine σ}

/-- The word that a register holds once the instruction is fetched: only the instruction pointer
has moved, past the word of the instruction and not past an immediate one. -/
def pastFetch (m : Machine σ) (r : Register) : Word :=
  if r = .ip then m.ip + 1 else m.registers.get r

/-- The word `w` is `raw` itself, or what the cell at the address `raw` holds. -/
def Denotes (m : Machine σ) (raw : Word) (deref : Bool) (w : Word) : Prop :=
  if deref then m.memory.load raw = .ok w else raw = w

/-- The operands of an instruction, told by the machine before its step. -/
structure OperandsOf (m : Machine σ) (ins : Instruction) (dst : Destination) (b c : Word) :
    Prop where
  destination : ∃ r, Register.ofField ins.a = .ok r ∧
    (if ins.modes.derefA then .cell (m.pastFetch r) else .register r) = dst
  b : ∃ r, Register.ofField ins.b = .ok r ∧ m.Denotes (m.pastFetch r) ins.modes.derefB b
  c : ∃ raw, (if ins.modes.immediate then m.memory.load (m.ip + 1) = .ok raw
      else ∃ r, Register.ofField ins.c = .ok r ∧ m.pastFetch r = raw) ∧
    m.Denotes raw ins.modes.derefC c

theorem get_set_ip (m : Machine σ) (r : Register) :
    (m.registers.set .ip (m.ip + 1)).get r = m.pastFetch r := RegisterFile.get_set ..

theorem dereference_eq_ok_iff {raw w : Word} {deref : Bool} :
    Operand.dereference m.memory raw deref = .ok w ↔ m.Denotes raw deref w := by
  cases deref <;> simp [Denotes]

theorem destination_eq_ok_iff {field : UInt8} {deref : Bool} {dst : Destination} :
    Operand.destination (m.registers.set .ip (m.ip + 1)) field deref = .ok dst ↔
      ∃ r, Register.ofField field = .ok r ∧
        (if deref then .cell (m.pastFetch r) else .register r) = dst := by
  simp only [Operand.destination, Fault.map_eq_ok_iff, get_set_ip]

theorem read_eq_ok_iff {field : UInt8} {w : Word} :
    (m.registers.set .ip (m.ip + 1)).read field = .ok w ↔
      ∃ r, Register.ofField field = .ok r ∧ m.pastFetch r = w := by
  simp only [RegisterFile.read, Fault.map_eq_ok_iff, get_set_ip]

theorem source_eq_ok_iff {field : UInt8} {deref : Bool} {w : Word} :
    Operand.source (m.registers.set .ip (m.ip + 1)) m.memory field deref = .ok w ↔
      ∃ r, Register.ofField field = .ok r ∧ m.Denotes (m.pastFetch r) deref w := by
  rw [Operand.source, Fault.bind_eq_ok_iff]
  constructor
  · rintro ⟨raw, hr, hw⟩
    obtain ⟨r, hf, rfl⟩ := read_eq_ok_iff.mp hr
    exact ⟨r, hf, dereference_eq_ok_iff.mp hw⟩
  · rintro ⟨r, hf, hw⟩
    exact ⟨_, read_eq_ok_iff.mpr ⟨r, hf, rfl⟩, dereference_eq_ok_iff.mpr hw⟩

theorem raw_eq_ok_iff {ins : Instruction} {w next : Word} :
    Operand.raw (m.registers.set .ip (m.ip + 1)) m.memory ins (m.ip + 1) = .ok ⟨w, next⟩ ↔
      (if ins.modes.immediate then m.memory.load (m.ip + 1) = .ok w
        else ∃ r, Register.ofField ins.c = .ok r ∧ m.pastFetch r = w) ∧
      (if ins.modes.immediate then m.ip + 2 else m.ip + 1) = next := by
  have hmap (x : Except Fault Word) (n : Word) :
      x.map (fun w => Operand.mk w n) = .ok ⟨w, next⟩ ↔ x = .ok w ∧ n = next := by
    cases x <;> simp [Except.map]
  have h2 : m.ip + 1 + 1 = m.ip + 2 := UInt32.add_assoc ..
  by_cases hi : ins.modes.immediate = true
  · simp only [Operand.raw, Operand.immediate, hi, if_true, hmap, h2]
  · simp only [Operand.raw, hi, if_false, hmap, read_eq_ok_iff, Bool.false_eq_true]

def OperandOf (m : Machine σ) (ins : Instruction) (w : Word) : Prop :=
  ∃ raw, (if ins.modes.immediate then m.memory.load (m.ip + 1) = .ok raw
      else ∃ r, Register.ofField ins.c = .ok r ∧ m.pastFetch r = raw) ∧
    m.Denotes raw ins.modes.derefC w

theorem single_eq_ok_iff {ins : Instruction} {w next : Word} :
    Operand.single (m.registers.set .ip (m.ip + 1)) m.memory ins (m.ip + 1) = .ok ⟨w, next⟩ ↔
      m.OperandOf ins w ∧ (if ins.modes.immediate then m.ip + 2 else m.ip + 1) = next := by
  rw [Operand.single_eq_ok_iff]
  constructor
  · rintro ⟨⟨raw, next'⟩, hraw, hw, hn⟩
    obtain ⟨hraw, hnext⟩ := raw_eq_ok_iff.mp hraw
    exact ⟨⟨raw, hraw, dereference_eq_ok_iff.mp hw⟩, hnext.trans hn.symm⟩
  · rintro ⟨⟨raw, hraw, hw⟩, hn⟩
    exact ⟨⟨raw, next⟩, raw_eq_ok_iff.mpr ⟨hraw, hn⟩, dereference_eq_ok_iff.mpr hw, rfl⟩

theorem triple_eq_ok_iff {ins : Instruction} {ops : Operands} :
    Operand.triple (m.registers.set .ip (m.ip + 1)) m.memory ins (m.ip + 1) = .ok ops ↔
      m.OperandsOf ins ops.destination ops.b ops.c ∧
      (if ins.modes.immediate then m.ip + 2 else m.ip + 1) = ops.next := by
  rw [Operand.triple_eq_ok_iff, single_eq_ok_iff, destination_eq_ok_iff, source_eq_ok_iff]
  constructor
  · rintro ⟨ha, hb, hc, hn⟩
    exact ⟨⟨ha, hb, hc⟩, hn⟩
  · rintro ⟨⟨ha, hb, hc⟩, hn⟩
    exact ⟨ha, hb, hc, hn⟩

/-- The end of a step whose effect has left the machine `m`: the stack guard has the last word. -/
def concluded (m : Machine σ) : Outcome σ State :=
  if m.config.stackGuard = true ∧ m.memory.length < m.sp.toNat then
    (.error (.stackOverflow m.sp m.memory.length), m.fail (.stackOverflow m.sp m.memory.length))
  else (.ok .running, m)

theorem settle_running {m : Machine σ} (h : m.state = .running) : m.settle .running = m := by
  cases m
  cases h
  rfl

theorem Stored.state_eq {m₁ : Machine σ} {w : Word} {dst : Destination} (h : m.Stored w dst m₁) :
    m₁.state = m.state := by
  cases h <;> rfl

@[simp] theorem state_raise (m : Machine σ) (flag : Bool) : (m.raise flag).state = m.state := by
  cases flag <;> rfl

theorem step_of_effect {f : Fetched} {a : Action} {m₁ : Machine σ} (hr : m.state = .running)
    (hf : m.fetch = .ok f) (ha : m.resolve f = .ok a) (he : (m.fetched f).Effect a .running m₁)
    (hs : m₁.state = .running) : m.step = m₁.concluded := by
  by_cases hg : m₁.config.stackGuard = true ∧ m₁.memory.length < m₁.sp.toNat
  · rw [concluded, if_pos hg]
    exact (Course.overflowed hf ha he hg.1 hg.2).step_eq hr
  · rw [concluded, if_neg hg]
    have hc : m.Course (.ok .running) (m₁.settle .running) :=
      .completed hf ha he fun _ hguard => Nat.not_lt.mp fun hlt => hg ⟨hguard, hlt⟩
    rw [settle_running hs] at hc
    exact hc.step_eq hr

theorem Stored.exists_of_within {w : Word} {dst : Destination} (h : dst.Within m.memory) :
    ∃ m₁, m.Stored w dst m₁ := by
  cases dst with
  | register r => exact ⟨_, .register r⟩
  | cell address => exact ⟨_, .cell h⟩

end Machine
end WordMachine
