import WordMachine.Proofs.ArithmeticStep
import WordMachine.Proofs.Calls

/-! What each instruction is about to do, told by the machine before its step. -/
namespace WordMachine.Machine

variable {σ : Type} {m m' : Machine σ}

def DestinationOf (m : Machine σ) (field : UInt8) (deref : Bool) (dst : Destination) : Prop :=
  ∃ r, Register.ofField field = .ok r ∧
    (if deref then .cell (m.pastFetch r) else .register r) = dst

/-- Where the code goes on after the next instruction: past its immediate word, if there is one. -/
def pastOperands (m : Machine σ) (ins : Instruction) : Word :=
  if ins.modes.immediate then m.ip + 2 else m.ip + 1

/-- What a fetched instruction intends to do. -/
inductive Intends (m : Machine σ) (f : Fetched) : Action → Prop
  | halt (hop : f.opcode = .halt) : Intends m f .halt
  | move {dst : Destination} {w : Word} (hop : f.opcode = .move)
      (hd : m.DestinationOf f.instruction.b f.instruction.modes.derefB dst)
      (ho : m.OperandOf f.instruction w) :
      Intends m f (.assign (m.pastOperands f.instruction) dst w false)
  | arithmetic {op : Arithmetic} {dst : Destination} {b c : Word}
      (hop : f.opcode = .arithmetic op) (ho : m.OperandsOf f.instruction dst b c)
      (hz : op = .div → c ≠ 0) :
      Intends m f (.assign (m.pastOperands f.instruction) dst (op.apply b c)
        (op = .sub ∧ op.apply b c = 0))
  | branch {condition : Condition} {w : Word} (hop : f.opcode = .branch condition)
      (ho : m.OperandOf f.instruction w) :
      Intends m f
        (.jump (if condition.holds m.registers then w else m.pastOperands f.instruction))
  | input {dst : Destination} (hop : f.opcode = .input)
      (hd : m.DestinationOf f.instruction.c f.instruction.modes.derefC dst) :
      Intends m f (.read dst)
  | output {w : Word} (hop : f.opcode = .output) (ho : m.OperandOf f.instruction w) :
      Intends m f (.write (m.pastOperands f.instruction) w.toUInt8)
  | builtin {w : Word} (hop : f.opcode = .builtin) (ho : m.OperandOf f.instruction w) :
      Intends m f (.call (m.pastOperands f.instruction) w)

theorem holds_set_ip (m : Machine σ) (condition : Condition) (w : Word) :
    condition.holds (m.registers.set .ip w) = condition.holds m.registers := by
  have hflags : (m.registers.set .ip w).get .flags = m.registers.get .flags :=
    RegisterFile.get_set_ne _ (by decide) w
  cases condition with
  | always => rfl
  | flagClear | flagSet => simp only [Condition.holds, RegisterFile.zeroFlag, hflags]

theorem resolve_eq_ok_iff {f : Fetched} {a : Action} :
    m.resolve f = .ok a ↔ m.Intends f a := by
  rw [resolve, Action.resolve_eq_ok_iff]
  constructor
  · generalize hop : f.opcode = op
    intro h
    cases h with
    | halt => exact .halt hop
    | move hd hs =>
      obtain ⟨ho, hn⟩ := single_eq_ok_iff.mp hs
      rw [← hn]
      exact .move hop (destination_eq_ok_iff.mp hd) ho
    | arithmetic ht hz =>
      obtain ⟨ho, hn⟩ := triple_eq_ok_iff.mp ht
      rw [← hn]
      exact .arithmetic hop ho fun hd hc => hz ⟨hd, hc⟩
    | branch hs =>
      obtain ⟨ho, hn⟩ := single_eq_ok_iff.mp hs
      rw [← hn, holds_set_ip]
      exact .branch hop ho
    | input hd => exact .input hop (destination_eq_ok_iff.mp hd)
    | output hs =>
      obtain ⟨ho, hn⟩ := single_eq_ok_iff.mp hs
      rw [← hn]
      exact .output hop ho
    | builtin hs =>
      obtain ⟨ho, hn⟩ := single_eq_ok_iff.mp hs
      rw [← hn]
      exact .builtin hop ho
  · intro h
    cases h with
    | halt hop =>
      rw [hop]
      exact .halt
    | move hop hd ho =>
      rw [hop]
      exact .move (destination_eq_ok_iff.mpr hd) (single_eq_ok_iff.mpr ⟨ho, rfl⟩)
    | @arithmetic op dst b c hop ho hz =>
      have ht := (@triple_eq_ok_iff _ m f.instruction ⟨dst, b, c, _⟩).mpr ⟨ho, rfl⟩
      rw [hop]
      exact .arithmetic ht fun hd => hz hd.1 hd.2
    | branch hop ho =>
      rw [hop, ← m.holds_set_ip _ (m.ip + 1)]
      exact .branch (single_eq_ok_iff.mpr ⟨ho, rfl⟩)
    | input hop hd =>
      rw [hop]
      exact .input (destination_eq_ok_iff.mpr hd)
    | output hop ho =>
      rw [hop]
      exact .output (single_eq_ok_iff.mpr ⟨ho, rfl⟩)
    | builtin hop ho =>
      rw [hop]
      exact .builtin (single_eq_ok_iff.mpr ⟨ho, rfl⟩)

theorem nextAction?_iff_intends {a : Action} :
    m.nextAction? = some a ↔ ∃ f, m.next? = some f ∧ m.Intends f a := by
  simp only [nextAction?_eq_some_iff, next?_eq_some_iff, resolve_eq_ok_iff, and_assoc]
  exact exists_and_left.symm

end WordMachine.Machine
