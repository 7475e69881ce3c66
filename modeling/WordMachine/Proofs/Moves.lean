import WordMachine.Proofs.Branches

/-! Ways to move a word. A move is the sum of the word and a register that holds zero, and a jump is
a move into the instruction pointer, with the same faults in the same order. -/
namespace WordMachine

/-- Two instructions that get the word for their last operand from the same place. An immediate word
stands in for the field c. -/
structure Instruction.SameSource (ins ins' : Instruction) : Prop where
  immediate : ins'.modes.immediate = ins.modes.immediate
  derefC : ins'.modes.derefC = ins.modes.derefC
  c : ins.modes.immediate = false → ins'.c = ins.c

namespace Operand

variable {file : RegisterFile} {mem : Memory} {ins ins' : Instruction} {ip : Word}

theorem single_of_sameSource (h : ins.SameSource ins') :
    single file mem ins' ip = single file mem ins ip := by
  have hraw : raw file mem ins' ip = raw file mem ins ip := by
    unfold raw
    rw [h.immediate]
    cases hi : ins.modes.immediate with
    | true => rfl
    | false => rw [h.c hi]
  rw [single, hraw, h.derefC, single]

theorem source_of_ofField {field : UInt8} {r : Register} (h : Register.ofField field = .ok r) :
    source file mem field false = .ok (file.get r) := by
  simp [source, RegisterFile.read, h, Except.map, bind, Except.bind]

/-- A register in the field b adds no fault to those of the destination and of the last operand. -/
theorem triple_of_ofField {r : Register} (hb : Register.ofField ins.b = .ok r)
    (hd : ins.modes.derefB = false) : triple file mem ins ip = do
      let dst ← destination file ins.a ins.modes.derefA
      let c ← single file mem ins ip
      return ⟨dst, file.get r, c.value, c.next⟩ := by
  rw [triple, hd, source_of_ofField hb]
  rfl

end Operand

namespace Action

variable {file : RegisterFile} {mem : Memory} {ins ins' : Instruction} {ip : Word}

theorem ofArithmetic_of_zero {op : Arithmetic} {ops : Operands} (hop : op = .add ∨ op = .xor)
    (hb : ops.b = 0) : ofArithmetic op ops = .ok (.assign ops.next ops.destination ops.c false) := by
  rcases hop with rfl | rfl <;> simp [ofArithmetic, Arithmetic.apply, hb]

theorem resolve_arithmetic_eq_move {op : Arithmetic} {z : Register} (hop : op = .add ∨ op = .xor)
    (hs : ins.SameSource ins') (ha : ins'.a = ins.b) (hm : ins'.modes.derefA = ins.modes.derefB)
    (hb : Register.ofField ins'.b = .ok z) (hd : ins'.modes.derefB = false)
    (hz : file.get z = 0) :
    resolve (.arithmetic op) ins' file mem ip = resolve .move ins file mem ip := by
  simp only [resolve, Operand.triple_of_ofField hb hd, Operand.single_of_sameSource hs, ha, hm]
  cases Operand.destination file ins.b ins.modes.derefB with
  | error e => rfl
  | ok dst =>
    cases Operand.single file mem ins ip with
    | error e => rfl
    | ok src => exact ofArithmetic_of_zero hop hz

end Action

namespace Machine

variable {σ : Type} {m : Machine σ} {ins ins' : Instruction} {ip : Word}

/-- The second instruction names for its result what the first one does, by another field, and
names a register that holds zero. -/
structure AddsToZero (m : Machine σ) (ins ins' : Instruction) : Prop where
  source : ins.SameSource ins'
  a : ins'.a = ins.b
  derefA : ins'.modes.derefA = ins.modes.derefB
  derefB : ins'.modes.derefB = false
  zero : ∃ z, Register.ofField ins'.b = .ok z ∧ m.registers.get z = 0

theorem execute_arithmetic_eq_move {op : Arithmetic} (hop : op = .add ∨ op = .xor)
    (h : m.AddsToZero ins ins') (ip : Word) :
    m.execute (.arithmetic op) ins' ip = m.execute .move ins ip := by
  obtain ⟨z, hb, hz⟩ := h.zero
  have hresolve : Action.resolve (.arithmetic op) ins' m.registers m.memory ip =
      Action.resolve .move ins m.registers m.memory ip :=
    Action.resolve_arithmetic_eq_move hop h.source h.a h.derefA hb h.derefB hz
  rw [execute, hresolve, execute]

theorem perform_assign_ip (m : Machine σ) (next w : Word) :
    m.perform (.assign next (.register .ip) w false) = m.perform (.jump w) := by
  have hset : (m.set .ip next).set .ip w = m.set .ip w := by
    simp only [set, RegisterFile.set_set]
  simp only [perform, assign_register, hset, Bool.false_eq_true, if_false]

theorem execute_move_eq_branch (hs : ins.SameSource ins') (hb : Register.ofField ins'.b = .ok .ip)
    (hd : ins'.modes.derefB = false) (ip : Word) :
    m.execute .move ins' ip = m.execute (.branch .always) ins ip := by
  have hdst : Operand.destination m.registers ins'.b ins'.modes.derefB = .ok (.register .ip) := by
    simp [Operand.destination, hb, hd, Except.map]
  cases h : Operand.single m.registers m.memory ins ip with
  | error e =>
    have hmove : Action.resolve .move ins' m.registers m.memory ip = .error e :=
      Fault.bind_eq_error_iff.mpr (.inr ⟨_, hdst,
        Fault.bind_eq_error_iff.mpr (.inl ((Operand.single_of_sameSource hs).trans h))⟩)
    rw [execute_of_error hmove, execute_branch_of_error h]
  | ok src =>
    have hmove : Action.resolve .move ins' m.registers m.memory ip =
        .ok (.assign src.next (.register .ip) src.value false) :=
      Action.resolve_eq_ok_iff.mpr (.move hdst ((Operand.single_of_sameSource hs).trans h))
    rw [execute_of_ok hmove, perform_assign_ip, execute_branch_of_ok h]
    rfl

/-- A move does the same as an addition, or an exclusive or, of a register that holds zero, to the
same place; and a jump does the same as a move into the instruction pointer. The result and the
whole machine are equal, whatever is found missing and whichever registers are the same ones. -/
theorem moves_agree (m : Machine σ) (ip : Word) (ins ins' : Instruction) :
    (m.AddsToZero ins ins' →
      m.execute (.arithmetic .add) ins' ip = m.execute .move ins ip ∧
      m.execute (.arithmetic .xor) ins' ip = m.execute .move ins ip) ∧
    (ins.SameSource ins' → Register.ofField ins'.b = .ok .ip → ins'.modes.derefB = false →
      m.execute .move ins' ip = m.execute (.branch .always) ins ip) :=
  ⟨fun h => ⟨execute_arithmetic_eq_move (.inl rfl) h ip, execute_arithmetic_eq_move (.inr rfl) h ip⟩,
    fun hs hb hd => execute_move_eq_branch hs hb hd ip⟩

def movingFive : Machine Unit where
  registers := .zeros
  memory := { cells := #[0x18000010, 5], programLength := 2 }
  builtins := .standard

theorem movingFive_agrees :
    let move : Instruction := { a := 200, b := 1, c := 15, modes := { immediate := true } }
    let sum : Instruction := { a := 1, b := 1, c := 3, modes := { immediate := true } }
    let jump : Instruction := { b := 10, modes := { immediate := true } }
    movingFive.execute .move move 1 = (.ok .running, (movingFive.set .ip 2).set .r1 5) ∧
    movingFive.execute (.arithmetic .add) sum 1 = movingFive.execute .move move 1 ∧
    movingFive.execute (.arithmetic .xor) sum 1 = movingFive.execute .move move 1 ∧
    movingFive.execute .move jump 1 = movingFive.execute (.branch .always) move 1 := by
  intro move sum jump
  obtain ⟨hsum, -⟩ := moves_agree movingFive 1 move sum
  obtain ⟨-, hjump⟩ := moves_agree movingFive 1 move jump
  obtain ⟨hadd, hxor⟩ := hsum ⟨⟨rfl, rfl, nofun⟩, rfl, rfl, rfl, .r1, by rfl, by decide⟩
  exact ⟨by rfl, hadd, hxor, hjump ⟨rfl, rfl, nofun⟩ (by rfl) rfl⟩

end Machine
end WordMachine
