import WordMachine.Machine.Basic

/-! What an instruction is about to do once its operands are resolved. Resolving changes
nothing, so an instruction that cannot be resolved leaves the machine as it was. -/
namespace WordMachine

/-- `next` is the instruction pointer that the action sets before all else. -/
inductive Action
  | halt
  /-- Puts `w` where it belongs, then sets the zero flag if `flag` holds. -/
  | assign (next : Word) (dst : Destination) (w : Word) (flag : Bool)
  | jump (next : Word)
  | read (dst : Destination)
  | write (next : Word) (byte : UInt8)
  | call (next : Word) (index : Word)
  deriving DecidableEq, Repr

namespace Action

/-- A divisor of zero is found after the operands and before anything is written. -/
def ofArithmetic (op : Arithmetic) (ops : Operands) : Except Fault Action :=
  if op = .div ∧ ops.c = 0 then .error .divisionByZero
  else
    let w := op.apply ops.b ops.c
    .ok (.assign ops.next ops.destination w (op = .sub ∧ w = 0))

/-- The action of an instruction whose operands follow at `ip`. A branch resolves its
target also when it is not taken; reading has its destination in the field c and takes
no immediate word. -/
def resolve (op : Opcode) (ins : Instruction) (file : RegisterFile) (mem : Memory) (ip : Word) :
    Except Fault Action :=
  match op with
  | .halt => .ok .halt
  | .move => do
    let dst ← Operand.destination file ins.b ins.modes.derefB
    let src ← Operand.single file mem ins ip
    return .assign src.next dst src.value false
  | .arithmetic op => do
    let ops ← Operand.triple file mem ins ip
    ofArithmetic op ops
  | .branch condition => do
    let target ← Operand.single file mem ins ip
    return .jump (if condition.holds file then target.value else target.next)
  | .input => do
    let dst ← Operand.destination file ins.c ins.modes.derefC
    return .read dst
  | .output => do
    let src ← Operand.single file mem ins ip
    return .write src.next src.value.toUInt8
  | .builtin => do
    let src ← Operand.single file mem ins ip
    return .call src.next src.value

end Action

namespace Machine

variable {σ : Type}

def readWord (m : Machine σ) : Outcome σ Word :=
  match m.onConsole Console.flush with
  | (.error e, m) => (.error e, m)
  | (.ok (), m) => m.onConsole Console.read

/-- Carries out an action. A machine that goes on is running; only a halt ends it here. -/
def perform (m : Machine σ) : Action → Outcome σ State
  | .halt =>
    match m.onConsole Console.flush with
    | (.error e, m) => (.error e, m)
    | (.ok (), m) => (.ok .halted, m)
  | .assign next dst w flag =>
    match (m.set .ip next).assign dst w with
    | (.error e, m) => (.error e, m)
    | (.ok (), m) =>
      (.ok .running, if flag then { m with registers := m.registers.setZeroFlag } else m)
  | .jump next => (.ok .running, m.set .ip next)
  | .read dst =>
    match m.readWord with
    | (.error e, m) => (.error e, m)
    | (.ok w, m) =>
      match m.assign dst w with
      | (.error e, m) => (.error e, m)
      | (.ok (), m) => (.ok .running, m)
  | .write next byte =>
    match (m.set .ip next).onConsole (Console.write · byte) with
    | (.error e, m) => (.error e, m)
    | (.ok (), m) => (.ok .running, m)
  | .call next index =>
    let m := m.set .ip next
    match m.builtins.call index m.registers m.memory with
    | .error e => (.error e, m)
    | .ok c =>
      (.ok .running,
        { m with
          registers := if m.config.storeBuiltinResult then c.registers.set .ret c.value
                       else c.registers
          memory := c.memory
          builtins := c.table
          events := m.events ++ c.events })

/-- Executes an instruction whose operands follow at `ip`. A halt is executed like any other: its
flush is here, and the step that it ends makes no other. -/
def execute (m : Machine σ) (op : Opcode) (ins : Instruction) (ip : Word) : Outcome σ State :=
  match Action.resolve op ins m.registers m.memory ip with
  | .error e => (.error e, m)
  | .ok action => m.perform action

theorem execute_of_error {m : Machine σ} {op : Opcode} {ins : Instruction} {ip : Word} {e : Fault}
    (h : Action.resolve op ins m.registers m.memory ip = .error e) :
    m.execute op ins ip = (.error e, m) := by simp [execute, h]

theorem execute_of_ok {m : Machine σ} {op : Opcode} {ins : Instruction} {ip : Word}
    {action : Action} (h : Action.resolve op ins m.registers m.memory ip = .ok action) :
    m.execute op ins ip = m.perform action := by simp [execute, h]

end Machine
end WordMachine
