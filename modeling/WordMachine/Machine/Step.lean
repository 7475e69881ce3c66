import WordMachine.Machine.Action

/-! One step: fetch, decode, execute, guard the stack; and what ends a machine. -/
namespace WordMachine

/-- An accepted instruction together with the word that holds it. -/
structure Fetched where
  word : Word
  instruction : Instruction
  opcode : Opcode
  deriving DecidableEq, Repr

namespace Fetched

def ofWord (w : Word) : Except Fault Fetched := do
  let ins ← Instruction.decodeChecked w
  let op ← ins.opcode
  return ⟨w, ins, op⟩

theorem ofWord_eq_ok_iff {w : Word} {f : Fetched} : ofWord w = .ok f ↔
    w &&& Instruction.reservedMask = 0 ∧ f.word = w ∧ f.instruction = Instruction.decode w ∧
      (Instruction.decode w).opcode = .ok f.opcode := by
  obtain ⟨word, ins, op⟩ := f
  simp only [ofWord, Fault.bind_eq_ok_iff, Instruction.decodeChecked_eq_ok_iff, pure,
    Except.pure, Except.ok.injEq, mk.injEq]
  constructor
  · rintro ⟨_, ⟨hw, rfl⟩, _, hop, rfl, rfl, rfl⟩; exact ⟨hw, rfl, rfl, hop⟩
  · rintro ⟨hw, rfl, rfl, hop⟩; exact ⟨_, ⟨hw, rfl⟩, _, hop, rfl, rfl, rfl⟩

theorem ofWord_eq_error_iff {w : Word} {e : Fault} :
    ofWord w = .error e ↔ w &&& Instruction.reservedMask ≠ 0 ∧ e = .reservedBits w := by
  obtain ⟨op, hop⟩ := Instruction.opcode_decode_isOk w
  by_cases hw : w &&& Instruction.reservedMask = 0
  · simp [ofWord, Instruction.decodeChecked, hw, hop, bind, Except.bind, pure, Except.pure]
  · simp [ofWord, Instruction.decodeChecked, hw, bind, Except.bind, eq_comm]

end Fetched

namespace Machine

variable {σ : Type}

/-- The stack pointer may stand at the end of memory, not past it. A halt is not looked at. -/
def guardStack (m : Machine σ) : State → Except Fault State
  | .running =>
    if m.config.stackGuard ∧ m.memory.length < m.sp.toNat then
      .error (.stackOverflow m.sp m.memory.length)
    else .ok .running
  | state => .ok state

/-- The machine that executes a fetched instruction: past it, and with its fetch reported. -/
def fetched (m : Machine σ) (f : Fetched) : Machine σ :=
  let address := m.ip
  let m := m.set .ip (address + 1)
  m.report (.fetched f.opcode f.word address m.registers)

/-- Fetches at the instruction pointer, which moves on even if the word is refused,
and executes. -/
def advance (m : Machine σ) : Outcome σ State :=
  let next := m.ip + 1
  match m.memory.load m.ip with
  | .error e => (.error e, m)
  | .ok word =>
    match Fetched.ofWord word with
    | .error e => (.error e, m.set .ip next)
    | .ok f =>
      match (m.fetched f).execute f.opcode f.instruction next with
      | (.error e, m) => (.error e, m)
      | (.ok state, m) => (m.guardStack state, m)

@[simp] theorem registers_fetched (m : Machine σ) (f : Fetched) :
    (m.fetched f).registers = m.registers.set .ip (m.ip + 1) := rfl
@[simp] theorem memory_fetched (m : Machine σ) (f : Fetched) :
    (m.fetched f).memory = m.memory := rfl
@[simp] theorem builtins_fetched (m : Machine σ) (f : Fetched) :
    (m.fetched f).builtins = m.builtins := rfl
@[simp] theorem console_fetched (m : Machine σ) (f : Fetched) :
    (m.fetched f).console = m.console := rfl
@[simp] theorem config_fetched (m : Machine σ) (f : Fetched) :
    (m.fetched f).config = m.config := rfl
@[simp] theorem state_fetched (m : Machine σ) (f : Fetched) :
    (m.fetched f).state = m.state := rfl

theorem advance_of_load_error {m : Machine σ} {e : Fault} (h : m.memory.load m.ip = .error e) :
    m.advance = (.error e, m) := by simp [advance, h]

theorem advance_of_refused {m : Machine σ} {w : Word} {e : Fault}
    (hl : m.memory.load m.ip = .ok w) (hf : Fetched.ofWord w = .error e) :
    m.advance = (.error e, m.set .ip (m.ip + 1)) := by simp [advance, hl, hf]

theorem advance_of_fetched {m : Machine σ} {w : Word} {f : Fetched}
    (hl : m.memory.load m.ip = .ok w) (hf : Fetched.ofWord w = .ok f) :
    m.advance = match (m.fetched f).execute f.opcode f.instruction (m.ip + 1) with
      | (.error e, m) => (.error e, m)
      | (.ok state, m) => (m.guardStack state, m) := by simp [advance, hl, hf]

/-- What the next step is about to do, if it gets as far as doing something. -/
def nextAction? (m : Machine σ) : Option Action :=
  if m.state.isTerminal then none
  else
    let next := m.ip + 1
    let action : Except Fault Action := do
      let word ← m.memory.load m.ip
      let f ← Fetched.ofWord word
      Action.resolve f.opcode f.instruction (m.registers.set .ip next) m.memory next
    action.toOption

/-- A fault ends the machine. It is reported, and the output is flushed as well as it
can be. -/
def fail (m : Machine σ) (e : Fault) : Machine σ :=
  let m := m.report (.failed e.status m.ip e)
  { m with console := m.console.flush.2, state := .failed e.status }

def settle (m : Machine σ) (state : State) : Machine σ :=
  let m := if state = .halted then m.report (.halted (m.ip - 1)) else m
  { m with state }

/-- Executes exactly one instruction. A machine that has ended stays as it is. -/
def step (m : Machine σ) : Outcome σ State :=
  if m.state.isTerminal then (.ok m.state, m)
  else
    match m.advance with
    | (.ok state, m) => (.ok state, m.settle state)
    | (.error e, m) => (.error e, m.fail e)

@[simp] theorem step_of_isTerminal {m : Machine σ} (h : m.state.isTerminal = true) :
    m.step = (.ok m.state, m) := by simp [step, h]

theorem step_of_running {m : Machine σ} (h : m.state = .running) :
    m.step = match m.advance with
      | (.ok state, m) => (.ok state, m.settle state)
      | (.error e, m) => (.error e, m.fail e) := by simp [step, h]

@[simp] theorem state_fail (m : Machine σ) (e : Fault) :
    (m.fail e).state = .failed e.status := rfl

@[simp] theorem registers_fail (m : Machine σ) (e : Fault) :
    (m.fail e).registers = m.registers := rfl

@[simp] theorem memory_fail (m : Machine σ) (e : Fault) : (m.fail e).memory = m.memory := rfl

@[simp] theorem builtins_fail (m : Machine σ) (e : Fault) :
    (m.fail e).builtins = m.builtins := rfl

@[simp] theorem console_fail (m : Machine σ) (e : Fault) :
    (m.fail e).console = m.console.flush.2 := rfl

@[simp] theorem state_settle (m : Machine σ) (state : State) :
    (m.settle state).state = state := rfl

@[simp] theorem registers_settle (m : Machine σ) (state : State) :
    (m.settle state).registers = m.registers := by
  unfold settle
  split <;> rfl

@[simp] theorem memory_settle (m : Machine σ) (state : State) :
    (m.settle state).memory = m.memory := by
  unfold settle
  split <;> rfl

@[simp] theorem builtins_settle (m : Machine σ) (state : State) :
    (m.settle state).builtins = m.builtins := by
  unfold settle
  split <;> rfl

@[simp] theorem console_settle (m : Machine σ) (state : State) :
    (m.settle state).console = m.console := by
  unfold settle
  split <;> rfl

end Machine
end WordMachine
