import WordMachine.Operand
import WordMachine.Builtin.Standard
import WordMachine.Console
import WordMachine.Config

/-! The machine: registers, memory, builtins, console and settings, whether it still runs,
and what it reported. -/
namespace WordMachine

inductive State
  | running
  | halted
  | failed (status : ExitStatus)
  deriving DecidableEq, Repr

namespace State

def exitStatus? : State → Option ExitStatus
  | running => none
  | halted => some .success
  | failed status => some status

def isTerminal (s : State) : Bool := s.exitStatus?.isSome

def name : State → String
  | running => "Running"
  | halted => "Halted"
  | failed status => "Failed(" ++ status.name ++ ")"

@[simp] theorem isTerminal_eq_false_iff (s : State) : s.isTerminal = false ↔ s = running := by
  cases s <;> simp [isTerminal, exitStatus?]

@[simp] theorem isTerminal_running : running.isTerminal = false := rfl
@[simp] theorem isTerminal_halted : halted.isTerminal = true := rfl
@[simp] theorem isTerminal_failed (status : ExitStatus) : (failed status).isTerminal = true := rfl

end State

structure Machine (σ : Type) where
  registers : RegisterFile
  memory : Memory
  builtins : Builtin.Table σ
  console : Console := {}
  config : Config := {}
  state : State := .running
  events : Array Event := #[]

namespace Machine

variable {σ : Type}

def set (m : Machine σ) (r : Register) (w : Word) : Machine σ :=
  { m with registers := m.registers.set r w }

def report (m : Machine σ) (e : Event) : Machine σ := { m with events := m.events.push e }

def ip (m : Machine σ) : Word := m.registers.get .ip

def sp (m : Machine σ) : Word := m.registers.get .sp

/-- A machine about to start on a prepared memory. Its stack pointer is the length of
the program, cut to a word. -/
def ofMemory [Inhabited σ] (mem : Memory) (entry : Word) (config : Config)
    (console : Console) : Machine σ where
  registers := (RegisterFile.zeros.set .ip entry).set .sp (UInt32.ofNat mem.programLength)
  memory := mem
  builtins := .standard
  console
  config
  events := #[.created mem.programLength mem.length entry]

def ofProgram [Inhabited σ] (program : List Word) (config : Config) (console : Console) :
    Except Fault (Machine σ) :=
  (Memory.ofProgram program config.stackWords).map fun mem => ofMemory mem 0 config console

def withBuiltins (m : Machine σ) (table : Builtin.Table σ) : Machine σ :=
  { m with builtins := table }

def withStackPointer (m : Machine σ) (w : Word) : Machine σ := m.set .sp w

/-- A result together with the machine that gave it, changed even when it is a fault. -/
abbrev Outcome (σ α : Type) := Except Fault α × Machine σ

def assign (m : Machine σ) (dst : Destination) (w : Word) : Outcome σ Unit :=
  match dst with
  | .register r => (.ok (), m.set r w)
  | .cell address =>
    if h : address.toNat < m.memory.length then
      (.ok (), { m with memory := m.memory.put address w h })
    else (.error (m.memory.outOfBounds address), m)

/-- Works on the console, which is taken out of the machine meanwhile so that it is
changed in place. -/
def onConsole {α : Type} (m : Machine σ) (f : Console → Except Fault α × Console) :
    Outcome σ α :=
  let con := m.console
  let m := { m with console := {} }
  let (r, con) := f con
  (r, { m with console := con })

@[simp] theorem registers_set (m : Machine σ) (r : Register) (w : Word) :
    (m.set r w).registers = m.registers.set r w := rfl
@[simp] theorem memory_set (m : Machine σ) (r : Register) (w : Word) :
    (m.set r w).memory = m.memory := rfl
@[simp] theorem builtins_set (m : Machine σ) (r : Register) (w : Word) :
    (m.set r w).builtins = m.builtins := rfl
@[simp] theorem console_set (m : Machine σ) (r : Register) (w : Word) :
    (m.set r w).console = m.console := rfl
@[simp] theorem config_set (m : Machine σ) (r : Register) (w : Word) :
    (m.set r w).config = m.config := rfl
@[simp] theorem state_set (m : Machine σ) (r : Register) (w : Word) :
    (m.set r w).state = m.state := rfl
@[simp] theorem events_set (m : Machine σ) (r : Register) (w : Word) :
    (m.set r w).events = m.events := rfl

@[simp] theorem ip_set (m : Machine σ) (w : Word) : (m.set .ip w).ip = w := by simp [ip]

theorem ip_set_of_ne (m : Machine σ) {r : Register} (h : .ip ≠ r) (w : Word) :
    (m.set r w).ip = m.ip := RegisterFile.get_set_ne _ h w

@[simp] theorem events_report (m : Machine σ) (e : Event) :
    (m.report e).events.toList = m.events.toList ++ [e] := by simp [report]

@[simp] theorem sp_ofMemory [Inhabited σ] (mem : Memory) (entry : Word) (config : Config)
    (console : Console) :
    (ofMemory mem entry config console : Machine σ).sp = UInt32.ofNat mem.programLength := by
  simp [sp, ofMemory]

theorem sp_ofMemory_le [Inhabited σ] (mem : Memory) (entry : Word) (config : Config)
    (console : Console) :
    (ofMemory mem entry config console : Machine σ).sp.toNat ≤ mem.length := by
  rw [sp_ofMemory, UInt32.toNat_ofNat']
  exact Nat.le_trans (Nat.mod_le _ _) mem.programLength_le_length

theorem onConsole_eq {α : Type} (m : Machine σ) (f : Console → Except Fault α × Console) :
    m.onConsole f = ((f m.console).1, { m with console := (f m.console).2 }) := rfl

@[simp] theorem assign_register (m : Machine σ) (r : Register) (w : Word) :
    m.assign (.register r) w = (.ok (), m.set r w) := rfl

theorem assign_cell_of_lt (m : Machine σ) {address : Word} (w : Word)
    (h : address.toNat < m.memory.length) : m.assign (.cell address) w =
      (.ok (), { m with memory := m.memory.put address w h }) := by simp [assign, h]

theorem assign_cell_of_le (m : Machine σ) {address : Word} (w : Word)
    (h : m.memory.length ≤ address.toNat) : m.assign (.cell address) w =
      (.error (.memoryOutOfBounds address m.memory.length), m) := by
  simp [assign, Nat.not_lt.mpr h, Memory.outOfBounds]

end Machine
end WordMachine
