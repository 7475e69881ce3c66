import WordMachine.Word

/-! What stops a machine: the causes, their texts, and the exit status each one ends with. -/
namespace WordMachine

inductive ExitStatus
  | success | fail | overflow | illegal
  deriving DecidableEq, Repr

namespace ExitStatus

def code : ExitStatus → UInt8
  | success => 0
  | fail => 1
  | overflow => 2
  | illegal => 3

def name : ExitStatus → String
  | success => "Success"
  | fail => "Fail"
  | overflow => "Overflow"
  | illegal => "Illegal"

end ExitStatus

inductive Shortage
  /-- More than a collection can hold. -/
  | capacity
  /-- More than the host gives. -/
  | refused
  deriving DecidableEq, Repr

def Shortage.text : Shortage → String
  | capacity => "memory allocation failed because the computed capacity exceeded the " ++
    "collection's maximum"
  | refused => "memory allocation failed because the memory allocator returned an error"

/-- Every fault is final: the machine that meets it never fetches again. -/
inductive Fault
  | invalidOpcode (code : UInt8)
  | reservedBits (word : Word)
  | divisionByZero
  | invalidRegister (index : UInt8)
  | memoryOutOfBounds (address : Word) (length : Nat)
  | invalidBuiltin (index : Word) (length : Nat)
  | stackOverflow (sp : Word) (length : Nat)
  | misalignedImage (bytes : Nat)
  | memoryTooLarge (program stack : Nat)
  | allocation (cause : Shortage)
  | io (text : String)
  deriving DecidableEq, Repr

namespace Fault

/-- Malformed code is illegal; what the surroundings cannot give is a failure. -/
def status : Fault → ExitStatus
  | invalidOpcode _ | reservedBits _ | divisionByZero | invalidRegister _
  | memoryOutOfBounds _ _ => .illegal
  | stackOverflow _ _ => .overflow
  | invalidBuiltin _ _ | misalignedImage _ | memoryTooLarge _ _ | allocation _ | io _ => .fail

@[simp] theorem status_ne_success (e : Fault) : e.status ≠ .success := by
  cases e <;> simp [status]

def message : Fault → String
  | invalidOpcode code => s!"invalid opcode: {code}"
  | reservedBits word => s!"reserved bits set in instruction word {Word.hexPadded word}"
  | divisionByZero => "division by zero"
  | invalidRegister index => s!"register index {index} out of range"
  | memoryOutOfBounds address length =>
    s!"memory access out of bounds at address {Word.hex address} (memory holds {length} words)"
  | invalidBuiltin index length =>
    s!"builtin index {index} out of range (table holds {length} entries)"
  | stackOverflow sp length => s!"stack pointer {Word.hex sp} exceeds memory of {length} words"
  | misalignedImage bytes => s!"program image length {bytes} is not a multiple of 4 bytes"
  | memoryTooLarge program stack =>
    s!"memory of {program} program words plus {stack} stack words exceeds the 32-bit address space"
  | allocation cause => "failed to allocate memory: " ++ cause.text
  | io text => "I/O error: " ++ text

/-- The text of a fault, with all that the fault has. -/
inductive HasText : Fault → String → Prop
  | invalidOpcode (code : UInt8) :
    HasText (.invalidOpcode code) ("invalid opcode: " ++ toString code)
  | reservedBits (word : Word) :
    HasText (.reservedBits word) ("reserved bits set in instruction word " ++ word.hexPadded)
  | divisionByZero : HasText .divisionByZero "division by zero"
  | invalidRegister (index : UInt8) :
    HasText (.invalidRegister index) ("register index " ++ toString index ++ " out of range")
  | memoryOutOfBounds (address : Word) (length : Nat) :
    HasText (.memoryOutOfBounds address length) ("memory access out of bounds at address " ++
      address.hex ++ " (memory holds " ++ toString length ++ " words)")
  | invalidBuiltin (index : Word) (length : Nat) :
    HasText (.invalidBuiltin index length) ("builtin index " ++ toString index ++
      " out of range (table holds " ++ toString length ++ " entries)")
  | stackOverflow (sp : Word) (length : Nat) :
    HasText (.stackOverflow sp length)
      ("stack pointer " ++ sp.hex ++ " exceeds memory of " ++ toString length ++ " words")
  | misalignedImage (bytes : Nat) :
    HasText (.misalignedImage bytes)
      ("program image length " ++ toString bytes ++ " is not a multiple of 4 bytes")
  | memoryTooLarge (program stack : Nat) :
    HasText (.memoryTooLarge program stack) ("memory of " ++ toString program ++
      " program words plus " ++ toString stack ++ " stack words exceeds the 32-bit address space")
  | allocation (cause : Shortage) :
    HasText (.allocation cause) ("failed to allocate memory: " ++ cause.text)
  | io (text : String) : HasText (.io text) ("I/O error: " ++ text)

theorem hasText_message (e : Fault) : e.HasText e.message := by
  cases e <;> constructor

/-! A computation that may meet a fault goes on only from a value. -/

theorem bind_eq_ok_iff {α β : Type} {x : Except Fault α} {f : α → Except Fault β} {b : β} :
    x >>= f = .ok b ↔ ∃ a, x = .ok a ∧ f a = .ok b := by
  cases x <;> simp [bind, Except.bind]

theorem bind_eq_error_iff {α β : Type} {x : Except Fault α} {f : α → Except Fault β} {e : Fault} :
    x >>= f = .error e ↔ x = .error e ∨ ∃ a, x = .ok a ∧ f a = .error e := by
  cases x <;> simp [bind, Except.bind]

theorem map_eq_ok_iff {α β : Type} {x : Except Fault α} {f : α → β} {b : β} :
    x.map f = .ok b ↔ ∃ a, x = .ok a ∧ f a = b := by
  cases x <;> simp [Except.map]

theorem map_eq_error_iff {α β : Type} {x : Except Fault α} {f : α → β} {e : Fault} :
    x.map f = .error e ↔ x = .error e := by
  cases x <;> simp [Except.map]

end Fault
end WordMachine
