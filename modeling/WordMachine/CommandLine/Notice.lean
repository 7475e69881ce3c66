import WordMachine.Event

/-! The log of a session: notices of its own, and those of the machine that it runs. -/
namespace WordMachine.CommandLine

inductive Notice
  | loaded (words : Nat) (path : String)
  | notLoaded (path : String) (fault : Fault)
  | noMemory (program stack : Nat) (fault : Fault)
  | running (path : String) (words : Nat)
  | machine (event : Event)
  | stopped (fault : Fault)
  | finalRegisters (registers : RegisterFile)
  deriving DecidableEq

namespace Notice

/-- The text of a fault followed by that of its cause, where it has one. -/
def chain (fault : Fault) : String :=
  match fault with
  | .io cause => fault.message ++ ": " ++ cause
  | .allocation cause => fault.message ++ ": " ++ cause.text
  | _ => fault.message

def level : Notice → Log.Level
  | loaded _ _ => .debug
  | running _ _ => .info
  | machine event => event.level
  | notLoaded _ _ | noMemory _ _ _ | stopped _ | finalRegisters _ => .error

def text : Notice → String
  | loaded words path => s!"loaded {words} words from {path}"
  | notLoaded path fault => s!"failed to load image '{path}': {chain fault}"
  | noMemory program stack fault =>
    s!"failed to build memory for {program} program words and {stack} stack words: {chain fault}"
  | running path words => s!"running {path} ({words} words)"
  | machine event => event.text
  | stopped fault => s!"VM runtime error: {fault.message}"
  | finalRegisters registers => s!"registers: {registers.lineText}"

/-- The name under which a filter finds the entry. -/
def origin : Notice → String
  | loaded _ _ => "rabbit_vm::loader"
  | machine event => event.origin
  | _ => "rabbit_vm"

def entry (n : Notice) : Log.Entry := ⟨n.level, n.text⟩

end Notice
end WordMachine.CommandLine
