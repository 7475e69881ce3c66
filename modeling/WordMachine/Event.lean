import WordMachine.Instruction
import WordMachine.Log

/-! What a machine reports while it works. -/
namespace WordMachine

inductive Event
  | created (program memory : Nat) (entry : Word)
  /-- An instruction was fetched and accepted; the registers are those after the fetch. -/
  | fetched (op : Opcode) (word address : Word) (registers : RegisterFile)
  | called (index : Word) (name : String)
  /-- A builtin reported something of its own. -/
  | reported (entry : Log.Entry)
  | halted (address : Word)
  | failed (status : ExitStatus) (ip : Word) (fault : Fault)
  deriving DecidableEq

namespace Event

def level : Event → Log.Level
  | created _ _ _ | called _ _ | halted _ => .debug
  | fetched _ _ _ _ => .trace
  | reported entry => entry.level
  | failed _ _ _ => .warn

def text : Event → String
  | created program memory entry =>
    s!"VM created: program={program} words, memory={memory} words, entry={entry}"
  | fetched op word address registers =>
    s!"{op.name}({Word.hexPadded word}) ip={address} regs={registers.lineText}"
  | called index name => s!"BIF {index} ({name})"
  | reported entry => entry.text
  | halted address => s!"HALT at ip={address}"
  | failed status ip fault => s!"VM failed with {status.name} at ip={ip}: {fault.message}"

/-- The name under which a filter finds the entry. -/
def origin : Event → String
  | called _ _ | reported _ => "rabbit_vm::builtins"
  | _ => "rabbit_vm::vm"

def entry (e : Event) : Log.Entry := ⟨e.level, e.text⟩

/-- The line of the log for an event: its level, and the text that tells it. -/
inductive HasLine : Event → Log.Entry → Prop
  | created (program memory : Nat) (entry : Word) :
    HasLine (.created program memory entry)
      ⟨.debug, "VM created: program=" ++ toString program ++ " words, memory=" ++
        toString memory ++ " words, entry=" ++ toString entry⟩
  | fetched (op : Opcode) (word address : Word) (registers : RegisterFile) :
    HasLine (.fetched op word address registers)
      ⟨.trace, op.name ++ "(" ++ word.hexPadded ++ ") ip=" ++ toString address ++ " regs=" ++
        registers.lineText⟩
  | called (index : Word) (name : String) :
    HasLine (.called index name) ⟨.debug, "BIF " ++ toString index ++ " (" ++ name ++ ")"⟩
  | reported (entry : Log.Entry) : HasLine (.reported entry) entry
  | halted (address : Word) : HasLine (.halted address) ⟨.debug, "HALT at ip=" ++ toString address⟩
  | failed (status : ExitStatus) (ip : Word) {fault : Fault} {text : String}
    (h : fault.HasText text) :
    HasLine (.failed status ip fault)
      ⟨.warn, "VM failed with " ++ status.name ++ " at ip=" ++ toString ip ++ ": " ++ text⟩

theorem hasLine_entry (e : Event) : e.HasLine e.entry := by
  cases e with
  | failed status ip fault => exact .failed status ip fault.hasText_message
  | _ => constructor

end Event
end WordMachine
