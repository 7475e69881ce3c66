/-! Settings of a machine. -/
namespace WordMachine

structure Config where
  /-- Zeroed words after the program. -/
  stackWords : Nat := 65536
  /-- Whether a stack pointer past the end of memory is a fault. -/
  stackGuard : Bool := true
  /-- Whether the word that a builtin returns goes to a register. -/
  storeBuiltinResult : Bool := false
  deriving DecidableEq, Repr

end WordMachine
