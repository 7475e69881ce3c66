import WordMachine.Config
import WordMachine.Word

/-! What a session is asked for. -/
namespace WordMachine.CommandLine

/-- The fields that the arguments of a command are read into. -/
structure Options where
  image : String
  stackWords : Nat := ({} : Config).stackWords
  noStackGuard : Bool := false
  storeBuiltinResult : Bool := false
  entry : Word := 0
  verbosity : Nat := 0
  deriving DecidableEq, Repr

def Options.config (o : Options) : Config where
  stackWords := o.stackWords
  stackGuard := !o.noStackGuard
  storeBuiltinResult := o.storeBuiltinResult

end WordMachine.CommandLine
