import WordMachine.CommandLine.Filter

/-! How much of the log is shown: a filter text decides if it is a valid one, else the number of
times that more was asked for. -/
namespace WordMachine.CommandLine

open Log

def defaultThreshold : Nat → Threshold
  | 0 => some .warn
  | 1 => some .debug
  | _ => some .trace

/-- All entries alike, as much as was asked for. -/
def Filter.ofVerbosity (verbosity : Nat) : Filter := ⟨[{ threshold := defaultThreshold verbosity }]⟩

/-- There is no choice if the text tears a character. -/
def Filter.choose? (text : Option String) (verbosity : Nat) : Option Filter :=
  match text.map Filter.parse with
  | some (.ok f) => some f
  | some (.error .torn) => none
  | some (.error .invalid) | none => some (.ofVerbosity verbosity)

end WordMachine.CommandLine
