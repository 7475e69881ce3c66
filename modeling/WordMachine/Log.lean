/-! Log entries and the levels that decide which of them are shown. -/
namespace WordMachine.Log

inductive Level
  | error | warn | info | debug | trace
  deriving DecidableEq, Repr

namespace Level

def detail : Level → Nat
  | error => 1
  | warn => 2
  | info => 3
  | debug => 4
  | trace => 5

def name : Level → String
  | error => "ERROR"
  | warn => "WARN"
  | info => "INFO"
  | debug => "DEBUG"
  | trace => "TRACE"

end Level

structure Entry where
  level : Level
  text : String
  deriving DecidableEq, Repr

/-- The most detailed level that is shown; `none` shows nothing. -/
abbrev Threshold := Option Level

namespace Threshold

def shows : Threshold → Level → Bool
  | none, _ => false
  | some limit, level => level.detail ≤ limit.detail

@[simp] theorem shows_trace (level : Level) : shows (some .trace) level = true := by
  cases level <;> rfl

end Threshold
end WordMachine.Log
