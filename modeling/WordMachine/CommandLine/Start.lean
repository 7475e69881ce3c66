import WordMachine.CommandLine.Arguments
import WordMachine.CommandLine.Session
import WordMachine.CommandLine.Verbosity
import WordMachine.Text.Terminal

/-! How a session comes about: arguments and a filter text are read, and its log is shown on a
terminal. -/
namespace WordMachine.CommandLine

def version : String := "rabbit_vm 0.1.0\n"

def help : String := "Run a rabbit bytecode image

Usage: rabbit_vm [OPTIONS] <IMAGE>

Arguments:
  <IMAGE>  Program image: big-endian 32-bit words, loaded at address 0

Options:
      --stack-words <STACK_WORDS>  Words of zeroed stack space placed after the program [default: 65536]
      --no-stack-guard             Do not fail with OVERFLOW when SP runs past the end of memory
      --store-builtin-result       Store builtin return values in RET
      --entry <ENTRY>              Initial instruction pointer [default: 0]
  -v, --verbose...                 Increase log verbosity (-v debug, -vv trace)
  -h, --help                       Print help
  -V, --version                    Print version
"

def Filter.shows (f : Filter) (n : Notice) : Bool := (f.threshold n.origin).shows n.level

/-- No text in the log may steer the terminal. -/
def shown (e : Log.Entry) : Log.Entry := { e with text := Text.Terminal.sanitize e.text }

def brokenCode : UInt8 := 101

/-- What is wrong with the arguments is said elsewhere than in the log. -/
def start (args : List String) (filterText : Option String) (around : Session.Surroundings)
    (limit : Nat) : Option Report :=
  match parse args with
  | .error .help => some { code := ExitStatus.success.code, output := help.toUTF8.toList }
  | .error .version => some { code := ExitStatus.success.code, output := version.toUTF8.toList }
  | .error (.usage _) => some { code := ExitStatus.fail.code }
  | .ok o =>
    match Filter.choose? filterText o.verbosity with
    | none => some { code := brokenCode }
    | some filter =>
      (Session.run o filter.shows around limit).map fun r => { r with log := r.log.map shown }

end WordMachine.CommandLine
