import WordMachine.CommandLine.Options
import WordMachine.Text.Numeral

/-! The arguments of the command line, read from left to right. The first one that is wrong,
or that asks for help or for the version, decides. -/
namespace WordMachine.CommandLine

inductive UsageError
  | missingImage
  | emptyImage
  | unexpectedArgument (text : String)
  | unknownOption (name : String)
  | repeatedOption (name : String)
  | missingValue (name : String)
  | unexpectedValue (name : String)
  | invalidValue (name value : String)
  deriving DecidableEq, Repr

def UsageError.message : UsageError → String
  | missingImage => "no IMAGE given"
  | emptyImage => "the IMAGE has no name"
  | unexpectedArgument text => s!"unexpected argument '{text}'"
  | unknownOption name => s!"unknown option '{name}'"
  | repeatedOption name => s!"option '{name}' given more than once"
  | missingValue name => s!"option '{name}' needs a value"
  | unexpectedValue name => s!"option '{name}' takes no value"
  | invalidValue name value => s!"invalid value '{value}' for option '{name}'"

inductive Stop
  | help
  | version
  | usage (e : UsageError)
  deriving DecidableEq, Repr

inductive Argument
  | terminator
  | long (name : String) (value? : Option String)
  | short (letters : List Char)
  | plain (text : String)
  deriving DecidableEq, Repr

/-- A value is cut off at the first equals sign. One hyphen alone is plain text. -/
def Argument.ofText (text : String) : Argument :=
  match text.toList with
  | ['-', '-'] => .terminator
  | '-' :: '-' :: body =>
    let name := String.ofList (body.takeWhile (· != '='))
    match body.dropWhile (· != '=') with
    | [] => .long name none
    | _ :: value => .long name (some (String.ofList value))
  | '-' :: c :: cs => .short (c :: cs)
  | _ => .plain text

inductive Switch
  | noStackGuard | storeBuiltinResult | verbose | help | version
  deriving DecidableEq, Repr

namespace Switch

def ofName? (name : String) : Option Switch :=
  match name with
  | "no-stack-guard" => some noStackGuard
  | "store-builtin-result" => some storeBuiltinResult
  | "verbose" => some verbose
  | "help" => some help
  | "version" => some version
  | _ => none

def ofLetter? (letter : Char) : Option Switch :=
  match letter with
  | 'v' => some verbose
  | 'h' => some help
  | 'V' => some version
  | _ => none

end Switch

inductive Setting
  | stackWords | entry
  deriving DecidableEq, Repr

namespace Setting

def name : Setting → String
  | stackWords => "stack-words"
  | entry => "entry"

def ofName? (name : String) : Option Setting :=
  match name with
  | "stack-words" => some stackWords
  | "entry" => some entry
  | _ => none

end Setting

/-- A count of stack words below `2 ^ 64`. -/
def stackWords? (text : String) : Option Nat :=
  (Text.Numeral.natural? text.toList).filter (· < UInt64.size)

/-- An address. A minus sign is allowed before zero. -/
def entry? (text : String) : Option Word :=
  ((Text.Numeral.integer? text.toList).filter fun n => 0 ≤ n ∧ n.toNat < Word.addressSpace).map
    fun n => UInt32.ofNat n.toNat

structure Draft where
  image : Option String := none
  stackWords : Option Nat := none
  entry : Option Word := none
  noStackGuard : Bool := false
  storeBuiltinResult : Bool := false
  verbosity : Nat := 0
  deriving DecidableEq, Repr

namespace Draft

/-- Only the verbosity may be asked for again. -/
def turnOn (d : Draft) (switch : Switch) : Except Stop Draft :=
  match switch with
  | .noStackGuard =>
    if d.noStackGuard then .error (.usage (.repeatedOption "no-stack-guard"))
    else .ok { d with noStackGuard := true }
  | .storeBuiltinResult =>
    if d.storeBuiltinResult then .error (.usage (.repeatedOption "store-builtin-result"))
    else .ok { d with storeBuiltinResult := true }
  | .verbose => .ok { d with verbosity := d.verbosity + 1 }
  | .help => .error .help
  | .version => .error .version

def letter (d : Draft) (c : Char) : Except Stop Draft :=
  match Switch.ofLetter? c with
  | some switch => d.turnOn switch
  | none => .error (.usage (.unknownOption (String.ofList ['-', c])))

def assign (d : Draft) (setting : Setting) (text : String) : Except Stop Draft :=
  match setting with
  | .stackWords =>
    if d.stackWords.isSome then .error (.usage (.repeatedOption setting.name))
    else
      match stackWords? text with
      | some n => .ok { d with stackWords := some n }
      | none => .error (.usage (.invalidValue setting.name text))
  | .entry =>
    if d.entry.isSome then .error (.usage (.repeatedOption setting.name))
    else
      match entry? text with
      | some w => .ok { d with entry := some w }
      | none => .error (.usage (.invalidValue setting.name text))

def place (d : Draft) (text : String) : Except Stop Draft :=
  if d.image.isSome then .error (.usage (.unexpectedArgument text))
  else if text = "" then .error (.usage .emptyImage)
  else .ok { d with image := some text }

def finish (d : Draft) : Except Stop Options :=
  match d.image with
  | none => .error (.usage .missingImage)
  | some image =>
    let default : Options := { image }
    .ok { default with
          stackWords := d.stackWords.getD default.stackWords
          noStackGuard := d.noStackGuard
          storeBuiltinResult := d.storeBuiltinResult
          entry := d.entry.getD default.entry
          verbosity := d.verbosity }

/-- Reads the arguments that follow. The argument after an option with a value is that value,
unless it has the shape of an option. -/
def read (d : Draft) : List String → Except Stop Draft
  | [] => .ok d
  | arg :: rest =>
    match Argument.ofText arg with
    | .terminator => rest.foldlM place d
    | .plain text => do read (← d.place text) rest
    | .short letters => do read (← letters.foldlM letter d) rest
    | .long name value? =>
      match Setting.ofName? name, Switch.ofName? name with
      | some setting, _ =>
        match value?, rest with
        | some value, rest => do read (← d.assign setting value) rest
        | none, [] => .error (.usage (.missingValue name))
        | none, next :: rest =>
          match Argument.ofText next with
          | .plain value => do read (← d.assign setting value) rest
          | _ => .error (.usage (.missingValue name))
      | none, some switch =>
        match value? with
        | none => do read (← d.turnOn switch) rest
        | some _ => .error (.usage (.unexpectedValue name))
      | none, none => .error (.usage (.unknownOption name))

end Draft

def parse (args : List String) : Except Stop Options := do
  (← ({} : Draft).read args).finish

end WordMachine.CommandLine
