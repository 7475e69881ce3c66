import WordMachine.CommandLine.Start

/-! The command. Outcomes of the real streams are put on the machine's scripts just before
the step that asks for them, and what a step brings is shown before the next one. -/
namespace WordMachine.Main

open CommandLine

/-- The text of an error of the system. Its code may come with its sign turned. -/
def systemText (code : UInt32) (details : String) : String :=
  let code := if code < 0x80000000 then code else 0 - code
  s!"{details.capitalize} (os error {code})"

def ioText (e : IO.Error) : String :=
  match e with
  | .noFileOrDirectory _ code details | .inappropriateType _ code details
  | .permissionDenied _ code details | .resourceExhausted _ code details
  | .otherError code details => systemText code details
  | e => e.toString

/-- The part of the world that a session works on. -/
structure World where
  stdin : IO.FS.Stream
  stdout : IO.FS.Stream
  stderr : IO.FS.Stream
  filter : Filter

namespace World

def log (w : World) (notices : List Notice) : IO Unit :=
  for e in Session.entries w.filter.shows notices do
    w.stderr.putStrLn s!"{e.level.name} {(shown e).text}"

def flush (w : World) : IO Console.FlushOutcome := do
  try
    w.stdout.flush
    return .done
  catch e => return .failed (ioText e)

def write (w : World) (b : UInt8) : IO Console.WriteOutcome := do
  try
    w.stdout.write ⟨#[b]⟩
    return .accepted
  catch e => return .failed (ioText e)

def read (w : World) : IO Console.ReadOutcome := do
  try
    let bytes ← w.stdin.read 1
    return if h : 0 < bytes.size then .byte bytes[0] else .endOfInput
  catch e => return .failed (ioText e)

/-- Puts on the scripts what the streams answer to the next step. -/
def feed (w : World) (m : Machine Unit) : IO (Machine Unit) := do
  match m.nextAction? with
  | some (.write _ b) => return { m with console.writes := [← w.write b] }
  | some (.read _) =>
    match ← w.flush with
    | .done => return { m with console.flushes := [.done], console.input := [← w.read] }
    | outcome => return { m with console.flushes := [outcome] }
  | some .halt => return { m with console.flushes := [← w.flush] }
  | _ => return m

def rest (m : Machine Unit) : Machine Unit := { m with events := #[], console.calls := #[] }

partial def run (w : World) (m : Machine Unit) : IO (Except Fault ExitStatus × Machine Unit) := do
  match m.state.exitStatus? with
  | some status => return (.ok status, m)
  | none =>
    let (r, m) := (← w.feed (rest m)).step
    w.log (m.events.toList.map .machine)
    match r with
    | .ok _ => w.run m
    | .error e => return (.error e, m)

end World

def readImage (path : String) : IO (Except Fault (List UInt8)) := do
  try
    return .ok (← IO.FS.readBinFile path).toList
  catch e => return .error (.io (ioText e))

def session (w : World) (o : Options) : IO ExitStatus := do
  let bytes ← readImage o.image
  match Session.prepare o (fun _ => bytes) Session.hostRoom {} with
  | .error notices =>
    w.log notices
    return .fail
  | .ok prepared =>
    w.log prepared.notices
    let (r, m) ← w.run prepared.machine
    let (status, last) := Session.conclude r m.registers
    discard w.flush
    w.log last
    return status

def command (args : List String) : IO UInt8 := do
  let stdout ← IO.getStdout
  let stderr ← IO.getStderr
  match parse args with
  | .error .help =>
    stdout.putStr help
    return ExitStatus.success.code
  | .error .version =>
    stdout.putStr version
    return ExitStatus.success.code
  | .error (.usage e) =>
    stderr.putStrLn s!"error: {e.message}"
    return ExitStatus.fail.code
  | .ok o =>
    match Filter.choose? (← IO.getEnv "RUST_LOG") o.verbosity with
    | none => return brokenCode
    | some filter => return (← session ⟨← IO.getStdin, stdout, stderr, filter⟩ o).code

end WordMachine.Main

def main (args : List String) : IO UInt32 := do
  return (← WordMachine.Main.command args).toUInt32
