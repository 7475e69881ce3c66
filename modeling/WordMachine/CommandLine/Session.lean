import WordMachine.CommandLine.Notice
import WordMachine.CommandLine.Options
import WordMachine.Image
import WordMachine.Machine.Run

/-! A session: the image, the run of the machine on it, and what the world sees of all that. What it
is asked for, which of its notices are shown, and what it finds around it are all given. -/
namespace WordMachine.CommandLine

structure Report where
  code : UInt8
  output : List UInt8 := []
  log : List Log.Entry := []
  deriving DecidableEq

abbrev ImageSource := String → Except Fault (List UInt8)

namespace Session

/-- A machine about to run, and what was noticed on the way to it. -/
structure Prepared where
  machine : Machine Unit
  notices : List Notice

def load (source : ImageSource) (path : String) : Except Fault (List Word) := do
  let bytes ← source path
  Image.parse bytes

/-- The words that a host gives to one machine, an eighth of the address space. -/
def hostRoom : Nat := Word.addressSpace / 8

/-- The image is loaded first, then the memory is built around it. Without either there are
only notices. -/
def prepare (o : Options) (source : ImageSource) (room : Nat) (console : Console) :
    Except (List Notice) Prepared :=
  match load source o.image with
  | .error e => .error [.notLoaded o.image e]
  | .ok program =>
    let loaded := Notice.loaded program.length o.image
    match Memory.build room program o.config.stackWords with
    | .error e => .error [loaded, .noMemory program.length o.config.stackWords e]
    | .ok mem =>
      let m := Machine.ofMemory mem o.entry o.config console
      .ok { machine := m
            notices := loaded :: m.events.toList.map .machine ++
              [.running o.image program.length] }

def conclude (result : Except Fault ExitStatus) (registers : RegisterFile) :
    ExitStatus × List Notice :=
  match result with
  | .ok status => (status, [])
  | .error e => (e.status, [.stopped e, .finalRegisters registers])

def entries (shows : Notice → Bool) (notices : List Notice) : List Log.Entry :=
  (notices.filter shows).map Notice.entry

/-- The files, the memory to be had, and what each read of the input gives. -/
structure Surroundings where
  source : ImageSource
  room : Nat := hostRoom
  stdin : List Console.ReadOutcome := []

/-- Runs an image; `none` if the machine has not ended within the limit. -/
def run (o : Options) (shows : Notice → Bool) (around : Surroundings) (limit : Nat) :
    Option Report :=
  match prepare o around.source around.room { input := around.stdin } with
  | .error notices => some { code := ExitStatus.fail.code, log := entries shows notices }
  | .ok prepared =>
    (prepared.machine.runWithin limit).map fun (result, m) =>
      let (status, last) := conclude result m.registers
      let during := m.events.toList.drop prepared.machine.events.size
      { code := status.code
        output := m.console.written
        log := entries shows (prepared.notices ++ during.map .machine ++ last) }

end Session
end WordMachine.CommandLine
