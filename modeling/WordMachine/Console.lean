import WordMachine.Fault

/-! The two byte streams of a machine. Each call on a stream takes the next outcome of a
script; a script that ran out gives end of input, or success. All calls are remembered. -/
namespace WordMachine

namespace Console

inductive ReadOutcome
  | byte (b : UInt8)
  | endOfInput
  | interrupted
  | failed (text : String)
  deriving DecidableEq, Repr

inductive WriteOutcome
  | accepted
  | interrupted
  /-- The stream took nothing, and will not. -/
  | refused
  | failed (text : String)
  deriving DecidableEq, Repr

inductive FlushOutcome
  | done
  | interrupted
  | failed (text : String)
  deriving DecidableEq, Repr

inductive Call
  | read (outcome : ReadOutcome)
  | write (byte : UInt8) (outcome : WriteOutcome)
  | flush (outcome : FlushOutcome)
  deriving DecidableEq, Repr

namespace Call

def isRead : Call → Bool
  | read _ => true
  | _ => false

def isWrite : Call → Bool
  | write _ _ => true
  | _ => false

def isFlush : Call → Bool
  | flush _ => true
  | _ => false

def accepted? : Call → Option UInt8
  | write b .accepted => some b
  | _ => none

end Call

/-- What a program reads when the input has ended. -/
def endWord : Word := 0xFFFFFFFF

def interruptedText : String := "interrupted"

def ReadOutcome.result : ReadOutcome → Except Fault Word
  | byte b => .ok b.toUInt32
  | endOfInput => .ok endWord
  | interrupted => .error (.io interruptedText)
  | failed text => .error (.io text)

def WriteOutcome.result : WriteOutcome → Except Fault Unit
  | accepted => .ok ()
  | interrupted => .error (.io interruptedText)
  | refused => .error (.io "failed to write whole buffer")
  | failed text => .error (.io text)

def FlushOutcome.result : FlushOutcome → Except Fault Unit
  | done => .ok ()
  | interrupted => .error (.io interruptedText)
  | failed text => .error (.io text)

def ReadOutcome.first (script : List ReadOutcome) : ReadOutcome :=
  (script.dropWhile (· == .interrupted)).headD .endOfInput

def WriteOutcome.first (script : List WriteOutcome) : WriteOutcome :=
  (script.dropWhile (· == .interrupted)).headD .accepted

end Console

structure Console where
  input : List Console.ReadOutcome := []
  writes : List Console.WriteOutcome := []
  flushes : List Console.FlushOutcome := []
  /-- The calls made so far, oldest first. -/
  calls : Array Console.Call := #[]
  deriving DecidableEq

namespace Console

def record (con : Console) (call : Call) : Console := { con with calls := con.calls.push call }

def written (con : Console) : List UInt8 := con.calls.toList.filterMap Call.accepted?

/-- An interrupted flush is not tried again. -/
def flush (con : Console) : Except Fault Unit × Console :=
  let outcome := con.flushes.headD .done
  (outcome.result, { con with flushes := con.flushes.tail }.record (.flush outcome))

/-- Reads along a script up to the first outcome that is no interruption. -/
def readLoop : List ReadOutcome → Console → Except Fault Word × Console
  | [], con =>
    (ReadOutcome.endOfInput.result, { con with input := [] }.record (.read .endOfInput))
  | .interrupted :: rest, con => readLoop rest (con.record (.read .interrupted))
  | outcome :: rest, con => (outcome.result, { con with input := rest }.record (.read outcome))

def read (con : Console) : Except Fault Word × Console := readLoop con.input con

/-- Offers a byte along a script up to the first outcome that is no interruption. -/
def writeLoop (b : UInt8) : List WriteOutcome → Console → Except Fault Unit × Console
  | [], con =>
    (WriteOutcome.accepted.result, { con with writes := [] }.record (.write b .accepted))
  | .interrupted :: rest, con => writeLoop b rest (con.record (.write b .interrupted))
  | outcome :: rest, con => (outcome.result, { con with writes := rest }.record (.write b outcome))

def write (con : Console) (b : UInt8) : Except Fault Unit × Console := writeLoop b con.writes con

@[simp] theorem input_record (con : Console) (c : Call) : (con.record c).input = con.input := rfl
@[simp] theorem writes_record (con : Console) (c : Call) : (con.record c).writes = con.writes := rfl
@[simp] theorem flushes_record (con : Console) (c : Call) :
    (con.record c).flushes = con.flushes := rfl

@[simp] theorem calls_record (con : Console) (c : Call) :
    (con.record c).calls.toList = con.calls.toList ++ [c] := by simp [record]

@[simp] theorem result_flush (con : Console) :
    con.flush.1 = (con.flushes.headD .done).result := rfl

@[simp] theorem input_flush (con : Console) : con.flush.2.input = con.input := rfl
@[simp] theorem writes_flush (con : Console) : con.flush.2.writes = con.writes := rfl
@[simp] theorem flushes_flush (con : Console) : con.flush.2.flushes = con.flushes.tail := rfl

theorem calls_flush (con : Console) : con.flush.2.calls.toList =
    con.calls.toList ++ [.flush (con.flushes.headD .done)] := by simp [flush]

@[simp] theorem written_flush (con : Console) : con.flush.2.written = con.written := by
  simp [written, calls_flush, Call.accepted?]

theorem readLoop_eq (script : List ReadOutcome) (con : Console) :
    (readLoop script con).1 = (ReadOutcome.first script).result ∧
    (readLoop script con).2.input = (script.dropWhile (· == .interrupted)).tail ∧
    (readLoop script con).2.writes = con.writes ∧
    (readLoop script con).2.flushes = con.flushes ∧
    (readLoop script con).2.calls.toList = con.calls.toList ++
      (script.takeWhile (· == .interrupted)).map .read ++ [.read (.first script)] := by
  fun_induction readLoop script con with
  | case1 con => simp [ReadOutcome.first]
  | case2 con rest ih => simpa [ReadOutcome.first] using ih
  | case3 outcome rest con h =>
    have hne : (outcome == .interrupted) = false := by simpa using h
    simp [ReadOutcome.first, hne]

@[simp] theorem result_read (con : Console) :
    con.read.1 = (ReadOutcome.first con.input).result := (readLoop_eq con.input con).1

theorem input_read (con : Console) :
    con.read.2.input = (con.input.dropWhile (· == .interrupted)).tail :=
  (readLoop_eq con.input con).2.1

@[simp] theorem writes_read (con : Console) : con.read.2.writes = con.writes :=
  (readLoop_eq con.input con).2.2.1

@[simp] theorem flushes_read (con : Console) : con.read.2.flushes = con.flushes :=
  (readLoop_eq con.input con).2.2.2.1

theorem calls_read (con : Console) : con.read.2.calls.toList = con.calls.toList ++
    (con.input.takeWhile (· == .interrupted)).map .read ++ [.read (.first con.input)] :=
  (readLoop_eq con.input con).2.2.2.2

@[simp] theorem written_read (con : Console) : con.read.2.written = con.written := by
  simp [written, calls_read, List.filterMap_map, Function.comp_def, Call.accepted?]

theorem writeLoop_eq (b : UInt8) (script : List WriteOutcome) (con : Console) :
    (writeLoop b script con).1 = (WriteOutcome.first script).result ∧
    (writeLoop b script con).2.input = con.input ∧
    (writeLoop b script con).2.writes = (script.dropWhile (· == .interrupted)).tail ∧
    (writeLoop b script con).2.flushes = con.flushes ∧
    (writeLoop b script con).2.calls.toList = con.calls.toList ++
      (script.takeWhile (· == .interrupted)).map (.write b) ++ [.write b (.first script)] := by
  fun_induction writeLoop b script con with
  | case1 con => simp [WriteOutcome.first]
  | case2 con rest ih => simpa [WriteOutcome.first] using ih
  | case3 outcome rest con h =>
    have hne : (outcome == .interrupted) = false := by simpa using h
    simp [WriteOutcome.first, hne]

@[simp] theorem result_write (con : Console) (b : UInt8) :
    (con.write b).1 = (WriteOutcome.first con.writes).result := (writeLoop_eq b con.writes con).1

@[simp] theorem input_write (con : Console) (b : UInt8) : (con.write b).2.input = con.input :=
  (writeLoop_eq b con.writes con).2.1

theorem writes_write (con : Console) (b : UInt8) :
    (con.write b).2.writes = (con.writes.dropWhile (· == .interrupted)).tail :=
  (writeLoop_eq b con.writes con).2.2.1

@[simp] theorem flushes_write (con : Console) (b : UInt8) :
    (con.write b).2.flushes = con.flushes := (writeLoop_eq b con.writes con).2.2.2.1

theorem calls_write (con : Console) (b : UInt8) : (con.write b).2.calls.toList =
    con.calls.toList ++ (con.writes.takeWhile (· == .interrupted)).map (.write b) ++
      [.write b (.first con.writes)] := (writeLoop_eq b con.writes con).2.2.2.2

theorem filterMap_accepted_interrupted (b : UInt8) (script : List WriteOutcome) :
    ((script.takeWhile (· == .interrupted)).map (Call.write b)).filterMap Call.accepted? = [] := by
  induction script with
  | nil => rfl
  | cons o script ih => cases o <;> simp_all [Call.accepted?]

theorem written_write (con : Console) (b : UInt8) : (con.write b).2.written =
    con.written ++ (Call.write b (.first con.writes)).accepted?.toList := by
  rw [written, calls_write, List.filterMap_append, List.filterMap_append,
    filterMap_accepted_interrupted, written]
  cases h : (Call.write b (.first con.writes)).accepted? <;> simp [h]

theorem written_write_of_ok {con : Console} {b : UInt8} (h : (con.write b).1 = .ok ()) :
    (con.write b).2.written = con.written ++ [b] := by
  rw [result_write] at h
  rw [written_write]
  cases ho : WriteOutcome.first con.writes <;> simp_all [Call.accepted?, WriteOutcome.result]

theorem written_write_of_error {con : Console} {b : UInt8} {e : Fault}
    (h : (con.write b).1 = .error e) : (con.write b).2.written = con.written := by
  rw [result_write] at h
  rw [written_write]
  cases ho : WriteOutcome.first con.writes <;> simp_all [Call.accepted?, WriteOutcome.result]

end Console
end WordMachine
