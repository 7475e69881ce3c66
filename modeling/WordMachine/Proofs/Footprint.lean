import WordMachine.Proofs.Course

/-! The footprint of a step: which registers and cells it looks at for its instruction and its
operands, and where it puts its result. Resolving stops at the first operand that is missing,
and looks at nothing after it. -/
namespace WordMachine

/-- What is looked at after a computation, if that gives a value. -/
def thenLooksAt {α : Type} (x : Except Fault α) (more : α → List Destination) :
    List Destination :=
  match x with
  | .ok a => more a
  | .error _ => []

def SameAt (file file' : RegisterFile) (mem mem' : Memory) : Destination → Prop
  | .register r => file'.get r = file.get r
  | .cell address => mem'.load address = mem.load address

theorem bind_congr_of_looks {α β : Type} {P : Destination → Prop} {x x' : Except Fault α}
    {f f' : α → Except Fault β} {first : List Destination} {more : α → List Destination}
    (hx : (∀ l ∈ first, P l) → x' = x) (hf : ∀ a, (∀ l ∈ more a, P l) → f' a = f a)
    (h : ∀ l ∈ first ++ thenLooksAt x more, P l) : x' >>= f' = x >>= f := by
  rw [hx fun l hl => h l (List.mem_append_left _ hl)]
  cases x with
  | error e => rfl
  | ok a => exact hf a fun l hl => h l (List.mem_append_right _ hl)

namespace Operand

def named (field : UInt8) : List Destination :=
  thenLooksAt (Register.ofField field) fun r => [.register r]

/-- A destination is looked at only for the address in it. -/
def addressReads (field : UInt8) (deref : Bool) : List Destination :=
  if deref then named field else []

def dereferenceReads (raw : Word) (deref : Bool) : List Destination :=
  if deref then [.cell raw] else []

def sourceReads (file : RegisterFile) (field : UInt8) (deref : Bool) : List Destination :=
  named field ++ thenLooksAt (file.read field) (dereferenceReads · deref)

def rawReads (ins : Instruction) (ip : Word) : List Destination :=
  if ins.modes.immediate then [.cell ip] else named ins.c

def singleReads (file : RegisterFile) (mem : Memory) (ins : Instruction) (ip : Word) :
    List Destination :=
  rawReads ins ip ++
    thenLooksAt (raw file mem ins ip) fun r => dereferenceReads r.value ins.modes.derefC

def tripleReads (file : RegisterFile) (mem : Memory) (ins : Instruction) (ip : Word) :
    List Destination :=
  addressReads ins.a ins.modes.derefA ++
    thenLooksAt (destination file ins.a ins.modes.derefA) fun _ =>
      sourceReads file ins.b ins.modes.derefB ++
        thenLooksAt (source file mem ins.b ins.modes.derefB) fun _ => singleReads file mem ins ip

variable {file file' : RegisterFile} {mem mem' : Memory} {ins : Instruction} {ip : Word}

theorem read_congr {field : UInt8} (h : ∀ l ∈ named field, SameAt file file' mem mem' l) :
    file'.read field = file.read field := by
  unfold named at h
  unfold RegisterFile.read
  cases hr : Register.ofField field with
  | error e => rfl
  | ok r =>
    have hs : file'.get r = file.get r := h (.register r) (by simp [hr, thenLooksAt])
    simp [Except.map, hs]

theorem destination_congr {field : UInt8} {deref : Bool}
    (h : ∀ l ∈ addressReads field deref, SameAt file file' mem mem' l) :
    destination file' field deref = destination file field deref := by
  cases deref with
  | false => rfl
  | true =>
    have hmap (g : RegisterFile) :
        destination g field true = (g.read field).map Destination.cell := by
      unfold destination RegisterFile.read
      cases Register.ofField field <;> rfl
    have hr : file'.read field = file.read field := read_congr h
    rw [hmap, hmap, hr]

theorem dereference_congr {raw : Word} {deref : Bool}
    (h : ∀ l ∈ dereferenceReads raw deref, SameAt file file' mem mem' l) :
    dereference mem' raw deref = dereference mem raw deref := by
  cases deref with
  | false => rfl
  | true => exact h (.cell raw) (List.mem_singleton_self _)

theorem source_congr {field : UInt8} {deref : Bool}
    (h : ∀ l ∈ sourceReads file field deref, SameAt file file' mem mem' l) :
    source file' mem' field deref = source file mem field deref :=
  bind_congr_of_looks read_congr (fun _ => dereference_congr) h

theorem raw_congr (h : ∀ l ∈ rawReads ins ip, SameAt file file' mem mem' l) :
    raw file' mem' ins ip = raw file mem ins ip := by
  unfold rawReads at h
  unfold raw
  split at h
  · rename_i hi
    have hl : mem'.load ip = mem.load ip := h (.cell ip) (List.mem_singleton_self _)
    simp only [hi, if_true, immediate, hl]
  · rename_i hi
    simp only [hi, Bool.false_eq_true, if_false, read_congr h]

theorem single_congr (h : ∀ l ∈ singleReads file mem ins ip, SameAt file file' mem mem' l) :
    single file' mem' ins ip = single file mem ins ip :=
  bind_congr_of_looks raw_congr (fun r hr => by rw [dereference_congr hr]) h

theorem triple_congr (h : ∀ l ∈ tripleReads file mem ins ip, SameAt file file' mem mem' l) :
    triple file' mem' ins ip = triple file mem ins ip :=
  bind_congr_of_looks destination_congr (fun _ =>
    bind_congr_of_looks source_congr fun _ h => by rw [single_congr h]) h

end Operand

namespace Action

/-- The registers and cells that the operands of an instruction are taken from, as far as
resolving gets. -/
def reads (op : Opcode) (ins : Instruction) (file : RegisterFile) (mem : Memory) (ip : Word) :
    List Destination :=
  match op with
  | .halt => []
  | .move =>
    Operand.addressReads ins.b ins.modes.derefB ++
      thenLooksAt (Operand.destination file ins.b ins.modes.derefB) fun _ =>
        Operand.singleReads file mem ins ip
  | .arithmetic _ => Operand.tripleReads file mem ins ip
  | .branch _ | .output | .builtin => Operand.singleReads file mem ins ip
  | .input => Operand.addressReads ins.c ins.modes.derefC

variable {file file' : RegisterFile} {mem mem' : Memory} {ins : Instruction} {ip : Word}

/-- The flags, which a branch may ask, apart, an instruction comes to the same wherever what it
looks at is the same. -/
theorem resolve_congr {op : Opcode}
    (h : ∀ l ∈ reads op ins file mem ip, SameAt file file' mem mem' l)
    (hflags : file'.get .flags = file.get .flags) :
    resolve op ins file' mem' ip = resolve op ins file mem ip := by
  cases op with
  | halt => rfl
  | move =>
    exact bind_congr_of_looks Operand.destination_congr
      (fun _ h => by rw [Operand.single_congr h]) h
  | arithmetic op =>
    simp only [resolve]
    rw [Operand.triple_congr h]
  | branch condition =>
    have hc : condition.holds file' = condition.holds file := by
      cases condition <;> simp [Condition.holds, RegisterFile.zeroFlag, hflags]
    simp only [resolve, hc]
    rw [Operand.single_congr h]
  | input =>
    simp only [resolve]
    rw [Operand.destination_congr h]
  | output | builtin =>
    simp only [resolve]
    rw [Operand.single_congr h]

/-- Where an action puts its result; that of a builtin goes to a register if it is kept. -/
def target? (keep : Bool) : Action → Option Destination
  | .assign _ dst _ _ | .read dst => some dst
  | .call _ _ => if keep then some (.register .ret) else none
  | .halt | .jump _ | .write _ _ => none

end Action

namespace Machine

variable {σ : Type}

/-- All that the next step looks at for its instruction and its operands. -/
def reads (m : Machine σ) : List Destination :=
  if m.state.isTerminal then []
  else .cell m.ip :: thenLooksAt m.fetch fun f =>
    Action.reads f.opcode f.instruction (m.registers.set .ip (m.ip + 1)) m.memory (m.ip + 1)

/-- The next step puts a result there, whether or not the stack guard then stops the machine. -/
def Writes (m : Machine σ) (l : Destination) : Prop :=
  m.state = .running ∧ ∃ f a s m₁, m.fetch = .ok f ∧ m.resolve f = .ok a ∧
    (m.fetched f).Effect a s m₁ ∧ a.target? m.config.storeBuiltinResult = some l

end Machine
end WordMachine
