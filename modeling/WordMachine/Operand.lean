import WordMachine.Instruction
import WordMachine.Memory

/-! The operands of an instruction. Resolving reads registers and memory and writes
nothing; an operand that takes the word after the instruction moves the position on. -/
namespace WordMachine

inductive Destination
  | register (r : Register)
  | cell (address : Word)
  deriving DecidableEq, Repr

/-- A value, and the position after what was read of the code for it. -/
structure Operand where
  value : Word
  next : Word
  deriving DecidableEq, Repr

structure Operands where
  destination : Destination
  b : Word
  c : Word
  next : Word
  deriving DecidableEq, Repr

namespace Operand

def immediate (mem : Memory) (ip : Word) : Except Fault Operand :=
  (mem.load ip).map fun w => ⟨w, ip + 1⟩

/-- The cell that the register addresses when dereferenced, else the register. The address
is not compared with the memory here. -/
def destination (file : RegisterFile) (field : UInt8) (deref : Bool) : Except Fault Destination :=
  (Register.ofField field).map fun r =>
    if deref then .cell (file.get r) else .register r

def dereference (mem : Memory) (raw : Word) (deref : Bool) : Except Fault Word :=
  if deref then mem.load raw else .ok raw

/-- The word of a register, or of the cell that it addresses. -/
def source (file : RegisterFile) (mem : Memory) (field : UInt8) (deref : Bool) :
    Except Fault Word := do
  let w ← file.read field
  dereference mem w deref

/-- The operand of the field c, before it is dereferenced: an immediate word stands in
for the register, and the field is then not looked at. -/
def raw (file : RegisterFile) (mem : Memory) (ins : Instruction) (ip : Word) :
    Except Fault Operand :=
  if ins.modes.immediate then immediate mem ip
  else (file.read ins.c).map fun w => ⟨w, ip⟩

def single (file : RegisterFile) (mem : Memory) (ins : Instruction) (ip : Word) :
    Except Fault Operand := do
  let operand ← raw file mem ins ip
  let w ← dereference mem operand.value ins.modes.derefC
  return ⟨w, operand.next⟩

/-- The destination comes first, then b, then c. -/
def triple (file : RegisterFile) (mem : Memory) (ins : Instruction) (ip : Word) :
    Except Fault Operands := do
  let dst ← destination file ins.a ins.modes.derefA
  let b ← source file mem ins.b ins.modes.derefB
  let c ← single file mem ins ip
  return ⟨dst, b, c.value, c.next⟩

theorem destination_eq_error_iff {file : RegisterFile} {field : UInt8} {deref : Bool} {e : Fault} :
    destination file field deref = .error e ↔
      Register.count ≤ field.toNat ∧ e = .invalidRegister field := by
  rw [← Register.ofField_eq_error_iff]
  unfold destination
  cases Register.ofField field <;> simp [Except.map]

@[simp] theorem dereference_false (mem : Memory) (w : Word) : dereference mem w false = .ok w := rfl

@[simp] theorem dereference_true (mem : Memory) (w : Word) :
    dereference mem w true = mem.load w := rfl

theorem next_of_raw {file : RegisterFile} {mem : Memory} {ins : Instruction} {ip : Word}
    {operand : Operand} (h : raw file mem ins ip = .ok operand) :
    operand.next = if ins.modes.immediate then ip + 1 else ip := by
  unfold raw immediate at h
  split at h <;> obtain ⟨w, _, rfl⟩ := Fault.map_eq_ok_iff.mp h <;> simp [*]

theorem single_eq_ok_iff {file : RegisterFile} {mem : Memory} {ins : Instruction} {ip : Word}
    {operand : Operand} : single file mem ins ip = .ok operand ↔
      ∃ r, raw file mem ins ip = .ok r ∧
        dereference mem r.value ins.modes.derefC = .ok operand.value ∧ operand.next = r.next := by
  obtain ⟨w, next⟩ := operand
  simp only [single, Fault.bind_eq_ok_iff, pure, Except.pure, Except.ok.injEq, mk.injEq]
  constructor
  · rintro ⟨r, hr, v, hv, rfl, rfl⟩; exact ⟨r, hr, hv, rfl⟩
  · rintro ⟨r, hr, hv, rfl⟩; exact ⟨r, hr, w, hv, rfl, rfl⟩

theorem next_of_single {file : RegisterFile} {mem : Memory} {ins : Instruction} {ip : Word}
    {operand : Operand} (h : single file mem ins ip = .ok operand) :
    operand.next = if ins.modes.immediate then ip + 1 else ip := by
  obtain ⟨r, hr, _, hn⟩ := single_eq_ok_iff.mp h
  exact hn.trans (next_of_raw hr)

theorem triple_eq_ok_iff {file : RegisterFile} {mem : Memory} {ins : Instruction} {ip : Word}
    {ops : Operands} : triple file mem ins ip = .ok ops ↔
      destination file ins.a ins.modes.derefA = .ok ops.destination ∧
      source file mem ins.b ins.modes.derefB = .ok ops.b ∧
      single file mem ins ip = .ok ⟨ops.c, ops.next⟩ := by
  obtain ⟨dst, b, c, next⟩ := ops
  simp only [triple, Fault.bind_eq_ok_iff, pure, Except.pure, Except.ok.injEq, Operands.mk.injEq]
  constructor
  · rintro ⟨_, hd, _, hb, ⟨_, _⟩, hc, rfl, rfl, rfl, rfl⟩; exact ⟨hd, hb, hc⟩
  · rintro ⟨hd, hb, hc⟩; exact ⟨dst, hd, b, hb, ⟨c, next⟩, hc, rfl, rfl, rfl, rfl⟩

end Operand
end WordMachine
