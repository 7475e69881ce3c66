import WordMachine.Proofs.InstructionLayout
import WordMachine.Proofs.Operands

/-! What a fault says is so: whatever stops a step, the fault names the cause that was there and
carries the value that was at fault. -/
namespace WordMachine

namespace Opcode

/-- The register fields that an operation uses. An immediate word stands in for the field c, except
where that names the destination. -/
def fields (op : Opcode) (ins : Instruction) : List UInt8 :=
  let operand := if ins.modes.immediate then [] else [ins.c]
  match op with
  | halt => []
  | move => ins.b :: operand
  | arithmetic _ => ins.a :: ins.b :: operand
  | branch _ | output | builtin => operand
  | input => [ins.c]

def TakesOperand (op : Opcode) : Prop := op ≠ halt ∧ op ≠ input

instance (op : Opcode) : Decidable op.TakesOperand := inferInstanceAs (Decidable (_ ∧ _))

theorem TakesOperand.mem_fields {op : Opcode} (h : op.TakesOperand) {ins : Instruction}
    (hi : ins.modes.immediate = false) : ins.c ∈ op.fields ins := by
  cases op with
  | halt => exact absurd rfl h.1
  | input => exact absurd rfl h.2
  | move | arithmetic _ | branch _ | output | builtin => simp [fields, hi]

theorem fields_subset (op : Opcode) (ins : Instruction) :
    op.fields ins ⊆ [ins.a, ins.b, ins.c] := by
  cases hi : ins.modes.immediate <;> cases op <;> simp [fields, hi]

theorem fields_lt {op : Opcode} {ins : Instruction} (h : ins.Fits) {field : UInt8}
    (hf : field ∈ op.fields ins) : field.toNat < 16 := by
  have hall : field = ins.a ∨ field = ins.b ∨ field = ins.c := by
    simpa using op.fields_subset ins hf
  rcases hall with rfl | rfl | rfl
  · exact h.a
  · exact h.b
  · exact h.c

end Opcode

theorem RegisterFile.read_eq_error_iff {file : RegisterFile} {field : UInt8} {e : Fault} :
    file.read field = .error e ↔
      Register.count ≤ field.toNat ∧ e = .invalidRegister field := by
  rw [read, Fault.map_eq_error_iff, Register.ofField_eq_error_iff]

namespace Operand

variable {file : RegisterFile} {mem : Memory} {ins : Instruction} {ip : Word} {e : Fault}

theorem dereference_eq_error_iff {raw : Word} {deref : Bool} :
    dereference mem raw deref = .error e ↔ deref = true ∧ mem.length ≤ raw.toNat ∧
      e = .memoryOutOfBounds raw mem.length := by
  cases deref with
  | false => simp
  | true => simp [Memory.load_eq_error_iff]

theorem source_eq_error_iff {field : UInt8} {deref : Bool} :
    source file mem field deref = .error e ↔
      (Register.count ≤ field.toNat ∧ e = .invalidRegister field) ∨
      ∃ w, file.read field = .ok w ∧ deref = true ∧ mem.length ≤ w.toNat ∧
        e = .memoryOutOfBounds w mem.length := by
  rw [source, Fault.bind_eq_error_iff, RegisterFile.read_eq_error_iff]
  simp only [dereference_eq_error_iff]

theorem raw_eq_error_iff : raw file mem ins ip = .error e ↔
    (ins.modes.immediate = true ∧ mem.length ≤ ip.toNat ∧
      e = .memoryOutOfBounds ip mem.length) ∨
    (ins.modes.immediate = false ∧ Register.count ≤ ins.c.toNat ∧
      e = .invalidRegister ins.c) := by
  unfold raw immediate
  cases ins.modes.immediate with
  | true => simp [Fault.map_eq_error_iff, Memory.load_eq_error_iff]
  | false => simp [Fault.map_eq_error_iff, RegisterFile.read_eq_error_iff]

theorem single_eq_error_iff : single file mem ins ip = .error e ↔
    raw file mem ins ip = .error e ∨
    ∃ r, raw file mem ins ip = .ok r ∧ ins.modes.derefC = true ∧ mem.length ≤ r.value.toNat ∧
      e = .memoryOutOfBounds r.value mem.length := by
  rw [single, Fault.bind_eq_error_iff]
  simp only [Fault.bind_eq_error_iff, dereference_eq_error_iff, pure, Except.pure, reduceCtorEq,
    and_false, exists_false, or_false]

theorem triple_eq_error_iff : triple file mem ins ip = .error e ↔
    destination file ins.a ins.modes.derefA = .error e ∨
    ∃ dst, destination file ins.a ins.modes.derefA = .ok dst ∧
      (source file mem ins.b ins.modes.derefB = .error e ∨
        ∃ b, source file mem ins.b ins.modes.derefB = .ok b ∧
          single file mem ins ip = .error e) := by
  rw [triple, Fault.bind_eq_error_iff]
  simp only [Fault.bind_eq_error_iff, pure, Except.pure, reduceCtorEq,
    and_false, exists_false, or_false]

end Operand

namespace Action

variable {op : Opcode} {file : RegisterFile} {mem : Memory} {ins : Instruction} {ip : Word}
  {e : Fault}

/-- What can be in the way of an action, before anything is written. -/
inductive Obstacle (op : Opcode) (file : RegisterFile) (mem : Memory) (ins : Instruction)
    (ip : Word) : Fault → Prop
  | register {field : UInt8} (hf : field ∈ op.fields ins) (h : Register.count ≤ field.toNat) :
      Obstacle op file mem ins ip (.invalidRegister field)
  | immediate (hop : op.TakesOperand) (hi : ins.modes.immediate = true)
      (h : mem.length ≤ ip.toNat) : Obstacle op file mem ins ip (.memoryOutOfBounds ip mem.length)
  | source {arith : Arithmetic} {w : Word} (hop : op = .arithmetic arith)
      (hr : file.read ins.b = .ok w) (hd : ins.modes.derefB = true) (h : mem.length ≤ w.toNat) :
      Obstacle op file mem ins ip (.memoryOutOfBounds w mem.length)
  | operand {r : Operand} (hop : op.TakesOperand) (hr : Operand.raw file mem ins ip = .ok r)
      (hd : ins.modes.derefC = true) (h : mem.length ≤ r.value.toNat) :
      Obstacle op file mem ins ip (.memoryOutOfBounds r.value mem.length)
  | divisor {ops : Operands} (hop : op = .arithmetic .div)
      (ht : Operand.triple file mem ins ip = .ok ops) (hz : ops.c = 0) :
      Obstacle op file mem ins ip .divisionByZero

theorem Obstacle.of_destination {field : UInt8} {deref : Bool} (hf : field ∈ op.fields ins)
    (h : Operand.destination file field deref = .error e) : Obstacle op file mem ins ip e := by
  obtain ⟨hle, rfl⟩ := Operand.destination_eq_error_iff.mp h
  exact .register hf hle

theorem Obstacle.of_single (hop : op.TakesOperand)
    (h : Operand.single file mem ins ip = .error e) : Obstacle op file mem ins ip e := by
  rcases Operand.single_eq_error_iff.mp h with hraw | ⟨r, hr, hd, hle, rfl⟩
  · rcases Operand.raw_eq_error_iff.mp hraw with ⟨hi, hle, rfl⟩ | ⟨hi, hle, rfl⟩
    · exact .immediate hop hi hle
    · exact .register (hop.mem_fields hi) hle
  · exact .operand hop hr hd hle

theorem Obstacle.of_triple {arith : Arithmetic} (hop : op = .arithmetic arith)
    (h : Operand.triple file mem ins ip = .error e) : Obstacle op file mem ins ip e := by
  subst hop
  have ha : ins.a ∈ (Opcode.arithmetic arith).fields ins := List.mem_cons_self
  have hb : ins.b ∈ (Opcode.arithmetic arith).fields ins :=
    List.mem_cons_of_mem _ List.mem_cons_self
  rcases Operand.triple_eq_error_iff.mp h with hdst | ⟨dst, -, hsrc | ⟨b, -, hc⟩⟩
  · exact .of_destination ha hdst
  · rcases Operand.source_eq_error_iff.mp hsrc with ⟨hle, rfl⟩ | ⟨w, hr, hd, hle, rfl⟩
    · exact .register hb hle
    · exact .source rfl hr hd hle
  · exact .of_single ⟨nofun, nofun⟩ hc

/-- What cannot be resolved has an obstacle, and the fault is that of the obstacle. -/
theorem Obstacle.of_resolve (h : resolve op ins file mem ip = .error e) :
    Obstacle op file mem ins ip e := by
  cases op with
  | halt => cases h
  | move =>
    rcases Fault.bind_eq_error_iff.mp h with hdst | ⟨dst, -, h⟩
    · exact .of_destination List.mem_cons_self hdst
    · rcases Fault.bind_eq_error_iff.mp h with hsrc | ⟨src, -, ⟨⟩⟩
      exact .of_single ⟨nofun, nofun⟩ hsrc
  | arithmetic arith =>
    rcases Fault.bind_eq_error_iff.mp h with ht | ⟨ops, ht, h⟩
    · exact .of_triple rfl ht
    · obtain ⟨rfl, hz, rfl⟩ := ofArithmetic_eq_error_iff.mp h
      exact .divisor rfl ht hz
  | input =>
    rcases Fault.bind_eq_error_iff.mp h with hdst | ⟨dst, -, ⟨⟩⟩
    exact .of_destination List.mem_cons_self hdst
  | branch _ | output | builtin =>
    rcases Fault.bind_eq_error_iff.mp h with hsrc | ⟨src, -, ⟨⟩⟩
    exact .of_single ⟨nofun, nofun⟩ hsrc

end Action

namespace Machine

variable {σ : Type} {m m' : Machine σ} {f : Fetched} {e : Fault}

/-- What the field c or the immediate word gives, before it is dereferenced. -/
def RawOf (m : Machine σ) (ins : Instruction) (raw : Word) : Prop :=
  if ins.modes.immediate then m.memory.load (m.ip + 1) = .ok raw
  else ∃ r, Register.ofField ins.c = .ok r ∧ m.pastFetch r = raw

theorem rawOf_of_raw {ins : Instruction} {r : Operand}
    (h : Operand.raw (m.registers.set .ip (m.ip + 1)) m.memory ins (m.ip + 1) = .ok r) :
    m.RawOf ins r.value := (raw_eq_ok_iff.mp h).1

/-- The addresses that a fetched instruction goes through, in a destination or in an operand. -/
inductive Addresses (m : Machine σ) (f : Fetched) : Word → Prop
  | move {address : Word} (hop : f.opcode = .move)
      (hd : m.DestinationOf f.instruction.b f.instruction.modes.derefB (.cell address)) :
      Addresses m f address
  | arithmetic {op : Arithmetic} {address : Word} (hop : f.opcode = .arithmetic op)
      (hd : m.DestinationOf f.instruction.a f.instruction.modes.derefA (.cell address)) :
      Addresses m f address
  | input {address : Word} (hop : f.opcode = .input)
      (hd : m.DestinationOf f.instruction.c f.instruction.modes.derefC (.cell address)) :
      Addresses m f address
  | source {op : Arithmetic} {r : Register} (hop : f.opcode = .arithmetic op)
      (hr : Register.ofField f.instruction.b = .ok r) (hd : f.instruction.modes.derefB = true) :
      Addresses m f (m.pastFetch r)
  | operand {address : Word} (hop : f.opcode.TakesOperand) (hr : m.RawOf f.instruction address)
      (hd : f.instruction.modes.derefC = true) : Addresses m f address

/-- The calls on the streams that stop a fetched instruction, with their result. -/
inductive StreamFault (m : Machine σ) (f : Fetched) (e : Fault) : Prop
  | halt (hop : f.opcode = .halt) (hf : m.console.flush.1 = .error e)
  | flush (hop : f.opcode = .input) (hf : m.console.flush.1 = .error e)
  | read (hop : f.opcode = .input) (hf : m.console.flush.1 = .ok ())
      (hr : m.console.flush.2.read.1 = .error e)
  | write {w : Word} (hop : f.opcode = .output) (ho : m.OperandOf f.instruction w)
      (hw : (m.console.write w.toUInt8).1 = .error e)

/-- What each fault says of the step from `m` to `m'` that has met it. -/
def Truthful (m m' : Machine σ) : Fault → Prop
  | .invalidOpcode _ | .misalignedImage _ | .memoryTooLarge _ _ | .allocation _ => False
  | .reservedBits w => m.memory.load m.ip = .ok w ∧ ∃ k, 12 ≤ k ∧ k ≤ 23 ∧ w.bit k = true
  | .divisionByZero => ∃ f dst b, m.fetch = .ok f ∧ f.opcode = .arithmetic .div ∧
      m.OperandsOf f.instruction dst b 0
  | .invalidRegister field => field = 15 ∧
      ∃ f, m.fetch = .ok f ∧ field ∈ f.opcode.fields f.instruction
  | .memoryOutOfBounds address length => length = m.memory.length ∧ length ≤ address.toNat ∧
      (address = m.ip ∨ ∃ f, m.fetch = .ok f ∧
        (f.opcode.TakesOperand ∧ f.instruction.modes.immediate = true ∧ address = m.ip + 1 ∨
          m.Addresses f address))
  | .invalidBuiltin index length => length = m.builtins.length ∧ length ≤ index.toNat ∧
      ∃ f, m.fetch = .ok f ∧ f.opcode = .builtin ∧ m.OperandOf f.instruction index
  | .stackOverflow sp length => m.config.stackGuard = true ∧ sp = m'.sp ∧
      length = m'.memory.length ∧ length < sp.toNat
  | .io text => ∃ f, m.fetch = .ok f ∧ m.StreamFault f (.io text)

theorem fits_of_fetch (hf : m.fetch = .ok f) : f.instruction.Fits := by
  obtain ⟨-, hw⟩ := fetch_eq_ok_iff.mp hf
  rw [(Fetched.ofWord_eq_ok_iff.mp hw).2.2.1]
  exact Instruction.fits_decode _

theorem truthful_of_load_error (hl : m.memory.load m.ip = .error e) : m.Truthful m' e := by
  obtain ⟨hle, rfl⟩ := Memory.load_eq_error_iff.mp hl
  exact ⟨rfl, hle, Or.inl rfl⟩

theorem truthful_of_rejected {w : Word} (hl : m.memory.load m.ip = .ok w)
    (hw : Fetched.ofWord w = .error e) : m.Truthful m' e := by
  obtain ⟨hne, rfl⟩ := Fetched.ofWord_eq_error_iff.mp hw
  refine ⟨hl, ?_⟩
  by_contra hclear
  refine hne (Instruction.and_reservedMask_eq_zero_iff.mpr fun k h12 h23 => ?_)
  exact Bool.eq_false_iff.mpr fun hk => hclear ⟨k, h12, h23, hk⟩

theorem truthful_of_unresolved (hf : m.fetch = .ok f) (ha : m.resolve f = .error e) :
    m.Truthful m' e := by
  cases Action.Obstacle.of_resolve ha with
  | @register field hfield hle =>
    -- of the sixteen values of a field only the last names no register
    have hlt := Opcode.fields_lt (fits_of_fetch hf) hfield
    have hcount : Register.count = 15 := rfl
    have h15 : field = 15 := UInt8.toNat_inj.mp (show field.toNat = 15 by omega)
    exact ⟨h15, f, hf, hfield⟩
  | immediate hop hi hle => exact ⟨rfl, hle, Or.inr ⟨f, hf, Or.inl ⟨hop, hi, rfl⟩⟩⟩
  | source hop hr hd hle =>
    obtain ⟨r, hfield, rfl⟩ := read_eq_ok_iff.mp hr
    exact ⟨rfl, hle, Or.inr ⟨f, hf, Or.inr (.source hop hfield hd)⟩⟩
  | operand hop hr hd hle =>
    exact ⟨rfl, hle, Or.inr ⟨f, hf, Or.inr (.operand hop (rawOf_of_raw hr) hd)⟩⟩
  | divisor hop ht hz =>
    have hops := (triple_eq_ok_iff.mp ht).1
    rw [hz] at hops
    exact ⟨f, _, _, hf, hop, hops⟩

theorem Intends.addresses_of_assign {next address w : Word} {flag : Bool}
    (h : m.Intends f (.assign next (.cell address) w flag)) : m.Addresses f address := by
  cases h with
  | move hop hd _ => exact .move hop hd
  | arithmetic hop ho _ => exact .arithmetic hop ho.destination

theorem StreamFault.eq_io (h : m.StreamFault f e) : ∃ text, e = .io text := by
  cases h with
  | halt _ hf | flush _ hf => exact Console.FlushOutcome.eq_io_of_result hf
  | read _ _ hr => exact Console.eq_io_of_read hr
  | write _ _ hw => exact Console.eq_io_of_write hw

theorem truthful_of_streamFault (hf : m.fetch = .ok f) (h : m.StreamFault f e) :
    m.Truthful m' e := by
  obtain ⟨text, rfl⟩ := h.eq_io
  exact ⟨f, hf, h⟩

theorem truthful_of_refused {a : Action} (hf : m.fetch = .ok f) (ha : m.resolve f = .ok a)
    (hr : (m.fetched f).Refusal a e) : m.Truthful m' e := by
  have hi := resolve_eq_ok_iff.mp ha
  cases hr with
  | halt hflush =>
    cases hi with
    | halt hop => exact truthful_of_streamFault hf (.halt hop hflush)
  | assign hle => exact ⟨rfl, hle, Or.inr ⟨f, hf, Or.inr hi.addresses_of_assign⟩⟩
  | flush hflush =>
    cases hi with
    | input hop _ => exact truthful_of_streamFault hf (.flush hop hflush)
  | read hflush hread =>
    cases hi with
    | input hop _ => exact truthful_of_streamFault hf (.read hop hflush hread)
  | deliver _ _ hle =>
    cases hi with
    | input hop hd => exact ⟨rfl, hle, Or.inr ⟨f, hf, Or.inr (.input hop hd)⟩⟩
  | write hwrite =>
    cases hi with
    | output hop ho => exact truthful_of_streamFault hf (.write hop ho hwrite)
  | call hle =>
    cases hi with
    | builtin hop ho => exact ⟨rfl, hle, f, hf, hop, ho⟩

theorem Course.truthful (h : m.Course (.error e) m') : m.Truthful m' e := by
  cases h with
  | unfetched hl => exact truthful_of_load_error hl
  | rejected hl hw => exact truthful_of_rejected hl hw
  | unresolved hf ha => exact truthful_of_unresolved hf ha
  | refused hf ha hr => exact truthful_of_refused hf ha hr
  | overflowed _ _ he hg hs =>
    rw [he.config_eq] at hg
    exact ⟨hg, rfl, rfl, hs⟩

/-- Every fault of a step tells the cause that was there. The word of a reserved bit is the one at
the instruction pointer; a register that does not exist is named by a field that the operation
uses; a divisor of zero is that of a division; an address past the end is the pointer, that of the
immediate word or one that the instruction goes through; a builtin that does not exist is the
operand of a call; an overflow tells the stack pointer and the length that the step leaves; a fault
of the streams is the result of a call that a halt, a read or a write has made. No step meets a
fault of another kind. -/
theorem fault_truthful (he : m.step.1 = .error e) : m.Truthful m.step.2 e := by
  have hc := course_step (running_of_step_error he)
  rw [he] at hc
  exact hc.truthful

def dividingByCell : Machine Unit where
  registers := RegisterFile.zeros.set .r1 99
  memory := { cells := #[0x54000100], programLength := 1 }
  builtins := .standard

theorem dividingByCell_truthful :
    dividingByCell.step.1 = .error (.memoryOutOfBounds 99 1) ∧
    ∃ f, dividingByCell.fetch = .ok f ∧ dividingByCell.Addresses f 99 := by
  have he : dividingByCell.step.1 = .error (.memoryOutOfBounds 99 1) := by rfl
  obtain ⟨-, -, hip | ⟨f, hf, ⟨-, -, hnext⟩ | ha⟩⟩ := fault_truthful he
  · exact absurd hip (by decide)
  · exact absurd hnext (by decide)
  · exact ⟨he, f, hf, ha⟩

end Machine
end WordMachine
