import WordMachine.Proofs.InstructionLayout
import WordMachine.Proofs.OutputFidelity

/-! Code whose course is known: what each step of it leaves in the registers and in the output, as
long as the output takes everything and the stack pointer stays in memory. -/
namespace WordMachine

namespace Console

/-- The output takes every byte, if not at the first attempt, and every flush is done. -/
structure Accepts (con : Console) : Prop where
  writes : ∀ o ∈ con.writes, o = .accepted ∨ o = .interrupted
  flushes : ∀ o ∈ con.flushes, o = .done

namespace Accepts

variable {con : Console}

theorem first_writes (h : con.Accepts) : WriteOutcome.first con.writes = .accepted := by
  rw [WriteOutcome.first_eq_item, WriteOutcome.item]
  cases ho : (WriteOutcome.uninterrupted con.writes)[0]? with
  | none => rfl
  | some o =>
    have hmem := List.mem_of_getElem? ho
    simp only [WriteOutcome.uninterrupted, List.mem_filter, Bool.not_eq_true',
      beq_eq_false_iff_ne] at hmem
    exact (h.writes o hmem.1).resolve_right hmem.2

theorem flush_fst (h : con.Accepts) : con.flush.1 = .ok () := by
  rw [result_flush]
  cases hf : con.flushes with
  | nil => rfl
  | cons o rest =>
    have ho : o = .done := h.flushes o (by rw [hf]; exact List.mem_cons_self)
    rw [ho]
    rfl

theorem write_fst (h : con.Accepts) (b : UInt8) : (con.write b).1 = .ok () := by
  rw [result_write, h.first_writes]
  rfl

theorem write (h : con.Accepts) (b : UInt8) : (con.write b).2.Accepts where
  writes o ho := by
    rw [writes_write] at ho
    exact h.writes o ((List.dropWhile_sublist _).subset (List.mem_of_mem_tail ho))
  flushes o ho := by
    rw [flushes_write] at ho
    exact h.flushes o ho

end Accepts

end Console

theorem Fetched.ofWord_encode {ins : Instruction} {op : Opcode} (h : ins.Built)
    (hop : ins.opcode = .ok op) : Fetched.ofWord ins.encode = .ok ⟨ins.encode, ins, op⟩ := by
  rw [Fetched.ofWord, Instruction.decodeChecked_encode,
    Instruction.narrow_eq_self_iff.mpr h.fits, Fault.bind_eq_ok_iff]
  exact ⟨ins, rfl, Fault.bind_eq_ok_iff.mpr ⟨op, hop, rfl⟩⟩

def haltInstruction : Instruction := Instruction.of .halt 0 0 0

namespace RegisterFile

def raise (file : RegisterFile) (flag : Bool) : RegisterFile :=
  if flag then file.setZeroFlag else file

theorem get_raise_of_ne (file : RegisterFile) {r : Register} (h : r ≠ .flags) (flag : Bool) :
    (file.raise flag).get r = file.get r := by
  cases flag with
  | false => rfl
  | true => exact get_set_ne file h _

end RegisterFile

namespace Machine

variable {σ : Type} {m m' : Machine σ}

theorem concluded_of_le (h : m.sp.toNat ≤ m.memory.length) : m.concluded = (.ok .running, m) :=
  if_neg fun hg => Nat.not_lt.mpr h hg.2

@[simp] theorem registers_raise (m : Machine σ) (flag : Bool) :
    (m.raise flag).registers = m.registers.raise flag := by
  cases flag <;> rfl

@[simp] theorem memory_raise (m : Machine σ) (flag : Bool) : (m.raise flag).memory = m.memory := by
  cases flag <;> rfl

/-- The machine `m` has come to `m'` with these registers and has printed these bytes on the way. -/
structure HasReached (m : Machine σ) (file : RegisterFile) (bytes : List UInt8) (m' : Machine σ) :
    Prop where
  registers : m'.registers = file
  memory : m'.memory = m.memory
  state : m'.state = .running
  accepts : m'.console.Accepts
  written : m'.console.written = m.console.written ++ bytes

namespace HasReached

variable {file file' : RegisterFile} {bytes bytes' : List UInt8} {ins : Instruction} {f : Fetched}

theorem ip_eq (h : HasReached m file bytes m') : m'.ip = file.get .ip := by
  rw [ip, h.registers]

theorem fetch (h : HasReached m file bytes m') (op : Opcode) (hb : ins.Built)
    (hop : ins.opcode = .ok op) (hcode : m.memory.load (file.get .ip) = .ok ins.encode) :
    m'.fetch = .ok ⟨ins.encode, ins, op⟩ := by
  rw [← h.ip_eq, ← h.memory] at hcode
  exact fetch_eq_ok_iff.mpr ⟨hcode, Fetched.ofWord_encode hb hop⟩

theorem step_of_effect {a : Action} {m₁ : Machine σ} (h : HasReached m file bytes m')
    (hf : m'.fetch = .ok f) (ha : m'.Intends f a) (he : (m'.fetched f).Effect a .running m₁)
    (h₁ : HasReached m file' bytes' m₁) (hs : (file'.get .sp).toNat ≤ m.memory.length) :
    HasReached m file' bytes' m'.step.2 := by
  have hle : m₁.sp.toNat ≤ m₁.memory.length := by
    rw [sp, h₁.registers, h₁.memory]
    exact hs
  rw [Machine.step_of_effect h.state hf (resolve_eq_ok_iff.mpr ha) he h₁.state,
    concluded_of_le hle]
  exact h₁

theorem registers_set_ip (h : HasReached m file bytes m') (f : Fetched) (next : Word) :
    ((m'.fetched f).set .ip next).registers = file.set .ip next := by
  rw [registers_set, registers_fetched, h.registers, RegisterFile.set_set]

theorem jump {next : Word} (h : HasReached m file bytes m') (hf : m'.fetch = .ok f)
    (ha : m'.Intends f (.jump next)) (hs : (file.get .sp).toNat ≤ m.memory.length) :
    HasReached m (file.set .ip next) bytes m'.step.2 := by
  refine h.step_of_effect hf ha .jump
    { registers := h.registers_set_ip f next
      memory := h.memory
      state := h.state
      accepts := h.accepts
      written := h.written } ?_
  rw [RegisterFile.get_set_ne _ (by decide)]
  exact hs

theorem write {next : Word} {b : UInt8} (h : HasReached m file bytes m') (hf : m'.fetch = .ok f)
    (ha : m'.Intends f (.write next b)) (hs : (file.get .sp).toNat ≤ m.memory.length) :
    HasReached m (file.set .ip next) (bytes ++ [b]) m'.step.2 := by
  have hwrite : (m'.console.write b).1 = .ok () := h.accepts.write_fst b
  refine h.step_of_effect hf ha (.write hwrite)
    { registers := h.registers_set_ip f next
      memory := h.memory
      state := h.state
      accepts := h.accepts.write b
      written := ?_ } ?_
  · rw [← List.append_assoc, ← h.written]
    exact Console.written_write_of_ok hwrite
  · rw [RegisterFile.get_set_ne _ (by decide)]
    exact hs

theorem assign {next w : Word} {r : Register} {flag : Bool} (h : HasReached m file bytes m')
    (hf : m'.fetch = .ok f) (ha : m'.Intends f (.assign next (.register r) w flag))
    (hr : r ≠ .sp) (hs : (file.get .sp).toNat ≤ m.memory.length) :
    HasReached m (((file.set .ip next).set r w).raise flag) bytes m'.step.2 := by
  refine h.step_of_effect hf ha (.assign (.register r))
    { registers := by rw [registers_raise, registers_set, h.registers_set_ip]
      memory := (memory_raise _ flag).trans h.memory
      state := (state_raise _ flag).trans h.state
      accepts := by rw [console_raise]; exact h.accepts
      written := by rw [console_raise]; exact h.written } ?_
  rw [RegisterFile.get_raise_of_ne _ (by decide), RegisterFile.get_set_ne _ hr.symm,
    RegisterFile.get_set_ne _ (by decide)]
  exact hs

theorem pastFetch_eq {r : Register} (h : HasReached m file bytes m') (hr : r ≠ .ip) :
    m'.pastFetch r = file.get r := by
  rw [pastFetch, if_neg hr, h.registers]

theorem load_next {w : Word} (h : HasReached m file bytes m')
    (hw : m.memory.load (file.get .ip + 1) = .ok w) : m'.memory.load (m'.ip + 1) = .ok w := by
  rw [h.memory, h.ip_eq]
  exact hw

theorem pastOperands_eq (h : HasReached m file bytes m') (ins : Instruction) :
    m'.pastOperands ins = if ins.modes.immediate then file.get .ip + 2 else file.get .ip + 1 := by
  rw [pastOperands, h.ip_eq]

theorem arithmetic {op : Arithmetic} {a b c : UInt8} {d s : Register} {w : Word}
    (h : HasReached m file bytes m')
    (hcode : m.memory.load (file.get .ip) =
      .ok ((Instruction.of (.arithmetic op) a b c).withImmediate).encode)
    (hw : m.memory.load (file.get .ip + 1) = .ok w) (hop : op ≠ .div)
    (hd : Register.ofField (Instruction.nibble a) = .ok d)
    (hb : Register.ofField (Instruction.nibble b) = .ok s) (hds : d ≠ .sp) (hsi : s ≠ .ip)
    (hs : (file.get .sp).toNat ≤ m.memory.length) :
    HasReached m (((file.set .ip (file.get .ip + 2)).set d (op.apply (file.get s) w)).raise
      (op = .sub ∧ op.apply (file.get s) w = 0)) bytes m'.step.2 := by
  let ins : Instruction := (Instruction.of (.arithmetic op) a b c).withImmediate
  have hf := h.fetch (.arithmetic op) (.withImmediate (.of ..))
    (Instruction.opcode_of (.arithmetic op) a b c) hcode
  have hops : m'.OperandsOf ins (.register d) (file.get s) w :=
    { destination := ⟨d, hd, rfl⟩
      b := ⟨s, hb, h.pastFetch_eq hsi⟩
      c := ⟨w, h.load_next hw, rfl⟩ }
  have ha := Intends.arithmetic (f := ⟨ins.encode, ins, .arithmetic op⟩) rfl hops
    fun hdiv => absurd hdiv hop
  rw [h.pastOperands_eq] at ha
  exact h.assign hf ha hds hs

theorem output {a b c : UInt8} {s : Register} (h : HasReached m file bytes m')
    (hcode : m.memory.load (file.get .ip) = .ok (Instruction.of .output a b c).encode)
    (hc : Register.ofField (Instruction.nibble c) = .ok s) (hsi : s ≠ .ip)
    (hs : (file.get .sp).toNat ≤ m.memory.length) :
    HasReached m (file.set .ip (file.get .ip + 1)) (bytes ++ [(file.get s).toUInt8]) m'.step.2 := by
  let ins : Instruction := Instruction.of .output a b c
  have hf := h.fetch .output (.of ..) (Instruction.opcode_of .output a b c) hcode
  have ha := Intends.output (f := ⟨ins.encode, ins, .output⟩) rfl
    ⟨file.get s, ⟨s, hc, h.pastFetch_eq hsi⟩, rfl⟩
  rw [h.pastOperands_eq] at ha
  exact h.write hf ha hs

theorem branch {condition : Condition} {a b c : UInt8} {w : Word} (h : HasReached m file bytes m')
    (hcode : m.memory.load (file.get .ip) =
      .ok ((Instruction.of (.branch condition) a b c).withImmediate).encode)
    (hw : m.memory.load (file.get .ip + 1) = .ok w)
    (hs : (file.get .sp).toNat ≤ m.memory.length) :
    HasReached m (file.set .ip (if condition.holds file then w else file.get .ip + 2)) bytes
      m'.step.2 := by
  let ins : Instruction := (Instruction.of (.branch condition) a b c).withImmediate
  have hf := h.fetch (.branch condition) (.withImmediate (.of ..))
    (Instruction.opcode_of (.branch condition) a b c) hcode
  have ha := Intends.branch (f := ⟨ins.encode, ins, .branch condition⟩) rfl
    ⟨w, h.load_next hw, rfl⟩
  rw [h.pastOperands_eq, h.registers] at ha
  exact h.jump hf ha hs

theorem halt (h : HasReached m file bytes m')
    (hcode : m.memory.load (file.get .ip) = .ok haltInstruction.encode) :
    m'.step.1 = .ok .halted ∧ m'.step.2.state = .halted ∧
    m'.step.2.registers = file.set .ip (file.get .ip + 1) ∧ m'.step.2.memory = m.memory ∧
    m'.step.2.console.written = m.console.written ++ bytes := by
  let f : Fetched := ⟨haltInstruction.encode, haltInstruction, .halt⟩
  have hf : m'.fetch = .ok f := h.fetch .halt (.of ..) rfl hcode
  have hflush : (m'.fetched f).console.flush.1 = .ok () := h.accepts.flush_fst
  have hstep := (Course.completed hf (resolve_eq_ok_iff.mpr (.halt rfl)) (.halt hflush)
    nofun).step_eq h.state
  rw [hstep]
  refine ⟨rfl, state_settle .., ?_, ?_, ?_⟩
  · rw [registers_settle, ← h.ip_eq, ← h.registers]
    rfl
  · rw [memory_settle]
    exact h.memory
  · rw [console_settle]
    exact (Console.written_flush _).trans h.written

end HasReached

end Machine
end WordMachine
