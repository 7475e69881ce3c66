import WordMachine.Proofs.FaultCauses
import WordMachine.Proofs.Moves

/-! The parts of an instruction that an operation uses. What the others hold has no influence on
what is done, and a register field that is used has to name a register. -/
namespace WordMachine

namespace Instruction

inductive Part
  | a | derefA | b | derefB | immediate | derefC | c
  deriving DecidableEq, Repr

def AgreesAt (ins ins' : Instruction) : Part → Prop
  | .a => ins'.a = ins.a
  | .derefA => ins'.modes.derefA = ins.modes.derefA
  | .b => ins'.b = ins.b
  | .derefB => ins'.modes.derefB = ins.modes.derefB
  | .immediate => ins'.modes.immediate = ins.modes.immediate
  | .derefC => ins'.modes.derefC = ins.modes.derefC
  | .c => ins'.c = ins.c

instance (ins ins' : Instruction) : (part : Part) → Decidable (ins.AgreesAt ins' part)
  | .a => inferInstanceAs (Decidable (ins'.a = ins.a))
  | .derefA => inferInstanceAs (Decidable (ins'.modes.derefA = ins.modes.derefA))
  | .b => inferInstanceAs (Decidable (ins'.b = ins.b))
  | .derefB => inferInstanceAs (Decidable (ins'.modes.derefB = ins.modes.derefB))
  | .immediate => inferInstanceAs (Decidable (ins'.modes.immediate = ins.modes.immediate))
  | .derefC => inferInstanceAs (Decidable (ins'.modes.derefC = ins.modes.derefC))
  | .c => inferInstanceAs (Decidable (ins'.c = ins.c))

/-- What a register field holds. A mode is none. -/
def field? (ins : Instruction) : Part → Option UInt8
  | .a => some ins.a
  | .b => some ins.b
  | .c => some ins.c
  | .derefA | .derefB | .immediate | .derefC => none

def withField (ins : Instruction) (part : Part) (v : UInt8) : Instruction :=
  match part with
  | .a => { ins with a := v }
  | .b => { ins with b := v }
  | .c => { ins with c := v }
  | .derefA | .derefB | .immediate | .derefC => ins

theorem agreesAt_withField (ins : Instruction) {part other : Part} (h : other ≠ part) (v : UInt8) :
    ins.AgreesAt (ins.withField part v) other := by
  cases part <;> cases other <;> first | rfl | exact absurd rfl h

end Instruction

namespace Opcode

variable {op : Opcode} {ins ins' : Instruction} {part : Instruction.Part}

/-- The parts of an instruction that an operation uses. An immediate word stands in for the field c,
except where that names the destination; a halt uses nothing. -/
def parts (op : Opcode) (ins : Instruction) : List Instruction.Part :=
  let operand := .immediate :: .derefC :: if ins.modes.immediate then [] else [.c]
  match op with
  | halt => []
  | move => .b :: .derefB :: operand
  | arithmetic _ => .a :: .derefA :: .b :: .derefB :: operand
  | branch _ | output | builtin => operand
  | input => [.c, .derefC]

/-- Two instructions are the same as far as an operation uses them. -/
def SameUse (op : Opcode) (ins ins' : Instruction) : Prop :=
  ∀ part ∈ op.parts ins, ins.AgreesAt ins' part

theorem fields_eq_filterMap (op : Opcode) (ins : Instruction) :
    op.fields ins = (op.parts ins).filterMap ins.field? := by
  cases hi : ins.modes.immediate <;> cases op <;>
    simp [fields, parts, hi, List.filterMap_cons, Instruction.field?]

theorem mem_fields_iff {v : UInt8} :
    v ∈ op.fields ins ↔ ∃ part ∈ op.parts ins, ins.field? part = some v := by
  rw [fields_eq_filterMap, List.mem_filterMap]

theorem sameUse_withField (h : part ∉ op.parts ins) (v : UInt8) :
    op.SameUse ins (ins.withField part v) := by
  intro other hother
  refine ins.agreesAt_withField (fun he => ?_) v
  rw [he] at hother
  exact h hother

theorem SameUse.sameSource (h : op.SameUse ins ins') (hop : op.TakesOperand) :
    ins.SameSource ins' := by
  have hoperand : ∀ part ∈ Instruction.Part.immediate :: .derefC ::
      if ins.modes.immediate then [] else [.c], ins.AgreesAt ins' part := by
    cases op with
    | halt => exact absurd rfl hop.1
    | input => exact absurd rfl hop.2
    | branch _ | output | builtin => exact h
    | move => exact fun part hp => h part (by simp [parts, hp])
    | arithmetic _ => exact fun part hp => h part (by simp [parts, hp])
  exact
    { immediate := hoperand .immediate List.mem_cons_self
      derefC := hoperand .derefC (by simp)
      c := fun hi => hoperand .c (by simp [hi]) }

end Opcode

namespace Operand

variable {file : RegisterFile} {mem : Memory} {ins : Instruction} {ip : Word} {field : UInt8}

theorem lt_of_read {w : Word} (h : file.read field = .ok w) : field.toNat < Register.count := by
  refine Nat.not_le.mp fun hle => ?_
  have herr : file.read field = .error (.invalidRegister field) :=
    RegisterFile.read_eq_error_iff.mpr ⟨hle, rfl⟩
  cases h.symm.trans herr

theorem lt_of_source {deref : Bool} {w : Word} (h : source file mem field deref = .ok w) :
    field.toNat < Register.count := by
  obtain ⟨raw, hr, -⟩ := Fault.bind_eq_ok_iff.mp h
  exact lt_of_read hr

theorem lt_of_single {src : Operand} (h : single file mem ins ip = .ok src) :
    ∀ field ∈ if ins.modes.immediate then [] else [ins.c], field.toNat < Register.count := by
  obtain ⟨r, hr, -⟩ := single_eq_ok_iff.mp h
  unfold raw at hr
  split at hr
  · rename_i hi
    simp [hi]
  · rename_i hi
    obtain ⟨w, hw, -⟩ := Fault.map_eq_ok_iff.mp hr
    simpa [hi] using lt_of_read hw

end Operand

namespace Action

variable {op : Opcode} {file : RegisterFile} {mem : Memory} {ins ins' : Instruction} {ip : Word}
  {action : Action}

theorem resolve_of_sameUse (h : op.SameUse ins ins') :
    resolve op ins' file mem ip = resolve op ins file mem ip := by
  cases op with
  | halt => rfl
  | move =>
    have hb : ins'.b = ins.b := h .b List.mem_cons_self
    have hderef : ins'.modes.derefB = ins.modes.derefB := h .derefB (by simp [Opcode.parts])
    have hs := h.sameSource (by simp [Opcode.TakesOperand])
    simp only [resolve, hb, hderef, Operand.single_of_sameSource hs]
  | arithmetic op =>
    have ha : ins'.a = ins.a := h .a List.mem_cons_self
    have hderefA : ins'.modes.derefA = ins.modes.derefA := h .derefA (by simp [Opcode.parts])
    have hb : ins'.b = ins.b := h .b (by simp [Opcode.parts])
    have hderefB : ins'.modes.derefB = ins.modes.derefB := h .derefB (by simp [Opcode.parts])
    have hs := h.sameSource (by simp [Opcode.TakesOperand])
    have ht : Operand.triple file mem ins' ip = Operand.triple file mem ins ip := by
      simp only [Operand.triple, ha, hderefA, hb, hderefB, Operand.single_of_sameSource hs]
    simp only [resolve, ht]
  | branch _ | output | builtin =>
    have hs := h.sameSource (by simp [Opcode.TakesOperand])
    simp only [resolve, Operand.single_of_sameSource hs]
  | input =>
    have hc : ins'.c = ins.c := h .c List.mem_cons_self
    have hderef : ins'.modes.derefC = ins.modes.derefC := h .derefC (by simp [Opcode.parts])
    simp only [resolve, hc, hderef]

/-- What is resolved has a register in each field that it uses. -/
theorem lt_of_resolve (h : resolve op ins file mem ip = .ok action) :
    ∀ field ∈ op.fields ins, field.toNat < Register.count := by
  cases resolve_eq_ok_iff.mp h with
  | halt => exact nofun
  | move hd hs =>
    exact List.forall_mem_cons.mpr
      ⟨Operand.exists_destination_iff.mp ⟨_, hd⟩, Operand.lt_of_single hs⟩
  | arithmetic ht _ =>
    obtain ⟨hd, hb, hc⟩ := Operand.triple_eq_ok_iff.mp ht
    exact List.forall_mem_cons.mpr ⟨Operand.exists_destination_iff.mp ⟨_, hd⟩,
      List.forall_mem_cons.mpr ⟨Operand.lt_of_source hb, Operand.lt_of_single hc⟩⟩
  | branch hs | output hs | builtin hs => exact Operand.lt_of_single hs
  | input hd => exact List.forall_mem_singleton.mpr (Operand.exists_destination_iff.mp ⟨_, hd⟩)

end Action

namespace Machine

variable {σ : Type} {m : Machine σ} {op : Opcode} {ins ins' : Instruction} {ip : Word}
  {part : Instruction.Part} {v : UInt8}

theorem execute_of_sameUse (h : op.SameUse ins ins') :
    m.execute op ins' ip = m.execute op ins ip := by
  rw [execute, Action.resolve_of_sameUse h, execute]

/-- A field that is used and names no register stops an instruction before it does anything. -/
theorem execute_of_count_le (hp : part ∈ op.parts ins) (hv : ins.field? part = some v)
    (hle : Register.count ≤ v.toNat) :
    ∃ e, m.execute op ins ip = (.error e, m) ∧ e.status = .illegal := by
  have hmem : v ∈ op.fields ins := Opcode.mem_fields_iff.mpr ⟨part, hp, hv⟩
  cases h : Action.resolve op ins m.registers m.memory ip with
  | ok action => exact absurd (Action.lt_of_resolve h v hmem) (Nat.not_lt.mpr hle)
  | error e => exact ⟨e, execute_of_error h, Action.onlyIllegal_resolve e h⟩

theorem exists_part_of_execute (h : (m.execute op ins ip).1 = .error (.invalidRegister v)) :
    Register.count ≤ v.toNat ∧ ∃ part ∈ op.parts ins, ins.field? part = some v := by
  cases hr : Action.resolve op ins m.registers m.memory ip with
  | error e =>
    rw [execute_of_error hr] at h
    obtain rfl : e = .invalidRegister v := Except.error.inj h
    cases Action.Obstacle.of_resolve hr with
    | register hf hle => exact ⟨hle, Opcode.mem_fields_iff.mp hf⟩
  | ok action =>
    -- what is refused later is a store, a call of the streams or one of a builtin
    rw [execute_of_ok hr] at h
    rcases m.refusal_or_effect action with ⟨e, href⟩ | ⟨s, m₁, heff⟩
    · rw [perform_of_refusal href] at h
      obtain rfl : e = .invalidRegister v := Except.error.inj h
      rcases href.cause with ⟨_, he⟩ | ⟨_, he⟩ | ⟨_, he⟩ <;> cases he
    · rw [perform_of_effect heff] at h
      cases h

theorem step_of_halt {f : Fetched} (hr : m.state = .running) (hf : m.fetch = .ok f)
    (hop : f.opcode = .halt) (hflush : m.console.flush.1 = .ok ()) : ∃ log, m.step =
      (.ok .halted, { m.set .ip (m.ip + 1) with
        console := m.console.flush.2, state := .halted, events := log }) := by
  have ha : m.resolve f = .ok .halt := Action.resolve_eq_halt_iff.mpr hop
  have heff := Effect.halt (m := m.fetched f) hflush
  exact ⟨_, (Course.completed hf ha heff nofun).step_eq hr⟩

/-- What an operation does not use of an instruction has no influence: with the same in the parts
that it uses, the result and the whole machine are equal. So any value may stand in an unused
register field, 15 among them, and only a used one is ever reported; but a used one that names no
register stops every operation, with nothing done. A halt uses none: with a good flush it ends the
machine, and but for the log the machine does not show which fields and modes it had. -/
theorem unused_fields_have_no_influence (m : Machine σ) (op : Opcode) (ins : Instruction)
    (ip : Word) :
    (∀ ins', (∀ part ∈ op.parts ins, ins.AgreesAt ins' part) →
      m.execute op ins' ip = m.execute op ins ip) ∧
    (∀ part, part ∉ op.parts ins → ∀ v,
      m.execute op (ins.withField part v) ip = m.execute op ins ip) ∧
    (∀ v, (m.execute op ins ip).1 = .error (.invalidRegister v) →
      Register.count ≤ v.toNat ∧ ∃ part ∈ op.parts ins, ins.field? part = some v) ∧
    (∀ part ∈ op.parts ins, ∀ v, ins.field? part = some v → Register.count ≤ v.toNat →
      ∃ e, m.execute op ins ip = (.error e, m) ∧ e.status = .illegal) ∧
    ∀ f, m.state = .running → m.fetch = .ok f → f.opcode = .halt →
      m.console.flush.1 = .ok () → ∃ log, m.step =
        (.ok .halted, { m.set .ip (m.ip + 1) with
          console := m.console.flush.2, state := .halted, events := log }) :=
  ⟨fun _ h => execute_of_sameUse h,
    fun _ hp v => execute_of_sameUse (Opcode.sameUse_withField hp v),
    fun _ h => exists_part_of_execute h,
    fun _ hp _ hv hle => execute_of_count_le hp hv hle,
    fun _ hr hf hop hflush => step_of_halt hr hf hop hflush⟩

def haltingAmidFifteens : Machine Unit where
  registers := .zeros
  memory := { cells := #[0x0F000FFF, 5], programLength := 2 }
  builtins := .standard

theorem haltingAmidFifteens_halts :
    let move : Instruction := { b := 1, modes := { immediate := true } }
    haltingAmidFifteens.step.1 = .ok .halted ∧
    haltingAmidFifteens.execute .move { move with a := 15, c := 15 } 1 =
      haltingAmidFifteens.execute .move move 1 ∧
    haltingAmidFifteens.execute .move (move.withField .c 15) 1 =
      haltingAmidFifteens.execute .move move 1 ∧
    (∃ part ∈ Opcode.move.parts { move with b := 15 },
      Instruction.field? { move with b := 15 } part = some 15) ∧
    ∃ e, haltingAmidFifteens.execute .move { move with b := 15 } 1 =
      (.error e, haltingAmidFifteens) := by
  intro move
  obtain ⟨hsame, hunused, -, -, hhalt⟩ :=
    unused_fields_have_no_influence haltingAmidFifteens .move move 1
  obtain ⟨-, -, hreported, hfails, -⟩ :=
    unused_fields_have_no_influence haltingAmidFifteens .move { move with b := 15 } 1
  obtain ⟨log, hstep⟩ := hhalt ⟨0x0F000FFF, .decode 0x0F000FFF, .halt⟩ rfl (by rfl) rfl (by rfl)
  obtain ⟨e, he, -⟩ := hfails .b (by decide) 15 rfl (by decide)
  refine ⟨congrArg Prod.fst hstep, hsame _ (by decide), hunused .c (by decide) 15,
    (hreported 15 (by rfl)).2, e, he⟩

end Machine
end WordMachine
