import WordMachine.Proofs.FaultCauses
import WordMachine.Proofs.Frame

/-! The length of instructions in memory. One that takes an immediate word is two words long and all
others are one, and an instruction pointer that is not written to never passes the end of memory. -/
namespace WordMachine

namespace Fetched

variable {f : Fetched}

def immediateWords (f : Fetched) : Nat :=
  if f.opcode.TakesOperand ∧ f.instruction.modes.immediate = true then 1 else 0

theorem immediateWords_eq_one_iff : f.immediateWords = 1 ↔
    f.opcode.TakesOperand ∧ f.instruction.modes.immediate = true := by
  simp [immediateWords]

theorem immediateWords_eq_zero_or_one (f : Fetched) :
    f.immediateWords = 0 ∨ f.immediateWords = 1 := by
  unfold immediateWords
  split
  · exact .inr rfl
  · exact .inl rfl

end Fetched

namespace Machine

variable {σ : Type} {m m' : Machine σ} {f : Fetched}

def TakesBranch (m : Machine σ) (f : Fetched) : Prop :=
  ∃ condition, f.opcode = .branch condition ∧ condition.holds m.registers = true

/-- All that an instruction looks up before the operand that can be an immediate word is there. -/
def LeadingOperands (m : Machine σ) (f : Fetched) : Prop :=
  match f.opcode with
  | .move => ∃ dst, m.DestinationOf f.instruction.b f.instruction.modes.derefB dst
  | .arithmetic _ =>
    (∃ dst, m.DestinationOf f.instruction.a f.instruction.modes.derefA dst) ∧
      ∃ r w, Register.ofField f.instruction.b = .ok r ∧
        m.Denotes (m.pastFetch r) f.instruction.modes.derefB w
  | .halt | .branch _ | .input | .output | .builtin => True

theorem Stored.ip_eq {w : Word} {dst : Destination} (h : m.Stored w dst m')
    (hd : dst ≠ .register .ip) : m'.ip = m.ip := h.get_eq hd.symm

theorem ip_raise (m : Machine σ) (flag : Bool) : (m.raise flag).ip = m.ip := by
  cases flag with
  | false => rfl
  | true => exact m.registers.get_setZeroFlag .ip

theorem Effect.ip_eq_resume [Inhabited σ] {a : Action} {s : State} (h : m.Effect a s m')
    (ht : m.builtins = .standard) (hd : a.target? false ≠ some (.register .ip)) :
    m'.ip = a.resume m.ip := by
  have hne {dst : Destination} (hdst : some dst ≠ some (.register .ip)) : dst ≠ .register .ip :=
    fun he => hdst (congrArg some he)
  cases h with
  | halt _ => rfl
  | assign hs => rw [ip_raise, hs.ip_eq (hne hd), ip_set, Action.resume]
  | jump => exact ip_set ..
  | read _ _ hs => exact hs.ip_eq (hne hd)
  | @write next byte _ => exact m.ip_set next
  | @call next index c hc =>
    have ht' : (m.set .ip next).builtins = .standard := ht
    have hcleared : ((m.set .ip next).cleared index).ip = next := by
      unfold cleared
      split
      · rw [ip_set_of_ne _ (by decide), ip_set]
      · exact ip_set ..
    rw [returned_standard_eq ht' hc, ip, Action.resume]
    split
    · exact (RegisterFile.get_set_ne _ (by decide) _).trans hcleared
    · exact hcleared

/-- Where the code goes on after an instruction that does not jump. -/
def pastInstruction (m : Machine σ) (f : Fetched) : Word :=
  if f.immediateWords = 1 then m.ip + 2 else m.ip + 1

theorem pastOperands_eq_pastInstruction (m : Machine σ) (hop : f.opcode.TakesOperand) :
    m.pastOperands f.instruction = m.pastInstruction f := by
  simp only [pastOperands, pastInstruction, Fetched.immediateWords_eq_one_iff, hop, true_and]

theorem pastInstruction_of_not_takesOperand (m : Machine σ) (hop : ¬f.opcode.TakesOperand) :
    m.pastInstruction f = m.ip + 1 :=
  if_neg fun h => hop (Fetched.immediateWords_eq_one_iff.mp h).1

theorem Intends.resume_eq {a : Action} (h : m.Intends f a) (hj : ¬m.TakesBranch f) :
    a.resume (m.ip + 1) = m.pastInstruction f := by
  cases h with
  | halt hop => exact (m.pastInstruction_of_not_takesOperand fun h => h.1 hop).symm
  | input hop _ => exact (m.pastInstruction_of_not_takesOperand fun h => h.2 hop).symm
  | @branch condition w hop _ =>
    have hc : ¬condition.holds m.registers = true := fun hc => hj ⟨condition, hop, hc⟩
    rw [Action.resume, if_neg hc]
    exact m.pastOperands_eq_pastInstruction (by simp [Opcode.TakesOperand, hop])
  | move hop _ _ | arithmetic hop _ _ | output hop _ | builtin hop _ =>
    exact m.pastOperands_eq_pastInstruction (by simp [Opcode.TakesOperand, hop])

/-- An instruction whose operands are there has found its immediate word in memory. -/
theorem Intends.exists_immediate {a : Action} (h : m.Intends f a) (hi : f.immediateWords = 1) :
    ∃ w, m.memory.load (m.ip + 1) = .ok w := by
  obtain ⟨hop, himm⟩ := Fetched.immediateWords_eq_one_iff.mp hi
  have hraw {w : Word} (ho : m.OperandOf f.instruction w) :
      ∃ w, m.memory.load (m.ip + 1) = .ok w := by
    obtain ⟨raw, hraw, -⟩ := ho
    rw [if_pos himm] at hraw
    exact ⟨raw, hraw⟩
  cases h with
  | halt h => exact absurd h hop.1
  | input h _ => exact absurd h hop.2
  | arithmetic _ ho _ => exact hraw ho.c
  | move _ _ ho | branch _ ho | output _ ho | builtin _ ho => exact hraw ho

/-- Below the size of the address space the end of an instruction is a number without wrap-around,
and is not past the end of memory. -/
theorem Intends.toNat_pastInstruction {a : Action} (h : m.Intends f a) (hf : m.fetch = .ok f)
    (hlen : m.memory.length < Word.addressSpace) :
    (m.pastInstruction f).toNat = m.ip.toNat + 1 + f.immediateWords ∧
      (m.pastInstruction f).toNat ≤ m.memory.length := by
  have hip : m.ip.toNat < m.memory.length := Memory.toNat_lt_of_load (fetch_eq_ok_iff.mp hf).1
  have hnext : (m.ip + 1).toNat = m.ip.toNat + 1 :=
    Word.toNat_add_of_lt (Nat.lt_of_le_of_lt hip hlen)
  rcases f.immediateWords_eq_zero_or_one with hi | hi
  · rw [pastInstruction, hi, if_neg (by decide), hnext]
    exact ⟨rfl, hip⟩
  · obtain ⟨w, hw⟩ := h.exists_immediate hi
    have himm : m.ip.toNat + 1 < m.memory.length := hnext ▸ Memory.toNat_lt_of_load hw
    have hend : (m.ip + 2).toNat = m.ip.toNat + 2 :=
      Word.toNat_add_of_lt (Nat.lt_of_le_of_lt himm hlen)
    rw [pastInstruction, hi, if_pos rfl, hend]
    exact ⟨rfl, himm⟩

theorem resolve_of_no_immediate (hi : f.immediateWords = 1) (hl : m.LeadingOperands f)
    (hend : m.memory.length ≤ (m.ip + 1).toNat) :
    m.resolve f = .error (.memoryOutOfBounds (m.ip + 1) m.memory.length) := by
  obtain ⟨htakes, himm⟩ := Fetched.immediateWords_eq_one_iff.mp hi
  have hs : Operand.single (m.registers.set .ip (m.ip + 1)) m.memory f.instruction (m.ip + 1) =
      .error (.memoryOutOfBounds (m.ip + 1) m.memory.length) :=
    Operand.single_eq_error_iff.mpr
      (.inl (Operand.raw_eq_error_iff.mpr (.inl ⟨himm, hend, rfl⟩)))
  rw [resolve]
  unfold LeadingOperands at hl
  generalize f.opcode = op at htakes hl ⊢
  cases op with
  | halt => exact absurd rfl htakes.1
  | input => exact absurd rfl htakes.2
  | move =>
    obtain ⟨dst, hd⟩ := hl
    exact Fault.bind_eq_error_iff.mpr
      (.inr ⟨dst, destination_eq_ok_iff.mpr hd, Fault.bind_eq_error_iff.mpr (.inl hs)⟩)
  | arithmetic op =>
    obtain ⟨⟨dst, hd⟩, r, w, hr, hw⟩ := hl
    refine Fault.bind_eq_error_iff.mpr (.inl (Operand.triple_eq_error_iff.mpr (.inr ⟨dst, ?_⟩)))
    exact ⟨destination_eq_ok_iff.mpr hd, .inr ⟨w, source_eq_ok_iff.mpr ⟨r, hr, hw⟩, hs⟩⟩
  | branch _ | output | builtin => exact Fault.bind_eq_error_iff.mpr (.inl hs)

/-- With the standard builtins, below the size of the address space: a step that succeeds, unless it
takes a branch or names the instruction pointer for its result, leaves the pointer as many words
further as its instruction is long, and not past the end of memory. An instruction on the last word
that takes an immediate word, and has got as far as that, fails at the end of memory. -/
theorem instruction_length [Inhabited σ] (hr : m.state = .running) (ht : m.builtins = .standard)
    (hlen : m.memory.length < Word.addressSpace) :
    (∀ s, m.step.1 = .ok s → ∃ f, m.fetch = .ok f ∧
      (¬m.TakesBranch f → f.register? ≠ some .ip →
        m.step.2.ip.toNat = m.ip.toNat + 1 + f.immediateWords ∧
        m.step.2.ip.toNat ≤ m.step.2.memory.length)) ∧
    ∀ f, m.fetch = .ok f → f.immediateWords = 1 → m.ip.toNat + 1 = m.memory.length →
      m.LeadingOperands f → ∃ address, address.toNat = m.memory.length ∧
        m.step.1 = .error (.memoryOutOfBounds address m.memory.length) := by
  refine ⟨fun s hs => ?_, fun f hf hi hend hl => ?_⟩
  · have hsize : m.step.2.memory.length = m.memory.length := (memory_step_of_standard ht).2.1
    have hc := course_step hr
    rw [hs] at hc
    rw [hsize]
    generalize m.step.2 = m₂ at hc ⊢
    cases hc with
    | @completed f a _ m₁ hf ha he _ =>
      have hi := resolve_eq_ok_iff.mp ha
      refine ⟨f, hf, fun hj hreg => ?_⟩
      have hip : (m₁.settle s).ip = m.pastInstruction f := by
        have htarget : a.target? false ≠ some (.register .ip) :=
          fun h => hreg ((register?_of_intends hi).mpr h)
        rw [ip, registers_settle, ← ip, he.ip_eq_resume ht htarget, ip_fetched, hi.resume_eq hj]
      rw [hip]
      exact hi.toNat_pastInstruction hf hlen
  · have hnext : (m.ip + 1).toNat = m.memory.length := by
      rw [← hend]
      exact Word.toNat_add_of_lt (hend ▸ hlen)
    have ha := resolve_of_no_immediate hi hl (Nat.le_of_eq hnext.symm)
    exact ⟨m.ip + 1, hnext, congrArg Prod.fst ((Course.unresolved hf ha).step_eq hr)⟩

/-- A branch that is not taken, with its immediate word, and one whose immediate word is missing. -/
def skippingToLast : Machine Unit where
  registers := .zeros
  memory := { cells := #[0xC8000000, 7, 0xA8000000], programLength := 3 }
  builtins := .standard

theorem skippingToLast_lengths :
    skippingToLast.step.1 = .ok .running ∧ skippingToLast.step.2.ip.toNat = 0 + 1 + 1 ∧
    ∃ address, address.toNat = 3 ∧
      skippingToLast.step.2.step.1 = .error (.memoryOutOfBounds address 3) := by
  have hs : skippingToLast.step.1 = .ok .running := by rfl
  obtain ⟨f, hf, hip⟩ := (instruction_length (m := skippingToLast) rfl rfl (by decide)).1 _ hs
  obtain rfl : f = ⟨0xC8000000, .decode 0xC8000000, .branch .flagSet⟩ :=
    Except.ok.inj (hf.symm.trans rfl)
  have hlast := (instruction_length (m := skippingToLast.step.2) rfl rfl (by decide)).2
    ⟨0xA8000000, .decode 0xA8000000, .branch .always⟩ (by rfl) (by rfl) (by rfl) trivial
  refine ⟨hs, (hip ?_ (by decide)).1, hlast⟩
  rintro ⟨condition, hop, hc⟩
  cases hop
  exact absurd hc (by decide)

end Machine
end WordMachine
