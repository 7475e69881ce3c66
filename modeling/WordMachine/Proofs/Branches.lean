import WordMachine.Proofs.ZeroFlag

/-! Branches. All of them resolve their target first and fail alike; after that the flag decides
whether the instruction pointer goes to the target or on. -/
namespace WordMachine

theorem RegisterFile.zeroFlag_eq_bit (file : RegisterFile) :
    file.zeroFlag = Word.bit (file.get .flags) 1 := by
  have htwo : (2 : Word) = Word.ofBit 1 true := by decide
  have hmask : file.get .flags &&& 2 = Word.ofBit 1 (Word.bit (file.get .flags) 1) := by
    refine Word.ext_bit fun k _ => ?_
    rw [htwo, Word.bit_and, Word.bit_ofBit (by decide), Word.bit_ofBit (by decide)]
    by_cases hk : k = 1 <;> simp [hk]
  rw [zeroFlag, zeroFlagBit, hmask]
  cases Word.bit (file.get .flags) 1 <;> decide

theorem Condition.holds_congr {c : Condition} {file file' : RegisterFile}
    (h : c ≠ .always → file'.zeroFlag = file.zeroFlag) : c.holds file' = c.holds file := by
  cases c with
  | always => rfl
  | flagClear | flagSet => simp only [holds, h (by decide)]

theorem RegisterFile.read_set_of_ne {file : RegisterFile} {field : UInt8} {r : Register}
    (h : Register.ofField field ≠ .ok r) (w : Word) : (file.set r w).read field = file.read field := by
  unfold read
  cases hs : Register.ofField field with
  | error e => rfl
  | ok s =>
    have hne : s ≠ r := fun he => h (he ▸ hs)
    simp only [Except.map, get_set_ne _ hne]

def Instruction.past (ins : Instruction) (ip : Word) : Word :=
  if ins.modes.immediate then ip + 1 else ip

theorem Operand.single_set_of_ne {file : RegisterFile} {mem : Memory} {ins : Instruction} {ip : Word}
    {r : Register} (h : ins.modes.immediate = true ∨ Register.ofField ins.c ≠ .ok r) (w : Word) :
    single (file.set r w) mem ins ip = single file mem ins ip := by
  have hraw : raw (file.set r w) mem ins ip = raw file mem ins ip := by
    unfold raw
    split
    · rfl
    · rename_i hi
      rw [RegisterFile.read_set_of_ne (h.resolve_left hi)]
  rw [single, hraw, single]

namespace Machine

variable {σ : Type} {m : Machine σ} {ins : Instruction} {ip : Word}

theorem set_comm (m : Machine σ) {r s : Register} (h : r ≠ s) (v w : Word) :
    (m.set r v).set s w = (m.set s w).set r v := by
  simp only [set, RegisterFile.set_comm _ h]

/-- The word that an instruction gets by its field c, or by the immediate word at `ip`. -/
def OperandAt (m : Machine σ) (ins : Instruction) (ip w : Word) : Prop :=
  ∃ raw, (if ins.modes.immediate then m.memory.load ip = .ok raw
      else ∃ r, Register.ofField ins.c = .ok r ∧ m.registers.get r = raw) ∧
    m.Denotes raw ins.modes.derefC w

theorem operandAt_iff_raw {w : Word} : m.OperandAt ins ip w ↔
    ∃ r, Operand.raw m.registers m.memory ins ip = .ok r ∧ m.Denotes r.value ins.modes.derefC w := by
  have hmap (x : Except Fault Word) (next : Word) :
      (∃ raw, x = .ok raw ∧ m.Denotes raw ins.modes.derefC w) ↔
        ∃ r, x.map (fun v => Operand.mk v next) = .ok r ∧ m.Denotes r.value ins.modes.derefC w := by
    cases x <;> simp [Except.map]
  have hread (raw : Word) : m.registers.read ins.c = .ok raw ↔
      ∃ r, Register.ofField ins.c = .ok r ∧ m.registers.get r = raw := Fault.map_eq_ok_iff
  by_cases hi : ins.modes.immediate = true
  · simp only [OperandAt, Operand.raw, Operand.immediate, hi, if_true]
    exact hmap _ _
  · simp only [OperandAt, Operand.raw, hi, if_false, Bool.false_eq_true, ← hread]
    exact hmap _ _

theorem operandAt_of_single {operand : Operand}
    (h : Operand.single m.registers m.memory ins ip = .ok operand) :
    m.OperandAt ins ip operand.value ∧ operand.next = ins.past ip := by
  obtain ⟨r, hr, hw, -⟩ := Operand.single_eq_ok_iff.mp h
  exact ⟨operandAt_iff_raw.mpr ⟨r, hr, dereference_eq_ok_iff.mp hw⟩, Operand.next_of_single h⟩

theorem not_operandAt_of_single {e : Fault}
    (h : Operand.single m.registers m.memory ins ip = .error e) (w : Word) :
    ¬m.OperandAt ins ip w := by
  intro ho
  obtain ⟨r, hr, hw⟩ := operandAt_iff_raw.mp ho
  have hs := (@Operand.single_eq_ok_iff _ _ _ _ ⟨w, r.next⟩).mpr
    ⟨r, hr, dereference_eq_ok_iff.mpr hw, rfl⟩
  cases h.symm.trans hs

theorem execute_branch_of_error {e : Fault}
    (h : Operand.single m.registers m.memory ins ip = .error e) (c : Condition) :
    m.execute (.branch c) ins ip = (.error e, m) :=
  execute_of_error (Fault.bind_eq_error_iff.mpr (.inl h))

theorem execute_branch_of_ok {target : Operand}
    (h : Operand.single m.registers m.memory ins ip = .ok target) (c : Condition) :
    m.execute (.branch c) ins ip =
      (.ok .running, m.set .ip (if c.holds m.registers then target.value else target.next)) := by
  rw [execute_of_ok (Action.resolve_eq_ok_iff.mpr (.branch h))]
  rfl

theorem set_ip_inj {v w : Word} : m.set .ip v = m.set .ip w ↔ v = w := by
  refine ⟨fun h => ?_, fun h => by rw [h]⟩
  rw [← m.ip_set v, h, ip_set]

theorem execute_branch_set_flags {flags : Word} {c : Condition}
    (ho : ins.modes.immediate = true ∨ Register.ofField ins.c ≠ .ok .flags)
    (hc : c ≠ .always → Word.bit flags 1 = Word.bit m.flags 1) :
    (m.set .flags flags).execute (.branch c) ins ip =
      ((m.execute (.branch c) ins ip).1, (m.execute (.branch c) ins ip).2.set .flags flags) := by
  have hs : Operand.single (m.set .flags flags).registers (m.set .flags flags).memory ins ip =
      Operand.single m.registers m.memory ins ip := Operand.single_set_of_ne ho flags
  cases h : Operand.single m.registers m.memory ins ip with
  | error e => rw [execute_branch_of_error h, execute_branch_of_error (hs.trans h)]
  | ok target =>
    have hholds : c.holds (m.set .flags flags).registers = c.holds m.registers := by
      refine Condition.holds_congr fun hne => ?_
      rw [RegisterFile.zeroFlag_eq_bit, RegisterFile.zeroFlag_eq_bit, registers_set,
        RegisterFile.get_set_self]
      exact hc hne
    rw [execute_branch_of_ok h, execute_branch_of_ok (hs.trans h), hholds,
      m.set_comm (by decide : Register.flags ≠ .ip)]

/-- The three branches fail alike, where there is no operand to resolve, and leave the machine as it
was; or nothing changes but the instruction pointer. The unconditional one then goes to the operand,
and of the other two one does the same and one goes on past the immediate word: the first if the zero
flag is clear, the second if it is set. (No telling them apart where the operand is the place to go on
at.) The other flags have no influence, unless the operand is taken from them. -/
theorem branches_agree (m : Machine σ) (ins : Instruction) (ip : Word) :
    (((∀ w, ¬m.OperandAt ins ip w) ∧ ∃ e, ∀ c, m.execute (.branch c) ins ip = (.error e, m)) ∨
      ∃ w, m.OperandAt ins ip w ∧
        m.execute (.branch .always) ins ip = (.ok .running, m.set .ip w) ∧
        (m.execute (.branch .flagClear) ins ip =
          if Word.bit m.flags 1 then (.ok .running, m.set .ip (ins.past ip))
          else m.execute (.branch .always) ins ip) ∧
        (m.execute (.branch .flagSet) ins ip =
          if Word.bit m.flags 1 then m.execute (.branch .always) ins ip
          else (.ok .running, m.set .ip (ins.past ip))) ∧
        (m.execute (.branch .flagClear) ins ip = m.execute (.branch .flagSet) ins ip ↔
          w = ins.past ip)) ∧
    ∀ flags c, (ins.modes.immediate = true ∨ Register.ofField ins.c ≠ .ok .flags) →
      (c ≠ .always → Word.bit flags 1 = Word.bit m.flags 1) →
      (m.set .flags flags).execute (.branch c) ins ip =
        ((m.execute (.branch c) ins ip).1, (m.execute (.branch c) ins ip).2.set .flags flags) := by
  refine ⟨?_, fun flags c => execute_branch_set_flags⟩
  cases h : Operand.single m.registers m.memory ins ip with
  | error e => exact .inl ⟨not_operandAt_of_single h, e, execute_branch_of_error h⟩
  | ok target =>
    obtain ⟨ho, hn⟩ := operandAt_of_single h
    have hflag : m.registers.zeroFlag = Word.bit m.flags 1 := m.registers.zeroFlag_eq_bit
    refine .inr ⟨target.value, ho, ?_⟩
    simp only [execute_branch_of_ok h, Condition.holds, hflag, hn]
    cases Word.bit m.flags 1 <;> simp [set_ip_inj, eq_comm]

def flaggedTwice : Machine Unit where
  registers := RegisterFile.zeros.set .flags 7
  memory := { cells := #[0xC8000000, 9], programLength := 2 }
  builtins := .standard

theorem flaggedTwice_branches :
    let ins : Instruction := { c := 15, modes := { immediate := true } }
    flaggedTwice.execute (.branch .flagSet) ins 1 = (.ok .running, flaggedTwice.set .ip 9) ∧
    flaggedTwice.execute (.branch .flagClear) ins 1 = (.ok .running, flaggedTwice.set .ip 2) ∧
    (flaggedTwice.set .flags 2).execute (.branch .flagSet) ins 1 =
      (.ok .running, (flaggedTwice.set .ip 9).set .flags 2) := by
  intro ins
  obtain ⟨hbranch, hflags⟩ := branches_agree flaggedTwice ins 1
  rcases hbranch with ⟨hno, -⟩ | ⟨w, ⟨raw, hraw, hw⟩, halways, hclear, hset, -⟩
  · exact absurd ⟨9, by rfl, by rfl⟩ (hno 9)
  · obtain rfl : raw = w := hw
    obtain rfl : 9 = raw := Except.ok.inj hraw
    have hjump := hset.trans halways
    have hother := hflags 2 .flagSet (.inl rfl) fun _ => by decide
    rw [hjump] at hother
    exact ⟨hjump, hclear, hother⟩

end Machine
end WordMachine
