import WordMachine.Builtin

/-! The standard table: show the registers, tell the size of the memory, clear the flags. -/
namespace WordMachine.Builtin

variable {σ : Type}

def registersReport (file : RegisterFile) : String := "registers: " ++ file.lineText

def traceRegisters (s : σ) : Builtin σ where
  name := "trace_registers"
  captured := s
  body s file mem := { value := 0, registers := file, memory := mem, captured := s,
                       log := [⟨.info, registersReport file⟩] }

/-- The size is cut to a word. -/
def memorySize (s : σ) : Builtin σ where
  name := "memory_size"
  captured := s
  body s file mem := { value := UInt32.ofNat mem.length, registers := file, memory := mem,
                       captured := s }

def clearFlags (s : σ) : Builtin σ where
  name := "clear_flags"
  captured := s
  body s file mem := { value := 0, registers := file.set .flags 0, memory := mem, captured := s }

/-- None of the three looks at its captured state. -/
def Table.standard [Inhabited σ] : Table σ :=
  ⟨[traceRegisters default, memorySize default, clearFlags default]⟩

theorem Table.index_of_call_standard [Inhabited σ] {index : Word} {file : RegisterFile}
    {mem : Memory} {c : Call σ} (h : standard.call index file mem = .ok c) :
    index = 0 ∨ index = 1 ∨ index = 2 := by
  have hi : index.toNat < 3 := by
    refine Nat.not_le.mp fun hle => ?_
    have he : (standard : Table σ).call index file mem = .error (.invalidBuiltin index 3) :=
      call_eq_error_iff.mpr ⟨hle, rfl⟩
    rw [he] at h
    cases h
  simp only [← UInt32.toNat_inj]
  simp
  omega

end WordMachine.Builtin
