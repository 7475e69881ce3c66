import WordMachine.Proofs.Frame
import WordMachine.Proofs.StackSize

/-! Sizes of memory as words. A memory can fill the whole address space, and its length is then one
more than a word can tell. -/
namespace WordMachine

theorem Word.toNat_ofNat_of_le {n : Nat} (h : n ≤ addressSpace) :
    (UInt32.ofNat n).toNat = if n < addressSpace then n else 0 := by
  have hn : (UInt32.ofNat n).toNat = n % addressSpace := UInt32.toNat_ofNat'
  split
  · rw [hn, Nat.mod_eq_of_lt ‹_›]
  · rw [hn, Nat.le_antisymm h (Nat.not_lt.mp ‹_›), Nat.mod_self]

namespace Machine

variable {σ : Type} {m : Machine σ}

theorem toNat_sp_of_ofProgram [Inhabited σ] {program : List Word} {config : Config}
    {console : Console} (h : ofProgram program config console = .ok m) :
    m.sp.toNat = if program.length < Word.addressSpace then program.length else 0 := by
  obtain ⟨mem, hmem, rfl⟩ := Fault.map_eq_ok_iff.mp h
  have hle : program.length ≤ Word.addressSpace := by
    rw [← Memory.programLength_of_ofProgram hmem]
    exact mem.programLength_le_length.trans (Memory.length_le_of_ofProgram hmem)
  rw [sp_ofMemory, Memory.programLength_of_ofProgram hmem]
  exact Word.toNat_ofNat_of_le hle

theorem ret_step_of_calls [Inhabited σ] (ht : m.builtins = .standard)
    (hk : m.config.storeBuiltinResult = true) (hc : m.Calls 1) :
    m.step.2.registers.get .ret = UInt32.ofNat m.memory.length := by
  obtain ⟨next, hnext⟩ := hc
  obtain ⟨f, hn, ha⟩ := nextAction?_iff_intends.mp hnext
  obtain ⟨hr, hf⟩ := next?_eq_some_iff.mp hn
  let m₁ : Machine σ := (m.fetched f).set .ip next
  have ht₁ : m₁.builtins = .standard := ht
  obtain ⟨c, hc⟩ : ∃ c, m₁.builtins.call 1 m₁.registers m₁.memory = .ok c := by
    rw [ht₁]
    exact ⟨_, rfl⟩
  have hk₁ : m₁.config.storeBuiltinResult = true := hk
  have hreturned := returned_standard_eq ht₁ hc
  rw [if_pos hk₁, if_pos rfl] at hreturned
  have hstep : m.step = (m₁.returned c).concluded :=
    step_of_effect hr hf (resolve_eq_ok_iff.mpr ha) (.call hc) hr
  rw [hstep, registers_concluded, hreturned]
  exact RegisterFile.get_set_self ..

/-- The stack pointer starts at the first word after the program, and the builtin that is asked for
the length of memory gives it, as long as program and memory do not fill the address space. Where
they do, both are zero. -/
theorem sizes_as_words [Inhabited σ] {program : List Word} {config : Config} {console : Console}
    (h : ofProgram program config console = .ok m) :
    m.sp.toNat = (if program.length < Word.addressSpace then program.length else 0) ∧
    ∀ n, (m.afterSteps n).memory.length = program.length + config.stackWords ∧
      (config.storeBuiltinResult = true → (m.afterSteps n).Calls 1 →
        ((m.afterSteps (n + 1)).registers.get .ret).toNat =
          if program.length + config.stackWords < Word.addressSpace then
            program.length + config.stackWords
          else 0) := by
  refine ⟨toNat_sp_of_ofProgram h, fun n => ?_⟩
  obtain ⟨mem, hmem, rfl⟩ := Fault.map_eq_ok_iff.mp h
  let m : Machine σ := ofMemory mem 0 config console
  have hlen : (m.afterSteps n).memory.length = program.length + config.stackWords :=
    (memory_afterSteps_of_standard rfl n).1.trans (Memory.length_of_ofProgram hmem)
  refine ⟨hlen, fun hk hc => ?_⟩
  have hk' : (m.afterSteps n).config.storeBuiltinResult = true := by
    rw [config_afterSteps]
    exact hk
  have hle : program.length + config.stackWords ≤ Word.addressSpace := by
    rw [← Memory.length_of_ofProgram hmem]
    exact Memory.length_le_of_ofProgram hmem
  rw [afterSteps_succ_eq_step, ret_step_of_calls (builtins_afterSteps_of_standard rfl n) hk' hc,
    hlen]
  exact Word.toNat_ofNat_of_le hle

theorem askingLength_sizes :
    ∃ m : Machine Unit,
      ofProgram [0xF8000000, 1, 0] { stackWords := 2, storeBuiltinResult := true } {} = .ok m ∧
      m.sp.toNat = 3 ∧ ((m.afterSteps 1).registers.get .ret).toNat = 5 := by
  refine ⟨_, rfl, ?_⟩
  obtain ⟨hsp, hrun⟩ := @sizes_as_words Unit _ _ [0xF8000000, 1, 0]
    { stackWords := 2, storeBuiltinResult := true } {} rfl
  exact ⟨hsp, (hrun 0).2 rfl ⟨2, by rfl⟩⟩

theorem exists_sp_zero_of_full [Inhabited σ] (program : List Word) (config : Config)
    (console : Console) (hlen : program.length = Word.addressSpace) (hs : config.stackWords = 0) :
    ∃ m : Machine σ, ofProgram program config console = .ok m ∧ m.sp.toNat = 0 := by
  have hfit : program.length + config.stackWords ≤ Word.addressSpace := by
    rw [hlen, hs, Nat.add_zero]
  obtain ⟨mem, hmem⟩ := Memory.exists_ofProgram hfit
  have hm : ofProgram program config console = .ok (ofMemory mem 0 config console : Machine σ) :=
    Fault.map_eq_ok_iff.mpr ⟨mem, hmem, rfl⟩
  exact ⟨_, hm, by rw [toNat_sp_of_ofProgram hm, hlen, if_neg (Nat.lt_irrefl _)]⟩

theorem calls_of_asking [Inhabited σ] {config : Config} {console : Console}
    (h : ofProgram [0xF8000000, 1] config console = .ok m) : m.Calls 1 := by
  obtain ⟨mem, hmem, rfl⟩ := Fault.map_eq_ok_iff.mp h
  have hfetch : (ofMemory mem 0 config console : Machine σ).fetch =
      .ok ⟨0xF8000000, .decode 0xF8000000, .builtin⟩ :=
    fetch_eq_ok_iff.mpr ⟨Memory.load_of_ofProgram hmem rfl, rfl⟩
  have hone : mem.load 1 = .ok 1 := Memory.load_of_ofProgram hmem rfl
  exact ⟨2, nextAction?_iff_intends.mpr
    ⟨_, next?_eq_some_iff.mpr ⟨rfl, hfetch⟩, .builtin rfl ⟨1, hone, rfl⟩⟩⟩

theorem exists_ret_zero_of_full [Inhabited σ] (config : Config) (console : Console)
    (hs : 2 + config.stackWords = Word.addressSpace) (hk : config.storeBuiltinResult = true) :
    ∃ m : Machine σ, ofProgram [0xF8000000, 1] config console = .ok m ∧ m.Calls 1 ∧
      m.memory.length = Word.addressSpace ∧ ((m.afterSteps 1).registers.get .ret).toNat = 0 := by
  obtain ⟨mem, hmem⟩ := @Memory.exists_ofProgram [0xF8000000, 1] _ (Nat.le_of_eq hs)
  let m : Machine σ := ofMemory mem 0 config console
  have hm : ofProgram [0xF8000000, 1] config console = .ok m :=
    Fault.map_eq_ok_iff.mpr ⟨mem, hmem, rfl⟩
  have hlen : m.memory.length = Word.addressSpace := (Memory.length_of_ofProgram hmem).trans hs
  have hret : (m.afterSteps 1).registers.get .ret = UInt32.ofNat m.memory.length :=
    ret_step_of_calls rfl hk (calls_of_asking hm)
  refine ⟨m, hm, calls_of_asking hm, hlen, ?_⟩
  rw [hret, hlen]
  rfl

/-- At the last size that is accepted, the stack pointer starts at the first word of the program,
and the length of memory is told as zero. -/
theorem fullAddressSpace_wraps :
    (∃ m : Machine Unit,
      ofProgram (List.replicate Word.addressSpace 0) { stackWords := 0 } {} = .ok m ∧
      m.sp.toNat ≠ (List.replicate Word.addressSpace (0 : Word)).length) ∧
    ∃ m : Machine Unit,
      ofProgram [0xF8000000, 1]
        { stackWords := Word.addressSpace - 2, storeBuiltinResult := true } {} = .ok m ∧
      m.Calls 1 ∧ ((m.afterSteps 1).registers.get .ret).toNat ≠ m.memory.length := by
  constructor
  · have hlen : (List.replicate Word.addressSpace (0 : Word)).length = Word.addressSpace :=
      List.length_replicate
    obtain ⟨m, hm, hsp⟩ := @exists_sp_zero_of_full Unit _ _ { stackWords := 0 } {} hlen rfl
    refine ⟨m, hm, ?_⟩
    rw [hsp, hlen]
    decide
  · let config : Config := { stackWords := Word.addressSpace - 2, storeBuiltinResult := true }
    have hfull : 2 + config.stackWords = Word.addressSpace := Nat.add_sub_cancel' (by decide)
    obtain ⟨m, hm, hcalls, hlen, hret⟩ := @exists_ret_zero_of_full Unit _ config {} hfull rfl
    refine ⟨m, hm, hcalls, ?_⟩
    rw [hret, hlen]
    decide

end Machine
end WordMachine
