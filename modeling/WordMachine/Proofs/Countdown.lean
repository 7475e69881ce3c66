import WordMachine.Proofs.Runs
import WordMachine.Proofs.StraightCode

/-! A loop that counts a word down to zero and prints a digit in each pass. It is left by the flag
of a difference of zero, so a word that is zero at the start is counted down through all others. -/
namespace WordMachine

def loadCounter : Instruction := (Instruction.of (.arithmetic .add) 1 0 0).withImmediate

def makeDigit : Instruction := (Instruction.of (.arithmetic .add) 2 1 0).withImmediate

def printDigit : Instruction := Instruction.of .output 0 0 2

def decrement : Instruction := (Instruction.of (.arithmetic .sub) 1 1 0).withImmediate

def repeatUnlessZero : Instruction := (Instruction.of (.branch .flagClear) 0 0 0).withImmediate

/-- The program that counts down from `n`. The loop is from its third word to its ninth. -/
def countdown (n : Word) : List Word :=
  [loadCounter.encode, n, makeDigit.encode, 48, printDigit.encode, decrement.encode, 1,
    repeatUnlessZero.encode, 2, haltInstruction.encode]

/-- How often the loop is passed through: a zero becomes the largest word before it is tested. -/
def passes (n : Word) : Nat := if n = 0 then 2 ^ 32 else n.toNat

def digits (n : Word) (k : Nat) : List UInt8 :=
  (List.range k).map fun i => (n - UInt32.ofNat i + 48).toUInt8

/-- The registers of a machine that counts down. The stack starts behind the ten words. -/
def countdownFile (ip counter digit flags : Word) : RegisterFile :=
  ((((RegisterFile.zeros.set .sp 10).set .ip ip).set .r1 counter).set .r2 digit).set .flags flags

section Registers

variable (ip counter digit flags w : Word)

@[simp] theorem countdownFile_set_ip : (countdownFile ip counter digit flags).set .ip w =
    countdownFile w counter digit flags :=
  RegisterFile.ext_get fun r => by cases r <;> simp [countdownFile]

@[simp] theorem countdownFile_set_r1 : (countdownFile ip counter digit flags).set .r1 w =
    countdownFile ip w digit flags :=
  RegisterFile.ext_get fun r => by cases r <;> simp [countdownFile]

@[simp] theorem countdownFile_set_r2 : (countdownFile ip counter digit flags).set .r2 w =
    countdownFile ip counter w flags :=
  RegisterFile.ext_get fun r => by cases r <;> simp [countdownFile]

@[simp] theorem countdownFile_set_flags : (countdownFile ip counter digit flags).set .flags w =
    countdownFile ip counter digit w :=
  RegisterFile.set_set ..

theorem get_countdownFile (r : Register) : (countdownFile ip counter digit flags).get r =
    match r with
    | .ip => ip
    | .sp => 10
    | .r1 => counter
    | .r2 => digit
    | .flags => flags
    | _ => 0 := by
  cases r <;> simp [countdownFile]

end Registers

theorem digits_succ (n : Word) (k : Nat) :
    digits n (k + 1) = digits n k ++ [(n - UInt32.ofNat k + 48).toUInt8] := by
  rw [digits, List.range_succ, List.map_append, digits]
  rfl

@[simp] theorem length_digits (n : Word) (k : Nat) : (digits n k).length = k := by simp [digits]

theorem toNat_of_digits {n : Word} {k i : Nat} {b : UInt8} (h : (digits n k)[i]? = some b) :
    (b.toNat : Int) = ((n.toNat : Int) - i + 48) % 256 := by
  obtain ⟨j, hj, rfl⟩ : ∃ j, (List.range k)[i]? = some j ∧
      (n - UInt32.ofNat j + 48).toUInt8 = b := by
    simpa [digits] using h
  obtain ⟨hi, rfl⟩ := List.getElem?_eq_some_iff.mp hj
  have hn := n.toNat_lt
  rw [List.getElem_range, UInt32.toNat_toUInt8, UInt32.toNat_add, UInt32.toNat_sub,
    UInt32.toNat_ofNat']
  simp only [UInt32.reduceToNat]
  omega

theorem passes_pos (n : Word) : 0 < passes n := by
  unfold passes
  split
  · decide
  · rename_i hn
    exact Nat.pos_of_ne_zero fun h => hn (UInt32.toNat_inj.mp h)

theorem counter_eq_one_iff {n : Word} {k : Nat} (hk : k < passes n) :
    n - UInt32.ofNat k = 1 ↔ k + 1 = passes n := by
  have hsum : (1 + UInt32.ofNat k).toNat = (k + 1) % 2 ^ 32 := by
    rw [UInt32.toNat_add, UInt32.toNat_ofNat', UInt32.toNat_one]
    omega
  have hlt := n.toNat_lt
  -- for `n` zero it is the sum of the last pass that wraps around to `n`
  rw [UInt32.sub_eq_iff_eq_add, ← UInt32.toNat_inj, hsum]
  unfold passes at hk ⊢
  split
  · rename_i hn
    rw [if_pos hn] at hk
    rw [hn, UInt32.toNat_zero]
    omega
  · rename_i hn
    rw [if_neg hn] at hk
    rw [Nat.mod_eq_of_lt (by omega)]
    omega

namespace Machine

variable {σ : Type} {m m' : Machine σ}

section Loaded

variable {n a b : Word} {bytes : List UInt8} {stack : Nat}

theorem sp_countdownFile_le {ip counter digit flags : Word}
    (hmem : Memory.ofProgram (countdown n) stack = .ok m.memory) :
    ((countdownFile ip counter digit flags).get .sp).toNat ≤ m.memory.length := by
  rw [get_countdownFile, Memory.length_of_ofProgram hmem]
  exact Nat.le_add_right 10 stack

theorem hasReached_start (hmem : Memory.ofProgram (countdown n) stack = .ok m.memory)
    (h : HasReached m (countdownFile 0 0 0 0) bytes m') :
    HasReached m (countdownFile 2 n 0 0) bytes m'.step.2 := by
  have hcode : m.memory.load 0 = .ok loadCounter.encode := Memory.load_of_ofProgram hmem rfl
  have hw : m.memory.load 1 = .ok n := Memory.load_of_ofProgram hmem rfl
  have hstep := h.arithmetic (d := .r1) (s := .zero) hcode hw (by decide) rfl rfl (by decide)
    (by decide) (sp_countdownFile_le hmem)
  simpa [get_countdownFile, RegisterFile.raise, Arithmetic.apply] using hstep

theorem hasReached_branch (hmem : Memory.ofProgram (countdown n) stack = .ok m.memory)
    (h : HasReached m (countdownFile 2 a b 0) bytes m') :
    HasReached m ((countdownFile 7 (a - 1) (a + 48) 0).raise (a - 1 = 0))
      (bytes ++ [(a + 48).toUInt8]) (m'.afterSteps 3) := by
  have hload {k w : Word} (hk : (countdown n)[k.toNat]? = some w) : m.memory.load k = .ok w :=
    Memory.load_of_ofProgram hmem hk
  have h₁ : HasReached m (countdownFile 4 a (a + 48) 0) bytes m'.step.2 := by
    simpa [get_countdownFile, RegisterFile.raise, Arithmetic.apply] using
      h.arithmetic (d := .r2) (s := .r1) (hload (k := 2) rfl) (hload (k := 3) rfl)
        (by decide) rfl rfl (by decide) (by decide) (sp_countdownFile_le hmem)
  have h₂ : HasReached m (countdownFile 5 a (a + 48) 0) (bytes ++ [(a + 48).toUInt8])
      m'.step.2.step.2 := by
    simpa [get_countdownFile] using
      h₁.output (s := .r2) (hload (k := 4) rfl) rfl (by decide) (sp_countdownFile_le hmem)
  have h₃ : HasReached m ((countdownFile 7 (a - 1) (a + 48) 0).raise (a - 1 = 0))
      (bytes ++ [(a + 48).toUInt8]) m'.step.2.step.2.step.2 := by
    simpa [get_countdownFile, Arithmetic.apply] using
      h₂.arithmetic (d := .r1) (s := .r1) (hload (k := 5) rfl) (hload (k := 6) rfl)
        (by decide) rfl rfl (by decide) (by decide) (sp_countdownFile_le hmem)
  exact h₃

theorem hasReached_repeat (hmem : Memory.ofProgram (countdown n) stack = .ok m.memory) {flag : Bool}
    (h : HasReached m ((countdownFile 7 a b 0).raise flag) bytes m') :
    HasReached m (if flag then countdownFile 9 a b 2 else countdownFile 2 a b 0) bytes
      m'.step.2 := by
  have hcode : m.memory.load 7 = .ok repeatUnlessZero.encode := Memory.load_of_ofProgram hmem rfl
  have hw : m.memory.load 8 = .ok 2 := Memory.load_of_ofProgram hmem rfl
  cases flag with
  | true =>
    have hset : (countdownFile 7 a b 0).raise true = countdownFile 7 a b 2 := by
      simp [RegisterFile.raise, RegisterFile.setZeroFlag, RegisterFile.zeroFlagBit,
        get_countdownFile]
    rw [hset] at h
    simpa [get_countdownFile, Condition.holds, RegisterFile.zeroFlag, RegisterFile.zeroFlagBit]
      using h.branch hcode hw (sp_countdownFile_le hmem)
  | false =>
    simpa [get_countdownFile, Condition.holds, RegisterFile.zeroFlag, RegisterFile.raise]
      using h.branch hcode hw (sp_countdownFile_le hmem)

/-- The pass of a counter that is not one leads to the next pass. -/
theorem hasReached_pass (hmem : Memory.ofProgram (countdown n) stack = .ok m.memory)
    (h : HasReached m (countdownFile 2 a b 0) bytes m') (ha : a ≠ 1) :
    HasReached m (countdownFile 2 (a - 1) (a + 48) 0) (bytes ++ [(a + 48).toUInt8])
      (m'.afterSteps 4) := by
  have hflag : a - 1 ≠ 0 := fun h => ha (UInt32.sub_eq_iff_eq_add.mp h)
  have hstep := hasReached_repeat hmem (hasReached_branch hmem h)
  rw [decide_eq_false hflag] at hstep
  exact hstep

theorem hasReached_lastPass (hmem : Memory.ofProgram (countdown n) stack = .ok m.memory)
    (h : HasReached m (countdownFile 2 1 b 0) bytes m') :
    HasReached m (countdownFile 9 0 49 2) (bytes ++ [49]) (m'.afterSteps 4) :=
  hasReached_repeat hmem (hasReached_branch hmem h)

/-- The passes before the last one. The induction is on their number; none of them finds the counter
at one. -/
theorem hasReached_afterPasses (hmem : Memory.ofProgram (countdown n) stack = .ok m.memory)
    (h : HasReached m (countdownFile 0 0 0 0) [] m) {k : Nat} (hk : k < passes n) :
    ∃ b, HasReached m (countdownFile 2 (n - UInt32.ofNat k) b 0) (digits n k)
      (m.afterSteps (4 * k + 1)) := by
  induction k with
  | zero =>
    have hzero : n - UInt32.ofNat 0 = n := UInt32.sub_zero n
    rw [hzero]
    exact ⟨0, hasReached_start hmem h⟩
  | succ k ih =>
    obtain ⟨b, hk'⟩ := ih (Nat.lt_of_succ_lt hk)
    have hne : n - UInt32.ofNat k ≠ 1 := fun hone =>
      Nat.ne_of_lt hk ((counter_eq_one_iff (Nat.lt_of_succ_lt hk)).mp hone)
    have hnext : n - UInt32.ofNat k - 1 = n - UInt32.ofNat (k + 1) := by
      have hsucc : UInt32.ofNat (k + 1) = UInt32.ofNat k + 1 := UInt32.ofNat_add k 1
      rw [hsucc]
      grind
    have hpass := hasReached_pass hmem hk' hne
    rw [hnext, ← digits_succ, ← afterSteps_add] at hpass
    exact ⟨_, hpass⟩

theorem hasReached_end (hmem : Memory.ofProgram (countdown n) stack = .ok m.memory)
    (h : HasReached m (countdownFile 0 0 0 0) [] m) :
    HasReached m (countdownFile 9 0 49 2) (digits n (passes n))
      (m.afterSteps (4 * passes n + 1)) := by
  obtain ⟨k, hk⟩ := Nat.exists_eq_add_of_lt (passes_pos n)
  rw [Nat.zero_add] at hk
  have hlt : k < passes n := by omega
  obtain ⟨b, hlast⟩ := hasReached_afterPasses hmem h hlt
  have hone : n - UInt32.ofNat k = 1 := (counter_eq_one_iff hlt).mpr hk.symm
  have hdigits := digits_succ n k
  rw [hone] at hlast hdigits
  have hend := hasReached_lastPass hmem hlast
  rw [← afterSteps_add] at hend
  rw [hk, hdigits]
  exact hend

end Loaded

theorem hasReached_ofMemory [Inhabited σ] {n : Word} {config : Config} {console : Console}
    {mem : Memory} (hmem : Memory.ofProgram (countdown n) config.stackWords = .ok mem)
    (hacc : console.Accepts) :
    HasReached (ofMemory mem 0 config console : Machine σ) (countdownFile 0 0 0 0) []
      (ofMemory mem 0 config console) where
  registers := by
    have hlen : mem.programLength = 10 := Memory.programLength_of_ofProgram hmem
    refine RegisterFile.ext_get fun r => ?_
    rw [get_countdownFile, ofMemory, hlen]
    cases r <;> simp
  memory := rfl
  state := rfl
  accepts := hacc
  written := (List.append_nil _).symm

/-- From any word on the loop counts down to one: it is passed through once for each number, or once
for each word if the start is zero, with four steps each time. Each pass prints the digit of the
counter, which is a byte whatever the counter is. With the first instruction before the loop and
the halt after it these are all steps. They leave the last digit, the counter at zero, the flag, the
instruction pointer past the program, and the other registers and the memory as they were. -/
theorem countdown_counts [Inhabited σ] (n : Word) {config : Config} {console : Console}
    (hfit : 10 + config.stackWords ≤ Word.addressSpace) (hacc : console.Accepts) :
    ∃ (m m' : Machine σ) (bytes : List UInt8),
      ofProgram (countdown n) config console = .ok m ∧
      m.EndsAt (4 * passes n + 2) ∧ m.afterSteps (4 * passes n + 2) = m' ∧
      m.Runs (4 * passes n + 2) (.ok .success, m') ∧ m'.state = .halted ∧
      m'.console.written = console.written ++ bytes ∧ bytes.length = passes n ∧
      (∀ (k : Nat) (b : UInt8), bytes[k]? = some b →
        (b.toNat : Int) = ((n.toNat : Int) - k + 48) % 256) ∧
      (∀ r, m'.registers.get r =
        match r with
        | .r1 => 0
        | .r2 => 49
        | .flags => 2
        | .ip => 10
        | .sp => 10
        | _ => 0) ∧
      m'.memory = m.memory := by
  obtain ⟨mem, hmem⟩ := @Memory.exists_ofProgram (countdown n) _ hfit
  let m : Machine σ := ofMemory mem 0 config console
  have hend : HasReached m _ _ _ := hasReached_end hmem (hasReached_ofMemory hmem hacc)
  have hcode : m.memory.load 9 = .ok haltInstruction.encode := Memory.load_of_ofProgram hmem rfl
  obtain ⟨hstep, hstate, hregs, hmemory, hwritten⟩ := hend.halt hcode
  rw [← afterSteps_succ_eq_step] at hstate hregs hmemory hwritten
  have hends : m.EndsAt (4 * passes n + 1 + 1) :=
    { before := fun k hk => running_of_le (Nat.le_of_lt_succ hk) hend.state
      ended := by rw [hstate]; nofun }
  refine ⟨m, _, digits n (passes n), Fault.map_eq_ok_iff.mpr ⟨mem, hmem, rfl⟩, hends, rfl,
    hends.runs (by rw [hstep]; exact .halt), hstate, hwritten, length_digits n _,
    fun k b hb => toNat_of_digits hb, fun r => ?_, hmemory⟩
  rw [hregs, countdownFile_set_ip, get_countdownFile]
  cases r <;> rfl

theorem countdownFromZero_counts :
    ∃ m m' : Machine Unit,
      ofProgram [0x28000001, 0, 0x28000012, 48, 0xE0000200, 0x38000011, 1, 0xB8000000, 2, 0]
        { stackWords := 3 } {} = .ok m ∧
      m.Runs 17179869186 (.ok .success, m') ∧ m'.console.written.length = 4294967296 ∧
      m'.console.written[1]? = some 47 ∧ m'.registers.get .r2 = 49 ∧ m'.ip = 10 := by
  have hacc : ({} : Console).Accepts := { writes := nofun, flushes := nofun }
  obtain ⟨m, m', bytes, hm, -, -, hruns, -, hwritten, hlen, hbytes, hregs, -⟩ :=
    @countdown_counts Unit _ 0 { stackWords := 3 } _ (by decide) hacc
  have hprogram : countdown 0 =
      [0x28000001, 0, 0x28000012, 48, 0xE0000200, 0x38000011, 1, 0xB8000000, 2, 0] := by decide
  rw [hprogram] at hm
  have hpasses : passes 0 = 4294967296 := rfl
  rw [hpasses] at hlen
  obtain rfl : m'.console.written = bytes := hwritten
  have hlt : 1 < m'.console.written.length := by
    rw [hlen]
    decide
  obtain ⟨b, hb⟩ : ∃ b, m'.console.written[1]? = some b := ⟨_, List.getElem?_eq_getElem hlt⟩
  obtain rfl : b = 47 := UInt8.toNat_inj.mp (Int.ofNat.inj (hbytes 1 b hb))
  exact ⟨m, m', hm, hruns, hlen, hb, hregs .r2, hregs .ip⟩

end Machine
end WordMachine
