import Mathlib.Data.List.Forall2
import WordMachine.Proofs.ImageCodec
import WordMachine.Proofs.Runs
import WordMachine.Proofs.StraightCode

/-! From an image to its output: a program that prints words, one after the other, is written as
bytes, read back, loaded and run. -/
namespace WordMachine

def printInstruction : Instruction := (Instruction.of .output 0 0 0).withImmediate

/-- The program that prints the low bytes of some words. -/
def printing (ws : List Word) : List Word :=
  ws.flatMap (fun w => [printInstruction.encode, w]) ++ [haltInstruction.encode]

def LowBytes (s : List UInt8) (ws : List Word) : Prop :=
  List.Forall₂ (fun b w => w.toNat % 2 ^ 8 = b.toNat) s ws

theorem printing_cons (w : Word) (ws : List Word) :
    printing (w :: ws) = printInstruction.encode :: w :: printing ws := rfl

@[simp] theorem length_printing (ws : List Word) : (printing ws).length = 2 * ws.length + 1 := by
  induction ws with
  | nil => rfl
  | cons w ws ih =>
    simp only [printing_cons, List.length_cons, ih]
    omega

theorem getElem?_printing {ws : List Word} {k : Nat} {w : Word} (h : ws[k]? = some w) :
    (printing ws)[2 * k]? = some printInstruction.encode ∧ (printing ws)[2 * k + 1]? = some w := by
  induction ws generalizing k with
  | nil => cases h
  | cons v ws ih =>
    cases k with
    | zero =>
      cases h
      exact ⟨rfl, rfl⟩
    | succ k => exact ih h

theorem getElem?_printing_length (ws : List Word) :
    (printing ws)[2 * ws.length]? = some haltInstruction.encode := by
  induction ws with
  | nil => rfl
  | cons w ws ih => exact ih

theorem lowBytes_map (s : List UInt8) : LowBytes s (s.map UInt8.toUInt32) := by
  induction s with
  | nil => exact .nil
  | cons b s ih => exact .cons (by simp [Nat.mod_eq_of_lt b.toNat_lt]) ih

theorem LowBytes.eq_map {s : List UInt8} {ws : List Word} (h : LowBytes s ws) :
    s = ws.map UInt32.toUInt8 := by
  induction h with
  | nil => rfl
  | @cons b w s ws hb _ ih =>
    have hlow : w.toUInt8 = b := UInt8.toNat_inj.mp ((UInt32.toNat_toUInt8 w).trans hb)
    rw [List.map_cons, hlow, ← ih]

namespace Machine

variable {σ : Type} {m m' : Machine σ}

/-- The machine `m'` is `m` after it has printed some bytes with two words of program for each. -/
structure HasPrinted (m : Machine σ) (bytes : List UInt8) (m' : Machine σ) : Prop where
  registers : m'.registers = m.registers.set .ip (UInt32.ofNat (2 * bytes.length))
  memory : m'.memory = m.memory
  state : m'.state = .running
  accepts : m'.console.Accepts
  written : m'.console.written = m.console.written ++ bytes

namespace HasPrinted

variable {bytes : List UInt8}

theorem ip_eq (h : HasPrinted m bytes m') : m'.ip = UInt32.ofNat (2 * bytes.length) := by
  rw [ip, h.registers, RegisterFile.get_set_self]

theorem reached (h : HasPrinted m bytes m') :
    HasReached m (m.registers.set .ip (UInt32.ofNat (2 * bytes.length))) bytes m' :=
  ⟨h.registers, h.memory, h.state, h.accepts, h.written⟩

theorem step {w : Word} (h : HasPrinted m bytes m') (hs : m.sp.toNat ≤ m.memory.length)
    (hcode : m.memory.load m'.ip = .ok printInstruction.encode)
    (hw : m.memory.load (m'.ip + 1) = .ok w) :
    HasPrinted m (bytes ++ [w.toUInt8]) m'.step.2 := by
  rw [h.reached.ip_eq] at hcode hw
  have hf := h.reached.fetch .output (.withImmediate (.of ..)) rfl hcode
  have ha := Intends.output (f := ⟨printInstruction.encode, printInstruction, .output⟩) rfl
    ⟨w, h.reached.load_next hw, rfl⟩
  have hsp : (m.registers.set .ip (UInt32.ofNat (2 * bytes.length))).get .sp = m.sp :=
    RegisterFile.get_set_ne _ (by decide) _
  have hprinted := h.reached.write hf ha (by rw [hsp]; exact hs)
  have hnext : m'.pastOperands printInstruction =
      UInt32.ofNat (2 * (bytes ++ [w.toUInt8]).length) := by
    have hpast : m'.pastOperands printInstruction = m'.ip + 2 := rfl
    rw [hpast, h.ip_eq, List.length_append, Nat.mul_add, UInt32.ofNat_add]
    rfl
  rw [RegisterFile.set_set, hnext] at hprinted
  exact ⟨hprinted.registers, hprinted.memory, hprinted.state, hprinted.accepts, hprinted.written⟩

theorem halts (h : HasPrinted m bytes m')
    (hcode : m.memory.load m'.ip = .ok haltInstruction.encode) :
    m'.step.1 = .ok .halted ∧ m'.step.2.state = .halted ∧
    m'.step.2.registers = m.registers.set .ip (UInt32.ofNat (2 * bytes.length + 1)) ∧
    m'.step.2.memory = m.memory ∧
    m'.step.2.console.written = m.console.written ++ bytes := by
  rw [h.reached.ip_eq] at hcode
  have hhalt := h.reached.halt hcode
  rw [RegisterFile.get_set_self, RegisterFile.set_set] at hhalt
  rw [UInt32.ofNat_add]
  exact hhalt

end HasPrinted

section Loaded

variable [Inhabited σ] {ws : List Word} {config : Config} {console : Console} {mem : Memory}

theorem load_of_printing {i : Nat} {w : Word}
    (hmem : Memory.ofProgram (printing ws) config.stackWords = .ok mem)
    (h : (printing ws)[i]? = some w) : mem.load (UInt32.ofNat i) = .ok w := by
  have hi : i < UInt32.size := calc
    i < (printing ws).length := (List.getElem?_eq_some_iff.mp h).1
    _ = mem.programLength := (Memory.programLength_of_ofProgram hmem).symm
    _ ≤ mem.length := mem.programLength_le_length
    _ ≤ Word.addressSpace := Memory.length_le_of_ofProgram hmem
  refine Memory.load_of_ofProgram hmem ?_
  rw [UInt32.toNat_ofNat_of_lt' hi]
  exact h

/-- Each step prints one word. The induction is on the words printed so far. -/
theorem hasPrinted_afterSteps
    (hmem : Memory.ofProgram (printing ws) config.stackWords = .ok mem) (hacc : console.Accepts)
    {k : Nat} (hk : k ≤ ws.length) :
    HasPrinted (ofMemory mem 0 config console : Machine σ) ((ws.take k).map UInt32.toUInt8)
      ((ofMemory mem 0 config console).afterSteps k) := by
  induction k with
  | zero =>
    exact
      { registers := (RegisterFile.set_get _ _).symm
        memory := rfl
        state := rfl
        accepts := hacc
        written := (List.append_nil _).symm }
  | succ k ih =>
    have ih := ih (Nat.le_of_succ_le hk)
    obtain ⟨w, hw⟩ : ∃ w, ws[k]? = some w := ⟨_, List.getElem?_eq_getElem hk⟩
    have hlen : ((ws.take k).map UInt32.toUInt8).length = k := by
      rw [List.length_map, List.length_take_of_le (Nat.le_of_succ_le hk)]
    have hip := ih.ip_eq
    rw [hlen] at hip
    have hsucc : UInt32.ofNat (2 * k) + 1 = UInt32.ofNat (2 * k + 1) := (UInt32.ofNat_add _ 1).symm
    obtain ⟨hcode, hoperand⟩ := getElem?_printing hw
    have hnext := ih.step (sp_ofMemory_le ..)
      (by rw [hip]; exact load_of_printing hmem hcode)
      (by rw [hip, hsucc]; exact load_of_printing hmem hoperand)
    rw [afterSteps_succ_eq_step, List.take_add_one, hw, List.map_append]
    exact hnext

theorem halts_after_printing
    (hmem : Memory.ofProgram (printing ws) config.stackWords = .ok mem) (hacc : console.Accepts)
    {m : Machine σ} (hm : ofMemory mem 0 config console = m) :
    (m.afterSteps ws.length).step.1 = .ok .halted ∧
    (m.afterSteps (ws.length + 1)).state = .halted ∧
    (m.afterSteps (ws.length + 1)).registers =
      m.registers.set .ip (UInt32.ofNat (2 * ws.length + 1)) ∧
    (m.afterSteps (ws.length + 1)).memory = m.memory ∧
    (m.afterSteps (ws.length + 1)).console.written =
      console.written ++ ws.map UInt32.toUInt8 := by
  subst hm
  have hlast := hasPrinted_afterSteps (σ := σ) hmem hacc (Nat.le_refl ws.length)
  rw [List.take_length] at hlast
  have hhalt := hlast.halts (by
    rw [hlast.ip_eq, List.length_map]
    exact load_of_printing hmem (getElem?_printing_length ws))
  rw [List.length_map] at hhalt
  rw [afterSteps_succ_eq_step]
  exact hhalt

end Loaded

/-- A program that prints the low bytes of some words, written as an image and read back, runs to
its halt with one step for each byte and one more. It leaves these bytes in the output, and nothing
else has changed but the instruction pointer, which is past the program. -/
theorem printing_prints [Inhabited σ] {s : List UInt8} {config : Config} {console : Console}
    (hfit : 2 * s.length + 1 + config.stackWords ≤ Word.addressSpace) (hacc : console.Accepts) :
    LowBytes s (s.map UInt8.toUInt32) ∧
    ∀ ws, LowBytes s ws → ∃ program, ∃ m m' : Machine σ,
      Image.parse (Image.encode (printing ws)) = .ok program ∧
      ofProgram program config console = .ok m ∧
      m.EndsAt (s.length + 1) ∧ m.afterSteps (s.length + 1) = m' ∧
      m.Runs (s.length + 1) (.ok .success, m') ∧
      m'.console.written = console.written ++ s ∧
      m'.state = .halted ∧ m'.ip.toNat = 2 * s.length + 1 ∧
      (∀ r, r ≠ .ip → m'.registers.get r = m.registers.get r) ∧ m'.memory = m.memory := by
  refine ⟨lowBytes_map s, fun ws hs => ?_⟩
  obtain rfl := hs.eq_map
  rw [List.length_map] at hfit ⊢
  obtain ⟨mem, hmem⟩ := Memory.exists_ofProgram (hfit.trans_eq' (by rw [length_printing]))
  let m : Machine σ := ofMemory mem 0 config console
  obtain ⟨hstep, hstate, hregs, hmemory, hwritten⟩ := halts_after_printing (m := m) hmem hacc rfl
  have hends : m.EndsAt (ws.length + 1) :=
    { before := fun k hk => (hasPrinted_afterSteps hmem hacc (Nat.le_of_lt_succ hk)).state
      ended := by rw [hstate]; nofun }
  have hip : (m.afterSteps (ws.length + 1)).ip.toNat = 2 * ws.length + 1 := by
    -- the length is odd, and so not that of the whole address space
    have hlt : 2 * ws.length + 1 < UInt32.size := by
      have hsize : Word.addressSpace = UInt32.size := rfl
      have heven : UInt32.size = 2 * 2 ^ 31 := rfl
      omega
    rw [ip, hregs, RegisterFile.get_set_self, UInt32.toNat_ofNat_of_lt' hlt]
  exact ⟨printing ws, m, _, Image.parse_encode _, Fault.map_eq_ok_iff.mpr ⟨mem, hmem, rfl⟩, hends,
    rfl, hends.runs (by rw [hstep]; exact .halt), hwritten, hstate, hip,
    fun r hr => by rw [hregs, RegisterFile.get_set_ne _ hr], hmemory⟩

theorem printingHi_prints :
    ({ writes := [.interrupted] } : Console).Accepts ∧ LowBytes [72, 105] [328, 105] ∧
    ∃ m m' : Machine Unit,
      ofProgram [0xE8000000, 328, 0xE8000000, 105, 0] { stackWords := 3 }
        { writes := [.interrupted] } = .ok m ∧
      m.Runs 3 (.ok .success, m') ∧ m'.console.written = [72, 105] ∧ m'.ip.toNat = 5 := by
  have hacc : ({ writes := [.interrupted] } : Console).Accepts :=
    { writes := by simp, flushes := nofun }
  have hlow : LowBytes [72, 105] [328, 105] := .cons (by decide) (.cons (by decide) .nil)
  obtain ⟨program, m, m', hparse, hm, -, -, hruns, hwritten, -, hip, -⟩ :=
    (@printing_prints Unit _ [72, 105] { stackWords := 3 } _ (by decide) hacc).2 _ hlow
  have hprogram : printing [328, 105] = [0xE8000000, 328, 0xE8000000, 105, 0] := by decide
  cases hparse.symm.trans (Image.parse_encode _)
  rw [hprogram] at hm
  exact ⟨hacc, hlow, m, m', hm, hruns, hwritten, hip⟩

end Machine
end WordMachine
