import WordMachine.Proofs.ErrorAtomicity
import WordMachine.Proofs.Lockstep

/-! The stack guard only looks at what a step has done, and it looks at every step that could
have moved the stack pointer or the end of memory. -/
namespace WordMachine.Machine

variable {σ : Type} {m m' : Machine σ}

def unguarded (m : Machine σ) : Machine σ :=
  { m with config := { m.config with stackGuard := false } }

theorem raise_unguarded (m : Machine σ) (flag : Bool) :
    m.unguarded.raise flag = (m.raise flag).unguarded := by
  cases flag <;> rfl

theorem settle_unguarded (m : Machine σ) (s : State) :
    m.unguarded.settle s = (m.settle s).unguarded := by
  cases s <;> rfl

theorem Stored.unguarded {w : Word} {dst : Destination} (h : m.Stored w dst m') :
    m.unguarded.Stored w dst m'.unguarded := by
  cases h with
  | register r => exact .register r
  | cell ha => exact .cell (m := m.unguarded) ha

theorem Effect.unguarded {a : Action} {s : State} (h : m.Effect a s m') :
    m.unguarded.Effect a s m'.unguarded := by
  cases h with
  | halt hf => exact .halt hf
  | @assign _ _ _ flag m₁ h =>
    rw [← raise_unguarded]
    exact .assign h.unguarded
  | jump => exact .jump
  | read hf hr h => exact .read hf hr h.unguarded
  | write hw => exact .write hw
  | call hc => exact .call hc

theorem Course.unguarded {r : Except Fault State} (h : m.Course r m')
    (hr : ∀ sp length, r ≠ .error (.stackOverflow sp length)) :
    m.unguarded.Course r m'.unguarded := by
  cases h with
  | unfetched hl => exact .unfetched hl
  | rejected hl hw => exact .rejected hl hw
  | unresolved hf ha => exact .unresolved hf ha
  | refused hf ha href => exact .refused hf ha (href.congr rfl rfl (Or.inl rfl))
  | overflowed _ _ _ _ _ => exact absurd rfl (hr _ _)
  | completed hf ha he _ =>
    rw [← settle_unguarded]
    exact .completed hf ha he.unguarded nofun

theorem Course.unguarded_of_overflow {sp : Word} {length : Nat}
    (h : m.Course (.error (.stackOverflow sp length)) m') :
    ∃ m₁ : Machine σ, m' = m₁.fail (.stackOverflow sp length) ∧
      m.unguarded.Course (.ok .running) (m₁.unguarded.settle .running) := by
  obtain ⟨f, a, m₁, hf, ha, he, -, -, rfl⟩ := h.of_overflow rfl
  exact ⟨m₁, rfl, .completed (a := a) hf ha he.unguarded nofun⟩

theorem unguarded_step (hq : ∀ sp length, m.step.1 ≠ .error (.stackOverflow sp length)) :
    m.unguarded.step = (m.step.1, m.step.2.unguarded) := by
  by_cases hr : m.state = .running
  · exact ((course_step hr).unguarded hq).step_eq hr
  · have hr' : m.unguarded.state ≠ .running := hr
    rw [step_of_not_running hr', step_of_not_running hr]
    rfl

theorem unguarded_step_of_overflow {sp : Word} {length : Nat}
    (h : m.step.1 = .error (.stackOverflow sp length)) :
    ∃ m₁ : Machine σ, m.step.2 = m₁.fail (.stackOverflow sp length) ∧
      m.unguarded.step = (.ok .running, m₁.unguarded.settle .running) := by
  have hr := running_of_step_error h
  have hc := course_step hr
  rw [h] at hc
  obtain ⟨m₁, hm, hc'⟩ := hc.unguarded_of_overflow
  exact ⟨m₁, hm, hc'.step_eq hr⟩

/-- The first machine has made one flush more than the second, and both are at the same place. -/
structure OneFlushAhead (m m' : Machine σ) : Prop where
  registers : m.registers = m'.registers
  memory : m.memory = m'.memory
  builtins : m.builtins = m'.builtins
  input : m.console.input = m'.console.input
  written : m.console.written = m'.console.written
  calls : ∃ outcome, m.console.calls.toList = m'.console.calls.toList ++ [.flush outcome]

/-- Without its guard a machine takes the same steps, with the same results, up to the step that
the guard stops. That one then ends at the same place and goes on running. -/
theorem stackGuard_only_observes (m : Machine σ) (n : Nat)
    (hq : ∀ k < n, ∀ sp length, (m.afterSteps k).step.1 ≠ .error (.stackOverflow sp length)) :
    (∀ k < n, (m.unguarded.afterSteps k).step.1 = (m.afterSteps k).step.1) ∧
    m.unguarded.afterSteps n = (m.afterSteps n).unguarded ∧
    ∀ sp length, (m.afterSteps n).step.1 = .error (.stackOverflow sp length) →
      (m.unguarded.afterSteps n).step.1 = .ok .running ∧
      (m.afterSteps (n + 1)).state = .failed .overflow ∧
      OneFlushAhead (m.afterSteps (n + 1)) (m.unguarded.afterSteps (n + 1)) := by
  have hl := lockstep (fun m m' : Machine σ => m' = m.unguarded)
    (fun m => ∀ sp length, m.step.1 ≠ .error (.stackOverflow sp length))
    (fun m m' hm hq => by rw [hm, unguarded_step hq]; exact ⟨rfl, rfl⟩) rfl hq
  refine ⟨hl.1, hl.2, fun sp length ho => ?_⟩
  obtain ⟨m₁, hm, hu⟩ := unguarded_step_of_overflow ho
  rw [afterSteps_succ_eq_step, afterSteps_succ_eq_step, hl.2, hu, hm]
  refine ⟨rfl, rfl, ?_⟩
  exact { registers := rfl, memory := rfl, builtins := rfl, input := rfl
          written := m₁.console.written_flush
          calls := ⟨_, m₁.console.calls_flush⟩ }

def pushingPastEnd : Machine Unit :=
  ofMemory { cells := #[0x28000011, 1, 0x280000BB, 1, 0], programLength := 5 } 0 {} {}

theorem pushingPastEnd_observed :
    (∀ k < 1, ∀ sp length,
      (pushingPastEnd.afterSteps k).step.1 ≠ .error (.stackOverflow sp length)) ∧
    (pushingPastEnd.afterSteps 1).step.1 = .error (.stackOverflow 6 5) ∧
    (pushingPastEnd.unguarded.afterSteps 1).step.1 = .ok .running ∧
    OneFlushAhead (pushingPastEnd.afterSteps 2) (pushingPastEnd.unguarded.afterSteps 2) := by
  have hq : ∀ k < 1, ∀ sp length,
      (pushingPastEnd.afterSteps k).step.1 ≠ .error (.stackOverflow sp length) := by
    intro k hk sp length
    obtain rfl : k = 0 := by omega
    have h : (pushingPastEnd.afterSteps 0).step.1 = .ok .running := by rfl
    rw [h]
    nofun
  have ho : (pushingPastEnd.afterSteps 1).step.1 = .error (.stackOverflow 6 5) := by rfl
  obtain ⟨hu, -, ha⟩ := (stackGuard_only_observes pushingPastEnd 1 hq).2.2 6 5 ho
  exact ⟨hq, ho, hu, ha⟩

/-- The machines before their first step: on a program or on a prepared memory, then with any
table of builtins and any stack pointer. -/
inductive Built [Inhabited σ] : Machine σ → Prop
  | ofProgram {program : List Word} {config : Config} {console : Console} {m : Machine σ}
      (h : Machine.ofProgram program config console = .ok m) : Built m
  | ofMemory (mem : Memory) (entry : Word) (config : Config) (console : Console) :
      Built (Machine.ofMemory mem entry config console)
  | withBuiltins {m : Machine σ} (h : Built m) (table : Builtin.Table σ) :
      Built (m.withBuiltins table)
  | withStackPointer {m : Machine σ} (h : Built m) (w : Word) : Built (m.withStackPointer w)

theorem Built.state_eq [Inhabited σ] (h : m.Built) : m.state = .running := by
  induction h with
  | @ofProgram program config console m h =>
    obtain ⟨mem, -, rfl⟩ := Fault.map_eq_ok_iff.mp h
    rfl
  | ofMemory _ _ _ _ => rfl
  | withBuiltins _ _ ih => exact ih
  | withStackPointer _ _ ih => exact ih

theorem sp_ofProgram_le [Inhabited σ] {program : List Word} {config : Config} {console : Console}
    (h : ofProgram program config console = .ok m) : m.sp.toNat ≤ m.memory.length := by
  obtain ⟨mem, -, rfl⟩ := Fault.map_eq_ok_iff.mp h
  exact sp_ofMemory_le mem 0 config console

/-- The guard is on, and only an overflowed machine has its stack pointer past the end. -/
def Kept (m : Machine σ) : Prop :=
  m.config.stackGuard = true ∧ (m.memory.length < m.sp.toNat ↔ m.state = .failed .overflow)

theorem kept_of_running (hg : m.config.stackGuard = true) (hr : m.state = .running)
    (hs : m.sp.toNat ≤ m.memory.length) : m.Kept := by
  refine ⟨hg, iff_of_false (Nat.not_lt.mpr hs) ?_⟩
  rw [hr]
  nofun

theorem Course.kept_of_error {e : Fault} (h : m.Course (.error e) m')
    (hg : m.config.stackGuard = true) (hs : m.sp.toNat ≤ m.memory.length) : m'.Kept := by
  by_cases he : e.status = .overflow
  · obtain ⟨f, a, m₁, -, -, -, hg₁, hs₁, rfl⟩ := h.of_overflow he
    refine ⟨hg₁, iff_of_true hs₁ ?_⟩
    rw [state_fail, he]
  · have hu : m.Untouched m' := h.untouched fun sp length ho => he (by rw [ho]; rfl)
    have hsp : m'.sp = m.sp := hu.registers .sp (by decide)
    refine ⟨hu.config ▸ hg, iff_of_false ?_ ?_⟩
    · rw [hsp, hu.memory]
      exact Nat.not_lt.mpr hs
    · rw [h.state_eq_failed]
      intro hst
      exact he (State.failed.inj hst)

/-- A step that succeeds keeps it: the guard looks after every effect but that of a halt, which
moves neither the pointer nor the end. -/
theorem Course.kept_of_ok {s : State} (h : m.Course (.ok s) m')
    (hg : m.config.stackGuard = true) (hs : m.sp.toNat ≤ m.memory.length) : m'.Kept := by
  cases h with
  | @completed f a _ m₁ hf ha he hguard =>
    have hg₁ : m₁.config.stackGuard = true := by
      rw [he.config_eq]
      exact hg
    have hs₁ : m₁.sp.toNat ≤ m₁.memory.length := by
      rcases he.running_or_halted with rfl | ⟨-, hr, hm⟩
      · exact hguard rfl hg₁
      · have hsp : m₁.sp = m.sp := by
          rw [sp, hr]
          exact RegisterFile.get_set_ne m.registers (by decide) (m.ip + 1)
        rw [hsp, hm]
        exact hs
    refine ⟨by rw [config_settle]; exact hg₁, iff_of_false ?_ ?_⟩
    · rw [sp_settle, memory_settle]
      exact Nat.not_lt.mpr hs₁
    · rw [state_settle]
      rcases he.running_or_halted with rfl | ⟨rfl, -⟩ <;> simp

theorem Kept.step (h : m.Kept) : m.step.2.Kept := by
  by_cases hr : m.state = .running
  · have hs : m.sp.toNat ≤ m.memory.length := by
      refine Nat.not_lt.mp fun hlt => ?_
      have hst := h.2.mp hlt
      rw [hr] at hst
      cases hst
    have hc := course_step hr
    cases hres : m.step.1 with
    | error e =>
      rw [hres] at hc
      exact hc.kept_of_error h.1 hs
    | ok s =>
      rw [hres] at hc
      exact hc.kept_of_ok h.1 hs
  · rw [step_of_not_running hr]
    exact h

/-- A guarded machine that starts within its memory, as every machine built for a program or a
memory does by itself, has its stack pointer past the end of memory exactly when it has failed
with an overflow, whatever it has run and whatever its builtins do. -/
theorem sp_past_end_iff_overflow [Inhabited σ] :
    (∀ mem entry config console,
      (ofMemory mem entry config console : Machine σ).sp.toNat ≤ mem.length) ∧
    (∀ program config console (m : Machine σ), ofProgram program config console = .ok m →
      m.sp.toNat ≤ m.memory.length) ∧
    ∀ m : Machine σ, m.Built → m.config.stackGuard = true → m.sp.toNat ≤ m.memory.length →
      ∀ n, (m.afterSteps n).memory.length < (m.afterSteps n).sp.toNat ↔
        (m.afterSteps n).state = .failed .overflow := by
  refine ⟨sp_ofMemory_le, fun _ _ _ _ h => sp_ofProgram_le h, fun m hb hg hs n => ?_⟩
  have hk : m.Kept := kept_of_running hg hb.state_eq hs
  exact (afterSteps_induction (fun _ h => h.step) hk n).2

def droppingMemory : Machine Unit :=
  (ofMemory { cells := #[0xF8000000, 0], programLength := 2 } 0 {} {}).withBuiltins
    ⟨[{ name := "drop_memory", captured := (),
        body := fun s file _ => { value := 0, registers := file, memory := .zeros 0,
                                  captured := s } }]⟩

theorem droppingMemory_overflow :
    droppingMemory.Built ∧ droppingMemory.sp.toNat ≤ droppingMemory.memory.length ∧
    (droppingMemory.afterSteps 1).sp = droppingMemory.sp ∧
    (droppingMemory.afterSteps 1).state = .failed .overflow := by
  have hb : droppingMemory.Built := .withBuiltins (.ofMemory _ _ _ _) _
  have hs : droppingMemory.sp.toNat ≤ droppingMemory.memory.length := by decide
  have hlt : (droppingMemory.afterSteps 1).memory.length <
      (droppingMemory.afterSteps 1).sp.toNat := by decide
  exact ⟨hb, hs, rfl, (sp_past_end_iff_overflow.2.2 droppingMemory hb rfl hs 1).mp hlt⟩

end WordMachine.Machine
