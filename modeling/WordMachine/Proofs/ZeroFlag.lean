import WordMachine.Proofs.Footprint
import WordMachine.Proofs.InputFidelity
import WordMachine.Proofs.Operands

/-! The flags through whole runs: only a difference of zero that is put in its place sets the zero
flag, and nothing clears it but an instruction or a builtin that writes the flags as a register. -/
namespace WordMachine

namespace Fetched

def direct? (field : UInt8) (deref : Bool) : Option Register :=
  if deref then none else (Register.ofField field).toOption

/-- The register that an instruction names for its result, whether or not it gets as far as putting
it there. -/
def register? (f : Fetched) : Option Register :=
  match f.opcode with
  | .move => direct? f.instruction.b f.instruction.modes.derefB
  | .arithmetic _ => direct? f.instruction.a f.instruction.modes.derefA
  | .input => direct? f.instruction.c f.instruction.modes.derefC
  | .halt | .branch _ | .output | .builtin => none

end Fetched

namespace Machine

variable {σ : Type} {m m' : Machine σ}

def flags (m : Machine σ) : Word := m.registers.get .flags

def NamesFlags (m : Machine σ) : Prop :=
  ∃ f, m.next? = some f ∧ f.register? = some .flags

/-- The next step calls a builtin that leaves other flags than it finds. -/
def CallsFlagWriter (m : Machine σ) : Prop :=
  ∃ f w c, m.next? = some f ∧ f.opcode = .builtin ∧ m.OperandOf f.instruction w ∧
    m.builtins.call w (m.registers.set .ip (m.pastOperands f.instruction)) m.memory = .ok c ∧
    c.registers.get .flags ≠ m.flags

def Cancels (m : Machine σ) : Prop :=
  ∃ f dst b c, m.next? = some f ∧ f.opcode = .arithmetic .sub ∧
    m.OperandsOf f.instruction dst b c ∧ Arithmetic.sub.exact b.toNat c.toNat = 0 ∧
    dst.Within m.memory

/-- The word that an instruction puts in the register that it names for its result. -/
inductive Puts (m : Machine σ) (f : Fetched) : Word → Prop
  | move {w : Word} (hop : f.opcode = .move) (ho : m.OperandOf f.instruction w) : Puts m f w
  | arithmetic {op : Arithmetic} {dst : Destination} {b c w : Word}
      (hop : f.opcode = .arithmetic op) (ho : m.OperandsOf f.instruction dst b c)
      (hz : op = .div → c ≠ 0) (hw : (w.toNat : Int) = op.exact b.toNat c.toNat) : Puts m f w
  | input {w : Word} (hop : f.opcode = .input) (hd : m.delivered? = some w) : Puts m f w

theorem direct?_eq_some_iff {field : UInt8} {deref : Bool} {r : Register} :
    Fetched.direct? field deref = some r ↔ m.DestinationOf field deref (.register r) := by
  cases deref <;> simp [Fetched.direct?, DestinationOf, Fault.toOption_eq_some_iff]

theorem DestinationOf.eq {field : UInt8} {deref : Bool} {dst dst' : Destination}
    (h : m.DestinationOf field deref dst) (h' : m.DestinationOf field deref dst') :
    dst = dst' := by
  obtain ⟨r, hr, rfl⟩ := h
  obtain ⟨r', hr', rfl⟩ := h'
  cases hr.symm.trans hr'
  rfl

theorem Stored.within {w : Word} {dst : Destination} (h : m.Stored w dst m') :
    dst.Within m.memory := by
  cases h with
  | register r => trivial
  | cell ha => exact ha

theorem step_of_assign {f : Fetched} {next w : Word} {dst : Destination} {flag : Bool}
    (hn : m.next? = some f) (ha : m.Intends f (.assign next dst w flag))
    (hd : dst.Within m.memory) : ∃ m₁, ((m.fetched f).set .ip next).Stored w dst m₁ ∧
      m.step = (m₁.raise flag).concluded := by
  obtain ⟨hr, hf⟩ := next?_eq_some_iff.mp hn
  obtain ⟨m₁, hs⟩ : ∃ m₁, ((m.fetched f).set .ip next).Stored w dst m₁ :=
    Stored.exists_of_within hd
  refine ⟨m₁, hs, step_of_effect hr hf (resolve_eq_ok_iff.mpr ha) (.assign hs) ?_⟩
  rw [state_raise, hs.state_eq]
  exact hr

@[simp] theorem flags_fetched (m : Machine σ) (f : Fetched) : (m.fetched f).flags = m.flags :=
  RegisterFile.get_set_ne _ (by decide) _

@[simp] theorem flags_set_ip (m : Machine σ) (w : Word) : (m.set .ip w).flags = m.flags :=
  RegisterFile.get_set_ne _ (by decide) w

@[simp] theorem flags_concluded (m : Machine σ) : m.concluded.2.flags = m.flags := by
  rw [flags, registers_concluded, flags]

theorem flags_raise (m : Machine σ) (flag : Bool) :
    (m.raise flag).flags = if flag then m.flags ||| 2 else m.flags := by
  cases flag with
  | false => rfl
  | true => exact m.registers.get_setZeroFlag .flags

theorem Stored.flags_eq {w : Word} {dst : Destination} (h : m.Stored w dst m') :
    m'.flags = if dst = .register .flags then w else m.flags := by
  cases h with
  | register r =>
    have hget := m.registers.get_set r .flags w
    simp only [Destination.register.injEq, eq_comm (a := r)]
    exact hget
  | cell _ => rfl

theorem register?_of_intends {f : Fetched} {a : Action} {r : Register} (ha : m.Intends f a) :
    f.register? = some r ↔ a.target? false = some (.register r) := by
  have hplace {field : UInt8} {deref : Bool} {dst : Destination}
      (hd : m.DestinationOf field deref dst) :
      Fetched.direct? field deref = some r ↔ some dst = some (.register r) := by
    rw [direct?_eq_some_iff (m := m), Option.some.injEq]
    exact ⟨hd.eq, fun h => h ▸ hd⟩
  cases ha with
  | move hop hd _ =>
    rw [Fetched.register?, hop]
    exact hplace hd
  | arithmetic hop ho _ =>
    rw [Fetched.register?, hop]
    exact hplace ho.destination
  | input hop hd =>
    rw [Fetched.register?, hop]
    exact hplace hd
  | halt hop | branch hop _ | output hop _ | builtin hop _ =>
    simp [Fetched.register?, hop, Action.target?]

theorem cancels_of_flag {f : Fetched} {next w : Word} {dst : Destination} {flag : Bool}
    (hn : m.next? = some f) (ha : m.Intends f (.assign next dst w flag)) (hflag : flag = true)
    (hd : dst.Within m.memory) : m.Cancels := by
  cases ha with
  | move _ _ _ => cases hflag
  | @arithmetic op _ b c hop ho _ =>
    obtain ⟨rfl, hw⟩ := of_decide_eq_true hflag
    have hexact := Arithmetic.sub.toNat_apply b c
    rw [hw] at hexact
    exact ⟨f, dst, b, c, hn, hop, ho, hexact.symm, hd⟩

theorem Course.effect_or_untouched {r : Except Fault State} (h : m.Course r m') :
    (∃ f a s m₁, m.fetch = .ok f ∧ m.resolve f = .ok a ∧ (m.fetched f).Effect a s m₁ ∧
      m'.registers = m₁.registers ∧ m'.memory = m₁.memory ∧ m'.builtins = m₁.builtins) ∨
      m.Untouched m' := by
  cases r with
  | ok s =>
    cases h with
    | @completed f a _ m₁ hf ha he _ =>
      exact Or.inl ⟨f, a, s, m₁, hf, ha, he, registers_settle m₁ s, memory_settle m₁ s,
        builtins_settle m₁ s⟩
  | error e =>
    by_cases he : e.status = .overflow
    · obtain ⟨f, a, m₁, hf, ha, heff, -, -, rfl⟩ := h.of_overflow he
      exact Or.inl ⟨f, a, _, m₁, hf, ha, heff, rfl, rfl, rfl⟩
    · exact Or.inr (h.untouched fun sp length ho => he (by rw [ho]; rfl))

theorem flags_of_effect {f : Fetched} {a : Action} {s : State} {m₁ : Machine σ}
    (hn : m.next? = some f) (ha : m.Intends f a) (he : (m.fetched f).Effect a s m₁)
    (hnames : ¬m.NamesFlags) (hcalls : ¬m.CallsFlagWriter) (hcancels : ¬m.Cancels) :
    m₁.flags = m.flags := by
  have htarget : a.target? false ≠ some (.register .flags) := fun ht =>
    hnames ⟨f, hn, (register?_of_intends ha).mpr ht⟩
  cases he with
  | halt _ => exact m.flags_fetched f
  | @assign next w dst flag m₁ hs =>
    have hdst : dst ≠ .register .flags := fun h => htarget (congrArg some h)
    have hflag : flag = false := by
      rw [← Bool.not_eq_true]
      exact fun h => hcancels (cancels_of_flag hn ha h hs.within)
    rw [hflag, flags_raise, if_neg Bool.false_ne_true, hs.flags_eq, if_neg hdst, flags_set_ip,
      flags_fetched]
  | jump => rw [flags_set_ip, flags_fetched]
  | @read dst w _ _ _ hs =>
    have hdst : dst ≠ .register .flags := fun h => htarget (congrArg some h)
    rw [hs.flags_eq, if_neg hdst]
    exact m.flags_fetched f
  | write _ => exact ((m.fetched f).flags_set_ip _).trans (m.flags_fetched f)
  | @call next index c hc =>
    cases ha with
    | builtin hop ho =>
      have hset : (m.fetched f).registers.set .ip (m.pastOperands f.instruction) =
          m.registers.set .ip (m.pastOperands f.instruction) := RegisterFile.set_set ..
      have hkept : c.registers.get .flags = m.flags := by
        refine Decidable.byContradiction fun hne => hcalls ⟨f, index, c, hn, hop, ho, ?_, hne⟩
        rw [← hset]
        exact hc
      rw [← hkept, flags, returned]
      split
      · exact RegisterFile.get_set_ne _ (by decide) c.value
      · rfl

theorem flags_step_of_quiet (hnames : ¬m.NamesFlags) (hcalls : ¬m.CallsFlagWriter)
    (hcancels : ¬m.Cancels) : m.step.2.flags = m.flags := by
  by_cases hr : m.state = .running
  · rcases (course_step hr).effect_or_untouched with ⟨f, a, s, m₁, hf, ha, he, hregs, -⟩ | hu
    · have hflags : m.step.2.flags = m₁.flags := by rw [flags, hregs, flags]
      rw [hflags]
      exact flags_of_effect (next?_eq_some_iff.mpr ⟨hr, hf⟩) (resolve_eq_ok_iff.mp ha) he hnames
        hcalls hcancels
    · exact hu.registers .flags (by decide)
  · rw [step_of_not_running hr]

theorem flags_step_of_cancels (h : m.Cancels) (hnames : ¬m.NamesFlags) :
    m.step.2.flags = m.flags ||| 2 := by
  obtain ⟨f, dst, b, c, hn, hop, ho, hz, hd⟩ := h
  have hw : Arithmetic.sub.apply b c = 0 := by
    rw [← Arithmetic.toNat_apply] at hz
    exact UInt32.toNat_inj.mp (Int.ofNat.inj hz)
  have ha := Intends.arithmetic hop ho nofun
  have hdst : dst ≠ .register .flags := fun h =>
    hnames ⟨f, hn, (register?_of_intends ha).mpr (congrArg some h)⟩
  obtain ⟨m₁, hs, hstep⟩ := step_of_assign hn ha hd
  rw [hstep, flags_concluded, flags_raise, if_pos (decide_eq_true ⟨rfl, hw⟩), hs.flags_eq,
    if_neg hdst, flags_set_ip, flags_fetched]

/-- A result that goes to the flags is what they hold after the step, but a difference of zero
raises its flag in them. -/
theorem flags_step_of_assign {f : Fetched} {next w : Word} {flag : Bool}
    (hn : m.next? = some f) (ha : m.Intends f (.assign next (.register .flags) w flag)) :
    m.step.2.flags = if flag then w ||| 2 else w := by
  obtain ⟨m₁, hs, hstep⟩ := step_of_assign hn ha trivial
  rw [hstep, flags_concluded, flags_raise, hs.flags_eq, if_pos rfl]

theorem flags_step_of_puts {f : Fetched} {w : Word} (hn : m.next? = some f)
    (hreg : f.register? = some .flags) (hp : m.Puts f w) :
    m.step.2.flags = if f.opcode = .arithmetic .sub ∧ w = 0 then 2 else w := by
  cases hp with
  | move hop ho =>
    rw [Fetched.register?, hop] at hreg
    rw [flags_step_of_assign hn (.move hop (direct?_eq_some_iff.mp hreg) ho), hop]
    simp
  | @arithmetic op dst b c _ hop ho hz hw =>
    rw [Fetched.register?, hop] at hreg
    obtain rfl : dst = .register .flags :=
      DestinationOf.eq ho.destination (direct?_eq_some_iff.mp hreg)
    obtain rfl : op.apply b c = w :=
      UInt32.toNat_inj.mp (Int.ofNat.inj ((op.toNat_apply b c).trans hw.symm))
    rw [flags_step_of_assign hn (.arithmetic hop ho hz), hop]
    by_cases hzero : op = .sub ∧ op.apply b c = 0
    · obtain ⟨rfl, hw⟩ := hzero
      simp [hw]
    · simp [hzero]
  | input hop hd =>
    rw [Fetched.register?, hop] at hreg
    have hholds := (holds_step_of_delivered hd hn hop (direct?_eq_some_iff.mp hreg) trivial).1
    rw [flags, hop, hholds]
    simp

/-- Where nothing is put in the flags although they are named, they keep what they hold. -/
theorem flags_step_of_not_puts {f : Fetched} (hn : m.next? = some f)
    (hreg : f.register? = some .flags) (hp : ∀ w, ¬m.Puts f w) : m.step.2.flags = m.flags := by
  obtain ⟨hr, hf⟩ := next?_eq_some_iff.mp hn
  rcases (course_step hr).effect_or_untouched with ⟨f', a, s, m₁, hf', ha, he, -⟩ | hu
  · cases hf.symm.trans hf'
    have hi := resolve_eq_ok_iff.mp ha
    cases hi with
    | move hop _ ho => exact absurd (.move hop ho) (hp _)
    | @arithmetic op _ b c hop ho hz =>
      exact absurd (.arithmetic hop ho hz (op.toNat_apply b c)) (hp _)
    | @input dst hop hd =>
      cases he with
      | read hflush hread _ =>
        have hasks : m.asks = true := asks_iff.mpr ⟨dst, nextAction?_of_resolve hr hf ha⟩
        rw [Console.result_read_flush] at hread
        exact absurd (.input hop (delivered?_eq_some_iff.mpr ⟨hasks, hflush, hread⟩)) (hp _)
    | halt hop | branch hop _ | output hop _ | builtin hop _ =>
      rw [Fetched.register?, hop] at hreg
      cases hreg
  · exact hu.registers .flags (by decide)

/-- Neither an instruction nor a builtin writes the flags in the first `n` steps. -/
def FlagsUnwritten (m : Machine σ) (n : Nat) : Prop :=
  ∀ k < n, ¬(m.afterSteps k).NamesFlags ∧ ¬(m.afterSteps k).CallsFlagWriter

theorem flags_afterSteps_of_quiet {n : Nat} (h : m.FlagsUnwritten n)
    (hc : ∀ k < n, ¬(m.afterSteps k).Cancels) : (m.afterSteps n).flags = m.flags := by
  induction n with
  | zero => rfl
  | succ n ih =>
    obtain ⟨hnames, hcalls⟩ := h n (Nat.lt_succ_self n)
    rw [afterSteps_succ_eq_step, flags_step_of_quiet hnames hcalls (hc n (Nat.lt_succ_self n))]
    exact ih (fun k hk => h k (Nat.lt_succ_of_lt hk)) fun k hk => hc k (Nat.lt_succ_of_lt hk)

/-- The flag stays set once a difference of zero has set it. -/
theorem flags_afterSteps_of_cancels {n : Nat} (h : m.FlagsUnwritten n)
    (hc : ∃ k < n, (m.afterSteps k).Cancels) : (m.afterSteps n).flags = m.flags ||| 2 := by
  induction n with
  | zero =>
    obtain ⟨k, hk, -⟩ := hc
    cases hk
  | succ n ih =>
    obtain ⟨hnames, hcalls⟩ := h n (Nat.lt_succ_self n)
    have hn : m.FlagsUnwritten n := fun k hk => h k (Nat.lt_succ_of_lt hk)
    rw [afterSteps_succ_eq_step]
    by_cases hbefore : ∃ k < n, (m.afterSteps k).Cancels
    · have hflags := ih hn hbefore
      by_cases hlast : (m.afterSteps n).Cancels
      · rw [flags_step_of_cancels hlast hnames, hflags, UInt32.or_assoc, UInt32.or_self]
      · rw [flags_step_of_quiet hnames hcalls hlast, hflags]
    · have hquiet : ∀ k < n, ¬(m.afterSteps k).Cancels := fun k hk hk' => hbefore ⟨k, hk, hk'⟩
      have hlast : (m.afterSteps n).Cancels := by
        rw [Nat.exists_lt_succ_right] at hc
        exact hc.resolve_left hbefore
      rw [flags_step_of_cancels hlast hnames, flags_afterSteps_of_quiet hn hquiet]

theorem bit_or_two (w : Word) {i : Nat} (hi : i ≠ 1) : (w ||| 2).bit i = w.bit i := by
  have h2 : (2 : Word) = Word.ofBit 1 true := by decide
  rw [h2, Word.bit_or, Word.bit_ofBit (by decide)]
  simp [hi]

/-- As long as no instruction names the flags for its result and no builtin changes them, they are
what they were if no difference of zero has been put in its place, and have the zero flag besides if
one has; no other bit changes. An instruction that names the flags for its result leaves in them
what it puts there, but 2 if that is a difference of zero, and what they were if it puts nothing. -/
theorem zero_flag_sticky (m : Machine σ) :
    (∀ n, m.FlagsUnwritten n →
      ((∀ k < n, ¬(m.afterSteps k).Cancels) → (m.afterSteps n).flags = m.flags) ∧
      ((∃ k < n, (m.afterSteps k).Cancels) → (m.afterSteps n).flags = m.flags ||| 2) ∧
      ∀ i, i ≠ 1 → (m.afterSteps n).flags.bit i = m.flags.bit i) ∧
    ∀ k f, (m.afterSteps k).next? = some f → f.register? = some .flags →
      (∀ w, (m.afterSteps k).Puts f w → (m.afterSteps (k + 1)).flags =
        if f.opcode = .arithmetic .sub ∧ w = 0 then 2 else w) ∧
      ((∀ w, ¬(m.afterSteps k).Puts f w) →
        (m.afterSteps (k + 1)).flags = (m.afterSteps k).flags) := by
  refine ⟨fun n h => ⟨flags_afterSteps_of_quiet h, flags_afterSteps_of_cancels h, fun i hi => ?_⟩,
    fun k f hn hreg => ?_⟩
  · by_cases hc : ∃ k < n, (m.afterSteps k).Cancels
    · rw [flags_afterSteps_of_cancels h hc, bit_or_two _ hi]
    · rw [flags_afterSteps_of_quiet h fun k hk hk' => hc ⟨k, hk, hk'⟩]
  · rw [afterSteps_succ_eq_step]
    exact ⟨fun w => flags_step_of_puts hn hreg, flags_step_of_not_puts hn hreg⟩

/-- Two subtractions, of which the first gives zero; then the flags are set to 5, and a difference of
zero is put in them. -/
def subtractingThrice : Machine Unit where
  registers := RegisterFile.zeros.set .flags 4
  memory := { cells := #[0x30000111, 0x38000012, 1, 0x180000E0, 5, 0x3000011E]
              programLength := 6 }
  builtins := .standard

theorem subtractingThrice_flags :
    subtractingThrice.FlagsUnwritten 2 ∧ (subtractingThrice.afterSteps 0).Cancels ∧
    (subtractingThrice.afterSteps 2).flags = 6 ∧ (subtractingThrice.afterSteps 3).flags = 5 ∧
    (subtractingThrice.afterSteps 4).flags = 2 := by
  obtain ⟨hrun, hwrite⟩ := zero_flag_sticky subtractingThrice
  have hn (k : Nat) (f : Fetched) (h : (subtractingThrice.afterSteps k).next? = some f)
      (hreg : f.register? ≠ some .flags) (hop : f.opcode ≠ .builtin) :
      ¬(subtractingThrice.afterSteps k).NamesFlags ∧
        ¬(subtractingThrice.afterSteps k).CallsFlagWriter := by
    constructor
    · rintro ⟨f', hf', hreg'⟩
      cases h.symm.trans hf'
      exact hreg hreg'
    · rintro ⟨f', _, _, hf', hop', -⟩
      cases h.symm.trans hf'
      exact hop hop'
  have hunwritten : subtractingThrice.FlagsUnwritten 2 := by
    intro k hk
    match k, hk with
    | 0, _ =>
      exact hn 0 ⟨0x30000111, .decode 0x30000111, .arithmetic .sub⟩ (by rfl) (by decide) nofun
    | 1, _ =>
      exact hn 1 ⟨0x38000012, .decode 0x38000012, .arithmetic .sub⟩ (by rfl) (by decide) nofun
  have hcancels : (subtractingThrice.afterSteps 0).Cancels :=
    ⟨⟨0x30000111, .decode 0x30000111, .arithmetic .sub⟩, .register .r1, 0, 0, by rfl, rfl,
      ⟨⟨.r1, by rfl, rfl⟩, ⟨.r1, by rfl, rfl⟩, 0, ⟨.r1, by rfl, rfl⟩, rfl⟩, by decide, trivial⟩
  have hmove := (hwrite 2 ⟨0x180000E0, .decode 0x180000E0, .move⟩ (by rfl) (by decide)).1 5
    (.move rfl ⟨5, by rfl, rfl⟩)
  have hsub := (hwrite 3 ⟨0x3000011E, .decode 0x3000011E, .arithmetic .sub⟩ (by rfl)
    (by decide)).1 0 (.arithmetic rfl
      ⟨⟨.flags, by rfl, rfl⟩, ⟨.r1, by rfl, rfl⟩, 0, ⟨.r1, by rfl, rfl⟩, rfl⟩ nofun (by decide))
  exact ⟨hunwritten, hcancels, (hrun 2 hunwritten).2.1 ⟨0, by decide, hcancels⟩, hmove, hsub⟩

end Machine
end WordMachine
