import WordMachine.Machine.Run
import WordMachine.Proofs.Effects

/-! The courses that a step of a running machine can take. -/
namespace WordMachine.Machine

variable {σ : Type} {m m' : Machine σ}

def fetch (m : Machine σ) : Except Fault Fetched := m.memory.load m.ip >>= Fetched.ofWord

def resolve (m : Machine σ) (f : Fetched) : Except Fault Action :=
  Action.resolve f.opcode f.instruction (m.registers.set .ip (m.ip + 1)) m.memory (m.ip + 1)

/-- All operands of a fetched instruction are there once the machine stands after its word. -/
def OperandsResolve (m : Machine σ) (f : Fetched) : Prop :=
  Operand.Resolves f.opcode f.instruction (m.registers.set .ip (m.ip + 1)) m.memory (m.ip + 1)

@[simp] theorem ip_fetched (m : Machine σ) (f : Fetched) : (m.fetched f).ip = m.ip + 1 :=
  ip_set m (m.ip + 1)

@[simp] theorem config_settle (m : Machine σ) (s : State) : (m.settle s).config = m.config := by
  cases s <;> rfl

@[simp] theorem sp_settle (m : Machine σ) (s : State) : (m.settle s).sp = m.sp := by
  cases s <;> rfl

@[simp] theorem ip_fail (m : Machine σ) (e : Fault) : (m.fail e).ip = m.ip := rfl

theorem fetch_eq_ok_iff {f : Fetched} :
    m.fetch = .ok f ↔ m.memory.load m.ip = .ok f.word ∧ Fetched.ofWord f.word = .ok f := by
  rw [fetch, Fault.bind_eq_ok_iff]
  constructor
  · rintro ⟨w, hl, hf⟩
    have hw : f.word = w := (Fetched.ofWord_eq_ok_iff.mp hf).2.1
    rw [hw]
    exact ⟨hl, hf⟩
  · rintro ⟨hl, hf⟩
    exact ⟨_, hl, hf⟩

theorem advance_of_fetch {f : Fetched} (hf : m.fetch = .ok f) :
    m.advance = match m.resolve f with
      | .error e => (.error e, m.fetched f)
      | .ok a =>
        match (m.fetched f).perform a with
        | (.error e, m) => (.error e, m)
        | (.ok s, m) => (m.guardStack s, m) := by
  obtain ⟨hl, hw⟩ := fetch_eq_ok_iff.mp hf
  rw [advance_of_fetched hl hw]
  cases ha : m.resolve f with
  | error e =>
    have he : (m.fetched f).execute f.opcode f.instruction (m.ip + 1) = (.error e, m.fetched f) :=
      execute_of_error ha
    rw [he]
  | ok a =>
    have he : (m.fetched f).execute f.opcode f.instruction (m.ip + 1) =
        (m.fetched f).perform a := execute_of_ok ha
    rcases hp : (m.fetched f).perform a with ⟨r, m₁⟩
    rw [hp] at he
    cases r with
    | error e => simp only [he, hp]
    | ok s => simp only [he, hp]

/-- How a step can go, with its result and the machine that it leaves. The word may be out
of reach or have reserved bits, its operands may be missing, its action may be refused, the
action may leave the stack pointer past the end of memory; else the step is complete. -/
inductive Course (m : Machine σ) : Except Fault State → Machine σ → Prop
  | unfetched {e : Fault} (hl : m.memory.load m.ip = .error e) : Course m (.error e) (m.fail e)
  | rejected {w : Word} {e : Fault} (hl : m.memory.load m.ip = .ok w)
      (hw : Fetched.ofWord w = .error e) :
      Course m (.error e) ((m.set .ip (m.ip + 1)).fail e)
  | unresolved {f : Fetched} {e : Fault} (hf : m.fetch = .ok f) (ha : m.resolve f = .error e) :
      Course m (.error e) ((m.fetched f).fail e)
  | refused {f : Fetched} {a : Action} {e : Fault} (hf : m.fetch = .ok f)
      (ha : m.resolve f = .ok a) (hr : (m.fetched f).Refusal a e) :
      Course m (.error e) (((m.fetched f).refused a).fail e)
  | overflowed {f : Fetched} {a : Action} {m₁ : Machine σ} (hf : m.fetch = .ok f)
      (ha : m.resolve f = .ok a) (he : (m.fetched f).Effect a .running m₁)
      (hg : m₁.config.stackGuard = true) (hs : m₁.memory.length < m₁.sp.toNat) :
      Course m (.error (.stackOverflow m₁.sp m₁.memory.length))
        (m₁.fail (.stackOverflow m₁.sp m₁.memory.length))
  | completed {f : Fetched} {a : Action} {s : State} {m₁ : Machine σ} (hf : m.fetch = .ok f)
      (ha : m.resolve f = .ok a) (he : (m.fetched f).Effect a s m₁)
      (hg : s = .running → m₁.config.stackGuard = true → m₁.sp.toNat ≤ m₁.memory.length) :
      Course m (.ok s) (m₁.settle s)

theorem Course.step_eq {r : Except Fault State} (h : m.Course r m') (hr : m.state = .running) :
    m.step = (r, m') := by
  rw [step_of_running hr]
  cases h with
  | unfetched hl => rw [advance_of_load_error hl]
  | rejected hl hw => rw [advance_of_refused hl hw]
  | unresolved hf ha => simp only [advance_of_fetch hf, ha]
  | refused hf ha hr => simp only [advance_of_fetch hf, ha, perform_of_refusal hr]
  | overflowed hf ha he hg hs =>
    simp [advance_of_fetch hf, ha, perform_of_effect he, guardStack, hg, hs]
  | @completed f a s m₁ hf ha he hg =>
    have hs : m₁.guardStack s = .ok s := by
      cases s with
      | running => simpa [guardStack] using hg rfl
      | halted | failed status => rfl
    simp only [advance_of_fetch hf, ha, perform_of_effect he, hs]

theorem exists_course (m : Machine σ) : ∃ r m', m.Course r m' := by
  cases hf : m.fetch with
  | error e =>
    rcases Fault.bind_eq_error_iff.mp hf with hl | ⟨w, hl, hw⟩
    · exact ⟨_, _, .unfetched hl⟩
    · exact ⟨_, _, .rejected hl hw⟩
  | ok f =>
    cases ha : m.resolve f with
    | error e => exact ⟨_, _, .unresolved hf ha⟩
    | ok a =>
      rcases (m.fetched f).refusal_or_effect a with ⟨e, hr⟩ | ⟨s, m₁, he⟩
      · exact ⟨_, _, .refused hf ha hr⟩
      · by_cases hs : s = .running ∧ m₁.config.stackGuard = true ∧ m₁.memory.length < m₁.sp.toNat
        · obtain ⟨rfl, hg, hs⟩ := hs
          exact ⟨_, _, .overflowed hf ha he hg hs⟩
        · exact ⟨_, _, .completed hf ha he fun h hg =>
            Nat.not_lt.mp fun hlt => hs ⟨h, hg, hlt⟩⟩

/-- A step takes exactly one course. -/
theorem course_iff (hr : m.state = .running) {r : Except Fault State} :
    m.Course r m' ↔ m.step = (r, m') := by
  constructor
  · exact fun h => h.step_eq hr
  · intro h
    obtain ⟨r', m₁, hc⟩ := m.exists_course
    rw [hc.step_eq hr] at h
    cases h
    exact hc

theorem Course.config_eq {r : Except Fault State} (h : m.Course r m') : m'.config = m.config := by
  cases h with
  | unfetched _ | rejected _ _ | unresolved _ _ | refused _ _ _ => rfl
  | overflowed _ _ he _ _ => exact he.config_eq
  | completed _ _ he _ =>
    rw [config_settle]
    exact he.config_eq

theorem course_step (hr : m.state = .running) : m.Course m.step.1 m.step.2 :=
  (course_iff hr).mpr rfl

theorem step_of_not_running (h : m.state ≠ .running) : m.step = (.ok m.state, m) := by
  have ht : m.state.isTerminal = true := by
    rw [← Bool.not_eq_false, State.isTerminal_eq_false_iff]
    exact h
  exact step_of_isTerminal ht

@[simp] theorem config_step (m : Machine σ) : m.step.2.config = m.config := by
  by_cases hr : m.state = .running
  · exact (course_step hr).config_eq
  · rw [step_of_not_running hr]

theorem running_of_step_error {e : Fault} (h : m.step.1 = .error e) : m.state = .running := by
  by_cases hr : m.state = .running
  · exact hr
  · rw [step_of_not_running hr] at h
    cases h

theorem nextAction?_of_resolve {f : Fetched} {a : Action} (hr : m.state = .running)
    (hf : m.fetch = .ok f) (ha : m.resolve f = .ok a) : m.nextAction? = some a := by
  obtain ⟨hl, hw⟩ := fetch_eq_ok_iff.mp hf
  rw [resolve] at ha
  simp [nextAction?, hr, hl, hw, ha, bind, Except.bind, Except.toOption]

/-- The stack guard is the only source of an overflow, and looks at a step that is done. -/
theorem Course.of_overflow {e : Fault} (h : m.Course (.error e) m') (he : e.status = .overflow) :
    ∃ f a m₁, m.fetch = .ok f ∧ m.resolve f = .ok a ∧ (m.fetched f).Effect a .running m₁ ∧
      m₁.config.stackGuard = true ∧ m₁.memory.length < m₁.sp.toNat ∧ m' = m₁.fail e := by
  cases h with
  | unfetched hl =>
    rw [m.memory.onlyIllegal_load m.ip e hl] at he
    cases he
  | rejected _ hw =>
    rw [(Fetched.ofWord_eq_error_iff.mp hw).2] at he
    cases he
  | unresolved _ ha =>
    rw [Action.onlyIllegal_resolve e ha] at he
    cases he
  | refused _ _ hr => exact absurd he hr.status_ne_overflow
  | overflowed hf ha heff hg hs => exact ⟨_, _, _, hf, ha, heff, hg, hs, rfl⟩

end WordMachine.Machine
