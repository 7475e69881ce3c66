import WordMachine.Proofs.ErrorAtomicity
import WordMachine.Proofs.Lockstep

/-! The calls that steps make on the streams: those of the action that the step comes to, and
one flush more if the step fails. -/
namespace WordMachine

namespace State

def hasFailed : State → Bool
  | failed _ => true
  | running | halted => false

end State

theorem Fault.toOption_eq_some_iff {α : Type} {x : Except Fault α} {a : α} :
    x.toOption = some a ↔ x = .ok a := by
  cases x <;> simp [Except.toOption]

theorem Operand.exists_destination_iff {file : RegisterFile} {field : UInt8} {deref : Bool} :
    (∃ dst, destination file field deref = .ok dst) ↔ field.toNat < Register.count := by
  cases h : destination file field deref with
  | error e =>
    have hle := (destination_eq_error_iff.mp h).1
    simp [Nat.not_lt.mpr hle]
  | ok dst =>
    have hlt : field.toNat < Register.count := by
      refine Nat.not_le.mp fun hle => ?_
      rw [destination_eq_error_iff.mpr ⟨hle, rfl⟩] at h
      cases h
    simp [hlt]

namespace Action

variable {op : Opcode} {file : RegisterFile} {mem : Memory} {ins : Instruction} {ip : Word}

theorem resolve_eq_halt_iff : resolve op ins file mem ip = .ok .halt ↔ op = .halt := by
  constructor
  · intro h
    cases resolve_eq_ok_iff.mp h
    rfl
  · rintro rfl
    rfl

theorem resolve_eq_read_iff {dst : Destination} : resolve op ins file mem ip = .ok (.read dst) ↔
    op = .input ∧ Operand.destination file ins.c ins.modes.derefC = .ok dst := by
  constructor
  · intro h
    cases resolve_eq_ok_iff.mp h with
    | input hd => exact ⟨rfl, hd⟩
  · rintro ⟨rfl, hd⟩
    exact resolve_eq_ok_iff.mpr (.input hd)

def flushes : Action → Bool
  | .halt | .read _ => true
  | .assign _ _ _ _ | .jump _ | .write _ _ | .call _ _ => false

end Action

namespace Console

theorem headD_dropWhile {α : Type} (p : α → Bool) (d : α) (script : List α) :
    (script.dropWhile p).headD d = (script.filter (!p ·))[0]?.getD d := by
  induction script with
  | nil => rfl
  | cons o rest ih => cases ho : p o <;> simp_all

theorem filter_tail_dropWhile {α : Type} (p : α → Bool) (script : List α) :
    (script.dropWhile p).tail.filter (!p ·) = (script.filter (!p ·)).tail := by
  induction script with
  | nil => rfl
  | cons o rest ih => cases ho : p o <;> simp_all

theorem getD_filter {α : Type} {p : α → Bool} {d : α} (hd : p d = true) (script : List α)
    (i : Nat) : p ((script.filter p)[i]?.getD d) = true := by
  cases h : (script.filter p)[i]? with
  | none => exact hd
  | some o => exact (List.mem_filter.mp (List.mem_of_getElem? h)).2

theorem countP_isFlush_reads (script : List ReadOutcome) (o : ReadOutcome) :
    (script.map Call.read ++ [Call.read o]).countP Call.isFlush = 0 := by
  refine List.countP_eq_zero.mpr fun c hc => ?_
  simp only [List.mem_append, List.mem_map, List.mem_singleton] at hc
  rcases hc with ⟨o, _, rfl⟩ | rfl <;> nofun

theorem countP_isFlush_writes (b : UInt8) (script : List WriteOutcome) (o : WriteOutcome) :
    (script.map (Call.write b) ++ [Call.write b o]).countP Call.isFlush = 0 := by
  refine List.countP_eq_zero.mpr fun c hc => ?_
  simp only [List.mem_append, List.mem_map, List.mem_singleton] at hc
  rcases hc with ⟨o, _, rfl⟩ | rfl <;> nofun

theorem countP_isFlush_made (con : Console) (a : Action) :
    (con.made a).countP Call.isFlush = if a.flushes then 1 else 0 := by
  cases a with
  | halt => rfl
  | read dst =>
    simp only [made]
    rw [List.countP_cons_of_pos rfl]
    split
    · rw [countP_isFlush_reads]
      rfl
    · rfl
  | write next byte => exact countP_isFlush_writes ..
  | assign _ _ _ _ | jump _ | call _ _ => rfl

theorem flushes_after (con : Console) (a : Action) :
    (con.after a).flushes = if a.flushes then con.flushes.tail else con.flushes := by
  cases a with
  | halt => rfl
  | read dst =>
    simp only [after]
    split <;> simp [Action.flushes]
  | write next byte => simp [after, Action.flushes]
  | assign _ _ _ _ | jump _ | call _ _ => rfl

end Console

namespace Machine

variable {σ : Type} {m m' : Machine σ}

theorem nextAction?_eq (m : Machine σ) : m.nextAction? =
    if m.state.isTerminal then none else (m.fetch >>= m.resolve).toOption := by
  have hbind : (m.memory.load m.ip >>= fun w => Fetched.ofWord w >>= m.resolve) =
      m.fetch >>= m.resolve := (bind_assoc ..).symm
  rw [← hbind]
  rfl

theorem nextAction?_eq_some_iff {a : Action} : m.nextAction? = some a ↔
    m.state = .running ∧ ∃ f, m.fetch = .ok f ∧ m.resolve f = .ok a := by
  rw [nextAction?_eq, ← Fault.bind_eq_ok_iff, ← State.isTerminal_eq_false_iff]
  cases m.state.isTerminal with
  | true => simp
  | false => simp [Fault.toOption_eq_some_iff]

theorem nextAction?_of_fetch_error {e : Fault} (h : m.fetch = .error e) :
    m.nextAction? = none := by
  cases ha : m.nextAction? with
  | none => rfl
  | some a =>
    obtain ⟨-, f, hf, -⟩ := nextAction?_eq_some_iff.mp ha
    cases h.symm.trans hf

theorem nextAction?_of_resolve_error {f : Fetched} {e : Fault} (hf : m.fetch = .ok f)
    (h : m.resolve f = .error e) : m.nextAction? = none := by
  cases ha : m.nextAction? with
  | none => rfl
  | some a =>
    obtain ⟨-, f', hf', ha'⟩ := nextAction?_eq_some_iff.mp ha
    cases hf.symm.trans hf'
    cases h.symm.trans ha'

def next? (m : Machine σ) : Option Fetched :=
  if m.state.isTerminal then none else m.fetch.toOption

def halts (m : Machine σ) : Bool := m.next?.any fun f => f.opcode = .halt

/-- The next step executes an instruction that reads, and its field names a register. -/
def asks (m : Machine σ) : Bool :=
  m.next?.any fun f => f.opcode = .input ∧ f.instruction.c.toNat < Register.count

theorem next?_eq_some_iff {f : Fetched} :
    m.next? = some f ↔ m.state = .running ∧ m.fetch = .ok f := by
  rw [next?, ← State.isTerminal_eq_false_iff]
  cases m.state.isTerminal with
  | true => simp
  | false => simp [Fault.toOption_eq_some_iff]

theorem halts_iff : m.halts = true ↔ m.nextAction? = some .halt := by
  rw [halts, Option.any_eq_true, nextAction?_eq_some_iff]
  simp only [next?_eq_some_iff, resolve, Action.resolve_eq_halt_iff, decide_eq_true_eq, and_assoc]
  exact exists_and_left

theorem asks_iff : m.asks = true ↔ ∃ dst, m.nextAction? = some (.read dst) := by
  rw [asks, Option.any_eq_true]
  simp only [nextAction?_eq_some_iff, next?_eq_some_iff, resolve, Action.resolve_eq_read_iff,
    decide_eq_true_eq]
  constructor
  · rintro ⟨f, ⟨hr, hf⟩, hop, hc⟩
    obtain ⟨dst, hd⟩ := Operand.exists_destination_iff.mpr hc
    exact ⟨dst, hr, f, hf, hop, hd⟩
  · rintro ⟨dst, hr, f, hf, hop, hd⟩
    exact ⟨f, ⟨hr, hf⟩, hop, Operand.exists_destination_iff.mp ⟨dst, hd⟩⟩

theorem running_of_asks (h : m.asks = true) : m.state = .running := by
  obtain ⟨dst, ha⟩ := asks_iff.mp h
  exact (nextAction?_eq_some_iff.mp ha).1

theorem running_of_halts (h : m.halts = true) : m.state = .running :=
  (nextAction?_eq_some_iff.mp (halts_iff.mp h)).1

theorem nextAction?_of_not_running (h : m.state ≠ .running) : m.nextAction? = none := by
  cases ha : m.nextAction? with
  | none => rfl
  | some a => exact absurd (nextAction?_eq_some_iff.mp ha).1 h

/-- The console once the action of the next step, if there is one, has been carried out. -/
def consoleAfter (m : Machine σ) : Console :=
  match m.nextAction? with
  | some a => m.console.after a
  | none => m.console

def flushing (m : Machine σ) : Bool := m.nextAction?.any Action.flushes

def made (m : Machine σ) : List Console.Call :=
  match m.nextAction? with
  | some a => m.console.made a
  | none => []

theorem calls_consoleAfter (m : Machine σ) :
    m.consoleAfter.calls.toList = m.console.calls.toList ++ m.made := by
  unfold consoleAfter made
  cases m.nextAction? with
  | none => exact (List.append_nil _).symm
  | some a => exact m.console.calls_after a

theorem countP_isFlush_made (m : Machine σ) :
    m.made.countP Console.Call.isFlush = if m.flushing then 1 else 0 := by
  unfold made flushing
  cases m.nextAction? with
  | none => rfl
  | some a => exact m.console.countP_isFlush_made a

theorem flushes_consoleAfter (m : Machine σ) : m.consoleAfter.flushes =
    if m.flushing then m.console.flushes.tail else m.console.flushes := by
  unfold consoleAfter flushing
  cases m.nextAction? with
  | none => rfl
  | some a => exact m.console.flushes_after a

theorem Course.console_of_ok {s : State} (h : m.Course (.ok s) m') (hr : m.state = .running) :
    m'.console = m.consoleAfter := by
  cases h with
  | completed hf ha he _ =>
    rw [console_settle, he.console_eq, consoleAfter, nextAction?_of_resolve hr hf ha]
    rfl

theorem Course.console_of_error {e : Fault} (h : m.Course (.error e) m') (hr : m.state = .running) :
    m'.console = m.consoleAfter.flush.2 := by
  cases h with
  | unfetched hl =>
    have hf : m.fetch = .error e := Fault.bind_eq_error_iff.mpr (Or.inl hl)
    rw [consoleAfter, nextAction?_of_fetch_error hf]
    rfl
  | rejected hl hw =>
    have hf : m.fetch = .error e := Fault.bind_eq_error_iff.mpr (Or.inr ⟨_, hl, hw⟩)
    rw [consoleAfter, nextAction?_of_fetch_error hf]
    rfl
  | unresolved hf ha =>
    rw [consoleAfter, nextAction?_of_resolve_error hf ha]
    rfl
  | refused hf ha _ =>
    rw [consoleAfter, nextAction?_of_resolve hr hf ha]
    rfl
  | overflowed hf ha he _ _ =>
    rw [console_fail, he.console_eq, consoleAfter, nextAction?_of_resolve hr hf ha]
    rfl

theorem console_step_of_ok {s : State} (h : m.step.1 = .ok s) :
    m.step.2.console = m.consoleAfter := by
  by_cases hr : m.state = .running
  · have hc := course_step hr
    rw [h] at hc
    exact hc.console_of_ok hr
  · rw [step_of_not_running hr, consoleAfter, nextAction?_of_not_running hr]

theorem console_step_of_error {e : Fault} (h : m.step.1 = .error e) :
    m.step.2.console = m.consoleAfter.flush.2 := by
  have hr := running_of_step_error h
  have hc := course_step hr
  rw [h] at hc
  exact hc.console_of_error hr

/-- Calls of the action, and a flush if the step fails, are all that a step makes. -/
theorem madeOnly_step {P : Console.Call → Prop} (hmade : ∀ c ∈ m.made, P c)
    (hflush : ∀ o, P (.flush o)) : MadeOnly P m m.step.2 := by
  cases h : m.step.1 with
  | ok s =>
    refine ⟨m.made, ?_, hmade⟩
    rw [console_step_of_ok h, calls_consoleAfter]
  | error e =>
    refine ⟨m.made ++ [.flush (m.consoleAfter.flushes.headD .done)], ?_, fun c hc => ?_⟩
    · rw [console_step_of_error h, Console.calls_flush, calls_consoleAfter, List.append_assoc]
    · rcases List.mem_append.mp hc with hc | hc
      · exact hmade c hc
      · rw [List.mem_singleton.mp hc]
        exact hflush _

theorem asks_of_read_mem_made {c : Console.Call} (hc : c ∈ m.made) (hr : c.isRead = true) :
    m.asks = true ∧ m.console.flush.1 = .ok () := by
  unfold made at hc
  cases ha : m.nextAction? with
  | none =>
    rw [ha] at hc
    cases hc
  | some a =>
    rw [ha] at hc
    obtain ⟨dst, rfl⟩ := Console.eq_read_of_mem_made hc hr
    refine ⟨asks_iff.mpr ⟨dst, ha⟩, ?_⟩
    cases hf : m.console.flush.1 with
    | ok _ => rfl
    | error e =>
      simp only [Console.made, hf, List.mem_singleton] at hc
      rw [hc] at hr
      cases hr

theorem madeOnly_not_read (h : m.asks = true → m.console.flush.1 ≠ .ok ()) :
    MadeOnly (fun c => c.isRead = false) m m.step.2 := by
  refine madeOnly_step (fun c hc => ?_) fun _ => rfl
  rw [← Bool.not_eq_true]
  intro hr
  obtain ⟨ha, hf⟩ := asks_of_read_mem_made hc hr
  exact h ha hf

def flushCount (m : Machine σ) : Nat := m.console.calls.toList.countP Console.Call.isFlush

theorem flushCount_step_of_ok {s : State} (h : m.step.1 = .ok s) :
    m.step.2.flushCount = m.flushCount + if m.flushing then 1 else 0 := by
  rw [flushCount, console_step_of_ok h, calls_consoleAfter, List.countP_append,
    countP_isFlush_made]
  rfl

theorem flushCount_step_of_error {e : Fault} (h : m.step.1 = .error e) :
    m.step.2.flushCount = m.flushCount + (if m.flushing then 1 else 0) + 1 := by
  rw [flushCount, console_step_of_error h, Console.calls_flush, calls_consoleAfter,
    List.countP_append, List.countP_append, countP_isFlush_made]
  rfl

theorem flushCount_le_step (m : Machine σ) : m.flushCount ≤ m.step.2.flushCount := by
  cases h : m.step.1 with
  | ok s =>
    rw [flushCount_step_of_ok h]
    exact Nat.le_add_right _ _
  | error e =>
    rw [flushCount_step_of_error h, Nat.add_assoc]
    exact Nat.le_add_right _ _

theorem state_step_of_ok {s : State} (h : m.step.1 = .ok s) : m.step.2.state = s := by
  by_cases hr : m.state = .running
  · have hc := course_step hr
    rw [h] at hc
    generalize m.step.2 = m₂ at hc
    cases hc with
    | completed _ _ _ _ => rfl
  · rw [step_of_not_running hr] at h ⊢
    exact Except.ok.inj h

theorem state_step_of_error {e : Fault} (h : m.step.1 = .error e) :
    m.step.2.state = .failed e.status := by
  have hc := course_step (running_of_step_error h)
  rw [h] at hc
  exact hc.state_eq_failed

end Machine
end WordMachine
