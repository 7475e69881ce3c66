import WordMachine.Proofs.Lifecycle
import WordMachine.Proofs.LogLines
import WordMachine.Proofs.Operands

/-! The log of a run. What a step reports is told by the machine before it and by its result: the
fetch, then a call of a builtin, then the end. A run reports what its steps report, one after the
other. -/
namespace WordMachine

def Event.isEnd : Event → Bool
  | halted _ | failed _ _ _ => true
  | created _ _ _ | fetched _ _ _ _ | called _ _ | reported _ => false

theorem Builtin.Table.exists_entry_of_call {σ : Type} {t : Table σ} {k : Word}
    {file : RegisterFile} {mem : Memory} {c : Call σ} (h : t.call k file mem = .ok c) :
    ∃ b, t.entries[k.toNat]? = some b ∧
      c.events = .called k b.name :: (b.invoke file mem).log.map .reported := by
  unfold call at h
  split at h
  · cases h
  · rename_i b hb
    cases h
    exact ⟨b, hb, rfl⟩

namespace Machine

variable {σ : Type} {m m' : Machine σ} {a : Action} {e : Event}

/-- The lines of the log that a threshold shows. -/
def logAt (m : Machine σ) (threshold : Log.Threshold) : List Log.Entry :=
  (m.events.toList.filter fun e => threshold.shows e.level).map Event.entry

/-- An accepted instruction is reported with the address that it comes from. -/
def fetchReports (m : Machine σ) : List Event :=
  match m.fetch with
  | .ok f => [.fetched f.opcode f.word m.ip (m.registers.set .ip (m.ip + 1))]
  | .error _ => []

/-- A call that finds a builtin is reported, and then the builtin reports what it will. -/
def reportsOf (m : Machine σ) : Action → List Event
  | .call next k =>
    match m.builtins.entries[k.toNat]? with
    | some b =>
      .called k b.name :: (b.invoke (m.registers.set .ip next) m.memory).log.map .reported
    | none => []
  | .halt | .assign _ _ _ _ | .jump _ | .read _ | .write _ _ => []

def callReports (m : Machine σ) : List Event :=
  match m.nextAction? with
  | some a => m.reportsOf a
  | none => []

/-- A fault is reported with the instruction pointer that it leaves, a halt with its address. -/
def endReports (m : Machine σ) : List Event :=
  match m.step.1 with
  | .error e => [.failed e.status m.step.2.ip e]
  | .ok .halted => [.halted m.ip]
  | .ok .running | .ok (.failed _) => []

/-- What the next step reports. A machine that has ended has no more to report. -/
def stepReports (m : Machine σ) : List Event :=
  if m.state.isTerminal then [] else m.fetchReports ++ m.callReports ++ m.endReports

theorem stepReports_of_running (hr : m.state = .running) :
    m.stepReports = m.fetchReports ++ m.callReports ++ m.endReports := by
  simp [stepReports, hr]

theorem stepReports_of_not_running (hn : m.state ≠ .running) : m.stepReports = [] := by
  rw [stepReports, if_pos]
  rwa [← Bool.not_eq_false, State.isTerminal_eq_false_iff]

theorem events_fetched (m : Machine σ) (f : Fetched) : (m.fetched f).events.toList =
    m.events.toList ++ [.fetched f.opcode f.word m.ip (m.registers.set .ip (m.ip + 1))] :=
  events_report (m.set .ip (m.ip + 1)) _

theorem events_fail (m : Machine σ) (e : Fault) :
    (m.fail e).events.toList = m.events.toList ++ [.failed e.status m.ip e] := events_report m _

theorem reportsOf_fetched (m : Machine σ) (f : Fetched) (a : Action) :
    (m.fetched f).reportsOf a = m.reportsOf a := by
  cases a with
  | call next k => simp only [reportsOf, builtins_fetched, registers_fetched, memory_fetched,
      RegisterFile.set_set]
  | halt | assign _ _ _ _ | jump _ | read _ | write _ _ => rfl

theorem Stored.events_eq {w : Word} {dst : Destination} (h : m.Stored w dst m') :
    m'.events = m.events := by
  cases h <;> rfl

@[simp] theorem events_refused (m : Machine σ) (a : Action) : (m.refused a).events = m.events :=
  rfl

@[simp] theorem events_raise (m : Machine σ) (flag : Bool) : (m.raise flag).events = m.events := by
  cases flag <;> rfl

theorem Effect.events {s : State} (h : m.Effect a s m') :
    m'.events.toList = m.events.toList ++ m.reportsOf a := by
  cases h with
  | assign h =>
    rw [events_raise, h.events_eq]
    exact (List.append_nil _).symm
  | read _ _ h =>
    rw [h.events_eq]
    exact (List.append_nil _).symm
  | @call next k c hc =>
    obtain ⟨b, hb, hevents⟩ := Builtin.Table.exists_entry_of_call hc
    simp [returned, reportsOf, hb, hevents]
  | halt _ | jump | write _ => exact (List.append_nil _).symm

theorem Refusal.reportsOf_eq_nil {e : Fault} (h : m.Refusal a e) : m.reportsOf a = [] := by
  cases h with
  | call hle => simp only [reportsOf, List.getElem?_eq_none_iff.mpr hle]
  | halt _ | assign _ | flush _ | read _ _ | deliver _ _ _ | write _ => rfl

theorem fetchReports_of_error {e : Fault} (hf : m.fetch = .error e) : m.fetchReports = [] := by
  rw [fetchReports, hf]

theorem fetchReports_of_ok {f : Fetched} (hf : m.fetch = .ok f) : m.fetchReports =
    [.fetched f.opcode f.word m.ip (m.registers.set .ip (m.ip + 1))] := by
  rw [fetchReports, hf]

theorem callReports_of_none (ha : m.nextAction? = none) : m.callReports = [] := by
  rw [callReports, ha]

theorem callReports_of_some (ha : m.nextAction? = some a) : m.callReports = m.reportsOf a := by
  rw [callReports, ha]

theorem endReports_of_error {e : Fault} (h : m.step.1 = .error e) :
    m.endReports = [.failed e.status m.step.2.ip e] := by
  rw [endReports, h]

theorem events_of_fail {m₁ : Machine σ} {e : Fault} (hr : m.state = .running)
    (hstep : m.step = (.error e, m₁.fail e))
    (h : m₁.events.toList = m.events.toList ++ (m.fetchReports ++ m.callReports)) :
    (m₁.fail e).events.toList = m.events.toList ++ m.stepReports := by
  have hend : m.endReports = [.failed e.status m₁.ip e] := by
    rw [endReports_of_error (by rw [hstep]), hstep, ip_fail]
  rw [events_fail, h, stepReports_of_running hr, hend, List.append_assoc]

/-- The machine reports the fetch, the call and the end in this order, whichever way a step goes. -/
theorem Course.events {r : Except Fault State} (h : m.Course r m') (hr : m.state = .running) :
    m'.events.toList = m.events.toList ++ m.stepReports := by
  have hstep := h.step_eq hr
  cases h with
  | unfetched hl =>
    have hf : m.fetch = .error _ := Fault.bind_eq_error_iff.mpr (.inl hl)
    refine events_of_fail hr hstep ?_
    simp [fetchReports_of_error hf, callReports_of_none (nextAction?_of_fetch_error hf)]
  | rejected hl hw =>
    have hf : m.fetch = .error _ := Fault.bind_eq_error_iff.mpr (.inr ⟨_, hl, hw⟩)
    refine events_of_fail hr hstep ?_
    simp [fetchReports_of_error hf, callReports_of_none (nextAction?_of_fetch_error hf)]
  | unresolved hf ha =>
    refine events_of_fail hr hstep ?_
    rw [events_fetched, fetchReports_of_ok hf,
      callReports_of_none (nextAction?_of_resolve_error hf ha), List.append_nil]
  | @refused f a e hf ha href =>
    have hnone := href.reportsOf_eq_nil
    rw [reportsOf_fetched] at hnone
    refine events_of_fail hr hstep ?_
    rw [events_refused, events_fetched, fetchReports_of_ok hf,
      callReports_of_some (nextAction?_of_resolve hr hf ha), hnone, List.append_nil]
  | overflowed hf ha heff hg hs =>
    refine events_of_fail hr hstep ?_
    rw [heff.events, events_fetched, reportsOf_fetched, fetchReports_of_ok hf,
      callReports_of_some (nextAction?_of_resolve hr hf ha), List.append_assoc]
  | @completed f a s m₁ hf ha heff hg =>
    rw [stepReports_of_running hr, fetchReports_of_ok hf,
      callReports_of_some (nextAction?_of_resolve hr hf ha)]
    have hevents := heff.events
    rw [events_fetched, reportsOf_fetched] at hevents
    rcases heff.running_or_halted with rfl | ⟨rfl, hregs, -⟩
    · simp [endReports, hstep, settle, hevents]
    · -- the report goes back one word from where the machine stands
      have hip : m₁.ip - 1 = m.ip := by
        rw [ip, hregs, registers_fetched, RegisterFile.get_set_self, UInt32.add_sub_cancel]
      simp [endReports, hstep, settle, hevents, hip]

theorem events_step (m : Machine σ) :
    m.step.2.events.toList = m.events.toList ++ m.stepReports := by
  by_cases hr : m.state = .running
  · exact (course_step hr).events hr
  · rw [step_of_not_running hr, stepReports_of_not_running hr, List.append_nil]

theorem mem_fetchReports_iff : e ∈ m.fetchReports ↔
    ∃ f, m.fetch = .ok f ∧ e = .fetched f.opcode f.word m.ip (m.registers.set .ip (m.ip + 1)) := by
  unfold fetchReports
  cases m.fetch <;> simp

theorem mem_reportsOf_iff : e ∈ m.reportsOf a ↔
    ∃ next k b, a = .call next k ∧ m.builtins.entries[k.toNat]? = some b ∧
      (e = .called k b.name ∨
        ∃ entry ∈ (b.invoke (m.registers.set .ip next) m.memory).log, e = .reported entry) := by
  cases a with
  | call next k =>
    constructor
    · intro h
      cases hb : m.builtins.entries[k.toNat]? with
      | none => simp [reportsOf, hb] at h
      | some b => exact ⟨next, k, b, rfl, hb, by simpa [reportsOf, hb, eq_comm] using h⟩
    · rintro ⟨_, _, b, ⟨⟩, hb, h⟩
      simpa [reportsOf, hb, eq_comm] using h
  | halt | assign _ _ _ _ | jump _ | read _ | write _ _ => simp [reportsOf]

theorem mem_callReports_iff : e ∈ m.callReports ↔
    ∃ next k b, m.nextAction? = some (.call next k) ∧ m.builtins.entries[k.toNat]? = some b ∧
      (e = .called k b.name ∨
        ∃ entry ∈ (b.invoke (m.registers.set .ip next) m.memory).log, e = .reported entry) := by
  cases ha : m.nextAction? with
  | none => simp [callReports, ha]
  | some a => simp only [callReports_of_some ha, mem_reportsOf_iff, Option.some.injEq]

theorem mem_endReports_iff : e ∈ m.endReports ↔
    (∃ cause, m.step.1 = .error cause ∧ e = .failed cause.status m.step.2.ip cause) ∨
      m.step.1 = .ok .halted ∧ e = .halted m.ip := by
  unfold endReports
  split <;> simp [*]

theorem mem_stepReports_iff : e ∈ m.stepReports ↔
    m.state = .running ∧ (e ∈ m.fetchReports ∨ e ∈ m.callReports ∨ e ∈ m.endReports) := by
  by_cases hr : m.state = .running
  · simp [stepReports_of_running hr, hr]
  · simp [stepReports_of_not_running hr, hr]

/-- When the next step makes which report. -/
structure ReportsWhen (m : Machine σ) : Prop where
  fetched (op : Opcode) (w address : Word) (file : RegisterFile) :
    .fetched op w address file ∈ m.stepReports ↔
      m.state = .running ∧ m.memory.load m.ip = .ok w ∧ w &&& Instruction.reservedMask = 0 ∧
        (Instruction.decode w).opcode = .ok op ∧ address = m.ip ∧
        file = m.registers.set .ip (m.ip + 1)
  called (k : Word) (name : String) : .called k name ∈ m.stepReports ↔
    ∃ f b, m.next? = some f ∧ f.opcode = .builtin ∧ m.OperandOf f.instruction k ∧
      m.builtins.entries[k.toNat]? = some b ∧ name = b.name
  halted (address : Word) : .halted address ∈ m.stepReports ↔
    m.state = .running ∧ m.step.1 = .ok .halted ∧ address = m.ip
  failed (status : ExitStatus) (ip : Word) (cause : Fault) :
    .failed status ip cause ∈ m.stepReports ↔
      m.step.1 = .error cause ∧ status = cause.status ∧ ip = m.step.2.ip

theorem reportsWhen (m : Machine σ) : m.ReportsWhen where
  fetched op w address file := by
    simp only [mem_stepReports_iff, mem_fetchReports_iff, mem_callReports_iff,
      mem_endReports_iff, fetch_eq_ok_iff, Fetched.ofWord_eq_ok_iff, Event.fetched.injEq]
    constructor
    · rintro ⟨hr, ⟨f, ⟨hl, hw, -, -, hop⟩, rfl, rfl, rfl, rfl⟩ | h | h⟩
      · exact ⟨hr, hl, hw, hop, rfl, rfl⟩
      · simp at h
      · simp at h
    · rintro ⟨hr, hl, hw, hop, rfl, rfl⟩
      exact ⟨hr, .inl ⟨⟨w, .decode w, op⟩, ⟨hl, hw, trivial, rfl, hop⟩, rfl, rfl, rfl, rfl⟩⟩
  called k name := by
    simp only [mem_stepReports_iff, mem_fetchReports_iff, mem_callReports_iff,
      mem_endReports_iff]
    constructor
    · rintro ⟨hr, h | ⟨next, k', b, ha, hb, h⟩ | h⟩
      · simp at h
      · obtain ⟨rfl, rfl⟩ : k = k' ∧ name = b.name := by simpa using h
        obtain ⟨f, hf, hi⟩ := nextAction?_iff_intends.mp ha
        cases hi with
        | builtin hop ho => exact ⟨f, b, hf, hop, ho, hb, rfl⟩
      · simp at h
    · rintro ⟨f, b, hf, hop, ho, hb, rfl⟩
      have ha := nextAction?_iff_intends.mpr ⟨f, hf, .builtin hop ho⟩
      exact ⟨(next?_eq_some_iff.mp hf).1, .inr (.inl ⟨_, k, b, ha, hb, .inl rfl⟩)⟩
  halted address := by
    simp [mem_stepReports_iff, mem_fetchReports_iff, mem_callReports_iff,
      mem_endReports_iff]
  failed status ip cause := by
    simp only [mem_stepReports_iff, mem_fetchReports_iff, mem_callReports_iff,
      mem_endReports_iff]
    constructor
    · rintro ⟨-, h | h | ⟨_, hstep, ⟨⟩⟩ | h⟩
      · simp at h
      · simp at h
      · exact ⟨hstep, rfl, rfl⟩
      · simp at h
    · rintro ⟨hstep, rfl, rfl⟩
      exact ⟨running_of_step_error hstep, .inr (.inr (.inl ⟨cause, hstep, rfl⟩))⟩

def reportsWithin (m : Machine σ) (n : Nat) : List Event :=
  (List.range n).flatMap fun k => (m.afterSteps k).stepReports

theorem reportsWithin_succ (m : Machine σ) (n : Nat) :
    m.reportsWithin (n + 1) = m.reportsWithin n ++ (m.afterSteps n).stepReports := by
  rw [reportsWithin, List.range_succ, List.flatMap_append, List.flatMap_singleton, reportsWithin]

theorem events_afterSteps (m : Machine σ) (n : Nat) :
    (m.afterSteps n).events.toList = m.events.toList ++ m.reportsWithin n := by
  induction n with
  | zero => exact (List.append_nil _).symm
  | succ n ih =>
    rw [afterSteps_succ_eq_step, events_step, ih, reportsWithin_succ, List.append_assoc]

/-- A step reports at most one end, after all else, and none if the machine goes on. -/
theorem exists_end_of_step (m : Machine σ) : ∃ (before : List Event) (last : Option Event),
    m.stepReports = before ++ last.toList ∧ (∀ e ∈ before, e.isEnd = false) ∧
      (m.step.2.state = .running → last = none) := by
  by_cases hr : m.state = .running
  · have hbefore : ∀ e ∈ m.fetchReports ++ m.callReports, e.isEnd = false := by
      simp only [List.mem_append, mem_fetchReports_iff, mem_callReports_iff]
      rintro e (⟨f, -, rfl⟩ | ⟨next, k, b, -, -, rfl | ⟨entry, -, rfl⟩⟩) <;> rfl
    rw [stepReports_of_running hr]
    rcases step_of_running_cases hr with ⟨e, he, hs⟩ | ⟨hok, hs⟩ | ⟨hok, hs⟩
    · refine ⟨_, some (.failed e.status m.step.2.ip e), ?_, hbefore, fun h => ?_⟩
      · rw [endReports_of_error he]
        rfl
      · rw [hs] at h
        cases h
    · exact ⟨_, none, by rw [endReports, hok]; rfl, hbefore, fun _ => rfl⟩
    · refine ⟨_, some (.halted m.ip), by rw [endReports, hok]; rfl, hbefore, fun h => ?_⟩
      rw [hs] at h
      cases h
  · exact ⟨[], none, by simp [stepReports_of_not_running hr], nofun, fun _ => rfl⟩

/-- A run reports at most one end, after all else. -/
theorem exists_end_within (m : Machine σ) (n : Nat) : ∃ (before : List Event) (last : Option Event),
    m.reportsWithin n = before ++ last.toList ∧ (∀ e ∈ before, e.isEnd = false) ∧
      ((m.afterSteps n).state = .running → last = none) := by
  induction n with
  | zero => exact ⟨[], none, rfl, nofun, fun _ => rfl⟩
  | succ n ih =>
    obtain ⟨before, last, hwithin, hbefore, hlast⟩ := ih
    rw [reportsWithin_succ, hwithin, afterSteps_succ_eq_step]
    by_cases hr : (m.afterSteps n).state = .running
    · -- a machine that still runs has reported no end so far
      obtain ⟨before', last', hstep, hbefore', hlast'⟩ := (m.afterSteps n).exists_end_of_step
      refine ⟨before ++ before', last', ?_, List.forall_mem_append.mpr ⟨hbefore, hbefore'⟩, hlast'⟩
      rw [hlast hr, hstep]
      simp
    · refine ⟨before, last, ?_, hbefore, fun h => ?_⟩
      · rw [stepReports_of_not_running hr, List.append_nil]
      · rw [step_of_not_running hr] at h
        exact absurd h hr

theorem logAt_trace (m : Machine σ) :
    m.logAt (some .trace) = m.events.toList.map Event.entry := by
  rw [logAt, List.filter_eq_self.mpr fun _ _ => Log.Threshold.shows_trace _]

/-- The log of a run is that of its steps, one after the other. With every level shown each report
is one line of its own level, and but for what a builtin reports the line tells the report, with all
that is in it. A step first reports an instruction that it has fetched and whose word has no reserved
bit, with the address that it comes from and the registers past the fetch; then a call of a builtin
that there is, and what the builtin reports; then a halt with that same address, or a fault with the
instruction pointer that it leaves. A machine that has ended reports nothing more, so a run reports
one end at most, and nothing after it. -/
theorem execution_log (m : Machine σ) (n : Nat) :
    (m.afterSteps n).events.toList = m.events.toList ++ m.reportsWithin n ∧
    (m.afterSteps n).logAt (some .trace) =
      m.logAt (some .trace) ++ (m.reportsWithin n).map Event.entry ∧
    (∀ e : Event, e.HasLine e.entry) ∧
    (∀ e e' : Event, (∀ entry, e ≠ .reported entry) → (∀ entry, e' ≠ .reported entry) →
      e.entry = e'.entry → e = e') ∧
    (∀ k, (m.afterSteps k).ReportsWhen) ∧
    (m.state ≠ .running → m.reportsWithin n = []) ∧
    (m.reportsWithin n).countP Event.isEnd ≤ 1 ∧
    ∀ e ∈ (m.reportsWithin n).dropLast, e.isEnd = false := by
  have hevents := m.events_afterSteps n
  obtain ⟨before, last, hwithin, hbefore, -⟩ := m.exists_end_within n
  have hnone : before.countP Event.isEnd = 0 :=
    List.countP_eq_zero.mpr fun e he => ne_true_of_eq_false (hbefore e he)
  refine ⟨hevents, ?_, Event.hasLine_entry, fun e e' he he' => ?_,
    fun k => (m.afterSteps k).reportsWhen, fun hn => ?_, ?_, ?_⟩
  · rw [logAt_trace, logAt_trace, hevents, List.map_append]
  · exact Event.eq_of_hasLine he he' e.hasLine_entry e'.hasLine_entry
  · rw [afterSteps_of_not_running hn] at hevents
    exact List.append_cancel_left (hevents.symm.trans (List.append_nil _).symm)
  · rw [hwithin, List.countP_append, hnone, Nat.zero_add]
    cases last with
    | none => exact Nat.zero_le 1
    | some e => exact List.countP_le_length
  · rw [hwithin]
    cases last with
    | none =>
      rw [Option.toList_none, List.append_nil]
      exact fun e he => hbefore e (List.dropLast_subset _ he)
    | some e => simpa using hbefore

def tracingThenHalting : Machine Unit where
  registers := .zeros
  memory := { cells := #[0xF8000000, 0, 0], programLength := 3 }
  builtins := .standard

theorem tracingThenHalting_logs :
    (tracingThenHalting.afterSteps 3).events.toList =
      [.fetched .builtin 0xF8000000 0 (RegisterFile.zeros.set .ip 1),
        .called 0 "trace_registers",
        .reported ⟨.info, Builtin.registersReport (RegisterFile.zeros.set .ip 2)⟩,
        .fetched .halt 0 2 (RegisterFile.zeros.set .ip 3), .halted 2] ∧
    ((tracingThenHalting.afterSteps 3).logAt (some .trace)).getLast? =
      some ⟨.debug, "HALT at ip=2"⟩ ∧
    (∀ e : Event, (∀ entry, e ≠ .reported entry) → e.entry = ⟨.debug, "HALT at ip=2"⟩ →
      e = .halted 2) ∧
    .halted 2 ∈ (tracingThenHalting.afterSteps 1).stepReports ∧
    (tracingThenHalting.afterSteps 2).state ≠ .running ∧
    (tracingThenHalting.afterSteps 2).reportsWithin 1 = [] ∧
    ∀ e ∈ (tracingThenHalting.reportsWithin 3).dropLast, e.isEnd = false := by
  obtain ⟨hevents, hlines, -, hinj, hwhen, -, -, hlast⟩ := execution_log tracingThenHalting 3
  obtain ⟨-, -, -, -, -, hended, -⟩ := execution_log (tracingThenHalting.afterSteps 2) 1
  have hn : (tracingThenHalting.afterSteps 2).state ≠ .running := by decide
  exact ⟨hevents.trans (by rfl), (congrArg List.getLast? hlines).trans (by rfl),
    fun e he h => hinj e (.halted 2) he nofun (h.trans (by rfl)),
    ((hwhen 1).halted 2).mpr ⟨by rfl, by rfl, by rfl⟩, hn, hended hn, hlast⟩

end Machine
end WordMachine
