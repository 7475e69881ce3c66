import WordMachine.Proofs.Course

/-! A failed step has done nothing: apart from the stack guard, which looks at a step that is
already done, every fault is met before anything but the instruction pointer has changed. -/
namespace WordMachine.Machine

variable {σ : Type} {m m₁ m' : Machine σ}

/-- Two machines of which the second has gone on without any effect that a program could see. -/
structure Untouched (m m' : Machine σ) : Prop where
  memory : m'.memory = m.memory
  registers : ∀ r, r ≠ .ip → m'.registers.get r = m.registers.get r
  builtins : m'.builtins = m.builtins
  config : m'.config = m.config
  written : m'.console.written = m.console.written
  /-- No call of a builtin has been reported since. -/
  uncalled : ∃ reported, m'.events.toList = m.events.toList ++ reported ∧
    ∀ index name, .called index name ∉ reported

namespace Untouched

theorem trans (h : m.Untouched m₁) (h' : m₁.Untouched m') : m.Untouched m' where
  memory := h'.memory.trans h.memory
  registers r hr := (h'.registers r hr).trans (h.registers r hr)
  builtins := h'.builtins.trans h.builtins
  config := h'.config.trans h.config
  written := h'.written.trans h.written
  uncalled := by
    obtain ⟨new, he, hn⟩ := h.uncalled
    obtain ⟨new', he', hn'⟩ := h'.uncalled
    refine ⟨new ++ new', by rw [he', he, List.append_assoc], fun index name hc => ?_⟩
    rcases List.mem_append.mp hc with hc | hc
    · exact hn index name hc
    · exact hn' index name hc

theorem set_ip (m : Machine σ) (w : Word) : m.Untouched (m.set .ip w) where
  memory := rfl
  registers r hr := RegisterFile.get_set_ne _ hr w
  builtins := rfl
  config := rfl
  written := rfl
  uncalled := ⟨[], by simp, by simp⟩

theorem report (m : Machine σ) {ev : Event} (h : ∀ index name, ev ≠ .called index name) :
    m.Untouched (m.report ev) where
  memory := rfl
  registers _ _ := rfl
  builtins := rfl
  config := rfl
  written := rfl
  uncalled := ⟨[ev], by simp, fun index name hc => h index name (List.mem_singleton.mp hc).symm⟩

theorem onConsole (m : Machine σ) {con : Console} (h : con.written = m.console.written) :
    m.Untouched { m with console := con } where
  memory := rfl
  registers _ _ := rfl
  builtins := rfl
  config := rfl
  written := h
  uncalled := ⟨[], by simp, by simp⟩

theorem fetched (m : Machine σ) (f : Fetched) : m.Untouched (m.fetched f) :=
  (set_ip m (m.ip + 1)).trans (report _ (by simp))

theorem refused {a : Action} {e : Fault} (h : m.Refusal a e) : m.Untouched (m.refused a) :=
  (set_ip m (a.resume m.ip)).trans (onConsole _ h.written_after)

theorem fail (m : Machine σ) (e : Fault) : m.Untouched (m.fail e) :=
  ((report m (by simp)).trans (onConsole _ (Console.written_flush _))).trans
    { memory := rfl, registers := fun _ _ => rfl, builtins := rfl, config := rfl, written := rfl
      uncalled := ⟨[], by simp [Machine.fail], by simp⟩ }

end Untouched

/-- A course that ends in a fault other than a stack overflow has had no effect. -/
theorem Course.untouched {e : Fault} (h : m.Course (.error e) m')
    (hne : ∀ sp length, e ≠ .stackOverflow sp length) : m.Untouched m' := by
  cases h with
  | unfetched _ => exact .fail m e
  | rejected _ _ => exact (Untouched.set_ip m _).trans (.fail _ e)
  | @unresolved f _ _ _ => exact (Untouched.fetched m f).trans (.fail _ e)
  | @refused f _ _ _ _ hr =>
    exact ((Untouched.fetched m f).trans (.refused hr)).trans (.fail _ e)
  | overflowed _ _ _ _ _ => exact absurd rfl (hne _ _)

/-- All calls made on the console since `m` satisfy `P`. -/
def MadeOnly (P : Console.Call → Prop) (m m' : Machine σ) : Prop :=
  ∃ made, m'.console.calls.toList = m.console.calls.toList ++ made ∧ ∀ c ∈ made, P c

theorem MadeOnly.fail {P : Console.Call → Prop} (hP : ∀ o, P (.flush o)) (e : Fault)
    (h : MadeOnly P m m') : MadeOnly P m (m'.fail e) := by
  obtain ⟨made, hc, hm⟩ := h
  have hf := m'.console.calls_flush
  refine ⟨made ++ [.flush (m'.console.flushes.headD .done)], ?_, fun c hmem => ?_⟩
  · rw [console_fail, hf, hc, List.append_assoc]
  · rcases List.mem_append.mp hmem with hmem | hmem
    · exact hm c hmem
    · rw [List.mem_singleton.mp hmem]
      exact hP _

theorem Course.madeOnly_read {r : Except Fault State} (h : m.Course r m') :
    MadeOnly (fun c => c.isRead = true → ∃ f, m.fetch = .ok f ∧ f.opcode = .input) m m' := by
  have hflush (o : Console.FlushOutcome) : (Console.Call.flush o).isRead = true →
      ∃ f, m.fetch = .ok f ∧ f.opcode = .input := nofun
  have hmade {f : Fetched} {a : Action} (hf : m.fetch = .ok f) (ha : m.resolve f = .ok a) :
      ∀ c ∈ m.console.made a, c.isRead = true → ∃ f, m.fetch = .ok f ∧ f.opcode = .input := by
    intro c hc hr
    obtain ⟨dst, rfl⟩ := Console.eq_read_of_mem_made hc hr
    exact ⟨f, hf, Action.eq_input_of_resolve ha⟩
  have hidle {m₁ : Machine σ} (h : m₁.console = m.console) :
      MadeOnly (fun c => c.isRead = true → ∃ f, m.fetch = .ok f ∧ f.opcode = .input) m m₁ :=
    ⟨[], by rw [h, List.append_nil], nofun⟩
  cases h with
  | unfetched _ => exact (hidle rfl).fail hflush _
  | rejected _ _ => exact (hidle (console_set m .ip (m.ip + 1))).fail hflush _
  | @unresolved f _ _ _ => exact (hidle (console_fetched m f)).fail hflush _
  | @refused f a _ hf ha _ =>
    exact MadeOnly.fail hflush _ ⟨_, (m.fetched f).calls_refused a, hmade hf ha⟩
  | overflowed hf ha he _ _ => exact MadeOnly.fail hflush _ ⟨_, he.calls, hmade hf ha⟩
  | @completed _ _ s m₁ hf ha he _ =>
    exact ⟨_, by rw [console_settle]; exact he.calls, hmade hf ha⟩

theorem Course.state_eq_failed {e : Fault} (h : m.Course (.error e) m') :
    m'.state = .failed e.status := by
  cases h <;> rfl

/-- The fetched instruction was past its immediate word when the fault `e` stopped it: it takes
one, and all its operands were there. -/
def PastImmediate (m : Machine σ) (e : Fault) (f : Fetched) : Prop :=
  m.fetch = .ok f ∧ f.instruction.modes.immediate = true ∧ f.opcode ≠ .halt ∧ f.opcode ≠ .input ∧
    m.OperandsResolve f ∧ e ≠ .divisionByZero

/-- Where a failing step leaves the instruction pointer. -/
theorem Course.ip_of_error {e : Fault} (h : m.Course (.error e) m')
    (hne : ∀ sp length, e ≠ .stackOverflow sp length) :
    (m.memory.load m.ip = .error e ∧ m'.ip = m.ip) ∨
      (∃ w, m.memory.load m.ip = .ok w) ∧
        ((¬∃ f, m.PastImmediate e f) ∧ m'.ip = m.ip + 1 ∨
          (∃ f, m.PastImmediate e f) ∧ m'.ip = m.ip + 2) := by
  cases h with
  | unfetched hl => exact Or.inl ⟨hl, rfl⟩
  | @rejected w _ hl hw =>
    refine Or.inr ⟨⟨w, hl⟩, Or.inl ⟨?_, by simp⟩⟩
    rintro ⟨f, hf, -⟩
    simp [fetch, hl, hw, bind, Except.bind] at hf
  | @unresolved f _ hf ha =>
    refine Or.inr ⟨⟨_, (fetch_eq_ok_iff.mp hf).1⟩, Or.inl ⟨?_, by simp⟩⟩
    rintro ⟨f', hf', -, -, -, hr, hd⟩
    cases hf.symm.trans hf'
    exact hd (Action.eq_divisionByZero_of_resolves hr ha)
  | @refused f a _ hf ha hr =>
    refine Or.inr ⟨⟨_, (fetch_eq_ok_iff.mp hf).1⟩, ?_⟩
    have hi := Action.resume_of_resolve ha hr.ne_jump
    by_cases hm : f.instruction.modes.immediate = true ∧ f.opcode ≠ .halt ∧ f.opcode ≠ .input
    · have hp : m.PastImmediate e f :=
        ⟨hf, hm.1, hm.2.1, hm.2.2, Action.resolves_of_resolve ha, hr.ne_divisionByZero⟩
      refine Or.inr ⟨⟨f, hp⟩, ?_⟩
      rw [if_pos hm, UInt32.add_assoc] at hi
      simpa using hi
    · refine Or.inl ⟨?_, ?_⟩
      · rintro ⟨f', hf', hi', hh, hn, -⟩
        cases hf.symm.trans hf'
        exact hm ⟨hi', hh, hn⟩
      · rw [if_neg hm] at hi
        simpa using hi
  | overflowed _ _ _ _ _ => exact absurd rfl (hne _ _)

theorem Course.withBuiltins {e : Fault} {table : Builtin.Table σ} (h : m.Course (.error e) m')
    (hne : ∀ sp length, e ≠ .stackOverflow sp length) (ht : table.length = m.builtins.length) :
    (m.withBuiltins table).Course (.error e) (m'.withBuiltins table) := by
  cases h with
  | unfetched hl => exact .unfetched hl
  | rejected hl hw => exact .rejected hl hw
  | unresolved hf ha => exact .unresolved hf ha
  | refused hf ha hr => exact .refused hf ha (hr.congr rfl ht (Or.inl rfl))
  | overflowed _ _ _ _ _ => exact absurd rfl (hne _ _)

/-- A step that fails other than by the stack guard is atomic: memory, registers, builtins and
output are as before, no builtin was called (any other table of that length gives the same),
only an instruction that reads has read, and the instruction pointer tells how far it got. -/
theorem failed_step_untouched {e : Fault} (hr : m.state = .running) (he : m.step.1 = .error e)
    (hne : ∀ sp length, e ≠ .stackOverflow sp length) :
    m.Untouched m.step.2 ∧
    (∀ table, table.length = m.builtins.length →
      (m.withBuiltins table).step = (.error e, m.step.2.withBuiltins table)) ∧
    MadeOnly (fun c => c.isRead = true → ∃ f, m.fetch = .ok f ∧ f.opcode = .input) m m.step.2 ∧
    m.step.2.state = .failed e.status ∧
    (m.step.2.ip = m.ip ↔ m.memory.load m.ip = .error e) ∧
    (m.step.2.ip = m.ip + 2 ↔ ∃ f, m.PastImmediate e f) ∧
    (m.step.2.ip = m.ip ∨ m.step.2.ip = m.ip + 1 ∨ m.step.2.ip = m.ip + 2) := by
  have hc := course_step hr
  rw [he] at hc
  have ht (table : Builtin.Table σ) (hlen : table.length = m.builtins.length) :
      (m.withBuiltins table).step = (.error e, m.step.2.withBuiltins table) :=
    (hc.withBuiltins hne hlen).step_eq hr
  refine ⟨hc.untouched hne, ht, hc.madeOnly_read, hc.state_eq_failed, ?_⟩
  rcases hc.ip_of_error hne with ⟨hl, hi⟩ | ⟨⟨w, hl⟩, ⟨hp, hi⟩ | ⟨hp, hi⟩⟩
  · have hp : ¬∃ f, m.PastImmediate e f := by
      rintro ⟨f, hf, -⟩
      simp [fetch, hl, bind, Except.bind] at hf
    rw [hi]
    simp [hl, hp]
  · rw [hi]
    simp [hl, hp]
  · rw [hi]
    simp [hl, hp]

def storingPastEnd : Machine Unit where
  registers := RegisterFile.zeros.set .r1 99
  memory := { cells := #[0x39000021, 0], programLength := 2 }
  builtins := .standard

theorem storingPastEnd_untouched :
    storingPastEnd.state = .running ∧
    storingPastEnd.step.1 = .error (.memoryOutOfBounds 99 2) ∧
    storingPastEnd.Untouched storingPastEnd.step.2 ∧
    storingPastEnd.step.2.registers.get .flags = 0 ∧
    storingPastEnd.step.2.state = .failed .illegal ∧
    ∃ f, storingPastEnd.PastImmediate (.memoryOutOfBounds 99 2) f := by
  have hr : storingPastEnd.state = .running := rfl
  have he : storingPastEnd.step.1 = .error (.memoryOutOfBounds 99 2) := by rfl
  obtain ⟨hu, -, -, hs, -, hp, -⟩ := failed_step_untouched hr he (by simp)
  exact ⟨hr, he, hu, hu.registers .flags (by decide), hs, hp.mp (by rfl)⟩

end WordMachine.Machine
