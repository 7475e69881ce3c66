import WordMachine.Proofs.Resolution

/-! What an action does to a machine: the calls it makes on the console, what can refuse it,
and what a refused action leaves. -/
namespace WordMachine

namespace Console

theorem FlushOutcome.eq_io_of_result {o : FlushOutcome} {e : Fault} (h : o.result = .error e) :
    ∃ text, e = .io text := by
  cases o <;> cases h <;> exact ⟨_, rfl⟩

theorem ReadOutcome.eq_io_of_result {o : ReadOutcome} {e : Fault} (h : o.result = .error e) :
    ∃ text, e = .io text := by
  cases o <;> cases h <;> exact ⟨_, rfl⟩

theorem WriteOutcome.eq_io_of_result {o : WriteOutcome} {e : Fault} (h : o.result = .error e) :
    ∃ text, e = .io text := by
  cases o <;> cases h <;> exact ⟨_, rfl⟩

theorem eq_io_of_read {con : Console} {e : Fault} (h : con.read.1 = .error e) :
    ∃ text, e = .io text := by
  rw [result_read] at h
  exact ReadOutcome.eq_io_of_result h

theorem eq_io_of_write {con : Console} {byte : UInt8} {e : Fault}
    (h : (con.write byte).1 = .error e) : ∃ text, e = .io text := by
  rw [result_write] at h
  exact WriteOutcome.eq_io_of_result h

/-- The console that an action leaves, whether or not it succeeds. -/
def after (con : Console) : Action → Console
  | .halt => con.flush.2
  | .read _ =>
    match con.flush.1 with
    | .ok () => con.flush.2.read.2
    | .error _ => con.flush.2
  | .write _ byte => (con.write byte).2
  | .assign _ _ _ _ | .jump _ | .call _ _ => con

/-- The calls that an action makes on a console. A read follows only on a good flush. -/
def made (con : Console) : Action → List Call
  | .halt => [.flush (con.flushes.headD .done)]
  | .read _ =>
    .flush (con.flushes.headD .done) ::
      match con.flush.1 with
      | .ok () => (con.input.takeWhile (· == .interrupted)).map .read ++ [.read (.first con.input)]
      | .error _ => []
  | .write _ byte =>
    (con.writes.takeWhile (· == .interrupted)).map (.write byte) ++ [.write byte (.first con.writes)]
  | .assign _ _ _ _ | .jump _ | .call _ _ => []

theorem calls_after (con : Console) (a : Action) :
    (con.after a).calls.toList = con.calls.toList ++ con.made a := by
  cases a with
  | halt => exact con.calls_flush
  | read dst =>
    simp only [after, made]
    split
    · simp [calls_read, calls_flush]
    · simp [calls_flush]
  | write next byte => simp [after, made, calls_write]
  | assign next dst w flag => simp [after, made]
  | jump next => simp [after, made]
  | call next index => simp [after, made]

theorem eq_read_of_mem_made {con : Console} {a : Action} {c : Call} (hc : c ∈ con.made a)
    (hr : c.isRead = true) : ∃ dst, a = .read dst := by
  cases a with
  | read dst => exact ⟨dst, rfl⟩
  | halt =>
    rw [made, List.mem_singleton] at hc
    subst hc
    cases hr
  | write next byte =>
    simp only [made, List.mem_append, List.mem_map, List.mem_singleton] at hc
    rcases hc with ⟨o, _, rfl⟩ | rfl <;> cases hr
  | assign next dst w flag => cases hc
  | jump next => cases hc
  | call next index => cases hc

end Console

namespace Machine

variable {σ : Type} {m m' : Machine σ}

/-- What refuses an action, and with which fault. -/
inductive Refusal (m : Machine σ) : Action → Fault → Prop
  | halt {e : Fault} (hf : m.console.flush.1 = .error e) : Refusal m .halt e
  | assign {next address w : Word} {flag : Bool} (h : m.memory.length ≤ address.toNat) :
      Refusal m (.assign next (.cell address) w flag) (.memoryOutOfBounds address m.memory.length)
  | flush {dst : Destination} {e : Fault} (hf : m.console.flush.1 = .error e) :
      Refusal m (.read dst) e
  | read {dst : Destination} {e : Fault} (hf : m.console.flush.1 = .ok ())
      (hr : m.console.flush.2.read.1 = .error e) : Refusal m (.read dst) e
  | deliver {address w : Word} (hf : m.console.flush.1 = .ok ())
      (hr : m.console.flush.2.read.1 = .ok w) (h : m.memory.length ≤ address.toNat) :
      Refusal m (.read (.cell address)) (.memoryOutOfBounds address m.memory.length)
  | write {next : Word} {byte : UInt8} {e : Fault} (hw : (m.console.write byte).1 = .error e) :
      Refusal m (.write next byte) e
  | call {next index : Word} (h : m.builtins.length ≤ index.toNat) :
      Refusal m (.call next index) (.invalidBuiltin index m.builtins.length)

def refused (m : Machine σ) (a : Action) : Machine σ :=
  { m.set .ip (a.resume m.ip) with console := m.console.after a }

/-- Where a word can be put, and the machine that holds it there. -/
inductive Stored (m : Machine σ) (w : Word) : Destination → Machine σ → Prop
  | register (r : Register) : Stored m w (.register r) (m.set r w)
  | cell {address : Word} (h : address.toNat < m.memory.length) :
      Stored m w (.cell address) { m with memory := m.memory.put address w h }

def raise (m : Machine σ) (flag : Bool) : Machine σ :=
  if flag then { m with registers := m.registers.setZeroFlag } else m

@[simp] theorem builtins_raise (m : Machine σ) (flag : Bool) :
    (m.raise flag).builtins = m.builtins := by
  cases flag <;> rfl
@[simp] theorem console_raise (m : Machine σ) (flag : Bool) :
    (m.raise flag).console = m.console := by
  cases flag <;> rfl
@[simp] theorem config_raise (m : Machine σ) (flag : Bool) :
    (m.raise flag).config = m.config := by
  cases flag <;> rfl

def returned (m : Machine σ) (c : Builtin.Call σ) : Machine σ :=
  { m with
    registers := if m.config.storeBuiltinResult then c.registers.set .ret c.value else c.registers
    memory := c.memory
    builtins := c.table
    events := m.events ++ c.events }

/-- What an action that is not refused does. -/
inductive Effect (m : Machine σ) : Action → State → Machine σ → Prop
  | halt (hf : m.console.flush.1 = .ok ()) :
      Effect m .halt .halted { m with console := m.console.after .halt }
  | assign {next w : Word} {dst : Destination} {flag : Bool} {m₁ : Machine σ}
      (h : (m.set .ip next).Stored w dst m₁) :
      Effect m (.assign next dst w flag) .running (m₁.raise flag)
  | jump {next : Word} : Effect m (.jump next) .running (m.set .ip next)
  | read {dst : Destination} {w : Word} {m₁ : Machine σ} (hf : m.console.flush.1 = .ok ())
      (hr : m.console.flush.2.read.1 = .ok w)
      (h : { m with console := m.console.after (.read dst) }.Stored w dst m₁) :
      Effect m (.read dst) .running m₁
  | write {next : Word} {byte : UInt8} (hw : (m.console.write byte).1 = .ok ()) :
      Effect m (.write next byte) .running
        { m.set .ip next with console := m.console.after (.write next byte) }
  | call {next index : Word} {c : Builtin.Call σ}
      (hc : m.builtins.call index (m.registers.set .ip next) m.memory = .ok c) :
      Effect m (.call next index) .running ((m.set .ip next).returned c)

namespace Refusal

variable {a : Action} {e : Fault}

theorem cause (h : m.Refusal a e) :
    (∃ address, e = .memoryOutOfBounds address m.memory.length) ∨
      (∃ index, e = .invalidBuiltin index m.builtins.length) ∨ ∃ text, e = .io text := by
  cases h with
  | assign _ => exact Or.inl ⟨_, rfl⟩
  | deliver _ _ _ => exact Or.inl ⟨_, rfl⟩
  | call _ => exact Or.inr (Or.inl ⟨_, rfl⟩)
  | halt hf => exact Or.inr (Or.inr (Console.FlushOutcome.eq_io_of_result hf))
  | flush hf => exact Or.inr (Or.inr (Console.FlushOutcome.eq_io_of_result hf))
  | read _ hr => exact Or.inr (Or.inr (Console.eq_io_of_read hr))
  | write hw => exact Or.inr (Or.inr (Console.eq_io_of_write hw))

theorem status_ne_overflow (h : m.Refusal a e) : e.status ≠ .overflow := by
  rcases h.cause with ⟨_, rfl⟩ | ⟨_, rfl⟩ | ⟨_, rfl⟩ <;> simp [Fault.status]

theorem ne_divisionByZero (h : m.Refusal a e) : e ≠ .divisionByZero := by
  rcases h.cause with ⟨_, rfl⟩ | ⟨_, rfl⟩ | ⟨_, rfl⟩ <;> simp

theorem ne_jump (h : m.Refusal a e) (next : Word) : a ≠ .jump next := by
  rintro rfl
  cases h

/-- A refusal depends on the console, on how many builtins there are, and, where a store is
refused, on the length of memory. -/
theorem congr (h : m.Refusal a e) (hcon : m'.console = m.console)
    (hlen : m'.builtins.length = m.builtins.length)
    (hmem : m'.memory.length = m.memory.length ∨
      ∀ address length, e ≠ .memoryOutOfBounds address length) : m'.Refusal a e := by
  cases h with
  | halt hf =>
    rw [← hcon] at hf
    exact .halt hf
  | assign ha =>
    rcases hmem with hmem | hne
    · rw [← hmem] at ha ⊢
      exact .assign ha
    · exact absurd rfl (hne _ _)
  | flush hf =>
    rw [← hcon] at hf
    exact .flush hf
  | read hf hr =>
    rw [← hcon] at hf hr
    exact .read hf hr
  | deliver hf hr ha =>
    rcases hmem with hmem | hne
    · rw [← hcon] at hf hr
      rw [← hmem] at ha ⊢
      exact .deliver hf hr ha
    · exact absurd rfl (hne _ _)
  | write hw =>
    rw [← hcon] at hw
    exact .write hw
  | call hi =>
    rw [← hlen] at hi ⊢
    exact .call hi

theorem written_after (h : m.Refusal a e) : (m.console.after a).written = m.console.written := by
  cases h with
  | halt hf => simp [Console.after]
  | assign _ => rfl
  | flush hf => simp only [Console.after, hf, Console.written_flush]
  | read hf hr => simp only [Console.after, hf, Console.written_read, Console.written_flush]
  | deliver hf hr _ => simp only [Console.after, hf, Console.written_read, Console.written_flush]
  | write hw => exact Console.written_write_of_error hw
  | call _ => rfl

end Refusal

theorem set_ip_ip (m : Machine σ) : m.set .ip m.ip = m := by
  simp [set, ip]

theorem assign_eq_ok_iff {dst : Destination} {w : Word} :
    m.assign dst w = (.ok (), m') ↔ m.Stored w dst m' := by
  constructor
  · intro h
    cases dst with
    | register r => cases h; exact .register r
    | cell address =>
      by_cases ha : address.toNat < m.memory.length
      · rw [assign_cell_of_lt m w ha] at h
        cases h
        exact .cell ha
      · rw [assign_cell_of_le m w (Nat.not_lt.mp ha)] at h
        cases h
  · intro h
    cases h with
    | register r => rfl
    | cell ha => exact assign_cell_of_lt m w ha

theorem perform_of_refusal {a : Action} {e : Fault} (h : m.Refusal a e) :
    m.perform a = (.error e, m.refused a) := by
  cases h with
  | halt hf =>
    simp only [perform, onConsole_eq, hf, refused, Action.resume, set_ip_ip, Console.after]
  | assign h =>
    simp only [perform, assign_cell_of_le (m.set .ip _) _ h]
    rfl
  | flush hf =>
    simp only [perform, readWord, onConsole_eq, hf, refused, Action.resume, set_ip_ip,
      Console.after]
  | read hf hr =>
    simp only [perform, readWord, onConsole_eq, hf, hr, refused, Action.resume, set_ip_ip,
      Console.after]
  | @deliver address w hf hr h =>
    have ha := assign_cell_of_le { m with console := m.console.flush.2.read.2 } w h
    simp only [perform, readWord, onConsole_eq, hf, hr, ha, refused, Action.resume, set_ip_ip,
      Console.after]
  | write hw =>
    simp only [perform, onConsole_eq, console_set, hw]
    rfl
  | @call next index h =>
    have hc : m.builtins.call index (m.registers.set .ip next) m.memory =
        .error (.invalidBuiltin index m.builtins.length) :=
      Builtin.Table.call_eq_error_iff.mpr ⟨h, rfl⟩
    simp only [perform, builtins_set, registers_set, memory_set, hc]
    rfl

theorem perform_of_effect {a : Action} {s : State} (h : m.Effect a s m') :
    m.perform a = (.ok s, m') := by
  cases h with
  | halt hf => simp only [perform, onConsole_eq, hf, Console.after]
  | assign h =>
    simp only [perform, assign_eq_ok_iff.mpr h]
    rfl
  | jump => rfl
  | read hf hr h =>
    simp only [Console.after, hf] at h
    simp only [perform, readWord, onConsole_eq, hf, hr, assign_eq_ok_iff.mpr h]
  | write hw =>
    simp only [perform, onConsole_eq, console_set, hw]
    rfl
  | call hc =>
    simp only [perform, builtins_set, registers_set, memory_set, hc]
    rfl

theorem Stored.console_eq {w : Word} {dst : Destination} (h : m.Stored w dst m') :
    m'.console = m.console := by
  cases h <;> rfl

theorem Effect.console_eq {a : Action} {s : State} (h : m.Effect a s m') :
    m'.console = m.console.after a := by
  cases h with
  | halt _ => rfl
  | assign h => rw [console_raise, h.console_eq]; rfl
  | jump => rfl
  | read _ _ h => exact h.console_eq
  | write _ => rfl
  | call _ => rfl

theorem Stored.config_eq {w : Word} {dst : Destination} (h : m.Stored w dst m') :
    m'.config = m.config := by
  cases h <;> rfl

theorem Stored.builtins_eq {w : Word} {dst : Destination} (h : m.Stored w dst m') :
    m'.builtins = m.builtins := by
  cases h <;> rfl

theorem Effect.config_eq {a : Action} {s : State} (h : m.Effect a s m') :
    m'.config = m.config := by
  cases h with
  | halt _ => rfl
  | assign h => rw [config_raise, h.config_eq]; rfl
  | jump => rfl
  | read _ _ h => exact h.config_eq
  | write _ => rfl
  | call _ => rfl

/-- A machine goes on after everything but a halt, which changes nothing in it. -/
theorem Effect.running_or_halted {a : Action} {s : State} (h : m.Effect a s m') :
    s = .running ∨ s = .halted ∧ m'.registers = m.registers ∧ m'.memory = m.memory := by
  cases h with
  | halt _ => exact Or.inr ⟨rfl, rfl, rfl⟩
  | assign _ | jump | read _ _ _ | write _ | call _ => exact Or.inl rfl

@[simp] theorem ip_refused (m : Machine σ) (a : Action) : (m.refused a).ip = a.resume m.ip :=
  ip_set m (a.resume m.ip)

theorem calls_refused (m : Machine σ) (a : Action) :
    (m.refused a).console.calls.toList = m.console.calls.toList ++ m.console.made a :=
  Console.calls_after _ _

theorem Effect.calls {a : Action} {s : State} (h : m.Effect a s m') :
    m'.console.calls.toList = m.console.calls.toList ++ m.console.made a := by
  rw [h.console_eq, Console.calls_after]

theorem stored_or_le (m : Machine σ) (w : Word) (dst : Destination) :
    (∃ m', m.Stored w dst m') ∨
      ∃ address, dst = .cell address ∧ m.memory.length ≤ address.toNat := by
  cases dst with
  | register r => exact Or.inl ⟨_, .register r⟩
  | cell address =>
    by_cases h : address.toNat < m.memory.length
    · exact Or.inl ⟨_, .cell h⟩
    · exact Or.inr ⟨address, rfl, Nat.not_lt.mp h⟩

/-- Every action is refused or takes effect. -/
theorem refusal_or_effect (m : Machine σ) (a : Action) :
    (∃ e, m.Refusal a e) ∨ ∃ s m', m.Effect a s m' := by
  cases a with
  | halt =>
    cases hf : m.console.flush.1 with
    | error e => exact Or.inl ⟨e, .halt hf⟩
    | ok _ => exact Or.inr ⟨_, _, .halt hf⟩
  | assign next dst w flag =>
    rcases (m.set .ip next).stored_or_le w dst with ⟨m', h⟩ | ⟨address, rfl, h⟩
    · exact Or.inr ⟨_, _, .assign h⟩
    · exact Or.inl ⟨_, .assign h⟩
  | jump next => exact Or.inr ⟨_, _, .jump⟩
  | read dst =>
    cases hf : m.console.flush.1 with
    | error e => exact Or.inl ⟨e, .flush hf⟩
    | ok _ =>
      cases hr : m.console.flush.2.read.1 with
      | error e => exact Or.inl ⟨e, .read hf hr⟩
      | ok w =>
        rcases stored_or_le { m with console := m.console.after (.read dst) } w dst with
          ⟨m', h⟩ | ⟨address, rfl, h⟩
        · exact Or.inr ⟨_, _, .read hf hr h⟩
        · exact Or.inl ⟨_, .deliver hf hr h⟩
  | write next byte =>
    cases hw : (m.console.write byte).1 with
    | error e => exact Or.inl ⟨e, .write hw⟩
    | ok _ => exact Or.inr ⟨_, _, .write hw⟩
  | call next index =>
    cases hc : m.builtins.call index (m.registers.set .ip next) m.memory with
    | error e => exact Or.inl ⟨_, .call (Builtin.Table.call_eq_error_iff.mp hc).1⟩
    | ok c => exact Or.inr ⟨_, _, .call hc⟩

end Machine
end WordMachine
