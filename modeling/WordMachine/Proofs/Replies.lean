import WordMachine.Proofs.Calls

/-! All that a step takes from its console is what the streams reply to its action. With another
console that replies the same a machine takes the same step. -/
namespace WordMachine

namespace Console

/-- Another console replies to an action as this one does. -/
def SameReplies (con con' : Console) : Action → Prop
  | .halt => con'.flush.1 = con.flush.1
  | .read _ => con'.flush.1 = con.flush.1 ∧ con'.flush.2.read.1 = con.flush.2.read.1
  | .write _ b => (con'.write b).1 = (con.write b).1
  | .assign _ _ _ _ | .jump _ | .call _ _ => True

end Console

namespace Machine

variable {σ : Type} {m m' : Machine σ} {con : Console} {a : Action}

def withConsole (m : Machine σ) (con : Console) : Machine σ := { m with console := con }

@[simp] theorem console_withConsole (m : Machine σ) (con : Console) :
    (m.withConsole con).console = con := rfl

@[simp] theorem registers_withConsole (m : Machine σ) (con : Console) :
    (m.withConsole con).registers = m.registers := rfl

@[simp] theorem nextAction?_withConsole (m : Machine σ) (con : Console) :
    (m.withConsole con).nextAction? = m.nextAction? := rfl

theorem raise_withConsole (m : Machine σ) (flag : Bool) (con : Console) :
    (m.withConsole con).raise flag = (m.raise flag).withConsole con := by
  cases flag <;> rfl

theorem settle_withConsole (m : Machine σ) (s : State) (con : Console) :
    (m.withConsole con).settle s = (m.settle s).withConsole con := by
  cases s <;> rfl

theorem Stored.withConsole {w : Word} {dst : Destination} (h : m.Stored w dst m')
    (con : Console) : (m.withConsole con).Stored w dst (m'.withConsole con) := by
  cases h with
  | register r => exact .register r
  | cell ha => exact .cell (m := m.withConsole con) ha

theorem Effect.withConsole {s : State} (h : m.Effect a s m')
    (hrep : m.console.SameReplies con a) :
    (m.withConsole con).Effect a s (m'.withConsole (con.after a)) := by
  cases h with
  | halt hf => exact .halt (m := m.withConsole con) (hrep.trans hf)
  | @assign next w dst flag m₁ h =>
    have he : (m.withConsole con).Effect (.assign next dst w flag) .running _ :=
      .assign (h.withConsole con)
    rw [raise_withConsole] at he
    exact he
  | jump => exact .jump
  | @read dst w _ hf hr h =>
    have hs := h.withConsole (con.after (.read dst))
    exact .read (m := m.withConsole con) (hrep.1.trans hf) (hrep.2.trans hr) hs
  | write hw => exact .write (m := m.withConsole con) (hrep.trans hw)
  | call hc => exact .call hc

theorem Refusal.withConsole {e : Fault} (h : m.Refusal a e)
    (hrep : m.console.SameReplies con a) : (m.withConsole con).Refusal a e := by
  cases h with
  | halt hf => exact .halt (m := m.withConsole con) (hrep.trans hf)
  | assign ha => exact .assign (m := m.withConsole con) ha
  | flush hf => exact .flush (m := m.withConsole con) (hrep.1.trans hf)
  | read hf hr => exact .read (m := m.withConsole con) (hrep.1.trans hf) (hrep.2.trans hr)
  | deliver hf hr ha =>
    exact .deliver (m := m.withConsole con) (hrep.1.trans hf) (hrep.2.trans hr) ha
  | write hw => exact .write (m := m.withConsole con) (hrep.trans hw)
  | call hi => exact .call (m := m.withConsole con) hi

theorem Course.withConsole {r : Except Fault State} (h : m.Course r m') (hr : m.state = .running)
    (hrep : ∀ a, m.nextAction? = some a → m.console.SameReplies con a) :
    ∃ con', (m.withConsole con).Course r (m'.withConsole con') := by
  cases h with
  | unfetched hl => exact ⟨_, .unfetched (m := m.withConsole con) hl⟩
  | rejected hl hw => exact ⟨_, .rejected (m := m.withConsole con) hl hw⟩
  | unresolved hf ha => exact ⟨_, .unresolved (m := m.withConsole con) hf ha⟩
  | @refused f a _ hf ha href =>
    have href' := href.withConsole (hrep a (nextAction?_of_resolve hr hf ha))
    exact ⟨_, .refused (m := m.withConsole con) hf ha href'⟩
  | @overflowed f a m₁ hf ha he hg hs =>
    have he' := he.withConsole (hrep a (nextAction?_of_resolve hr hf ha))
    have hc := Course.overflowed (m := m.withConsole con) hf ha he' hg hs
    exact ⟨_, hc⟩
  | @completed f a s m₁ hf ha he hg =>
    have he' := he.withConsole (hrep a (nextAction?_of_resolve hr hf ha))
    have hc := Course.completed (m := m.withConsole con) hf ha he' hg
    rw [settle_withConsole] at hc
    exact ⟨_, hc⟩

/-- With a console that replies the same to its action, a step gives the same result, and leaves
the same machine but for the console. -/
theorem step_withConsole
    (hrep : ∀ a, m.nextAction? = some a → m.console.SameReplies con a) :
    ∃ con', (m.withConsole con).step = (m.step.1, m.step.2.withConsole con') := by
  by_cases hr : m.state = .running
  · obtain ⟨con', hc⟩ := (course_step hr).withConsole hr hrep
    exact ⟨con', hc.step_eq hr⟩
  · have hr' : (m.withConsole con).state ≠ .running := hr
    rw [step_of_not_running hr, step_of_not_running hr']
    exact ⟨con, rfl⟩

end Machine
end WordMachine
