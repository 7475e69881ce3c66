import WordMachine.Proofs.FlushDiscipline
import WordMachine.Proofs.StackGuard

/-! The life of a machine that is stepped and run in any order: it runs, one call ends it, and
from then on it gives what it ended with. -/
namespace WordMachine

namespace State

theorem exitStatus?_ne_none_iff (s : State) : s.exitStatus? ≠ none ↔ s ≠ .running := by
  cases s <;> simp [exitStatus?]

theorem exitStatus?_eq_success_iff {s : State} (h : s ≠ .failed .success) :
    s.exitStatus? = some .success ↔ s = .halted := by
  cases s with
  | running | halted => simp [exitStatus?]
  | failed status =>
    have hs : status ≠ .success := fun hs => h (by rw [hs])
    simp [exitStatus?, hs]

end State

/-- What a call gives, be it a step or a run to the end. -/
inductive Reply
  | step (result : Except Fault State)
  | run (result : Except Fault ExitStatus)

namespace Reply

def isError : Reply → Bool
  | step (.error _) | run (.error _) => true
  | step (.ok _) | run (.ok _) => false

/-- What the call gives that brings a running machine to rest in a state. -/
inductive Ends : Reply → State → Prop
  | stepFailed (e : Fault) : Ends (step (.error e)) (.failed e.status)
  | runFailed (e : Fault) : Ends (run (.error e)) (.failed e.status)
  | stepHalted : Ends (step (.ok .halted)) .halted
  | runHalted : Ends (run (.ok .success)) .halted

inductive Repeats : Reply → State → Prop
  | step (s : State) : Repeats (step (.ok s)) s
  | run {s : State} {status : ExitStatus} (h : s.exitStatus? = some status) :
      Repeats (run (.ok status)) s

variable {r : Reply} {s : State}

theorem Ends.ne_running (h : r.Ends s) : s ≠ .running := by
  cases h <;> nofun

theorem Ends.ne_failed_success (h : r.Ends s) : s ≠ .failed .success := by
  cases h with
  | stepFailed e | runFailed e => exact fun hs => e.status_ne_success (State.failed.inj hs)
  | stepHalted | runHalted => nofun

theorem Ends.eq_success {status : ExitStatus} (h : (run (.ok status)).Ends s) :
    status = .success := by
  cases h
  rfl

theorem Repeats.isError_eq_false (h : r.Repeats s) : r.isError = false := by
  cases h <;> rfl

end Reply

namespace Machine

variable {σ : Type} {m m' m₁ : Machine σ} {r : Reply}

/-- What one call gives and leaves: a step, or a run that comes to an end. -/
inductive Called (m : Machine σ) : Reply → Machine σ → Prop
  | step : Called m (.step m.step.1) m.step.2
  | run (limit : Nat) {result : Except Fault ExitStatus} {m' : Machine σ}
      (h : m.runWithin limit = some (result, m')) : Called m (.run result) m'

/-- What calls one after another give, each with the machine that it leaves to the next. -/
inductive History : Machine σ → List (Reply × Machine σ) → Prop
  | nil (m : Machine σ) : History m []
  | cons {m m₁ : Machine σ} {r : Reply} {calls : List (Reply × Machine σ)} (h : Called m r m₁)
      (rest : History m₁ calls) : History m ((r, m₁) :: calls)

theorem step_of_running_cases (hr : m.state = .running) :
    (∃ e, m.step.1 = .error e ∧ m.step.2.state = .failed e.status) ∨
    (m.step.1 = .ok .running ∧ m.step.2.state = .running) ∨
    (m.step.1 = .ok .halted ∧ m.step.2.state = .halted) := by
  cases h : m.step.1 with
  | error e => exact Or.inl ⟨e, rfl, state_step_of_error h⟩
  | ok s =>
    have hs := state_step_of_ok h
    have hf := not_failed_of_step_ok hr h
    rw [hs] at hf ⊢
    cases s with
    | running => exact Or.inr (Or.inl ⟨rfl, rfl⟩)
    | halted => exact Or.inr (Or.inr ⟨rfl, rfl⟩)
    | failed status => cases hf

theorem runWithin_of_exitStatus {status : ExitStatus} (h : m.state.exitStatus? = some status)
    (limit : Nat) : m.runWithin limit = some (.ok status, m) := by
  unfold runWithin
  rw [h]

theorem runWithin_zero_of_running (hr : m.state = .running) : m.runWithin 0 = none := by
  unfold runWithin
  rw [hr]
  rfl

theorem runWithin_succ_of_error {e : Fault} (h : m.step.1 = .error e) (limit : Nat) :
    m.runWithin (limit + 1) = some (.error e, m.step.2) := by
  have hstep : m.step = (.error e, m.step.2) := Prod.ext h rfl
  unfold runWithin
  rw [running_of_step_error h]
  simp only [State.exitStatus?]
  rw [hstep]

theorem runWithin_succ_of_ok {s : State} (hr : m.state = .running) (h : m.step.1 = .ok s)
    (limit : Nat) : m.runWithin (limit + 1) = m.step.2.runWithin limit := by
  have hstep : m.step = (.ok s, m.step.2) := Prod.ext h rfl
  rw [runWithin, hr]
  simp only [State.exitStatus?]
  rw [hstep]

theorem ends_of_runWithin {limit : Nat} {result : Except Fault ExitStatus}
    (hr : m.state = .running) (h : m.runWithin limit = some (result, m')) :
    (Reply.run result).Ends m'.state := by
  induction limit generalizing m with
  | zero =>
    rw [runWithin_zero_of_running hr] at h
    cases h
  | succ limit ih =>
    rcases step_of_running_cases hr with ⟨e, he, hs⟩ | ⟨hok, hs⟩ | ⟨hok, hs⟩
    · rw [runWithin_succ_of_error he] at h
      cases h
      rw [hs]
      exact .runFailed e
    · rw [runWithin_succ_of_ok hr hok] at h
      exact ih hs h
    · -- after a halt the run looks at the state once more, and takes its status from there
      have hx : m.step.2.state.exitStatus? = some .success := by
        rw [hs]
        rfl
      rw [runWithin_succ_of_ok hr hok, runWithin_of_exitStatus hx] at h
      cases h
      rw [hs]
      exact .runHalted

/-- A call leaves a running machine running, and is then a step that says so, or ends it. -/
theorem Called.of_running (h : m.Called r m') (hr : m.state = .running) :
    (r = .step (.ok .running) ∧ m'.state = .running) ∨ r.Ends m'.state := by
  cases h with
  | step =>
    rcases step_of_running_cases hr with ⟨e, he, hs⟩ | ⟨hok, hs⟩ | ⟨hok, hs⟩
    · rw [he, hs]
      exact Or.inr (.stepFailed e)
    · rw [hok, hs]
      exact Or.inl ⟨rfl, rfl⟩
    · rw [hok, hs]
      exact Or.inr .stepHalted
  | run limit h => exact Or.inr (ends_of_runWithin hr h)

theorem Called.of_not_running (h : m.Called r m') (hn : m.state ≠ .running) :
    r.Repeats m.state ∧ m' = m := by
  cases h with
  | step =>
    rw [step_of_not_running hn]
    exact ⟨.step m.state, rfl⟩
  | run limit h =>
    obtain ⟨status, hx⟩ := Option.ne_none_iff_exists'.mp ((State.exitStatus?_ne_none_iff _).mpr hn)
    rw [runWithin_of_exitStatus hx] at h
    cases h
    exact ⟨.run hx, rfl⟩

variable {calls : List (Reply × Machine σ)}

theorem History.of_not_running (h : m.History calls) (hn : m.state ≠ .running) :
    ∀ c ∈ calls, c.1.Repeats m.state ∧ c.2 = m := by
  induction h with
  | nil m => exact List.forall_mem_nil _
  | cons h rest ih =>
    obtain ⟨hrep, rfl⟩ := h.of_not_running hn
    exact List.forall_mem_cons.mpr ⟨⟨hrep, rfl⟩, ih hn⟩

def GoesOn (c : Reply × Machine σ) : Prop := c.1 = .step (.ok .running) ∧ c.2.state = .running

/-- Up to one of the calls the machine runs; that one ends it, and the others repeat its end. -/
theorem History.of_running (h : m.History calls) (hr : m.state = .running) :
    (∀ c ∈ calls, GoesOn c) ∨
    ∃ (before after : List (Reply × Machine σ)) (r : Reply) (m₁ : Machine σ),
      calls = before ++ (r, m₁) :: after ∧ (∀ c ∈ before, GoesOn c) ∧
      r.Ends m₁.state ∧ ∀ c ∈ after, c.1.Repeats m₁.state ∧ c.2 = m₁ := by
  induction h with
  | nil m => exact Or.inl (List.forall_mem_nil _)
  | @cons m m₁ r calls h rest ih =>
    rcases h.of_running hr with hgo | hends
    · rcases ih hgo.2 with hall | ⟨before, after, r', m₂, rfl, hbefore, hend, hafter⟩
      · exact Or.inl (List.forall_mem_cons.mpr ⟨hgo, hall⟩)
      · exact Or.inr ⟨(r, m₁) :: before, after, r', m₂, rfl,
          List.forall_mem_cons.mpr ⟨hgo, hbefore⟩, hend, hafter⟩
    · exact Or.inr ⟨[], calls, r, m₁, rfl, List.forall_mem_nil _, hends,
        rest.of_not_running hends.ne_running⟩

theorem countP_isError_eq_zero (h : ∀ c ∈ calls, c.1.isError = false) :
    calls.countP (fun c => c.1.isError) = 0 :=
  List.countP_eq_zero.mpr fun c hc => by rw [h c hc]; exact Bool.false_ne_true

theorem GoesOn.isError_eq_false {c : Reply × Machine σ} (h : GoesOn c) : c.1.isError = false := by
  rw [h.1]
  rfl

theorem History.countP_isError_le_one (h : m.History calls) (hr : m.state = .running) :
    calls.countP (fun c => c.1.isError) ≤ 1 := by
  rcases h.of_running hr with hall | ⟨before, after, r, m₁, rfl, hbefore, -, hafter⟩
  · rw [countP_isError_eq_zero fun c hc => (hall c hc).isError_eq_false]
    exact Nat.zero_le 1
  · have hb := countP_isError_eq_zero fun c hc => (hbefore c hc).isError_eq_false
    have ha := countP_isError_eq_zero fun c hc => (hafter c hc).1.isError_eq_false
    rw [List.countP_append, List.countP_cons, hb, ha]
    split <;> decide

theorem History.ne_failed_success (h : m.History calls) (hr : m.state = .running) :
    ∀ c ∈ calls, c.2.state ≠ .failed .success := by
  have hgo (c : Reply × Machine σ) (hc : GoesOn c) : c.2.state ≠ .failed .success := by
    rw [hc.2]
    nofun
  rcases h.of_running hr with hall | ⟨before, after, r, m₁, rfl, hbefore, hends, hafter⟩
  · exact fun c hc => hgo c (hall c hc)
  · refine List.forall_mem_append.mpr ⟨fun c hc => hgo c (hbefore c hc),
      List.forall_mem_cons.mpr ⟨hends.ne_failed_success, fun c hc => ?_⟩⟩
    rw [(hafter c hc).2]
    exact hends.ne_failed_success

/-- However a machine is stepped and run once it is built, one call at most ends it. The calls
before are steps that say it runs; the one that ends it gives a fault exactly if the machine has
failed with the status of the fault, and else it has halted; the calls after give the state or the
status it ended with and change nothing. So at most one call gives a fault. No machine has failed
with success, and a run of a machine that runs gives no other status. -/
theorem lifecycle [Inhabited σ] (hb : m.Built) (h : m.History calls) :
    m.state = .running ∧
    ((∀ c ∈ calls, c.1 = .step (.ok .running) ∧ c.2.state = .running) ∨
      ∃ (before after : List (Reply × Machine σ)) (r : Reply) (m₁ : Machine σ),
        calls = before ++ (r, m₁) :: after ∧
        (∀ c ∈ before, c.1 = .step (.ok .running) ∧ c.2.state = .running) ∧
        m₁.state ≠ .running ∧ r.Ends m₁.state ∧
        ∀ c ∈ after, c.1.Repeats m₁.state ∧ c.2 = m₁) ∧
    calls.countP (fun c => c.1.isError) ≤ 1 ∧
    (∀ c ∈ calls, c.2.state ≠ .failed .success ∧
      (c.2.state.exitStatus? = some .success ↔ c.2.state = .halted)) ∧
    ∀ (m₁ m₂ : Machine σ) (status : ExitStatus), m₁.state = .running →
      m₁.Called (.run (.ok status)) m₂ → status = .success := by
  have hr := hb.state_eq
  refine ⟨hr, ?_, h.countP_isError_le_one hr, fun c hc => ?_, fun m₁ m₂ status hr₁ h₁ => ?_⟩
  · rcases h.of_running hr with hall | ⟨before, after, r, m₁, hcalls, hbefore, hends, hafter⟩
    · exact Or.inl hall
    · exact Or.inr ⟨before, after, r, m₁, hcalls, hbefore, hends.ne_running, hends, hafter⟩
  · have hne := h.ne_failed_success hr c hc
    exact ⟨hne, State.exitStatus?_eq_success_iff hne⟩
  · rcases h₁.of_running hr₁ with ⟨hstep, -⟩ | hends
    · cases hstep
    · exact hends.eq_success

/-- One step, a run that the guard stops, and two calls of the machine that is at rest then. -/
def pushingPastEndCalls : List (Reply × Machine Unit) :=
  [(.step (.ok .running), pushingPastEnd.afterSteps 1),
    (.run (.error (.stackOverflow 6 5)), pushingPastEnd.afterSteps 2),
    (.step (.ok (.failed .overflow)), pushingPastEnd.afterSteps 2),
    (.run (.ok .overflow), pushingPastEnd.afterSteps 2)]

theorem pushingPastEnd_lives :
    pushingPastEnd.Built ∧ pushingPastEnd.History pushingPastEndCalls ∧
    (∃ (before after : List (Reply × Machine Unit)) (r : Reply) (m₁ : Machine Unit),
      pushingPastEndCalls = before ++ (r, m₁) :: after ∧
      r.Ends m₁.state ∧ ∀ c ∈ after, c.1.Repeats m₁.state ∧ c.2 = m₁) ∧
    pushingPastEndCalls.countP (fun c => c.1.isError) ≤ 1 := by
  have hb : pushingPastEnd.Built := .ofMemory _ _ _ _
  have h : pushingPastEnd.History pushingPastEndCalls :=
    .cons .step (.cons (.run 1 (by rfl)) (.cons .step (.cons (.run 0 (by rfl)) (.nil _))))
  obtain ⟨-, hlife, hcount, -⟩ := lifecycle hb h
  refine ⟨hb, h, ?_, hcount⟩
  rcases hlife with hall | ⟨before, after, r, m₁, hcalls, -, -, hends, hafter⟩
  · have hrun := (hall (.run (.ok .overflow), pushingPastEnd.afterSteps 2)
      (by simp [pushingPastEndCalls])).1
    cases hrun
  · exact ⟨before, after, r, m₁, hcalls, hends, hafter⟩

end Machine
end WordMachine
