import WordMachine.Proofs.Replies

/-! The answers that flushes get. Two machines that differ only in these take the same steps as
long as the answers are the same, and the answer to the flush of a failing machine is not looked
at. -/
namespace WordMachine

namespace Console

variable {con : Console} {answers : List FlushOutcome}

def reflush (con : Console) (answers : List FlushOutcome) : Console :=
  { con with flushes := answers }

/-- Two scripts that answer the next `k` flushes alike. -/
def SameAnswers (k : Nat) (answers answers' : List FlushOutcome) : Prop :=
  ∀ i < k, answers'[i]?.getD .done = answers[i]?.getD .done

namespace SameAnswers

variable {k : Nat} {answers answers' : List FlushOutcome}

theorem headD_eq (h : SameAnswers (k + 1) answers answers') :
    answers'.headD .done = answers.headD .done := by
  simpa [List.headD_eq_head?_getD, List.head?_eq_getElem?] using h 0 (Nat.zero_lt_succ k)

theorem tail (h : SameAnswers (k + 1) answers answers') :
    SameAnswers k answers.tail answers'.tail := by
  intro i hi
  simpa using h (i + 1) (Nat.succ_lt_succ hi)

end SameAnswers

theorem flush_reflush (h : answers.headD .done = con.flushes.headD .done) :
    (con.reflush answers).flush = (con.flush.1, con.flush.2.reflush answers.tail) := by
  simp only [flush, reflush, record, h]

theorem readLoop_reflush (script : List ReadOutcome) (con : Console)
    (answers : List FlushOutcome) : readLoop script (con.reflush answers) =
      ((readLoop script con).1, (readLoop script con).2.reflush answers) := by
  induction script generalizing con with
  | nil => rfl
  | cons outcome rest ih =>
    cases outcome with
    | interrupted => exact ih (con.record (.read .interrupted))
    | byte _ | endOfInput | failed _ => rfl

theorem read_reflush (con : Console) (answers : List FlushOutcome) :
    (con.reflush answers).read = (con.read.1, con.read.2.reflush answers) :=
  readLoop_reflush con.input con answers

theorem writeLoop_reflush (b : UInt8) (script : List WriteOutcome) (con : Console)
    (answers : List FlushOutcome) : writeLoop b script (con.reflush answers) =
      ((writeLoop b script con).1, (writeLoop b script con).2.reflush answers) := by
  induction script generalizing con with
  | nil => rfl
  | cons outcome rest ih =>
    cases outcome with
    | interrupted => exact ih (con.record (.write b .interrupted))
    | accepted | refused | failed _ => rfl

theorem write_reflush (con : Console) (b : UInt8) (answers : List FlushOutcome) :
    (con.reflush answers).write b = ((con.write b).1, (con.write b).2.reflush answers) :=
  writeLoop_reflush b con.writes con answers

def answersAfter (a : Action) (answers : List FlushOutcome) : List FlushOutcome :=
  if a.flushes then answers.tail else answers

theorem after_reflush {a : Action}
    (h : a.flushes = true → answers.headD .done = con.flushes.headD .done) :
    (con.reflush answers).after a = (con.after a).reflush (answersAfter a answers) := by
  cases a with
  | halt =>
    simp only [after, flush_reflush (h rfl)]
    rfl
  | read dst =>
    simp only [after, flush_reflush (h rfl)]
    cases con.flush.1 with
    | ok _ =>
      simp only [read_reflush]
      rfl
    | error e => rfl
  | write next byte =>
    simp only [after, write_reflush]
    rfl
  | assign _ _ _ _ | jump _ | call _ _ => rfl

theorem sameReplies_reflush {a : Action}
    (h : a.flushes = true → answers.headD .done = con.flushes.headD .done) :
    con.SameReplies (con.reflush answers) a := by
  cases a with
  | halt => simp only [SameReplies, flush_reflush (h rfl)]
  | read dst => simp only [SameReplies, flush_reflush (h rfl), read_reflush, and_self]
  | write next byte => simp only [SameReplies, write_reflush]
  | assign _ _ _ _ | jump _ | call _ _ => trivial

end Console

namespace Machine

variable {σ : Type} {m : Machine σ} {answers : List Console.FlushOutcome}

def reflush (m : Machine σ) (answers : List Console.FlushOutcome) : Machine σ :=
  { m with console := m.console.reflush answers }

/-- The answer to the flush that the next action starts with, if it does, is the same. -/
def SameNextAnswer (m : Machine σ) (answers : List Console.FlushOutcome) : Prop :=
  m.flushing = true → answers.headD .done = m.console.flushes.headD .done

theorem SameNextAnswer.of_nextAction {a : Action} (h : m.SameNextAnswer answers)
    (ha : m.nextAction? = some a) (hf : a.flushes = true) :
    answers.headD .done = m.console.flushes.headD .done := by
  refine h ?_
  rw [flushing, ha]
  exact hf

theorem consoleAfter_reflush (h : m.SameNextAnswer answers) : (m.reflush answers).consoleAfter =
    m.consoleAfter.reflush (if m.flushing then answers.tail else answers) := by
  have hn : (m.reflush answers).nextAction? = m.nextAction? := rfl
  cases ha : m.nextAction? with
  | none =>
    simp only [consoleAfter, flushing, hn, ha]
    rfl
  | some a =>
    simp only [consoleAfter, flushing, hn, ha]
    exact Console.after_reflush (h.of_nextAction ha)

theorem step_reflush (h : m.SameNextAnswer answers) :
    ∃ con, (m.reflush answers).step = (m.step.1, m.step.2.withConsole con) :=
  step_withConsole fun _ ha => Console.sameReplies_reflush (h.of_nextAction ha)

theorem step_reflush_of_ok {s : State} (h : m.step.1 = .ok s) (hans : m.SameNextAnswer answers) :
    (m.reflush answers).step =
      (.ok s, m.step.2.reflush (if m.flushing then answers.tail else answers)) := by
  obtain ⟨con, hstep⟩ := step_reflush hans
  have hok : (m.reflush answers).step.1 = .ok s := by rw [hstep, h]
  have hcon : con = (m.reflush answers).consoleAfter := by
    rw [← console_step_of_ok hok, hstep]
    rfl
  rw [hstep, hcon, consoleAfter_reflush hans, ← console_step_of_ok h, h]
  rfl

theorem step_reflush_of_error {e : Fault} (h : m.step.1 = .error e)
    (hans : m.SameNextAnswer answers) :
    ∃ con, (m.reflush answers).step = (.error e, { m.step.2 with console := con }) := by
  obtain ⟨con, hstep⟩ := step_reflush hans
  rw [h] at hstep
  exact ⟨con, hstep⟩

theorem SameNextAnswer.of_sameAnswers {total : Nat}
    (h : Console.SameAnswers (total - m.flushCount) m.console.flushes answers)
    (hlt : m.flushing = true → m.flushCount < total) : m.SameNextAnswer answers := by
  intro hf
  have hsub : total - m.flushCount = total - m.flushCount - 1 + 1 := by
    have := hlt hf
    omega
  rw [hsub] at h
  exact h.headD_eq

/-- Answers that are the same for all flushes up to a number `total` that the run has not yet
exceeded leave answers that are the same for the rest of these. -/
theorem afterSteps_reflush {n total : Nat}
    (hok : ∀ k < n, ∃ s, (m.afterSteps k).step.1 = .ok s)
    (htotal : (m.afterSteps n).flushCount ≤ total)
    (hans : Console.SameAnswers (total - m.flushCount) m.console.flushes answers) :
    ∃ rest, (m.reflush answers).afterSteps n = (m.afterSteps n).reflush rest ∧
      Console.SameAnswers (total - (m.afterSteps n).flushCount)
        (m.afterSteps n).console.flushes rest := by
  induction n with
  | zero => exact ⟨answers, rfl, hans⟩
  | succ n ih =>
    rw [afterSteps_succ_eq_step] at htotal ⊢
    have hle := (m.afterSteps n).flushCount_le_step
    obtain ⟨rest, hm, hrest⟩ :=
      ih (fun k hk => hok k (Nat.lt_succ_of_lt hk)) (Nat.le_trans hle htotal)
    obtain ⟨s, hs⟩ := hok n (Nat.lt_succ_self n)
    have hcount := flushCount_step_of_ok hs
    have hnext : (m.afterSteps n).SameNextAnswer rest := by
      refine .of_sameAnswers hrest fun hflush => ?_
      rw [hflush, if_pos rfl] at hcount
      omega
    have hflushes : (m.afterSteps n).step.2.console.flushes =
        if (m.afterSteps n).flushing then (m.afterSteps n).console.flushes.tail
        else (m.afterSteps n).console.flushes := by
      rw [console_step_of_ok hs, flushes_consoleAfter]
    rw [afterSteps_succ_eq_step, hm, step_reflush_of_ok hs hnext, hflushes]
    refine ⟨_, rfl, ?_⟩
    cases hflush : (m.afterSteps n).flushing with
    | false =>
      rw [hflush] at hcount
      rw [hcount]
      exact hrest
    | true =>
      rw [hflush, if_pos rfl] at hcount
      have hsub : total - (m.afterSteps n).flushCount =
          total - (m.afterSteps n).step.2.flushCount + 1 := by omega
      rw [hsub] at hrest
      exact hrest.tail

theorem flushCount_le_afterSteps (m : Machine σ) {j n : Nat} (hj : j ≤ n) :
    (m.afterSteps j).flushCount ≤ (m.afterSteps n).flushCount := by
  obtain ⟨d, rfl⟩ := Nat.exists_eq_add_of_le hj
  rw [afterSteps_add]
  exact afterSteps_induction (P := fun m' => (m.afterSteps j).flushCount ≤ m'.flushCount)
    (fun m' h => Nat.le_trans h m'.flushCount_le_step) (Nat.le_refl _) d

theorem exists_step_ok_of_lt {j n : Nat} (hj : j < n) (hr : (m.afterSteps n).state = .running) :
    ∃ s, (m.afterSteps j).step.1 = .ok s := by
  cases h : (m.afterSteps j).step.1 with
  | ok s => exact ⟨s, rfl⟩
  | error e =>
    have hs := state_step_of_error h
    rw [← afterSteps_succ_eq_step, running_of_le hj hr] at hs
    cases hs

/-- Up to a step that fails, answers that are the same for all flushes before that of the failing
machine leave answers of which the next one is the same. -/
theorem exists_reflush_of_le {n : Nat} {e : Fault} (he : (m.afterSteps n).step.1 = .error e)
    (hans : ∀ i, m.flushCount + i + 1 < (m.afterSteps (n + 1)).flushCount →
      answers[i]?.getD .done = m.console.flushes[i]?.getD .done) {j : Nat} (hj : j ≤ n) :
    ∃ rest, (m.reflush answers).afterSteps j = (m.afterSteps j).reflush rest ∧
      (m.afterSteps j).SameNextAnswer rest := by
  have hr := running_of_step_error he
  have hcount := flushCount_step_of_error he
  rw [← afterSteps_succ_eq_step] at hcount
  generalize htotal : (m.afterSteps n).flushCount +
    (if (m.afterSteps n).flushing then 1 else 0) = total at hcount
  have hsame : Console.SameAnswers (total - m.flushCount) m.console.flushes answers :=
    fun i hi => hans i (by omega)
  have hle := m.flushCount_le_afterSteps hj
  obtain ⟨rest, hm, hrest⟩ := afterSteps_reflush
    (fun i hi => exists_step_ok_of_lt (Nat.lt_of_lt_of_le hi hj) hr) (by omega) hsame
  refine ⟨rest, hm, .of_sameAnswers hrest fun hflush => ?_⟩
  rcases Nat.lt_or_eq_of_le hj with hlt | rfl
  · obtain ⟨s, hs⟩ := exists_step_ok_of_lt hlt hr
    have hnext := m.flushCount_le_afterSteps hlt
    rw [afterSteps_succ_eq_step, flushCount_step_of_ok hs, hflush, if_pos rfl] at hnext
    omega
  · rw [hflush, if_pos rfl] at htotal
    omega

theorem afterSteps_reflush_of_error {n : Nat} {e : Fault} (he : (m.afterSteps n).step.1 = .error e)
    (hans : ∀ i, m.flushCount + i + 1 < (m.afterSteps (n + 1)).flushCount →
      answers[i]?.getD .done = m.console.flushes[i]?.getD .done) (k : Nat) :
    ((m.reflush answers).afterSteps k).step.1 = (m.afterSteps k).step.1 ∧
      ∃ con, (m.reflush answers).afterSteps k = { m.afterSteps k with console := con } := by
  rcases Nat.lt_or_ge n k with hk | hk
  · obtain ⟨d, rfl⟩ := Nat.exists_eq_add_of_le (Nat.succ_le_of_lt hk)
    obtain ⟨rest, hm, hnext⟩ := exists_reflush_of_le he hans (Nat.le_refl n)
    obtain ⟨con, hstep⟩ := step_reflush_of_error he hnext
    have hend : (m.afterSteps n).step.2.state ≠ .running := by
      rw [state_step_of_error he]
      nofun
    have hend' : ((m.afterSteps n).reflush rest).step.2.state ≠ .running := by
      rw [hstep]
      exact hend
    rw [afterSteps_add, afterSteps_add, afterSteps_succ_eq_step, afterSteps_succ_eq_step, hm,
      afterSteps_of_not_running hend, afterSteps_of_not_running hend', step_of_not_running hend,
      step_of_not_running hend', hstep]
    exact ⟨rfl, con, rfl⟩
  · obtain ⟨rest, hm, hnext⟩ := exists_reflush_of_le he hans hk
    rw [hm]
    refine ⟨?_, _, rfl⟩
    cases hs : (m.afterSteps k).step.1 with
    | ok s => rw [step_reflush_of_ok hs hnext]
    | error e' =>
      obtain ⟨con, hstep⟩ := step_reflush_of_error hs hnext
      rw [hstep]

end Machine
end WordMachine
