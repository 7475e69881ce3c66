import WordMachine.Machine.Step

/-! Many steps: a given number of them, or as many as it takes to end. -/
namespace WordMachine.Machine

variable {σ : Type}

def afterSteps (m : Machine σ) : Nat → Machine σ
  | 0 => m
  | n + 1 => m.step.2.afterSteps n

/-- Runs until the machine has ended, for at most `limit` steps; `none` if it is still running
then. A fault is given by the step that meets it; a machine that had ended before gives
its status. -/
def runWithin (limit : Nat) (m : Machine σ) : Option (Outcome σ ExitStatus) :=
  match m.state.exitStatus? with
  | some status => some (.ok status, m)
  | none =>
    match limit with
    | 0 => none
    | limit + 1 =>
      match m.step with
      | (.ok _, m) => m.runWithin limit
      | (.error e, m) => some (.error e, m)

@[simp] theorem afterSteps_zero (m : Machine σ) : m.afterSteps 0 = m := rfl

theorem afterSteps_succ (m : Machine σ) (n : Nat) :
    m.afterSteps (n + 1) = m.step.2.afterSteps n := rfl

theorem afterSteps_add (m : Machine σ) (n k : Nat) :
    m.afterSteps (n + k) = (m.afterSteps n).afterSteps k := by
  induction n generalizing m with
  | zero => simp
  | succ n ih => rw [Nat.succ_add, afterSteps_succ, ih, afterSteps_succ]

theorem afterSteps_of_isTerminal {m : Machine σ} (h : m.state.isTerminal = true) (n : Nat) :
    m.afterSteps n = m := by
  induction n with
  | zero => rfl
  | succ n ih => simp [afterSteps_succ, h, ih]

theorem runWithin_mono {m : Machine σ} {limit limit' : Nat} {r : Outcome σ ExitStatus}
    (hle : limit ≤ limit') (h : m.runWithin limit = some r) : m.runWithin limit' = some r := by
  induction limit generalizing m limit' with
  | zero =>
    unfold runWithin at h ⊢
    split at h <;> simp_all
  | succ limit ih =>
    obtain ⟨k, rfl⟩ : ∃ k, limit' = k + 1 := ⟨limit' - 1, by omega⟩
    unfold runWithin at h ⊢
    split
    · simp_all
    · rename_i hs
      simp only [hs] at h ⊢
      split
      · rename_i hstep
        simp only [hstep] at h
        exact ih (by omega) h
      · rename_i hstep
        simpa only [hstep] using h

end WordMachine.Machine
