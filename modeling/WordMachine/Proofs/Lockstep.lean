import WordMachine.Proofs.Course

/-! Runs of any length from what one step does: properties that every step keeps, and pairs of
machines that every step keeps related. -/
namespace WordMachine.Machine

variable {σ τ : Type} {m : Machine σ} {m' : Machine τ}

theorem afterSteps_succ_eq_step (m : Machine σ) (n : Nat) :
    m.afterSteps (n + 1) = (m.afterSteps n).step.2 := by
  rw [afterSteps_add, afterSteps_succ, afterSteps_zero]

theorem afterSteps_induction {P : Machine σ → Prop} (hstep : ∀ m, P m → P m.step.2) (h : P m)
    (n : Nat) : P (m.afterSteps n) := by
  induction n with
  | zero => exact h
  | succ n ih =>
    rw [afterSteps_succ_eq_step]
    exact hstep _ ih

@[simp] theorem config_afterSteps (m : Machine σ) (n : Nat) :
    (m.afterSteps n).config = m.config :=
  afterSteps_induction (P := fun m' => m'.config = m.config)
    (fun m' h => (config_step m').trans h) rfl n

theorem afterSteps_of_not_running (h : m.state ≠ .running) (n : Nat) : m.afterSteps n = m := by
  have ht : m.state.isTerminal = true := by
    rw [← Bool.not_eq_false, State.isTerminal_eq_false_iff]
    exact h
  exact afterSteps_of_isTerminal ht n

theorem running_of_le {k n : Nat} (hk : k ≤ n) (hr : (m.afterSteps n).state = .running) :
    (m.afterSteps k).state = .running := by
  obtain ⟨j, rfl⟩ := Nat.exists_eq_add_of_le hk
  rw [afterSteps_add] at hr
  by_cases h : (m.afterSteps k).state = .running
  · exact h
  · rwa [afterSteps_of_not_running h] at hr

/-- Two machines that are in step as long as the first one is quiet give the same results
through every quiet run, and end in step. -/
theorem lockstep (R : Machine σ → Machine τ → Prop) (quiet : Machine σ → Prop)
    (hstep : ∀ m m', R m m' → quiet m → m'.step.1 = m.step.1 ∧ R m.step.2 m'.step.2)
    (h : R m m') {n : Nat} (hq : ∀ k < n, quiet (m.afterSteps k)) :
    (∀ k < n, (m'.afterSteps k).step.1 = (m.afterSteps k).step.1) ∧
      R (m.afterSteps n) (m'.afterSteps n) := by
  induction n with
  | zero => exact ⟨nofun, h⟩
  | succ n ih =>
    obtain ⟨hr, hR⟩ := ih fun k hk => hq k (Nat.lt_succ_of_lt hk)
    obtain ⟨hs, hR'⟩ := hstep _ _ hR (hq n (Nat.lt_succ_self n))
    refine ⟨fun k hk => ?_, ?_⟩
    · rcases Nat.lt_succ_iff_lt_or_eq.mp hk with hk | rfl
      · exact hr k hk
      · exact hs
    · rw [afterSteps_succ_eq_step, afterSteps_succ_eq_step]
      exact hR'

end WordMachine.Machine
