import Mathlib.Data.Nat.Find
import WordMachine.Proofs.Lifecycle

/-! A run is as many steps as it takes: it comes to an end exactly if some number of steps does, at
the machine that the least such number leaves, and wherever in between it is started. -/
namespace WordMachine.Machine

variable {σ : Type} {m : Machine σ} {n : Nat}

/-- The machine runs before each of its first `n` steps and has ended after them. -/
structure EndsAt (m : Machine σ) (n : Nat) : Prop where
  before : ∀ k < n, (m.afterSteps k).state = .running
  ended : (m.afterSteps n).state ≠ .running

/-- A run takes exactly `n` steps and comes to `o`: it gives that under every limit that allows for
so many steps, and gives nothing under any other. -/
def Runs (m : Machine σ) (n : Nat) (o : Outcome σ ExitStatus) : Prop :=
  ∀ limit, m.runWithin limit = if n ≤ limit then some o else none

/-- What a run gives, told by what its last step gives: the same fault, or success for a halt. -/
inductive Concludes : Except Fault State → Except Fault ExitStatus → Prop
  | fault (e : Fault) : Concludes (.error e) (.error e)
  | halt : Concludes (.ok .halted) (.ok .success)

theorem step_fst_of_running (hr : m.state = .running) (hs : m.step.2.state = .running) :
    m.step.1 = .ok .running := by
  rcases step_of_running_cases hr with ⟨e, -, hf⟩ | ⟨hok, -⟩ | ⟨-, hh⟩
  · cases hs.symm.trans hf
  · exact hok
  · cases hs.symm.trans hh

theorem exists_concludes (hr : m.state = .running) (hs : m.step.2.state ≠ .running) :
    ∃ result, Concludes m.step.1 result := by
  rcases step_of_running_cases hr with ⟨e, he, -⟩ | ⟨-, hgo⟩ | ⟨hok, -⟩
  · rw [he]
    exact ⟨_, .fault e⟩
  · exact absurd hgo hs
  · rw [hok]
    exact ⟨_, .halt⟩

theorem runWithin_one {result : Except Fault ExitStatus} (hr : m.state = .running)
    (hc : Concludes m.step.1 result) : m.runWithin 1 = some (result, m.step.2) := by
  generalize hs : m.step.1 = r at hc
  cases hc with
  | fault e => exact runWithin_succ_of_error hs 0
  | halt =>
    have hx : m.step.2.state.exitStatus? = some .success := by
      rw [state_step_of_ok hs]
      rfl
    rw [runWithin_succ_of_ok hr hs, runWithin_of_exitStatus hx]

theorem EndsAt.afterSteps {k : Nat} (h : m.EndsAt n) (hk : k ≤ n) :
    (m.afterSteps k).EndsAt (n - k) where
  before j hj := by
    rw [← afterSteps_add]
    exact h.before (k + j) (by omega)
  ended := by
    rw [← afterSteps_add, Nat.add_sub_cancel' hk]
    exact h.ended

theorem exists_endsAt (h : ∃ n, (m.afterSteps n).state ≠ .running) : ∃ n, m.EndsAt n :=
  ⟨Nat.find h, fun _ hk => Classical.not_not.mp (Nat.find_min h hk), Nat.find_spec h⟩

theorem runWithin_eq_none {limit : Nat}
    (h : ∀ k ≤ limit, (m.afterSteps k).state = .running) : m.runWithin limit = none := by
  induction limit generalizing m with
  | zero => exact runWithin_zero_of_running (h 0 (Nat.le_refl 0))
  | succ limit ih =>
    have hr : m.state = .running := h 0 (Nat.zero_le _)
    have hs : m.step.2.state = .running := h 1 (by omega)
    rw [runWithin_succ_of_ok hr (step_fst_of_running hr hs)]
    exact ih fun k hk => h (k + 1) (Nat.succ_le_succ hk)

/-- As many steps as it takes are enough. The induction is on the steps before the last one. -/
theorem runWithin_of_endsAt {result : Except Fault ExitStatus} (h : m.EndsAt (n + 1))
    (hc : Concludes (m.afterSteps n).step.1 result) :
    m.runWithin (n + 1) = some (result, m.afterSteps (n + 1)) := by
  induction n generalizing m with
  | zero => exact runWithin_one (h.before 0 Nat.one_pos) hc
  | succ n ih =>
    have hr : m.state = .running := h.before 0 (by omega)
    have hs : m.step.2.state = .running := h.before 1 (by omega)
    rw [runWithin_succ_of_ok hr (step_fst_of_running hr hs)]
    exact ih (h.afterSteps (Nat.succ_le_succ (Nat.zero_le _))) hc

theorem EndsAt.runs {result : Except Fault ExitStatus} (h : m.EndsAt (n + 1))
    (hc : Concludes (m.afterSteps n).step.1 result) :
    m.Runs (n + 1) (result, m.afterSteps (n + 1)) := by
  intro limit
  split
  · rename_i hle
    exact runWithin_mono hle (runWithin_of_endsAt h hc)
  · rename_i hlt
    exact runWithin_eq_none fun k hk => h.before k (by omega)

theorem EndsAt.exists_last (h : m.EndsAt n) (hr : m.state = .running) :
    ∃ last result, n = last + 1 ∧ Concludes (m.afterSteps last).step.1 result := by
  have hn : n ≠ 0 := by
    rintro rfl
    exact h.ended hr
  obtain ⟨last, rfl⟩ := Nat.exists_eq_succ_of_ne_zero hn
  have hs : (m.afterSteps last).step.2.state ≠ .running := by
    rw [← afterSteps_succ_eq_step]
    exact h.ended
  obtain ⟨result, hc⟩ := exists_concludes (h.before last (Nat.lt_succ_self last)) hs
  exact ⟨last, result, rfl, hc⟩

theorem EndsAt.runs_afterSteps {k last : Nat} {result : Except Fault ExitStatus}
    (h : m.EndsAt (last + 1)) (hc : Concludes (m.afterSteps last).step.1 result)
    (hk : k ≤ last) :
    (m.afterSteps k).Runs (last + 1 - k) (result, m.afterSteps (last + 1)) := by
  obtain ⟨j, rfl⟩ := Nat.exists_eq_add_of_le hk
  have hrest := h.afterSteps (Nat.le_succ_of_le hk)
  have hsub : k + j + 1 - k = j + 1 := by omega
  rw [hsub] at hrest ⊢
  rw [afterSteps_add] at hc
  rw [Nat.add_assoc, afterSteps_add]
  exact hrest.runs hc

/-- A run that comes to an end has met a machine at rest. -/
theorem exists_not_running {limit : Nat} {o : Outcome σ ExitStatus}
    (h : m.runWithin limit = some o) : ∃ n, (m.afterSteps n).state ≠ .running := by
  refine Classical.not_not.mp fun hn => ?_
  have hall (k : Nat) : (m.afterSteps k).state = .running :=
    Classical.not_not.mp fun hk => hn ⟨k, hk⟩
  cases (runWithin_eq_none fun k _ => hall k).symm.trans h

theorem runs_zero {status : ExitStatus} (h : m.state.exitStatus? = some status) :
    m.Runs 0 (.ok status, m) := by
  intro limit
  rw [runWithin_of_exitStatus h, if_pos (Nat.zero_le limit)]

/-- A run of a running machine comes to an end exactly if some number of steps ends the machine. It
then takes the least such number and leaves the machine that these steps leave, with the fault that
the last of them gives, or success if that has halted. Once fewer of the steps have been taken, a
run takes the others and comes to the same; once all have been taken, it gives the status of the
machine that is at rest then and does nothing. -/
theorem run_is_iterated_step (hr : m.state = .running) :
    ((∃ limit o, m.runWithin limit = some o) ↔ ∃ n, (m.afterSteps n).state ≠ .running) ∧
    ((∃ n, (m.afterSteps n).state ≠ .running) → ∃ n, m.EndsAt n) ∧
    ∀ n, m.EndsAt n → ∃ last result, n = last + 1 ∧
      Concludes (m.afterSteps last).step.1 result ∧
      m.Runs n (result, m.afterSteps n) ∧
      (∀ k < n, (m.afterSteps k).Runs (n - k) (result, m.afterSteps n)) ∧
      ∃ status, (m.afterSteps n).state.exitStatus? = some status ∧
        (m.afterSteps n).Runs 0 (.ok status, m.afterSteps n) := by
  have hruns (n : Nat) (h : m.EndsAt n) : ∃ last result, n = last + 1 ∧
      Concludes (m.afterSteps last).step.1 result ∧
      ∀ k < n, (m.afterSteps k).Runs (n - k) (result, m.afterSteps n) := by
    obtain ⟨last, result, rfl, hc⟩ := h.exists_last hr
    exact ⟨last, result, rfl, hc, fun k hk => h.runs_afterSteps hc (Nat.le_of_lt_succ hk)⟩
  refine ⟨⟨fun ⟨_, _, ho⟩ => exists_not_running ho, fun h => ?_⟩, exists_endsAt, fun n h => ?_⟩
  · obtain ⟨n, hn⟩ := exists_endsAt h
    obtain ⟨last, result, rfl, -, hk⟩ := hruns n hn
    have hrun := hk 0 (Nat.succ_pos last) (last + 1)
    rw [if_pos (Nat.sub_le _ _)] at hrun
    exact ⟨_, _, hrun⟩
  · obtain ⟨last, result, hlast, hc, hk⟩ := hruns n h
    obtain ⟨status, hx⟩ :=
      Option.ne_none_iff_exists'.mp ((State.exitStatus?_ne_none_iff _).mpr h.ended)
    exact ⟨last, result, hlast, hc, hk 0 (by omega), hk, status, hx, runs_zero hx⟩

theorem pushingPastEnd_runs :
    pushingPastEnd.state = .running ∧ pushingPastEnd.EndsAt 2 ∧
    pushingPastEnd.Runs 2 (.error (.stackOverflow 6 5), pushingPastEnd.afterSteps 2) ∧
    (pushingPastEnd.afterSteps 1).Runs 1
      (.error (.stackOverflow 6 5), pushingPastEnd.afterSteps 2) ∧
    (pushingPastEnd.afterSteps 2).Runs 0 (.ok .overflow, pushingPastEnd.afterSteps 2) := by
  have hr : pushingPastEnd.state = .running := rfl
  have he : pushingPastEnd.EndsAt 2 := ⟨by decide, by decide⟩
  obtain ⟨-, -, hends⟩ := run_is_iterated_step hr
  obtain ⟨last, result, hlast, hc, hall, hrest, status, hx, hzero⟩ := hends 2 he
  obtain rfl : last = 1 := Nat.succ.inj hlast.symm
  have hs : (pushingPastEnd.afterSteps 1).step.1 = .error (.stackOverflow 6 5) := by rfl
  rw [hs] at hc
  cases hc
  obtain rfl : status = .overflow := Option.some.inj (hx.symm.trans (by rfl))
  exact ⟨hr, he, hall, hrest 1 (by decide), hzero⟩

end WordMachine.Machine
