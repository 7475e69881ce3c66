import WordMachine.Proofs.FlushAnswers

/-! Flushes of whole runs: what is written is flushed before anything is read, a machine that has
ended has flushed last, the flushes can be counted by the instructions, and the flush of a failing
machine has no influence on anything else. -/
namespace WordMachine

namespace Console

theorem FlushOutcome.eq_done_of_result {o : FlushOutcome} (h : o.result = .ok ()) : o = .done := by
  cases o <;> cases h
  rfl

/-- Between a write and a later read there is a flush that succeeded. -/
def FlushedBetween (calls : List Call) : Prop :=
  ∀ before between after w r, calls = before ++ w :: (between ++ r :: after) →
    w.isWrite = true → r.isRead = true → .flush .done ∈ between

/-- Calls made in one go: if there is a read among them, a good flush comes first and nothing is
written. -/
def FlushFirst (made : List Call) : Prop :=
  (∃ r ∈ made, r.isRead = true) →
    (∃ rest, made = .flush .done :: rest) ∧ ∀ c ∈ made, c.isWrite = false

theorem FlushFirst.mem_between {calls made before between front after : List Call} {w r : Call}
    (hm : FlushFirst made) (hmade : made = front ++ r :: after)
    (hfront : before ++ w :: between = calls ++ front) (hw : w.isWrite = true)
    (hr : r.isRead = true) : .flush .done ∈ between := by
  obtain ⟨⟨rest, hrest⟩, hnone⟩ := hm ⟨r, by simp [hmade], hr⟩
  cases front with
  | nil =>
    cases hrest.symm.trans hmade
    cases hr
  | cons c front =>
    obtain ⟨rfl, -⟩ := List.cons.inj (hrest.symm.trans hmade)
    rcases List.append_eq_append_iff.mp hfront with ⟨gap, -, hgap⟩ | ⟨gap, -, hgap⟩
    · cases gap with
      | nil =>
        cases hgap
        cases hw
      | cons g gap =>
        rw [(List.cons.inj hgap).2]
        exact List.mem_append_right _ List.mem_cons_self
    · -- the write would be a new call too
      have hmem : w ∈ made := by
        rw [hmade, hgap]
        simp
      rw [hnone w hmem] at hw
      cases hw

theorem FlushedBetween.append {calls made : List Call} (h : FlushedBetween calls)
    (hm : FlushFirst made) : FlushedBetween (calls ++ made) := by
  intro before between after w r heq hw hr
  rw [← List.cons_append, ← List.append_assoc] at heq
  rcases List.append_eq_append_iff.mp heq with ⟨front, hfront, hmade⟩ | ⟨back, hcalls, hback⟩
  · exact hm.mem_between hmade hfront hw hr
  · cases back with
    | nil =>
      have hfront : before ++ w :: between = calls ++ [] := by
        rw [hcalls, List.append_nil, List.append_nil]
      have hmade : made = [] ++ r :: after := hback.symm
      exact hm.mem_between hmade hfront hw hr
    | cons c back =>
      obtain ⟨rfl, -⟩ := List.cons.inj hback
      exact h before between back w r (by simpa using hcalls) hw hr

theorem flushFirst_flush (o : FlushOutcome) : FlushFirst [.flush o] := by
  rintro ⟨r, hmem, hr⟩
  rw [List.mem_singleton.mp hmem] at hr
  cases hr

theorem flushFirst_made (con : Console) (a : Action) : FlushFirst (con.made a) := by
  rintro ⟨r, hmem, hr⟩
  obtain ⟨dst, rfl⟩ := eq_read_of_mem_made hmem hr
  cases hf : con.flush.1 with
  | error e =>
    simp only [made, hf, List.mem_singleton] at hmem
    rw [hmem] at hr
    cases hr
  | ok _ =>
    have hd : con.flushes.headD .done = .done := FlushOutcome.eq_done_of_result hf
    simp only [made, hf, hd]
    refine ⟨⟨_, rfl⟩, fun c hc => ?_⟩
    simp only [List.mem_cons, List.mem_append, List.mem_map, List.not_mem_nil, or_false] at hc
    rcases hc with rfl | ⟨o, _, rfl⟩ | rfl <;> rfl

end Console

namespace Machine

variable {σ : Type} {m m' : Machine σ}

theorem flushFirst_made (m : Machine σ) : Console.FlushFirst m.made := by
  unfold made
  cases m.nextAction? with
  | none => exact fun ⟨_, hmem, _⟩ => nomatch hmem
  | some a => exact m.console.flushFirst_made a

theorem flushedBetween_step (h : Console.FlushedBetween m.console.calls.toList) :
    Console.FlushedBetween m.step.2.console.calls.toList := by
  have ha := h.append m.flushFirst_made
  rw [← calls_consoleAfter] at ha
  cases hres : m.step.1 with
  | ok s =>
    rw [console_step_of_ok hres]
    exact ha
  | error e =>
    rw [console_step_of_error hres, Console.calls_flush]
    exact ha.append (Console.flushFirst_flush _)

theorem step_of_halts_of_error {e : Fault} (h : m.halts = true)
    (hf : m.console.flush.1 = .error e) :
    m.step.1 = .error e ∧ m.step.2.state = .failed e.status := by
  obtain ⟨hr, f, hfetch, ha⟩ := nextAction?_eq_some_iff.mp (halts_iff.mp h)
  have hrefusal : (m.fetched f).Refusal .halt e := .halt hf
  rw [(Course.refused hfetch ha hrefusal).step_eq hr]
  exact ⟨rfl, rfl⟩

theorem step_of_halts_of_ok (h : m.halts = true) (hf : m.console.flush.1 = .ok ()) :
    m.step.1 = .ok .halted ∧ m.step.2.state = .halted := by
  obtain ⟨hr, f, hfetch, ha⟩ := nextAction?_eq_some_iff.mp (halts_iff.mp h)
  have heffect : (m.fetched f).Effect .halt .halted _ := .halt hf
  rw [(Course.completed hfetch ha heffect nofun).step_eq hr]
  exact ⟨rfl, rfl⟩

theorem not_running_of_halts (h : m.halts = true) : m.step.2.state ≠ .running := by
  cases hf : m.console.flush.1 with
  | ok _ =>
    rw [(step_of_halts_of_ok h hf).2]
    nofun
  | error e =>
    rw [(step_of_halts_of_error h hf).2]
    nofun

/-- Nothing but a halt ends a machine without a fault. -/
theorem halts_of_step_ok {s : State} (hr : m.state = .running) (h : m.step.1 = .ok s)
    (hs : s ≠ .running) : m.halts = true := by
  have hc := course_step hr
  rw [h] at hc
  generalize m.step.2 = m₂ at hc
  cases hc with
  | completed hf ha he _ =>
    cases he with
    | halt _ => exact halts_iff.mpr (nextAction?_of_resolve hr hf ha)
    | assign _ | jump | read _ _ _ | write _ | call _ => exact absurd rfl hs

def LastFlushed (m : Machine σ) : Prop := ∃ o, m.console.calls.toList.getLast? = some (.flush o)

theorem lastFlushed_step (h : m.state ≠ .running → m.LastFlushed) :
    m.step.2.state ≠ .running → m.step.2.LastFlushed := by
  intro hs
  by_cases hr : m.state = .running
  · cases hres : m.step.1 with
    | error e =>
      refine ⟨m.consoleAfter.flushes.headD .done, ?_⟩
      rw [console_step_of_error hres, Console.calls_flush, List.getLast?_concat]
    | ok s =>
      rw [state_step_of_ok hres] at hs
      have ha := halts_iff.mp (halts_of_step_ok hr hres hs)
      refine ⟨m.console.flushes.headD .done, ?_⟩
      rw [console_step_of_ok hres, calls_consoleAfter, made, ha]
      exact List.getLast?_concat
  · rw [step_of_not_running hr]
    exact h hr

theorem flushing_eq (m : Machine σ) : m.flushing = (m.asks || m.halts) := by
  rw [Bool.eq_iff_iff, Bool.or_eq_true, asks_iff, halts_iff, flushing, Option.any_eq_true]
  constructor
  · rintro ⟨a, ha, hf⟩
    cases a with
    | halt => exact Or.inr ha
    | read dst => exact Or.inl ⟨dst, ha⟩
    | assign _ _ _ _ | jump _ | write _ _ | call _ _ => cases hf
  · rintro (⟨dst, ha⟩ | ha)
    · exact ⟨_, ha, rfl⟩
    · exact ⟨_, ha, rfl⟩

theorem not_halts_of_asks (h : m.asks = true) : m.halts = false := by
  obtain ⟨dst, ha⟩ := asks_iff.mp h
  rw [← Bool.not_eq_true, halts_iff, ha]
  nofun

theorem not_halts_of_running {n : Nat} (hr : (m.afterSteps n).state = .running) {k : Nat}
    (hk : k < n) : (m.afterSteps k).halts = false := by
  cases hh : (m.afterSteps k).halts with
  | false => rfl
  | true =>
    have hn := not_running_of_halts hh
    rw [← afterSteps_succ_eq_step] at hn
    exact absurd (running_of_le hk hr) hn

theorem not_asks_of_not_running (h : m.state ≠ .running) : m.asks = false :=
  Bool.eq_false_iff.mpr (mt running_of_asks h)

theorem not_halts_of_not_running (h : m.state ≠ .running) : m.halts = false :=
  Bool.eq_false_iff.mpr (mt running_of_halts h)

theorem not_failed_of_step_ok {s : State} (hr : m.state = .running) (h : m.step.1 = .ok s) :
    m.step.2.state.hasFailed = false := by
  rw [state_step_of_ok h]
  by_cases hs : s = .running
  · rw [hs]
    rfl
  · have hh := halts_of_step_ok hr h hs
    cases hf : m.console.flush.1 with
    | ok _ =>
      cases h.symm.trans (step_of_halts_of_ok hh hf).1
      rfl
    | error e => cases h.symm.trans (step_of_halts_of_error hh hf).1

/-- One step of a running machine flushes once if it asks for input, once if it halts, and once
if it fails. -/
theorem flushCount_step (hr : m.state = .running) : m.step.2.flushCount = m.flushCount +
    ((if m.asks then 1 else 0) + (if m.halts then 1 else 0) +
      if m.step.2.state.hasFailed then 1 else 0) := by
  have hflush : (if m.flushing then 1 else 0) =
      (if m.asks then 1 else 0) + (if m.halts then 1 else 0) := by
    rw [flushing_eq]
    cases ha : m.asks with
    | false => simp
    | true => simp [not_halts_of_asks ha]
  rw [← hflush]
  cases h : m.step.1 with
  | ok s =>
    rw [flushCount_step_of_ok h, not_failed_of_step_ok hr h]
    rfl
  | error e =>
    rw [flushCount_step_of_error h, state_step_of_error h]
    rfl

/-- Reading instructions that name a register flush once each, a halt flushes once, and so does
a machine that fails. -/
theorem flushCount_afterSteps (hr : m.state = .running) (n : Nat) :
    (m.afterSteps n).flushCount = m.flushCount +
      ((List.range n).countP (fun k => (m.afterSteps k).asks) +
        (if ∃ k < n, (m.afterSteps k).halts = true then 1 else 0) +
        if (m.afterSteps n).state.hasFailed then 1 else 0) := by
  induction n with
  | zero => simp [hr, State.hasFailed]
  | succ n ih =>
    rw [List.range_succ, List.countP_append, List.countP_singleton, afterSteps_succ_eq_step]
    by_cases hn : (m.afterSteps n).state = .running
    · have hno : ¬∃ k < n, (m.afterSteps k).halts = true := by
        rintro ⟨k, hk, hh⟩
        rw [not_halts_of_running hn hk] at hh
        cases hh
      have hex : (∃ k < n + 1, (m.afterSteps k).halts = true) ↔
          (m.afterSteps n).halts = true := by
        rw [Nat.exists_lt_succ_right]
        exact or_iff_right hno
      rw [if_neg hno, hn] at ih
      rw [flushCount_step hn, ih]
      simp only [hex, State.hasFailed, Bool.false_eq_true, if_false]
      omega
    · have hex : (∃ k < n + 1, (m.afterSteps k).halts = true) ↔
          ∃ k < n, (m.afterSteps k).halts = true := by
        rw [Nat.exists_lt_succ_right]
        simp [not_halts_of_not_running hn]
      rw [step_of_not_running hn, ih, not_asks_of_not_running hn]
      simp only [hex, Bool.false_eq_true, if_false, Nat.add_zero]

theorem failed_of_halts_of_flush_error {k : Nat} {e : Fault} (h : (m.afterSteps k).halts = true)
    (hf : (m.afterSteps k).console.flush.1 = .error e) :
    (m.afterSteps k).step.1 = .error e ∧ (∃ text, e = .io text) ∧
      ∀ j, k < j → (m.afterSteps j).state = .failed .fail := by
  obtain ⟨hres, hstate⟩ := step_of_halts_of_error h hf
  obtain ⟨text, rfl⟩ := Console.FlushOutcome.eq_io_of_result hf
  refine ⟨hres, ⟨text, rfl⟩, fun j hj => ?_⟩
  have hend : (m.afterSteps k).step.2.state ≠ .running := by
    rw [hstate]
    nofun
  obtain ⟨d, rfl⟩ := Nat.exists_eq_add_of_le (Nat.succ_le_of_lt hj)
  rw [afterSteps_add, afterSteps_succ_eq_step, afterSteps_of_not_running hend]
  exact hstate

/-- In every run of a machine that has not made a call yet: what is written is flushed before
anything is read; a machine that has ended has flushed last, and does nothing any more; the
flushes are those of the instructions that ask for input, of a halt and of a failure; nothing is
read without a question and a good flush; a halt whose flush fails is a failure; and what the
flush of a failing machine is answered makes no difference to anything but the console. -/
theorem flush_discipline (hr : m.state = .running) (hc : m.console.calls = #[]) :
    (∀ n, Console.FlushedBetween (m.afterSteps n).console.calls.toList) ∧
    (∀ n, (m.afterSteps n).state ≠ .running →
      (m.afterSteps n).LastFlushed ∧ ∀ k, m.afterSteps (n + k) = m.afterSteps n) ∧
    (∀ n, (m.afterSteps n).flushCount =
      (List.range n).countP (fun k => (m.afterSteps k).asks) +
        (if ∃ k < n, (m.afterSteps k).halts = true then 1 else 0) +
        if (m.afterSteps n).state.hasFailed then 1 else 0) ∧
    (∀ k, ((m.afterSteps k).asks = true → (m.afterSteps k).console.flush.1 ≠ .ok ()) →
      MadeOnly (fun c => c.isRead = false) (m.afterSteps k) (m.afterSteps (k + 1))) ∧
    (∀ k e, (m.afterSteps k).halts = true → (m.afterSteps k).console.flush.1 = .error e →
      (m.afterSteps k).step.1 = .error e ∧ (∃ text, e = .io text) ∧
        ∀ j, k < j → (m.afterSteps j).state = .failed .fail) ∧
    ∀ n e answers, (m.afterSteps n).step.1 = .error e →
      (∀ i, i + 1 < (m.afterSteps (n + 1)).flushCount →
        answers[i]?.getD .done = m.console.flushes[i]?.getD .done) →
      ∀ k, ((m.reflush answers).afterSteps k).step.1 = (m.afterSteps k).step.1 ∧
        ∃ con, (m.reflush answers).afterSteps k = { m.afterSteps k with console := con } := by
  have hempty : m.console.calls.toList = [] := by rw [hc]
  have hzero : m.flushCount = 0 := by rw [flushCount, hempty]; rfl
  refine ⟨fun n => ?_, fun n hend => ⟨?_, fun k => ?_⟩, fun n => ?_, fun k hask => ?_,
    fun k e => failed_of_halts_of_flush_error, fun n e answers he hans => ?_⟩
  · refine afterSteps_induction (P := fun m => Console.FlushedBetween m.console.calls.toList)
      (fun _ h => flushedBetween_step h) ?_ n
    intro before between after w r heq
    rw [hempty] at heq
    simp at heq
  · exact afterSteps_induction (P := fun m => m.state ≠ .running → m.LastFlushed)
      (fun _ h => lastFlushed_step h) (absurd hr) n hend
  · rw [afterSteps_add, afterSteps_of_not_running hend]
  · rw [flushCount_afterSteps hr, hzero, Nat.zero_add]
  · rw [afterSteps_succ_eq_step]
    exact madeOnly_not_read hask
  · refine afterSteps_reflush_of_error he fun i hi => hans i ?_
    rwa [hzero, Nat.zero_add] at hi

def haltingUnflushed : Machine Unit :=
  ofMemory { cells := #[0xE8000000, 65, 0xD0000100, 0], programLength := 4 } 0 {}
    { flushes := [.done, .failed "disk full"] }

theorem haltingUnflushed_flushes :
    haltingUnflushed.console.calls = #[] ∧ haltingUnflushed.state = .running ∧
    (haltingUnflushed.afterSteps 3).console.calls =
      #[.write 65 .accepted, .flush .done, .read .endOfInput, .flush (.failed "disk full"),
        .flush .done] ∧
    Console.FlushedBetween (haltingUnflushed.afterSteps 3).console.calls.toList ∧
    (haltingUnflushed.afterSteps 3).LastFlushed ∧
    (haltingUnflushed.afterSteps 3).flushCount = 3 ∧
    (haltingUnflushed.afterSteps 9).state = .failed .fail ∧
    ((haltingUnflushed.reflush [.done, .failed "disk full", .interrupted]).afterSteps 2).step.1 =
      .error (.io "disk full") := by
  obtain ⟨hbetween, hend, hcount, -, hhalt, hsame⟩ :=
    flush_discipline (m := haltingUnflushed) rfl rfl
  have hflush : (haltingUnflushed.afterSteps 2).console.flush.1 = .error (.io "disk full") := by
    rfl
  obtain ⟨he, -, hfailed⟩ := hhalt 2 (.io "disk full") (by rfl) hflush
  have hn : (haltingUnflushed.afterSteps 3).state ≠ .running := by
    rw [hfailed 3 (by decide)]
    nofun
  refine ⟨rfl, rfl, by rfl, hbetween 3, (hend 3 hn).1, ?_, hfailed 9 (by decide), ?_⟩
  · rw [hcount]
    decide
  · have hans : ∀ i, i + 1 < (haltingUnflushed.afterSteps 3).flushCount →
        [Console.FlushOutcome.done, .failed "disk full", .interrupted][i]?.getD .done =
          haltingUnflushed.console.flushes[i]?.getD .done := by
      have h3 : (haltingUnflushed.afterSteps 3).flushCount = 3 := by rfl
      rw [h3]
      intro i hi
      match i, hi with
      | 0, _ => rfl
      | 1, _ => rfl
    rw [(hsame 2 _ _ he hans 2).1, he]

end Machine
end WordMachine
