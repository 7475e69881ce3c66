import WordMachine.Proofs.Operands

/-! What a program prints is what its output holds: each instruction that prints offers the low byte
of its operand, and the output takes these bytes one by one until a write fails. -/
namespace WordMachine

namespace Console.WriteOutcome

def uninterrupted (script : List WriteOutcome) : List WriteOutcome :=
  script.filter (!· == .interrupted)

/-- The outcome at a place of a script, not counting interruptions. A script that has run out goes
on accepting. -/
def item (script : List WriteOutcome) (i : Nat) : WriteOutcome :=
  (uninterrupted script)[i]?.getD .accepted

theorem first_eq_item (script : List WriteOutcome) : first script = item script 0 :=
  headD_dropWhile _ _ script

theorem item_eq_of_drop {script rest : List WriteOutcome} {t : Nat}
    (h : uninterrupted rest = (uninterrupted script).drop t) (i : Nat) :
    item rest i = item script (t + i) := by
  rw [item, h, List.getElem?_drop, item]

theorem exists_result_of_ne_accepted {o : WriteOutcome} (h : o ≠ .accepted) :
    ∃ text, o.result = .error (.io text) := by
  cases o with
  | accepted => exact absurd rfl h
  | interrupted | refused | failed _ => exact ⟨_, rfl⟩

end Console.WriteOutcome

def Action.byte? : Action → Option UInt8
  | .write _ b => some b
  | .halt | .assign _ _ _ _ | .jump _ | .read _ | .call _ _ => none

namespace Console

theorem accepted?_write (b : UInt8) (o : WriteOutcome) :
    (Call.write b o).accepted? = if o = .accepted then some b else none := by
  cases o <;> rfl

/-- The byte that an action leaves in the output: it is offered, and its write does not fail. -/
def taken? (con : Console) (a : Action) : Option UInt8 :=
  a.byte?.bind fun b => (Call.write b (.first con.writes)).accepted?

theorem written_after (con : Console) (a : Action) :
    (con.after a).written = con.written ++ (con.taken? a).toList := by
  cases a with
  | halt => exact con.written_flush.trans (List.append_nil _).symm
  | read dst =>
    have hnil : con.written ++ (con.taken? (.read dst)).toList = con.written := List.append_nil _
    simp only [after]
    split
    · rw [written_read, written_flush, hnil]
    · rw [written_flush, hnil]
  | write next b => exact con.written_write b
  | assign _ _ _ _ | jump _ | call _ _ => exact (List.append_nil _).symm

theorem uninterrupted_writes_after (con : Console) (a : Action) :
    WriteOutcome.uninterrupted (con.after a).writes =
      (WriteOutcome.uninterrupted con.writes).drop a.byte?.toList.length := by
  cases a with
  | write next b =>
    simp only [after, writes_write]
    exact (filter_tail_dropWhile _ con.writes).trans List.drop_one.symm
  | read dst =>
    simp only [after]
    split
    · rw [writes_read, writes_flush]
      rfl
    · rw [writes_flush]
      rfl
  | halt | assign _ _ _ _ | jump _ | call _ _ => rfl

theorem eq_write_of_mem_made {con : Console} {a : Action} {c : Call} (hc : c ∈ con.made a)
    (hw : c.isWrite = true) : ∃ next b, a = .write next b := by
  cases a with
  | write next b => exact ⟨next, b, rfl⟩
  | halt =>
    rw [made, List.mem_singleton] at hc
    subst hc
    cases hw
  | read dst =>
    simp only [made] at hc
    split at hc <;> simp only [List.mem_cons, List.mem_append, List.mem_map, List.not_mem_nil,
      or_false] at hc
    · rcases hc with rfl | ⟨o, _, rfl⟩ | rfl <;> cases hw
    · subst hc
      cases hw
  | assign _ _ _ _ | jump _ | call _ _ => cases hc

end Console

namespace Machine

variable {σ : Type} {m m' : Machine σ}

/-- The next step executes an instruction that prints, and its operand is worth `w`. -/
def Prints (m : Machine σ) (w : Word) : Prop :=
  ∃ f, m.next? = some f ∧ f.opcode = .output ∧ m.OperandOf f.instruction w

/-- The byte that the next step offers to the output, if it offers one. -/
def offered? (m : Machine σ) : Option UInt8 := m.nextAction?.bind Action.byte?

/-- The byte that the next step leaves in the output, if it leaves one. -/
def printed? (m : Machine σ) : Option UInt8 := m.nextAction?.bind m.console.taken?

theorem offered?_eq_some_iff {b : UInt8} :
    m.offered? = some b ↔ ∃ next, m.nextAction? = some (.write next b) := by
  rw [offered?, Option.bind_eq_some_iff]
  constructor
  · rintro ⟨a, ha, hb⟩
    cases a with
    | write next b' =>
      cases hb
      exact ⟨next, ha⟩
    | halt | assign _ _ _ _ | jump _ | read _ | call _ _ => cases hb
  · rintro ⟨next, ha⟩
    exact ⟨_, ha, rfl⟩

theorem offered?_iff_prints {b : UInt8} :
    m.offered? = some b ↔ ∃ w, m.Prints w ∧ b.toNat = w.toNat % 2 ^ 8 := by
  simp only [offered?_eq_some_iff, nextAction?_iff_intends]
  constructor
  · rintro ⟨next, f, hn, ha⟩
    cases ha with
    | @output w hop ho => exact ⟨w, ⟨f, hn, hop, ho⟩, UInt32.toNat_toUInt8 w⟩
  · rintro ⟨w, ⟨f, hn, hop, ho⟩, hb⟩
    have hlow : w.toUInt8 = b := UInt8.toNat_inj.mp ((UInt32.toNat_toUInt8 w).trans hb.symm)
    rw [← hlow]
    exact ⟨_, f, hn, .output hop ho⟩

theorem Prints.running {w : Word} (h : m.Prints w) : m.state = .running := by
  obtain ⟨f, hn, -⟩ := h
  exact (next?_eq_some_iff.mp hn).1

theorem Prints.offered?_eq {w : Word} (h : m.Prints w) : m.offered? = some w.toUInt8 :=
  offered?_iff_prints.mpr ⟨w, h, UInt32.toNat_toUInt8 w⟩

theorem printed?_eq_bind (m : Machine σ) : m.printed? =
    m.offered?.bind fun b => (Console.Call.write b (.first m.console.writes)).accepted? := by
  rw [offered?, Option.bind_assoc]
  rfl

theorem printed?_eq_some_iff {b : UInt8} : m.printed? = some b ↔
    m.offered? = some b ∧ Console.WriteOutcome.item m.console.writes 0 = .accepted := by
  rw [← Console.WriteOutcome.first_eq_item, printed?_eq_bind]
  simp only [Option.bind_eq_some_iff, Console.accepted?_write]
  constructor
  · rintro ⟨b', hb, h⟩
    split at h
    · cases h
      exact ⟨hb, ‹_›⟩
    · cases h
  · rintro ⟨hb, hacc⟩
    exact ⟨b, hb, if_pos hacc⟩

theorem written_step (m : Machine σ) :
    m.step.2.console.written = m.console.written ++ m.printed?.toList := by
  have hafter : m.consoleAfter.written = m.console.written ++ m.printed?.toList := by
    unfold consoleAfter printed?
    cases m.nextAction? with
    | none => exact (List.append_nil _).symm
    | some a => exact m.console.written_after a
  cases h : m.step.1 with
  | ok s => rw [console_step_of_ok h, hafter]
  | error e => rw [console_step_of_error h, Console.written_flush, hafter]

theorem uninterrupted_writes_step (m : Machine σ) :
    Console.WriteOutcome.uninterrupted m.step.2.console.writes =
      (Console.WriteOutcome.uninterrupted m.console.writes).drop m.offered?.toList.length := by
  have hafter : Console.WriteOutcome.uninterrupted m.consoleAfter.writes =
      (Console.WriteOutcome.uninterrupted m.console.writes).drop m.offered?.toList.length := by
    unfold consoleAfter offered?
    cases m.nextAction? with
    | none => rfl
    | some a => exact m.console.uninterrupted_writes_after a
  cases h : m.step.1 with
  | ok s => rw [console_step_of_ok h, hafter]
  | error e => rw [console_step_of_error h, Console.writes_flush, hafter]

theorem prints_of_write_mem_made {c : Console.Call} (hc : c ∈ m.made) (hw : c.isWrite = true) :
    ∃ w, m.Prints w := by
  unfold made at hc
  cases ha : m.nextAction? with
  | none =>
    rw [ha] at hc
    cases hc
  | some a =>
    rw [ha] at hc
    obtain ⟨next, b, rfl⟩ := Console.eq_write_of_mem_made hc hw
    obtain ⟨w, hp, -⟩ := offered?_iff_prints.mp (offered?_eq_some_iff.mpr ⟨next, ha⟩)
    exact ⟨w, hp⟩

theorem madeOnly_not_write (h : ∀ w, ¬m.Prints w) :
    MadeOnly (fun c => c.isWrite = false) m m.step.2 := by
  refine madeOnly_step (fun c hc => ?_) fun _ => rfl
  rw [← Bool.not_eq_true]
  intro hw
  obtain ⟨w, hp⟩ := prints_of_write_mem_made hc hw
  exact h w hp

/-- A step that has left its byte in the output goes on, unless the stack guard stops it. -/
theorem step_of_printed {b : UInt8} (h : m.printed? = some b) : m.step.1 = .ok .running ∨
    ∃ sp length, m.step.1 = .error (.stackOverflow sp length) := by
  obtain ⟨ho, hacc⟩ := printed?_eq_some_iff.mp h
  obtain ⟨next, ha⟩ := offered?_eq_some_iff.mp ho
  obtain ⟨hr, f, hf, ha⟩ := nextAction?_eq_some_iff.mp ha
  have hw : ((m.fetched f).console.write b).1 = .ok () := by
    rw [console_fetched, Console.result_write, Console.WriteOutcome.first_eq_item, hacc]
    rfl
  rw [step_of_effect hr hf ha (.write hw) hr, concluded]
  split
  · exact Or.inr ⟨_, _, rfl⟩
  · exact Or.inl rfl

/-- A step whose byte is not taken fails, with what came of its write. -/
theorem step_of_failed_write {w : Word} (h : m.Prints w)
    (hne : Console.WriteOutcome.item m.console.writes 0 ≠ .accepted) :
    ∃ text, (Console.WriteOutcome.item m.console.writes 0).result = .error (.io text) ∧
      m.step.1 = .error (.io text) ∧ m.step.2.state = .failed .fail := by
  obtain ⟨next, ha⟩ := offered?_eq_some_iff.mp h.offered?_eq
  obtain ⟨hr, f, hf, ha⟩ := nextAction?_eq_some_iff.mp ha
  obtain ⟨text, htext⟩ := Console.WriteOutcome.exists_result_of_ne_accepted hne
  have hw : ((m.fetched f).console.write w.toUInt8).1 = .error (.io text) := by
    rw [console_fetched, Console.result_write, Console.WriteOutcome.first_eq_item, htext]
  rw [(Course.refused hf ha (.write hw)).step_eq hr]
  exact ⟨text, htext, rfl, rfl⟩

theorem printed?_of_failed_write
    (hne : Console.WriteOutcome.item m.console.writes 0 ≠ .accepted) : m.printed? = none := by
  cases hp : m.printed? with
  | none => rfl
  | some b => exact absurd (printed?_eq_some_iff.mp hp).2 hne

def printed (m : Machine σ) (n : Nat) : List UInt8 :=
  (List.range n).filterMap fun k => (m.afterSteps k).printed?

theorem printed_succ (m : Machine σ) (n : Nat) :
    m.printed (n + 1) = m.printed n ++ (m.afterSteps n).printed?.toList := by
  rw [printed, List.range_succ, List.filterMap_append]
  cases h : (m.afterSteps n).printed? <;> simp [printed, h]

theorem written_afterSteps (m : Machine σ) (n : Nat) :
    (m.afterSteps n).console.written = m.console.written ++ m.printed n := by
  induction n with
  | zero => exact (List.append_nil _).symm
  | succ n ih => rw [afterSteps_succ_eq_step, written_step, ih, printed_succ, List.append_assoc]

/-- As long as a machine runs, its script is what the bytes it printed have left of it. -/
theorem uninterrupted_writes_afterSteps {n : Nat} (hr : (m.afterSteps n).state = .running) :
    Console.WriteOutcome.uninterrupted (m.afterSteps n).console.writes =
      (Console.WriteOutcome.uninterrupted m.console.writes).drop (m.printed n).length := by
  induction n with
  | zero => rfl
  | succ n ih =>
    have ih := ih (running_of_le (Nat.le_succ n) hr)
    rw [afterSteps_succ_eq_step] at hr ⊢
    -- a byte that is offered is taken, for the machine runs on
    have hp : (m.afterSteps n).printed? = (m.afterSteps n).offered? := by
      cases ho : (m.afterSteps n).offered? with
      | none => rw [printed?_eq_bind, ho, Option.bind_none]
      | some b =>
        refine printed?_eq_some_iff.mpr ⟨ho, Decidable.byContradiction fun hne => ?_⟩
        obtain ⟨w, hw, -⟩ := offered?_iff_prints.mp ho
        obtain ⟨text, -, -, hs⟩ := step_of_failed_write hw hne
        rw [hr] at hs
        cases hs
    rw [uninterrupted_writes_step, ih, List.drop_drop, printed_succ, hp, List.length_append]

theorem writes_item_afterSteps {n : Nat} (hr : (m.afterSteps n).state = .running) :
    Console.WriteOutcome.item (m.afterSteps n).console.writes 0 =
      Console.WriteOutcome.item m.console.writes (m.printed n).length :=
  Console.WriteOutcome.item_eq_of_drop (uninterrupted_writes_afterSteps hr) 0

theorem afterSteps_of_failed_write {k : Nat} {w : Word} (h : (m.afterSteps k).Prints w)
    (hne : Console.WriteOutcome.item m.console.writes (m.printed k).length ≠ .accepted) :
    ∃ text, (Console.WriteOutcome.item m.console.writes (m.printed k).length).result =
        .error (.io text) ∧ (m.afterSteps k).step.1 = .error (.io text) ∧
      ∀ j, k < j → m.afterSteps j = m.afterSteps (k + 1) ∧
        (m.afterSteps j).state = .failed .fail ∧
        (m.afterSteps j).console.written = (m.afterSteps k).console.written := by
  rw [← writes_item_afterSteps h.running] at hne ⊢
  obtain ⟨text, htext, hstep, hstate⟩ := step_of_failed_write h hne
  refine ⟨text, htext, hstep, fun j hj => ?_⟩
  have hend : (m.afterSteps (k + 1)).state ≠ .running := by
    rw [afterSteps_succ_eq_step, hstate]
    nofun
  have hj : m.afterSteps j = m.afterSteps (k + 1) := by
    obtain ⟨d, rfl⟩ := Nat.exists_eq_add_of_le (Nat.succ_le_of_lt hj)
    rw [afterSteps_add, afterSteps_of_not_running hend]
  rw [hj, afterSteps_succ_eq_step, hstate, written_step, printed?_of_failed_write hne]
  exact ⟨rfl, rfl, List.append_nil _⟩

/-- Through every run, the output is the low bytes of the operands of the instructions that print,
one byte for each whose write does not fail, in their order. The writes take the script item by item
without its interruptions. A step that leaves its byte in the output goes on, unless the stack guard
stops it; one whose item is not an acceptance fails with it, leaves nothing in the output, and the
machine has ended. No other instruction writes, and nothing does once the machine has ended. So the
output only grows, by at most one byte with each step. -/
theorem output_fidelity (m : Machine σ) :
    (∀ n, (m.afterSteps n).console.written = m.console.written ++ m.printed n) ∧
    (∀ k b, (m.afterSteps k).printed? = some b ↔
      (∃ w, (m.afterSteps k).Prints w ∧ b.toNat = w.toNat % 2 ^ 8) ∧
        Console.WriteOutcome.item m.console.writes (m.printed k).length = .accepted) ∧
    (∀ k b, (m.afterSteps k).printed? = some b → (m.afterSteps k).step.1 = .ok .running ∨
      ∃ sp length, (m.afterSteps k).step.1 = .error (.stackOverflow sp length)) ∧
    (∀ k w, (m.afterSteps k).Prints w →
      Console.WriteOutcome.item m.console.writes (m.printed k).length ≠ .accepted →
      ∃ text, (Console.WriteOutcome.item m.console.writes (m.printed k).length).result =
          .error (.io text) ∧ (m.afterSteps k).step.1 = .error (.io text) ∧
        ∀ j, k < j → m.afterSteps j = m.afterSteps (k + 1) ∧
          (m.afterSteps j).state = .failed .fail ∧
          (m.afterSteps j).console.written = (m.afterSteps k).console.written) ∧
    (∀ k, (∀ f, (m.afterSteps k).next? = some f → f.opcode ≠ .output) →
      MadeOnly (fun c => c.isWrite = false) (m.afterSteps k) (m.afterSteps (k + 1))) ∧
    ∀ n, (m.afterSteps n).console.written <+: (m.afterSteps (n + 1)).console.written ∧
      (m.afterSteps (n + 1)).console.written.length ≤
        (m.afterSteps n).console.written.length + 1 := by
  refine ⟨m.written_afterSteps, fun k b => ?_, fun k b => step_of_printed,
    fun k w => afterSteps_of_failed_write, fun k hk => ?_, fun n => ?_⟩
  · rw [printed?_eq_some_iff, offered?_iff_prints]
    refine and_congr_right fun ⟨w, hw, _⟩ => ?_
    rw [writes_item_afterSteps hw.running]
  · rw [afterSteps_succ_eq_step]
    refine madeOnly_not_write fun w hw => ?_
    obtain ⟨f, hn, hop, -⟩ := hw
    exact hk f hn hop
  · rw [afterSteps_succ_eq_step, written_step, List.length_append]
    exact ⟨List.prefix_append _ _, Nat.add_le_add_left (Option.length_toList_le) _⟩

/-- Prints 321, whose low byte is a letter, then another letter, which the output refuses. -/
def printingTwice : Machine Unit :=
  ofMemory { cells := #[0xE8000000, 321, 0xE8000000, 66], programLength := 4 } 0 {}
    { writes := [.interrupted, .accepted, .interrupted, .interrupted, .refused, .accepted] }

theorem printingTwice_printed :
    (printingTwice.afterSteps 0).Prints 321 ∧ (printingTwice.afterSteps 1).Prints 66 ∧
    Console.WriteOutcome.item printingTwice.console.writes (printingTwice.printed 1).length =
      .refused ∧
    (printingTwice.afterSteps 1).console.written = [65] ∧
    (printingTwice.afterSteps 0).step.1 = .ok .running ∧
    (printingTwice.afterSteps 1).step.1 = .error (.io "failed to write whole buffer") ∧
    (printingTwice.afterSteps 9).state = .failed .fail ∧
    (printingTwice.afterSteps 9).console.written = [65] := by
  obtain ⟨hwritten, hprinted, -, hfails, -, -⟩ := output_fidelity printingTwice
  have hfirst : (printingTwice.afterSteps 0).Prints 321 :=
    ⟨⟨0xE8000000, .decode 0xE8000000, .output⟩, by rfl, rfl, 321, by rfl, by rfl⟩
  have hsecond : (printingTwice.afterSteps 1).Prints 66 :=
    ⟨⟨0xE8000000, .decode 0xE8000000, .output⟩, by rfl, rfl, 66, by rfl, by rfl⟩
  have hb : (printingTwice.afterSteps 0).printed? = some 65 :=
    (hprinted 0 65).mpr ⟨⟨321, hfirst, by decide⟩, by decide⟩
  have hone : printingTwice.printed 1 = [65] := by
    rw [printed_succ, hb]
    rfl
  have hitem : Console.WriteOutcome.item printingTwice.console.writes
      (printingTwice.printed 1).length = .refused := by
    rw [hone]
    rfl
  have hstep : (printingTwice.afterSteps 0).step.1 = .ok .running := by rfl
  have hw : (printingTwice.afterSteps 1).console.written = [65] := by
    rw [hwritten, hone]
    rfl
  obtain ⟨text, htext, he, hend⟩ := hfails 1 66 hsecond (by rw [hitem]; nofun)
  rw [hitem] at htext
  cases htext
  obtain ⟨-, hs, hn⟩ := hend 9 (by decide)
  exact ⟨hfirst, hsecond, hitem, hw, hstep, he, hs, hn.trans hw⟩

end Machine
end WordMachine
