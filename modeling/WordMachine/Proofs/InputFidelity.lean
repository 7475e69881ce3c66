import WordMachine.Proofs.ArithmeticStep
import WordMachine.Proofs.Calls

/-! What a program reads is what its input holds: the instructions that read take the items of the
script one by one, without the interruptions, and each word goes where its instruction says. -/
namespace WordMachine

namespace Console.ReadOutcome

/-- What an item of the input is worth to a program. -/
def value? : ReadOutcome → Option Nat
  | byte b => some b.toNat
  | endOfInput => some (2 ^ 32 - 1)
  | interrupted | failed _ => none

def uninterrupted (script : List ReadOutcome) : List ReadOutcome :=
  script.filter (· ≠ .interrupted)

/-- The item at a place of a script, not counting interruptions. A script that has run out goes
on with the end of the input. -/
def item (script : List ReadOutcome) (i : Nat) : ReadOutcome :=
  (uninterrupted script)[i]?.getD .endOfInput

theorem uninterrupted_eq (script : List ReadOutcome) :
    uninterrupted script = script.filter (!· == .interrupted) :=
  List.filter_congr fun o _ => by cases o <;> rfl

theorem first_eq_item (script : List ReadOutcome) : first script = item script 0 := by
  rw [item, uninterrupted_eq]
  exact headD_dropWhile _ _ script

theorem uninterrupted_tail_dropWhile (script : List ReadOutcome) :
    uninterrupted (script.dropWhile (· == .interrupted)).tail = (uninterrupted script).tail := by
  rw [uninterrupted_eq, uninterrupted_eq]
  exact filter_tail_dropWhile _ script

theorem item_eq_of_drop {script rest : List ReadOutcome} {t : Nat}
    (h : uninterrupted rest = (uninterrupted script).drop t) (i : Nat) :
    item rest i = item script (t + i) := by
  rw [item, h, List.getElem?_drop, item]

theorem item_ne_interrupted (script : List ReadOutcome) (i : Nat) :
    item script i ≠ .interrupted := by
  have h := getD_filter (p := fun o : ReadOutcome => decide (o ≠ .interrupted)) (d := .endOfInput)
    rfl script i
  exact of_decide_eq_true h

theorem value?_of_result {o : ReadOutcome} {w : Word} (h : o.result = .ok w) :
    o.value? = some w.toNat := by
  cases o with
  | byte b =>
    cases h
    simp [value?]
  | endOfInput =>
    cases h
    rfl
  | interrupted | failed _ => cases h

theorem item_worth_or_failed (script : List ReadOutcome) (i : Nat) :
    (∃ v, (item script i).value? = some v) ∨ ∃ text, item script i = .failed text := by
  cases h : item script i with
  | byte b => exact Or.inl ⟨b.toNat, rfl⟩
  | endOfInput => exact Or.inl ⟨2 ^ 32 - 1, rfl⟩
  | interrupted => exact absurd h (item_ne_interrupted script i)
  | failed text => exact Or.inr ⟨text, rfl⟩

theorem exists_result_of_value? {o : ReadOutcome} {v : Nat} (h : o.value? = some v) :
    ∃ w, o.result = .ok w ∧ w.toNat = v := by
  cases o with
  | byte b =>
    cases h
    exact ⟨b.toUInt32, rfl, by simp⟩
  | endOfInput =>
    cases h
    exact ⟨endWord, rfl, rfl⟩
  | interrupted | failed _ => cases h

end Console.ReadOutcome

theorem Console.result_read_flush (con : Console) :
    con.flush.2.read.1 = (ReadOutcome.item con.input 0).result := by
  rw [result_read, input_flush, ReadOutcome.first_eq_item]

namespace Machine

variable {σ : Type} {m m' : Machine σ}

theorem input_step (m : Machine σ) : m.step.2.console.input = m.consoleAfter.input := by
  cases h : m.step.1 with
  | ok s => rw [console_step_of_ok h]
  | error e => rw [console_step_of_error h, Console.input_flush]

theorem input_step_of_asks (ha : m.asks = true) (hf : m.console.flush.1 = .ok ()) :
    m.step.2.console.input = (m.console.input.dropWhile (· == .interrupted)).tail := by
  obtain ⟨dst, hd⟩ := asks_iff.mp ha
  rw [input_step, consoleAfter, hd]
  simp only [Console.after, hf, Console.input_read, Console.input_flush]

theorem input_step_of_not (h : m.asks = true → m.console.flush.1 ≠ .ok ()) :
    m.step.2.console.input = m.console.input := by
  rw [input_step, consoleAfter]
  cases hn : m.nextAction? with
  | none => rfl
  | some a =>
    cases a with
    | read dst =>
      cases hf : m.console.flush.1 with
      | ok _ => exact absurd hf (h (asks_iff.mpr ⟨dst, hn⟩))
      | error e => simp only [Console.after, hf, Console.input_flush]
    | halt => rfl
    | write next byte => exact m.console.input_write byte
    | assign _ _ _ _ | jump _ | call _ _ => rfl

/-- The word that the next step takes from the input, if it takes one. -/
def delivered? (m : Machine σ) : Option Word :=
  if m.asks then m.readWord.1.toOption else none

theorem readWord_fst (m : Machine σ) : m.readWord.1 = m.console.flush.1 >>= fun _ =>
    (Console.ReadOutcome.item m.console.input 0).result := by
  rw [← Console.result_read_flush]
  cases hf : m.console.flush.1 with
  | error e =>
    simp only [readWord, onConsole_eq, hf]
    rfl
  | ok _ =>
    simp only [readWord, onConsole_eq, hf]
    rfl

theorem delivered?_eq_some_iff {w : Word} : m.delivered? = some w ↔
    m.asks = true ∧ m.console.flush.1 = .ok () ∧
      (Console.ReadOutcome.item m.console.input 0).result = .ok w := by
  rw [delivered?, readWord_fst]
  cases m.asks with
  | false => simp
  | true =>
    simp only [if_true, Fault.toOption_eq_some_iff, Fault.bind_eq_ok_iff, true_and]
    exact ⟨fun ⟨_, hf, hw⟩ => ⟨hf, hw⟩, fun ⟨hf, hw⟩ => ⟨(), hf, hw⟩⟩

/-- A step that may read takes the item that comes next, if that is worth a word. -/
theorem exists_delivered_of_value? {v : Nat} (ha : m.asks = true)
    (hf : m.console.flush.1 = .ok ())
    (hv : (Console.ReadOutcome.item m.console.input 0).value? = some v) :
    ∃ w, m.delivered? = some w ∧ w.toNat = v := by
  obtain ⟨w, hw, hwv⟩ := Console.ReadOutcome.exists_result_of_value? hv
  exact ⟨w, delivered?_eq_some_iff.mpr ⟨ha, hf, hw⟩, hwv⟩

theorem delivered?_eq_none (h : m.asks = true → m.console.flush.1 ≠ .ok ()) :
    m.delivered? = none := by
  cases hd : m.delivered? with
  | none => rfl
  | some w =>
    obtain ⟨ha, hf, -⟩ := delivered?_eq_some_iff.mp hd
    exact absurd hf (h ha)

/-- Where a fetched instruction puts what it reads. Its field names a register as it stands after
the fetch; whether there is an immediate word is not asked. -/
def InputDestination (m : Machine σ) (f : Fetched) (dst : Destination) : Prop :=
  ∃ r, Register.ofField f.instruction.c = .ok r ∧
    (if f.instruction.modes.derefC then .cell (m.pastFetch r) else .register r) = dst

theorem resolve_eq_read_iff {f : Fetched} {dst : Destination} :
    m.resolve f = .ok (.read dst) ↔ f.opcode = .input ∧ m.InputDestination f dst := by
  rw [resolve, Action.resolve_eq_read_iff, destination_eq_ok_iff, InputDestination]

theorem exists_destination_of_asks (h : m.asks = true) : ∃ f dst,
    m.next? = some f ∧ f.opcode = .input ∧ m.InputDestination f dst := by
  obtain ⟨dst, ha⟩ := asks_iff.mp h
  obtain ⟨hr, f, hf, hd⟩ := nextAction?_eq_some_iff.mp ha
  obtain ⟨hop, hdst⟩ := resolve_eq_read_iff.mp hd
  exact ⟨f, dst, next?_eq_some_iff.mpr ⟨hr, hf⟩, hop, hdst⟩

def Holds (m : Machine σ) (w : Word) : Destination → Prop
  | .register r => m.registers.get r = w
  | .cell address => m.memory.load address = .ok w

theorem Stored.holds {w : Word} {dst : Destination} (h : m.Stored w dst m') : m'.Holds w dst := by
  cases h with
  | register r => exact RegisterFile.get_set_self ..
  | cell ha =>
    rw [Holds, Memory.load_put, if_pos rfl]

theorem Stored.get_eq {w : Word} {dst : Destination} (h : m.Stored w dst m') {r : Register}
    (hr : .register r ≠ dst) : m'.registers.get r = m.registers.get r := by
  cases h with
  | register s => exact RegisterFile.get_set_ne _ (fun he => hr (congrArg _ he)) w
  | cell _ => rfl

@[simp] theorem registers_concluded (m : Machine σ) :
    m.concluded.2.registers = m.registers := by
  unfold concluded
  split <;> rfl

@[simp] theorem memory_concluded (m : Machine σ) : m.concluded.2.memory = m.memory := by
  unfold concluded
  split <;> rfl

theorem holds_concluded {w : Word} {dst : Destination} (h : m.Holds w dst) :
    m.concluded.2.Holds w dst := by
  cases dst with
  | register r =>
    rw [Holds, registers_concluded]
    exact h
  | cell address =>
    rw [Holds, memory_concluded]
    exact h

/-- A word that has been read is in its place after the step, and the other registers are as
they were after the fetch. -/
theorem holds_step_of_delivered {w : Word} {f : Fetched} {dst : Destination}
    (h : m.delivered? = some w) (hn : m.next? = some f) (hop : f.opcode = .input)
    (hdst : m.InputDestination f dst) (hin : dst.Within m.memory) :
    m.step.2.Holds w dst ∧
      ∀ r, .register r ≠ dst → m.step.2.registers.get r = m.pastFetch r := by
  obtain ⟨-, hflush, hread⟩ := delivered?_eq_some_iff.mp h
  obtain ⟨hr, hf⟩ := next?_eq_some_iff.mp hn
  have ha := resolve_eq_read_iff.mpr ⟨hop, hdst⟩
  have hread' := m.console.result_read_flush.trans hread
  obtain ⟨m₁, hs⟩ : ∃ m₁, { m.fetched f with console := m.console.after (.read dst) }.Stored
      w dst m₁ := by
    exact Stored.exists_of_within hin
  have he : (m.fetched f).Effect (.read dst) .running m₁ := .read hflush hread' hs
  rw [step_of_effect hr hf ha he (hs.state_eq.trans hr)]
  refine ⟨holds_concluded hs.holds, fun r hne => ?_⟩
  rw [registers_concluded, hs.get_eq hne]
  exact get_set_ip m r

theorem step_of_refused_read {f : Fetched} {dst : Destination} {e : Fault}
    (hn : m.next? = some f) (ha : m.resolve f = .ok (.read dst))
    (href : (m.fetched f).Refusal (.read dst) e) : m.step.1 = .error e ∧
      m.step.2.memory = m.memory ∧ ∀ r, m.step.2.registers.get r = m.pastFetch r := by
  obtain ⟨hr, hf⟩ := next?_eq_some_iff.mp hn
  rw [(Course.refused hf ha href).step_eq hr]
  refine ⟨rfl, rfl, fun r => ?_⟩
  have hregs : ((m.fetched f).refused (.read dst)).registers = (m.fetched f).registers := by
    simp [refused, Action.resume, ip, registers_set]
  rw [registers_fail, hregs]
  exact get_set_ip m r

theorem step_of_failed_item {text : String} (ha : m.asks = true)
    (hf : m.console.flush.1 = .ok ())
    (hi : Console.ReadOutcome.item m.console.input 0 = .failed text) :
    m.step.1 = .error (.io text) ∧ m.step.2.memory = m.memory ∧
      ∀ r, m.step.2.registers.get r = m.pastFetch r := by
  obtain ⟨f, dst, hn, hop, hdst⟩ := exists_destination_of_asks ha
  have hread : m.console.flush.2.read.1 = .error (.io text) := by
    rw [Console.result_read_flush, hi]
    rfl
  exact step_of_refused_read hn (resolve_eq_read_iff.mpr ⟨hop, hdst⟩) (.read hf hread)

theorem step_of_delivered_past_end {w address : Word} {f : Fetched}
    (h : m.delivered? = some w) (hn : m.next? = some f) (hop : f.opcode = .input)
    (hdst : m.InputDestination f (.cell address)) (hout : m.memory.length ≤ address.toNat) :
    m.step.1 = .error (.memoryOutOfBounds address m.memory.length) ∧
      m.step.2.memory = m.memory ∧ ∀ r, m.step.2.registers.get r = m.pastFetch r := by
  obtain ⟨-, hflush, hread⟩ := delivered?_eq_some_iff.mp h
  have hread' := m.console.result_read_flush.trans hread
  exact step_of_refused_read hn (resolve_eq_read_iff.mpr ⟨hop, hdst⟩)
    (.deliver (m := m.fetched f) hflush hread' hout)

def delivered (m : Machine σ) (n : Nat) : List Word :=
  (List.range n).filterMap fun k => (m.afterSteps k).delivered?

theorem delivered_succ (m : Machine σ) (n : Nat) :
    m.delivered (n + 1) = m.delivered n ++ (m.afterSteps n).delivered?.toList := by
  rw [delivered, List.range_succ, List.filterMap_append]
  cases h : (m.afterSteps n).delivered? <;> simp [delivered, h]

/-- As long as a machine runs, its input is what the words it took have left of it. -/
theorem uninterrupted_afterSteps {n : Nat} (hr : (m.afterSteps n).state = .running) :
    Console.ReadOutcome.uninterrupted (m.afterSteps n).console.input =
      (Console.ReadOutcome.uninterrupted m.console.input).drop (m.delivered n).length := by
  induction n with
  | zero => rfl
  | succ n ih =>
    have ih := ih (running_of_le (Nat.le_succ n) hr)
    rw [afterSteps_succ_eq_step] at hr ⊢
    by_cases h : (m.afterSteps n).asks = true → (m.afterSteps n).console.flush.1 ≠ .ok ()
    · rw [input_step_of_not h, ih, delivered_succ, delivered?_eq_none h]
      simp
    · obtain ⟨ha, hf⟩ : (m.afterSteps n).asks = true ∧
          (m.afterSteps n).console.flush.1 = .ok () := by simpa using h
      -- the item that is taken is no failure, for the machine runs on
      rcases Console.ReadOutcome.item_worth_or_failed (m.afterSteps n).console.input 0 with
        ⟨v, hv⟩ | ⟨text, hi⟩
      · obtain ⟨w, hw, -⟩ := exists_delivered_of_value? ha hf hv
        rw [input_step_of_asks ha hf, Console.ReadOutcome.uninterrupted_tail_dropWhile, ih,
          List.tail_drop, delivered_succ, hw]
        simp
      · rw [state_step_of_error (step_of_failed_item ha hf hi).1] at hr
        cases hr

theorem item_afterSteps {n : Nat} (hr : (m.afterSteps n).state = .running) :
    Console.ReadOutcome.item (m.afterSteps n).console.input 0 =
      Console.ReadOutcome.item m.console.input (m.delivered n).length :=
  Console.ReadOutcome.item_eq_of_drop (uninterrupted_afterSteps hr) 0

/-- The words of a run are the items of the script in their order, none left out. -/
theorem getElem?_delivered {n i : Nat} (hi : i < (m.delivered n).length) :
    (m.delivered n)[i]?.map UInt32.toNat =
      (Console.ReadOutcome.item m.console.input i).value? := by
  induction n with
  | zero => cases hi
  | succ n ih =>
    rw [delivered_succ] at hi ⊢
    by_cases hlt : i < (m.delivered n).length
    · rw [List.getElem?_append_left hlt]
      exact ih hlt
    · cases hd : (m.afterSteps n).delivered? with
      | none =>
        rw [hd] at hi
        simp at hi
        exact absurd hi hlt
      | some w =>
        rw [hd] at hi
        have heq : i = (m.delivered n).length := by
          simp at hi
          omega
        obtain ⟨ha, -, hw⟩ := delivered?_eq_some_iff.mp hd
        rw [item_afterSteps (running_of_asks ha)] at hw
        rw [heq, Console.ReadOutcome.value?_of_result hw]
        simp

/-- Through every run, the instructions that ask for input take the script item by item: each one
whose flush is good takes the interruptions and the item after them, and nothing else reads. The
words they take are the items in their order without the interruptions, a byte as itself and the
end of the input as the largest word; after these words comes the next item, and one that is a
failure makes the step fail with memory and registers as after the fetch. A word that is taken is
where its instruction puts it when the step is done, unless that is past the end of memory. -/
theorem input_fidelity (m : Machine σ) :
    (∀ k, (m.afterSteps k).asks = true → (m.afterSteps k).console.flush.1 = .ok () →
      (m.afterSteps (k + 1)).console.input =
        ((m.afterSteps k).console.input.dropWhile (· == .interrupted)).tail) ∧
    (∀ k, ((m.afterSteps k).asks = true → (m.afterSteps k).console.flush.1 ≠ .ok ()) →
      (m.afterSteps (k + 1)).console.input = (m.afterSteps k).console.input ∧
        MadeOnly (fun c => c.isRead = false) (m.afterSteps k) (m.afterSteps (k + 1))) ∧
    (∀ n i, i < (m.delivered n).length → (m.delivered n)[i]?.map UInt32.toNat =
      (Console.ReadOutcome.item m.console.input i).value?) ∧
    (∀ k, (m.afterSteps k).asks = true → (m.afterSteps k).console.flush.1 = .ok () →
      (∀ v, (Console.ReadOutcome.item m.console.input (m.delivered k).length).value? = some v →
        ∃ w, (m.afterSteps k).delivered? = some w ∧ w.toNat = v) ∧
      ∀ text, Console.ReadOutcome.item m.console.input (m.delivered k).length = .failed text →
        (m.afterSteps k).step.1 = .error (.io text) ∧
          (m.afterSteps (k + 1)).memory = (m.afterSteps k).memory ∧
          ∀ r, (m.afterSteps (k + 1)).registers.get r = (m.afterSteps k).pastFetch r) ∧
    ∀ k w, (m.afterSteps k).delivered? = some w → ∃ f dst, (m.afterSteps k).next? = some f ∧
      f.opcode = .input ∧ (m.afterSteps k).InputDestination f dst ∧
      (dst.Within (m.afterSteps k).memory → (m.afterSteps (k + 1)).Holds w dst ∧
        ∀ r, .register r ≠ dst →
          (m.afterSteps (k + 1)).registers.get r = (m.afterSteps k).pastFetch r) ∧
      ∀ address, dst = .cell address → (m.afterSteps k).memory.length ≤ address.toNat →
        (m.afterSteps k).step.1 =
            .error (.memoryOutOfBounds address (m.afterSteps k).memory.length) ∧
          (m.afterSteps (k + 1)).memory = (m.afterSteps k).memory ∧
          ∀ r, (m.afterSteps (k + 1)).registers.get r = (m.afterSteps k).pastFetch r := by
  simp only [afterSteps_succ_eq_step]
  refine ⟨fun k => input_step_of_asks, fun k h => ⟨input_step_of_not h, madeOnly_not_read h⟩,
    fun n i => getElem?_delivered, fun k ha hf => ?_, fun k w hw => ?_⟩
  · rw [← item_afterSteps (running_of_asks ha)]
    exact ⟨fun v => exists_delivered_of_value? ha hf, fun text => step_of_failed_item ha hf⟩
  · obtain ⟨ha, -, -⟩ := delivered?_eq_some_iff.mp hw
    obtain ⟨f, dst, hn, hop, hdst⟩ := exists_destination_of_asks ha
    refine ⟨f, dst, hn, hop, hdst, holds_step_of_delivered hw hn hop hdst, ?_⟩
    rintro address rfl
    exact step_of_delivered_past_end hw hn hop hdst

/-- Reads four times. The third instruction has the immediate bit set. -/
def readingFour : Machine Unit :=
  ofMemory { cells := #[0xD0000100, 0xD0000200, 0xD8000300, 0xD0000100], programLength := 4 } 0 {}
    { input := [.byte 7, .interrupted, .endOfInput, .byte 255, .interrupted, .failed "gone"] }

theorem readingFour_delivered :
    readingFour.delivered 4 = [7, 0xFFFFFFFF, 255] ∧
    (∀ i < 3, (readingFour.delivered 4)[i]?.map UInt32.toNat =
      (Console.ReadOutcome.item readingFour.console.input i).value?) ∧
    (readingFour.afterSteps 3).console.input = [.interrupted, .failed "gone"] ∧
    (readingFour.afterSteps 3).registers.get .r3 = 255 ∧
    (readingFour.afterSteps 3).step.1 = .error (.io "gone") ∧
    (readingFour.afterSteps 4).registers.get .r1 = 7 := by
  obtain ⟨htake, -, hitems, hnext, hplace⟩ := input_fidelity readingFour
  have hd : readingFour.delivered 4 = [7, 0xFFFFFFFF, 255] := by decide
  obtain ⟨he, -, hregs⟩ := (hnext 3 (by decide) (by rfl)).2 "gone" (by decide)
  refine ⟨hd, fun i hi => hitems 4 i (hd ▸ hi), ?_, ?_, he, ?_⟩
  · rw [htake 2 (by decide) (by rfl)]
    rfl
  · obtain ⟨f, dst, hf, -, ⟨r, hr, hdst⟩, hholds, -⟩ := hplace 2 255 (by decide)
    have hf' : (readingFour.afterSteps 2).next? =
        some ⟨0xD8000300, .decode 0xD8000300, .input⟩ := by rfl
    cases hf'.symm.trans hf
    have hr' : Register.ofField (Instruction.decode 0xD8000300).c = .ok .r3 := by rfl
    cases hr'.symm.trans hr
    cases hdst
    exact (hholds trivial).1
  · rw [hregs]
    decide

end Machine
end WordMachine
