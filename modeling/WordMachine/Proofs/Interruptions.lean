import Mathlib.Data.List.Basic
import Mathlib.Data.List.TakeWhile
import WordMachine.Proofs.InputFidelity
import WordMachine.Proofs.OutputFidelity
import WordMachine.Proofs.Replies

/-! Reads and writes that are interrupted are tried again, and nobody notices: two machines whose
scripts differ in interruptions alone take the same steps. -/
namespace WordMachine

namespace Console

/-- The call has been interrupted and is tried again. A flush never is. -/
def Call.isRetried : Call → Bool
  | read .interrupted | write _ .interrupted => true
  | read _ | write _ _ | flush _ => false

def withoutRetries (calls : List Call) : List Call := calls.filter (!·.isRetried)

/-- The calls made so far, without those that were tried again. -/
def settled (con : Console) : List Call := withoutRetries con.calls.toList

/-- The calls of an action without those that are tried again. -/
def settledMade (con : Console) : Action → List Call
  | .halt => [.flush (con.flushes.headD .done)]
  | .read _ =>
    .flush (con.flushes.headD .done) ::
      match con.flush.1 with
      | .ok () => [.read (.item con.input 0)]
      | .error _ => []
  | .write _ b => [.write b (.item con.writes 0)]
  | .assign _ _ _ _ | .jump _ | .call _ _ => []

/-- Two consoles whose scripts, and the calls made on them so far, differ in interruptions alone. -/
structure Alike (con con' : Console) : Prop where
  input : ReadOutcome.uninterrupted con'.input = ReadOutcome.uninterrupted con.input
  writes : WriteOutcome.uninterrupted con'.writes = WriteOutcome.uninterrupted con.writes
  flushes : con'.flushes = con.flushes
  settled : con'.settled = con.settled

theorem WriteOutcome.item_ne_interrupted (script : List WriteOutcome) (i : Nat) :
    item script i ≠ .interrupted := by
  have h := getD_filter (p := fun o : WriteOutcome => !o == .interrupted) (d := .accepted) rfl
    script i
  intro hi
  rw [item, uninterrupted] at hi
  rw [hi] at h
  cases h

theorem isRetried_read {o : ReadOutcome} (h : o ≠ .interrupted) :
    (Call.read o).isRetried = false := by
  cases o with
  | interrupted => exact absurd rfl h
  | byte _ | endOfInput | failed _ => rfl

theorem isRetried_write (b : UInt8) {o : WriteOutcome} (h : o ≠ .interrupted) :
    (Call.write b o).isRetried = false := by
  cases o with
  | interrupted => exact absurd rfl h
  | accepted | refused | failed _ => rfl

@[simp] theorem withoutRetries_append (calls calls' : List Call) :
    withoutRetries (calls ++ calls') = withoutRetries calls ++ withoutRetries calls' :=
  List.filter_append ..

theorem withoutRetries_cons {c : Call} (h : c.isRetried = false) (calls : List Call) :
    withoutRetries (c :: calls) = c :: withoutRetries calls := by
  simp [withoutRetries, h]

theorem withoutRetries_map {α : Type} {p : α → Bool} {call : α → Call}
    (h : ∀ o, p o = true → (call o).isRetried = true) (script : List α) :
    withoutRetries ((script.takeWhile p).map call) = [] := by
  refine List.filter_eq_nil_iff.mpr fun c hc => ?_
  obtain ⟨o, ho, rfl⟩ := List.mem_map.mp hc
  rw [h o (List.mem_takeWhile_imp ho)]
  nofun

theorem withoutRetries_made (con : Console) (a : Action) :
    withoutRetries (con.made a) = con.settledMade a := by
  cases a with
  | halt => rfl
  | read dst =>
    have hreads : withoutRetries ((con.input.takeWhile (· == .interrupted)).map .read) = [] :=
      withoutRetries_map (fun o ho => by rw [eq_of_beq ho]; rfl) con.input
    have hlast := isRetried_read (ReadOutcome.item_ne_interrupted con.input 0)
    rw [made, withoutRetries_cons rfl, settledMade]
    cases hf : con.flush.1 with
    | ok _ =>
      simp only [withoutRetries_append, hreads, ReadOutcome.first_eq_item,
        withoutRetries_cons hlast]
      rfl
    | error e => rfl
  | write next b =>
    have hwrites : withoutRetries
        ((con.writes.takeWhile (· == .interrupted)).map (.write b)) = [] :=
      withoutRetries_map (fun o ho => by rw [eq_of_beq ho]; rfl) con.writes
    have hlast := isRetried_write b (WriteOutcome.item_ne_interrupted con.writes 0)
    rw [made, withoutRetries_append, hwrites, WriteOutcome.first_eq_item,
      withoutRetries_cons hlast]
    rfl
  | assign _ _ _ _ | jump _ | call _ _ => rfl

theorem settled_after (con : Console) (a : Action) :
    (con.after a).settled = con.settled ++ con.settledMade a := by
  rw [settled, calls_after, withoutRetries_append, withoutRetries_made, settled]

theorem settled_flush (con : Console) :
    con.flush.2.settled = con.settled ++ [.flush (con.flushes.headD .done)] := by
  rw [settled, calls_flush, withoutRetries_append, settled]
  rfl

theorem written_eq_filterMap (con : Console) :
    con.written = con.settled.filterMap Call.accepted? := by
  rw [written, settled, withoutRetries, List.filterMap_filter]
  refine List.filterMap_congr fun c _ => ?_
  cases c with
  | read o | write b o => cases o <;> rfl
  | flush o => rfl

theorem uninterrupted_input_after (con : Console) (a : Action) :
    ReadOutcome.uninterrupted (con.after a).input =
      match a, con.flush.1 with
      | .read _, .ok () => (ReadOutcome.uninterrupted con.input).tail
      | _, _ => ReadOutcome.uninterrupted con.input := by
  cases a with
  | read dst =>
    cases hf : con.flush.1 with
    | ok _ =>
      simp only [after, hf, input_read, input_flush]
      exact ReadOutcome.uninterrupted_tail_dropWhile con.input
    | error e => simp only [after, hf, input_flush]
  | write next b => rw [after, input_write]
  | halt | assign _ _ _ _ | jump _ | call _ _ => rfl

namespace Alike

variable {con con' : Console}

theorem written (h : con.Alike con') : con'.written = con.written := by
  rw [written_eq_filterMap, h.settled, ← written_eq_filterMap]

theorem flush_fst (h : con.Alike con') : con'.flush.1 = con.flush.1 := by
  rw [result_flush, h.flushes, ← result_flush]

theorem read_item (h : con.Alike con') :
    ReadOutcome.item con'.input 0 = ReadOutcome.item con.input 0 := by
  rw [ReadOutcome.item, h.input, ReadOutcome.item]

theorem write_item (h : con.Alike con') :
    WriteOutcome.item con'.writes 0 = WriteOutcome.item con.writes 0 := by
  rw [WriteOutcome.item, h.writes, WriteOutcome.item]

theorem sameReplies (h : con.Alike con') (a : Action) : con.SameReplies con' a := by
  cases a with
  | halt => exact h.flush_fst
  | read dst =>
    refine ⟨h.flush_fst, ?_⟩
    rw [result_read_flush, result_read_flush, h.read_item]
  | write next b =>
    show (con'.write b).1 = (con.write b).1
    rw [result_write, result_write, WriteOutcome.first_eq_item, WriteOutcome.first_eq_item,
      h.write_item]
  | assign _ _ _ _ | jump _ | call _ _ => trivial

theorem settledMade (h : con.Alike con') (a : Action) :
    con'.settledMade a = con.settledMade a := by
  cases a with
  | halt => simp only [Console.settledMade, h.flushes]
  | read dst => simp only [Console.settledMade, h.flushes, h.flush_fst, h.read_item]
  | write next b => simp only [Console.settledMade, h.write_item]
  | assign _ _ _ _ | jump _ | call _ _ => rfl

theorem after (h : con.Alike con') (a : Action) : (con.after a).Alike (con'.after a) where
  input := by rw [uninterrupted_input_after, uninterrupted_input_after, h.flush_fst, h.input]
  writes := by rw [uninterrupted_writes_after, uninterrupted_writes_after, h.writes]
  flushes := by rw [flushes_after, flushes_after, h.flushes]
  settled := by rw [settled_after, settled_after, h.settled, h.settledMade]

theorem flush (h : con.Alike con') : con.flush.2.Alike con'.flush.2 where
  input := h.input
  writes := h.writes
  flushes := by rw [flushes_flush, flushes_flush, h.flushes]
  settled := by rw [settled_flush, settled_flush, h.settled, h.flushes]

theorem of_scripts {input : List ReadOutcome} {writes : List WriteOutcome}
    (hi : ReadOutcome.uninterrupted input = ReadOutcome.uninterrupted con.input)
    (hw : WriteOutcome.uninterrupted writes = WriteOutcome.uninterrupted con.writes) :
    con.Alike { con with input := input, writes := writes } where
  input := hi
  writes := hw
  flushes := rfl
  settled := rfl

end Alike

end Console

namespace Machine

variable {σ : Type} {m : Machine σ} {con : Console}

theorem consoleAfter_alike (h : m.console.Alike con) :
    m.consoleAfter.Alike (m.withConsole con).consoleAfter := by
  unfold consoleAfter
  rw [nextAction?_withConsole]
  cases m.nextAction? with
  | none => exact h
  | some a => exact h.after a

/-- With an alike console a step gives the same result, and leaves an alike console and the same
machine otherwise. -/
theorem step_alike (h : m.console.Alike con) : ∃ con',
    (m.withConsole con).step = (m.step.1, m.step.2.withConsole con') ∧
      m.step.2.console.Alike con' := by
  obtain ⟨con', hstep⟩ := step_withConsole (m := m) fun a _ => h.sameReplies a
  refine ⟨con', hstep, ?_⟩
  have hcon : con' = (m.withConsole con).step.2.console := by rw [hstep]; rfl
  have hres : (m.withConsole con).step.1 = m.step.1 := by rw [hstep]
  have hafter := consoleAfter_alike h
  rw [hcon]
  cases he : m.step.1 with
  | ok s =>
    rw [console_step_of_ok he, console_step_of_ok (hres.trans he)]
    exact hafter
  | error e =>
    rw [console_step_of_error he, console_step_of_error (hres.trans he)]
    exact hafter.flush

/-- Two machines whose scripts for reading and writing differ in interruptions alone take the same
steps with the same results, however long they run. At every point they are the same machine but for
their consoles, and these have the same output, the same answers to come for their flushes, and the
same calls apart from those that were tried again. -/
theorem interruptions_invisible {input : List Console.ReadOutcome}
    {writes : List Console.WriteOutcome}
    (hi : Console.ReadOutcome.uninterrupted input =
      Console.ReadOutcome.uninterrupted m.console.input)
    (hw : Console.WriteOutcome.uninterrupted writes =
      Console.WriteOutcome.uninterrupted m.console.writes) (n : Nat) :
    ((m.withConsole { m.console with input := input, writes := writes }).afterSteps n).step.1 =
      (m.afterSteps n).step.1 ∧
    ∃ con, (m.withConsole { m.console with input := input, writes := writes }).afterSteps n =
        (m.afterSteps n).withConsole con ∧
      con.written = (m.afterSteps n).console.written ∧
      con.flushes = (m.afterSteps n).console.flushes ∧
      con.settled = (m.afterSteps n).console.settled := by
  obtain ⟨-, con, hm, halike⟩ := lockstep
    (fun m m' : Machine σ => ∃ con, m' = m.withConsole con ∧ m.console.Alike con)
    (fun _ => True)
    (fun m m' hm _ => by
      obtain ⟨con, rfl, halike⟩ := hm
      obtain ⟨con', hstep, halike'⟩ := step_alike halike
      rw [hstep]
      exact ⟨rfl, con', rfl, halike'⟩)
    ⟨_, rfl, .of_scripts hi hw⟩ (n := n) fun _ _ => trivial
  obtain ⟨con', hstep, -⟩ := step_alike halike
  rw [hm, hstep]
  exact ⟨rfl, con, rfl, halike.written, halike.flushes, halike.settled⟩

def echoing : Machine Unit :=
  ofMemory { cells := #[0xD0000100, 0xE0000100, 0], programLength := 3 } 0 {}
    { input := [.byte 7], writes := [.accepted] }

/-- The same machine, interrupted before, between and after the bytes. -/
def echoingAgain : Machine Unit :=
  echoing.withConsole { echoing.console with
    input := [.interrupted, .byte 7, .interrupted]
    writes := [.interrupted, .interrupted, .interrupted, .accepted] }

theorem echoingAgain_same :
    Console.ReadOutcome.uninterrupted echoingAgain.console.input =
      Console.ReadOutcome.uninterrupted echoing.console.input ∧
    Console.WriteOutcome.uninterrupted echoingAgain.console.writes =
      Console.WriteOutcome.uninterrupted echoing.console.writes ∧
    (echoingAgain.afterSteps 2).step.1 = .ok .halted ∧
    (echoingAgain.afterSteps 3).console.written = [7] ∧
    (echoingAgain.afterSteps 3).registers.get .r1 = 7 ∧
    (echoingAgain.afterSteps 3).console.calls.size =
      (echoing.afterSteps 3).console.calls.size + 4 := by
  have hi : Console.ReadOutcome.uninterrupted echoingAgain.console.input =
      Console.ReadOutcome.uninterrupted echoing.console.input := by rfl
  have hw : Console.WriteOutcome.uninterrupted echoingAgain.console.writes =
      Console.WriteOutcome.uninterrupted echoing.console.writes := by rfl
  have hhalt : (echoing.afterSteps 2).step.1 = .ok .halted := by rfl
  obtain ⟨con, hm, hwritten, -, -⟩ := (interruptions_invisible hi hw 3).2
  have hagain : echoingAgain.afterSteps 3 = (echoing.afterSteps 3).withConsole con := hm
  refine ⟨hi, hw, (interruptions_invisible hi hw 2).1.trans hhalt, ?_, ?_, by decide⟩
  · rw [hagain, console_withConsole, hwritten]
    decide
  · rw [hagain, registers_withConsole]
    decide

end Machine
end WordMachine
