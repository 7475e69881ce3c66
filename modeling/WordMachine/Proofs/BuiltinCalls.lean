import WordMachine.Proofs.ZeroFlag

/-! The call of a builtin. It finds the machine past the call and its operand, what it leaves is what
the machine then has, and only the result and the stack guard come after it. -/
namespace WordMachine

def Event.call? : Event → Option (Word × String)
  | called index name => some (index, name)
  | created _ _ _ | fetched _ _ _ _ | reported _ | halted _ | failed _ _ _ => none

namespace Machine

variable {σ : Type} {m m' : Machine σ} {f : Fetched} {k : Word} {b : Builtin σ}

def callLog (m : Machine σ) : List (Word × String) := m.events.toList.filterMap Event.call?

/-- What a builtin gives and leaves when a fetched instruction calls it. -/
def resultOf (m : Machine σ) (f : Fetched) (b : Builtin σ) : Builtin.Result σ :=
  b.invoke (m.registers.set .ip (m.pastOperands f.instruction)) m.memory

/-- The second machine is the first one after one call, of the builtin `b` at the index `k`, that has
come to `r`. -/
structure HasCalled (m : Machine σ) (k : Word) (b : Builtin σ) (r : Builtin.Result σ)
    (m' : Machine σ) : Prop where
  registers : ∀ q, m'.registers.get q =
    if q = .ret ∧ m.config.storeBuiltinResult = true then r.value else r.registers.get q
  memory : m'.memory = r.memory
  entry : m'.builtins.entries[k.toNat]? = some (b.capture r.captured)
  others : ∀ i, i ≠ k.toNat → m'.builtins.entries[i]? = m.builtins.entries[i]?
  callLog : m'.callLog = m.callLog ++ [(k, b.name)]

theorem callLog_report {e : Event} (h : e.call? = none) : (m.report e).callLog = m.callLog := by
  rw [callLog, events_report, List.filterMap_append]
  simp [h, callLog]

theorem callLog_returned {c : Builtin.Call σ} {log : List Log.Entry}
    (h : c.events = .called k b.name :: log.map .reported) :
    (m.returned c).callLog = m.callLog ++ [(k, b.name)] := by
  have hlog : (log.map Event.reported).filterMap Event.call? = [] :=
    List.filterMap_eq_nil_iff.mpr fun e he => by
      obtain ⟨entry, -, rfl⟩ := List.mem_map.mp he
      rfl
  simp [callLog, returned, h, Event.call?, hlog]

theorem Untouched.callLog_eq (h : m.Untouched m') : m'.callLog = m.callLog := by
  obtain ⟨reported, hevents, hnone⟩ := h.uncalled
  have hnew : reported.filterMap Event.call? = [] := by
    refine List.filterMap_eq_nil_iff.mpr fun e he => ?_
    cases e with
    | called index name => exact absurd he (hnone index name)
    | created _ _ _ | fetched _ _ _ _ | reported _ | halted _ | failed _ _ _ => rfl
  rw [callLog, hevents, List.filterMap_append, hnew, List.append_nil, callLog]

theorem exists_effect_of_entry (hb : m.builtins.entries[k.toNat]? = some b) : ∃ m₁,
    (m.fetched f).Effect (.call (m.pastOperands f.instruction) k) .running m₁ ∧
    m₁.state = m.state ∧ m₁.config = m.config ∧ m.HasCalled k b (m.resultOf f b) m₁ := by
  have hset : (m.fetched f).registers.set .ip (m.pastOperands f.instruction) =
      m.registers.set .ip (m.pastOperands f.instruction) := RegisterFile.set_set ..
  have hc := Builtin.Table.call_of_entry hb
    (m.registers.set .ip (m.pastOperands f.instruction)) m.memory
  rw [← hset] at hc
  refine ⟨_, .call hc, rfl, rfl, ?_⟩
  rw [hset]
  have hlt : k.toNat < m.builtins.entries.length := (List.getElem?_eq_some_iff.mp hb).1
  exact
    { registers := fun q => by
        cases hk : m.config.storeBuiltinResult with
        | false => simp [returned, hk, resultOf]
        | true => simp [returned, hk, resultOf, RegisterFile.get_set]
      memory := rfl
      entry := List.getElem?_set_self hlt
      others := fun i hi => List.getElem?_set_ne hi.symm
      callLog := (callLog_returned rfl).trans
        (congrArg (· ++ _) (callLog_report (m := m.set .ip (m.ip + 1)) rfl)) }

theorem HasCalled.sp_eq {r : Builtin.Result σ} (h : m.HasCalled k b r m') :
    m'.sp = r.registers.get .sp := by
  have hsp := h.registers .sp
  rwa [if_neg fun hr => by cases hr.1] at hsp

theorem HasCalled.concluded {r : Builtin.Result σ} (h : m.HasCalled k b r m') :
    m.HasCalled k b r m'.concluded.2 := by
  unfold Machine.concluded
  split
  · exact { h with callLog := (callLog_report rfl).trans h.callLog }
  · exact h

/-- A call with an operand `k` below the number of builtins invokes the one at `k` and no other, once,
with the registers as they are past the instruction and its operand, and with the memory. Registers,
memory and captured state are what it leaves, but for the result, which is kept last; then the guard
looks at the stack pointer and the memory that there are. With any other operand nothing is invoked,
and only the instruction pointer moves. -/
theorem builtin_call_step (hr : m.state = .running) (hf : m.fetch = .ok f)
    (hop : f.opcode = .builtin) (ho : m.OperandOf f.instruction k) :
    (k.toNat < m.builtins.length → ∃ b, m.builtins.entries[k.toNat]? = some b ∧
      m.HasCalled k b (m.resultOf f b) m.step.2 ∧
      m.step.1 =
        if m.config.stackGuard = true ∧
            (m.resultOf f b).memory.length < ((m.resultOf f b).registers.get .sp).toNat then
          .error (.stackOverflow ((m.resultOf f b).registers.get .sp)
            (m.resultOf f b).memory.length)
        else .ok .running) ∧
    (m.builtins.length ≤ k.toNat →
      m.step.1 = .error (.invalidBuiltin k m.builtins.length) ∧
      m.step.2.memory = m.memory ∧
      (∀ q, q ≠ .ip → m.step.2.registers.get q = m.registers.get q) ∧
      m.step.2.builtins = m.builtins ∧ m.step.2.callLog = m.callLog) := by
  have ha : m.resolve f = .ok (.call (m.pastOperands f.instruction) k) :=
    resolve_eq_ok_iff.mpr (.builtin hop ho)
  refine ⟨fun hk => ?_, fun hk => ?_⟩
  · obtain ⟨b, hb⟩ : ∃ b, m.builtins.entries[k.toNat]? = some b :=
      ⟨_, List.getElem?_eq_getElem hk⟩
    obtain ⟨m₁, he, hstate, hconfig, hcalled⟩ := exists_effect_of_entry (f := f) hb
    rw [step_of_effect hr hf ha he (hstate.trans hr)]
    refine ⟨b, hb, hcalled.concluded, ?_⟩
    rw [concluded, hconfig, hcalled.sp_eq, hcalled.memory]
    split <;> rfl
  · have hc := Course.refused hf ha (.call (m := m.fetched f) hk)
    have hu := hc.untouched fun _ _ he => by cases he
    rw [hc.step_eq hr]
    exact ⟨rfl, hu.memory, hu.registers, hu.builtins, hu.callLog_eq⟩

/-- A builtin that jumps behind the word after the call, counts its calls and leaves a word of its own
where its result is kept. -/
def callingJumper : Machine Word where
  registers := .zeros
  memory := { cells := #[0xF8000000, 1, 0, 0xF8000000, 2], programLength := 5 }
  builtins := ⟨[Builtin.clearFlags 7,
    { name := "jump", captured := 41,
      body := fun s file mem =>
        { value := s, registers := (file.set .ip (file.get .ip + 1)).set .ret 99, memory := mem,
          captured := s + 1 } }]⟩
  config := { storeBuiltinResult := true }

theorem callingJumper_calls :
    callingJumper.step.1 = .ok .running ∧ callingJumper.step.2.ip = 3 ∧
    callingJumper.step.2.registers.get .ret = 41 ∧
    callingJumper.step.2.callLog = [(1, "jump")] ∧
    callingJumper.step.2.builtins.entries.map (·.captured) = [7, 42] ∧
    callingJumper.step.2.step.1 = .error (.invalidBuiltin 2 2) := by
  have hf : callingJumper.fetch = .ok ⟨0xF8000000, .decode 0xF8000000, .builtin⟩ := by rfl
  obtain ⟨hcall, -⟩ := builtin_call_step (k := 1) rfl hf rfl ⟨1, by rfl, rfl⟩
  obtain ⟨b, hb, hcalled, hstep⟩ := hcall (by decide)
  obtain rfl := Option.some.inj hb
  have hnext : callingJumper.step.2.fetch =
      .ok ⟨0xF8000000, .decode 0xF8000000, .builtin⟩ := by rfl
  obtain ⟨-, hnone⟩ := builtin_call_step (k := 2) (by rfl) hnext rfl ⟨2, by rfl, rfl⟩
  exact ⟨hstep.trans (by rfl), (hcalled.registers .ip).trans (by rfl),
    (hcalled.registers .ret).trans (by rfl), hcalled.callLog.trans (by rfl), by rfl,
    (hnone (by decide)).1⟩

end Machine
end WordMachine
