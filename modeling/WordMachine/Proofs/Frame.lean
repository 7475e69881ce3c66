import Mathlib.Data.Finset.Card
import Mathlib.Data.Finset.Range
import WordMachine.Proofs.UnreadLocations
import WordMachine.Proofs.ZeroFlag

/-! The frame of a step. An instruction has one place for its result, which one of its fields names;
apart from the instruction pointer and the flags all else stays as it is. So a run of `n` steps has
changed at most `n` cells. -/
namespace WordMachine

/-- The field that names the place of the result, with the mode that belongs to it. -/
def Fetched.result? (f : Fetched) : Option (UInt8 × Bool) :=
  match f.opcode with
  | .move => some (f.instruction.b, f.instruction.modes.derefB)
  | .arithmetic _ => some (f.instruction.a, f.instruction.modes.derefA)
  | .input => some (f.instruction.c, f.instruction.modes.derefC)
  | .halt | .branch _ | .output | .builtin => none

def Memory.differing (mem mem' : Memory) : Finset Nat :=
  (Finset.range mem.length).filter fun i => mem'.cells[i]? ≠ mem.cells[i]?

namespace Machine

variable {σ : Type} {m m₁ m' : Machine σ} {D E : Destination → Prop}

/-- The places that the execution of an instruction can change. -/
inductive Touches (m : Machine σ) (f : Fetched) : Destination → Prop
  | pointer : Touches m f (.register .ip)
  | result {field : UInt8} {deref : Bool} {dst : Destination}
      (hr : f.result? = some (field, deref)) (hd : m.DestinationOf field deref dst) :
      Touches m f dst
  | flag (hz : m.Cancels) : Touches m f (.register .flags)
  /-- The standard builtin at index 2 clears the flags. -/
  | cleared (hop : f.opcode = .builtin) (ho : m.OperandOf f.instruction 2) :
      Touches m f (.register .flags)
  | returned (hop : f.opcode = .builtin) (hk : m.config.storeBuiltinResult = true) :
      Touches m f (.register .ret)

/-- The second machine has the registers and the memory of the first one, but for what is held at
the places in `D`. -/
structure KeepsOff (D : Destination → Prop) (m m' : Machine σ) : Prop where
  registers : ∀ r, ¬D (.register r) → m'.registers.get r = m.registers.get r
  cells : ∀ i : Nat, (∀ address, D (.cell address) → address.toNat ≠ i) →
    m'.memory.cells[i]? = m.memory.cells[i]?
  length : m'.memory.length = m.memory.length
  programLength : m'.memory.programLength = m.memory.programLength

namespace KeepsOff

theorem of_eq (hr : m'.registers = m.registers) (hm : m'.memory = m.memory) : KeepsOff D m m' where
  registers r _ := by rw [hr]
  cells i _ := by rw [hm]
  length := by rw [hm]
  programLength := by rw [hm]

theorem trans (h : KeepsOff D m m₁) (h' : KeepsOff D m₁ m') : KeepsOff D m m' where
  registers r hr := (h'.registers r hr).trans (h.registers r hr)
  cells i hi := (h'.cells i hi).trans (h.cells i hi)
  length := h'.length.trans h.length
  programLength := h'.programLength.trans h.programLength

theorem mono (h : KeepsOff D m m') (hD : ∀ dst, D dst → E dst) : KeepsOff E m m' where
  registers r hr := h.registers r fun hd => hr (hD _ hd)
  cells i hi := h.cells i fun address hd => hi address (hD _ hd)
  length := h.length
  programLength := h.programLength

theorem set {r : Register} (hr : D (.register r)) (w : Word) : KeepsOff D m (m.set r w) where
  registers s hs := RegisterFile.get_set_ne _ (fun he => hs (by rw [he]; exact hr)) w
  cells _ _ := rfl
  length := rfl
  programLength := rfl

theorem stored {w : Word} {dst : Destination} (hs : m.Stored w dst m') (hd : D dst) :
    KeepsOff D m m' := by
  cases hs with
  | register r => exact .set hd w
  | @cell address ha =>
    exact { registers := fun _ _ => rfl
            cells := fun i hi => Array.getElem?_set_ne ha (hi address hd)
            length := m.memory.length_put address w ha
            programLength := rfl }

theorem raise {flag : Bool} (hf : flag = true → D (.register .flags)) :
    KeepsOff D m (m.raise flag) := by
  cases flag with
  | false => exact .of_eq rfl rfl
  | true => exact .set (hf rfl) _

theorem of_untouched (h : m.Untouched m') (hip : D (.register .ip)) : KeepsOff D m m' where
  registers r hr := h.registers r fun he => hr (he ▸ hip)
  cells i _ := by rw [h.memory]
  length := by rw [h.memory]
  programLength := by rw [h.memory]

theorem returned [Inhabited σ] {index : Word} {c : Builtin.Call σ} (ht : m.builtins = .standard)
    (hc : m.builtins.call index m.registers m.memory = .ok c)
    (hflags : index = 2 → D (.register .flags))
    (hret : m.config.storeBuiltinResult = true → D (.register .ret)) :
    KeepsOff D m (m.returned c) := by
  have hcleared : KeepsOff D m (m.cleared index) := by
    unfold cleared
    split
    · exact .set (hflags ‹_›) 0
    · exact .of_eq rfl rfl
  rw [returned_standard_eq ht hc]
  cases hk : m.config.storeBuiltinResult with
  | false => exact hcleared.trans (.of_eq rfl rfl)
  | true => exact (hcleared.trans (.set (hret hk) _)).trans (.of_eq rfl rfl)

theorem memory_eq (h : KeepsOff D m m') (hD : ∀ address, ¬D (.cell address)) :
    m'.memory = m.memory :=
  Memory.ext_cells h.programLength
    (Array.ext_getElem? fun i => h.cells i fun address ha => absurd ha (hD address))

theorem exists_cell (h : KeepsOff D m m')
    (hone : ∀ a b, D (.cell a) → D (.cell b) → a = b) :
    ∃ i : Nat, ∀ j, j ≠ i → m'.memory.cells[j]? = m.memory.cells[j]? := by
  by_cases hd : ∃ address, D (.cell address)
  · obtain ⟨address, ha⟩ := hd
    exact ⟨address.toNat, fun j hj => h.cells j fun b hb => hone _ _ ha hb ▸ hj.symm⟩
  · exact ⟨0, fun j _ => h.cells j fun address ha => absurd ⟨address, ha⟩ hd⟩

end KeepsOff

theorem touches_of_target {f : Fetched} {a : Action} {dst : Destination} (ha : m.Intends f a)
    (ht : a.target? m.config.storeBuiltinResult = some dst) : m.Touches f dst := by
  cases ha with
  | move hop hd _ =>
    cases ht
    exact .result (by rw [Fetched.result?, hop]) hd
  | arithmetic hop ho _ =>
    cases ht
    exact .result (by rw [Fetched.result?, hop]) ho.destination
  | input hop hd =>
    cases ht
    exact .result (by rw [Fetched.result?, hop]) hd
  | builtin hop _ =>
    simp only [Action.target?, Option.ite_none_right_eq_some, Option.some.injEq] at ht
    rw [← ht.2]
    exact .returned hop ht.1
  | halt _ | branch _ _ | output _ _ => cases ht

/-- An action keeps all that its instruction does not touch, if it calls none but a standard
builtin. -/
theorem keepsOff_of_effect [Inhabited σ] {f : Fetched} {a : Action} {s : State}
    (hn : m.next? = some f) (ha : m.Intends f a) (he : (m.fetched f).Effect a s m₁)
    (ht : f.opcode = .builtin → m.builtins = .standard) :
    KeepsOff (m.Touches f) (m.fetched f) m₁ ∧ m₁.builtins = m.builtins := by
  have hmove (m₁ : Machine σ) (next : Word) : KeepsOff (m.Touches f) m₁ (m₁.set .ip next) :=
    .set .pointer next
  have htarget {dst : Destination} (h : a.target? m.config.storeBuiltinResult = some dst) :
      m.Touches f dst := touches_of_target ha h
  cases he with
  | halt _ => exact ⟨.of_eq rfl rfl, rfl⟩
  | @assign next dst w flag m₂ hs =>
    have hflag (h : flag = true) : m.Touches f (.register .flags) :=
      .flag (cancels_of_flag hn ha h hs.within)
    refine ⟨((hmove _ next).trans (.stored hs (htarget rfl))).trans (.raise hflag), ?_⟩
    rw [builtins_raise, hs.builtins_eq]
    rfl
  | @jump next => exact ⟨hmove _ next, rfl⟩
  | @read dst w _ _ _ hs =>
    have hkeeps := KeepsOff.stored hs (htarget rfl)
    refine ⟨{ hkeeps with }, ?_⟩
    rw [hs.builtins_eq]
    rfl
  | @write next byte _ => exact ⟨(hmove _ next).trans (.of_eq rfl rfl), rfl⟩
  | @call next index c hc =>
    cases ha with
    | builtin hop ho =>
      have hstd : ((m.fetched f).set .ip (m.pastOperands f.instruction)).builtins = .standard :=
        ht hop
      have hflags (hi : index = 2) : m.Touches f (.register .flags) := .cleared hop (hi ▸ ho)
      refine ⟨(hmove _ _).trans (.returned hstd hc hflags fun hk => .returned hop hk), ?_⟩
      have htable : (m.fetched f).builtins = .standard := ht hop
      rw [htable] at hc
      exact (Builtin.Table.call_standard_eq hc).2.1.trans (ht hop).symm

/-- A step keeps all that its instruction does not touch, and the builtins. -/
theorem keepsOff_step [Inhabited σ] {f : Fetched} (hn : m.next? = some f)
    (ht : f.opcode = .builtin → m.builtins = .standard) :
    KeepsOff (m.Touches f) m m.step.2 ∧ m.step.2.builtins = m.builtins := by
  obtain ⟨hr, hf⟩ := next?_eq_some_iff.mp hn
  rcases (course_step hr).effect_or_untouched with
    ⟨f', a, s, m₁, hf', ha, he, hregs, hmem, hb⟩ | hu
  · obtain rfl : f = f' := Except.ok.inj (hf.symm.trans hf')
    obtain ⟨hkeeps, hb₁⟩ := keepsOff_of_effect hn (resolve_eq_ok_iff.mp ha) he ht
    have hfetched : KeepsOff (m.Touches f) m (m.fetched f) :=
      KeepsOff.trans (.set .pointer (m.ip + 1)) (.of_eq rfl rfl)
    exact ⟨(hfetched.trans hkeeps).trans (.of_eq hregs hmem), hb.trans hb₁⟩
  · exact ⟨.of_untouched hu .pointer, hu.builtins⟩

/-- An instruction touches one cell at most. -/
theorem Touches.cell_eq {f : Fetched} {a b : Word} (ha : m.Touches f (.cell a))
    (hb : m.Touches f (.cell b)) : a = b := by
  cases ha with
  | result hr hd =>
    cases hb with
    | result hr' hd' =>
      cases hr.symm.trans hr'
      exact Destination.cell.inj (hd.eq hd')

theorem untouched_step_of_next?_eq_none (hn : m.next? = none) :
    m.step.2.memory = m.memory ∧ m.step.2.builtins = m.builtins := by
  by_cases hr : m.state = .running
  · rcases (course_step hr).effect_or_untouched with ⟨f, a, s, m₁, hf, -⟩ | hu
    · cases hn.symm.trans (next?_eq_some_iff.mpr ⟨hr, hf⟩)
    · exact ⟨hu.memory, hu.builtins⟩
  · rw [step_of_not_running hr]
    exact ⟨rfl, rfl⟩

theorem memory_step_of_standard [Inhabited σ] (ht : m.builtins = .standard) :
    m.step.2.builtins = .standard ∧ m.step.2.memory.length = m.memory.length ∧
    m.step.2.memory.programLength = m.memory.programLength ∧
    ∃ i : Nat, ∀ j, j ≠ i → m.step.2.memory.cells[j]? = m.memory.cells[j]? := by
  cases hn : m.next? with
  | none =>
    obtain ⟨hm, hb⟩ := untouched_step_of_next?_eq_none hn
    rw [hm, hb]
    exact ⟨ht, rfl, rfl, 0, fun _ _ => rfl⟩
  | some f =>
    obtain ⟨hk, hb⟩ := keepsOff_step hn fun _ => ht
    exact ⟨hb.trans ht, hk.length, hk.programLength, hk.exists_cell fun a b => Touches.cell_eq⟩

theorem builtins_afterSteps_of_standard [Inhabited σ] (ht : m.builtins = .standard) (n : Nat) :
    (m.afterSteps n).builtins = .standard :=
  afterSteps_induction (P := fun m' => m'.builtins = .standard)
    (fun _ h => (memory_step_of_standard h).1) ht n

/-- The extent of memory is the same after any run. -/
theorem memory_afterSteps_of_standard [Inhabited σ] (ht : m.builtins = .standard) (n : Nat) :
    (m.afterSteps n).memory.length = m.memory.length ∧
    (m.afterSteps n).memory.programLength = m.memory.programLength := by
  induction n with
  | zero => exact ⟨rfl, rfl⟩
  | succ n ih =>
    obtain ⟨-, hl, hp, -⟩ := memory_step_of_standard (builtins_afterSteps_of_standard ht n)
    rw [afterSteps_succ_eq_step]
    exact ⟨hl.trans ih.1, hp.trans ih.2⟩

/-- One more cell differs at most where one cell has changed. -/
theorem card_differing_le {mem mem₁ mem₂ : Memory} {i : Nat}
    (h : ∀ j, j ≠ i → mem₂.cells[j]? = mem₁.cells[j]?) :
    (mem.differing mem₂).card ≤ (mem.differing mem₁).card + 1 := by
  have hsub : mem.differing mem₂ ⊆ insert i (mem.differing mem₁) := by
    intro j hj
    simp only [Memory.differing, Finset.mem_insert, Finset.mem_filter] at hj ⊢
    by_cases he : j = i
    · exact .inl he
    · exact .inr ⟨hj.1, h j he ▸ hj.2⟩
  calc (mem.differing mem₂).card ≤ (insert i (mem.differing mem₁)).card := Finset.card_le_card hsub
    _ ≤ (mem.differing mem₁).card + 1 := Finset.card_insert_le ..

theorem card_differing_afterSteps_le [Inhabited σ] (ht : m.builtins = .standard) (n : Nat) :
    (m.memory.differing (m.afterSteps n).memory).card ≤ n := by
  induction n with
  | zero => simp [Memory.differing]
  | succ n ih =>
    obtain ⟨-, -, -, i, hi⟩ := memory_step_of_standard (builtins_afterSteps_of_standard ht n)
    rw [afterSteps_succ_eq_step]
    exact (card_differing_le hi).trans (Nat.add_le_add_right ih 1)

theorem Cancels.opcode_eq {f : Fetched} (hz : m.Cancels) (hn : m.next? = some f) :
    f.opcode = .arithmetic .sub := by
  obtain ⟨f', _, _, _, hn', hop, -⟩ := hz
  cases hn.symm.trans hn'
  exact hop

theorem Touches.eq_ip {f : Fetched} {dst : Destination} (ht : m.Touches f dst)
    (hn : m.next? = some f) (hr : f.result? = none) (hb : f.opcode ≠ .builtin) :
    dst = .register .ip := by
  cases ht with
  | pointer => rfl
  | result hr' _ => cases hr.symm.trans hr'
  | flag hz =>
    rw [Fetched.result?, hz.opcode_eq hn] at hr
    cases hr
  | cleared hop _ | returned hop _ => exact absurd hop hb

theorem Touches.of_builtin {f : Fetched} {dst : Destination} (ht : m.Touches f dst)
    (hn : m.next? = some f) (hb : f.opcode = .builtin) :
    dst = .register .ip ∨ (dst = .register .flags ∧ m.OperandOf f.instruction 2) ∨
      (dst = .register .ret ∧ m.config.storeBuiltinResult = true) := by
  cases ht with
  | pointer => exact .inl rfl
  | result hr' _ =>
    rw [Fetched.result?, hb] at hr'
    cases hr'
  | flag hz => cases hb.symm.trans (hz.opcode_eq hn)
  | cleared _ ho => exact .inr (.inl ⟨rfl, ho⟩)
  | returned _ hk => exact .inr (.inr ⟨rfl, hk⟩)

theorem step_of_result?_eq_none [Inhabited σ] {f : Fetched} (hn : m.next? = some f)
    (hr : f.result? = none) (hb : f.opcode ≠ .builtin) :
    m.step.2.memory = m.memory ∧
    ∀ r, r ≠ .ip → m.step.2.registers.get r = m.registers.get r := by
  have hkeeps : KeepsOff (· = .register .ip) m m.step.2 :=
    (keepsOff_step hn fun h => absurd h hb).1.mono fun _ ht => ht.eq_ip hn hr hb
  exact ⟨hkeeps.memory_eq nofun, fun r hr' => hkeeps.registers r fun he => hr' (by injection he)⟩

theorem step_of_builtin [Inhabited σ] {f : Fetched} (hn : m.next? = some f)
    (hb : f.opcode = .builtin) (ht : m.builtins = .standard) :
    m.step.2.memory = m.memory ∧
    ∀ r, r ≠ .ip → m.step.2.registers.get r ≠ m.registers.get r →
      (r = .flags ∧ m.OperandOf f.instruction 2) ∨
      (r = .ret ∧ m.config.storeBuiltinResult = true) := by
  have hkeeps := (keepsOff_step hn fun _ => ht).1.mono fun _ h => h.of_builtin hn hb
  refine ⟨hkeeps.memory_eq fun address ha => ?_, fun r hr hne => ?_⟩
  · rcases ha with h | ⟨h, -⟩ | ⟨h, -⟩ <;> cases h
  · by_contra hno
    refine hne (hkeeps.registers r ?_)
    rintro (h | ⟨h, ho⟩ | ⟨h, hk⟩)
    · exact hr (by injection h)
    · exact hno (.inl ⟨by injection h, ho⟩)
    · exact hno (.inr ⟨by injection h, hk⟩)

/-- A step that calls no builtin changes nothing but the instruction pointer, the one place of its
result, and the flags if it puts a difference of zero there. Through a run with the standard
builtins memory keeps its extent and changes in no more cells than there are steps; a call changes
no cell, and only the flags and the register for its result. -/
theorem step_frame [Inhabited σ] (m : Machine σ) :
    (∀ f, m.next? = some f → f.opcode ≠ .builtin →
      m.step.2.config = m.config ∧ m.step.2.builtins = m.builtins ∧
      KeepsOff (m.Touches f) m m.step.2 ∧
      (∀ a b, m.Touches f (.cell a) → m.Touches f (.cell b) → a = b) ∧
      (f.result? = none → m.step.2.memory = m.memory ∧
        ∀ r, r ≠ .ip → m.step.2.registers.get r = m.registers.get r)) ∧
    (m.builtins = .standard → ∀ n,
      (m.afterSteps n).memory.length = m.memory.length ∧
      (m.afterSteps n).memory.programLength = m.memory.programLength ∧
      (m.memory.differing (m.afterSteps n).memory).card ≤ n ∧
      ∀ f, (m.afterSteps n).next? = some f → f.opcode = .builtin →
        (m.afterSteps (n + 1)).memory = (m.afterSteps n).memory ∧
        ∀ r, r ≠ .ip →
          (m.afterSteps (n + 1)).registers.get r ≠ (m.afterSteps n).registers.get r →
          (r = .flags ∧ (m.afterSteps n).OperandOf f.instruction 2) ∨
          (r = .ret ∧ m.config.storeBuiltinResult = true)) := by
  refine ⟨fun f hn hb => ?_, fun ht n => ?_⟩
  · obtain ⟨hkeeps, hbuiltins⟩ := keepsOff_step hn fun h => absurd h hb
    exact ⟨config_step m, hbuiltins, hkeeps, fun a b => Touches.cell_eq,
      fun hr => step_of_result?_eq_none hn hr hb⟩
  · obtain ⟨hl, hp⟩ := memory_afterSteps_of_standard ht n
    refine ⟨hl, hp, card_differing_afterSteps_le ht n, fun f hn hb => ?_⟩
    rw [afterSteps_succ_eq_step, ← config_afterSteps m n]
    exact step_of_builtin hn hb (builtins_afterSteps_of_standard ht n)

def storingThenClearing : Machine Unit where
  registers := (RegisterFile.zeros.set .r1 4).set .flags 5
  memory := { cells := #[0x1A000010, 7, 0xF8000000, 2, 0], programLength := 4 }
  builtins := .standard

theorem storingThenClearing_framed :
    (storingThenClearing.afterSteps 1).memory.load 4 = .ok 7 ∧
    (∀ i, i ≠ 4 → storingThenClearing.step.2.memory.cells[i]? =
      storingThenClearing.memory.cells[i]?) ∧
    (storingThenClearing.afterSteps 1).flags = 5 ∧ (storingThenClearing.afterSteps 2).flags = 0 ∧
    (storingThenClearing.memory.differing (storingThenClearing.afterSteps 2).memory).card ≤ 2 ∧
    (storingThenClearing.afterSteps 2).memory = (storingThenClearing.afterSteps 1).memory := by
  obtain ⟨hstep, hrun⟩ := step_frame storingThenClearing
  obtain ⟨-, -, hkeeps, hone, -⟩ :=
    hstep ⟨0x1A000010, .decode 0x1A000010, .move⟩ (by rfl) (by decide)
  have htouches : storingThenClearing.Touches ⟨0x1A000010, .decode 0x1A000010, .move⟩ (.cell 4) :=
    .result (by rfl) ⟨.r1, by rfl, rfl⟩
  have hcells (i : Nat) (hi : i ≠ 4) : storingThenClearing.step.2.memory.cells[i]? =
      storingThenClearing.memory.cells[i]? :=
    hkeeps.cells i fun address ha => hone _ _ htouches ha ▸ hi.symm
  have hcall := (hrun rfl 1).2.2.2 ⟨0xF8000000, .decode 0xF8000000, .builtin⟩ (by rfl) rfl
  exact ⟨by rfl, hcells, by rfl, by rfl, (hrun rfl 2).2.2.1, hcall.1⟩

end Machine
end WordMachine
