import WordMachine.Proofs.Course
import WordMachine.Proofs.Lockstep

/-! More stack under the same run: as long as no step reaches past the end of memory or asks
how long it is, nothing tells a machine from one with more zeroed cells after its own. -/
namespace WordMachine

def Memory.pad (mem : Memory) (k : Nat) : Memory where
  cells := mem.cells ++ Array.replicate k 0
  programLength := mem.programLength
  programLength_le := by
    rw [Array.size_append]
    exact Nat.le_add_right_of_le mem.programLength_le

namespace Memory

@[simp] theorem length_pad (mem : Memory) (k : Nat) : (mem.pad k).length = mem.length + k := by
  simp [pad, length]

theorem load_pad {mem : Memory} {address w : Word} (h : mem.load address = .ok w) (k : Nat) :
    (mem.pad k).load address = .ok w := by
  rw [load_eq_ok_iff] at h ⊢
  have hlt := (Array.getElem?_eq_some_iff.mp h).1
  rw [pad, Array.getElem?_append_left hlt]
  exact h

theorem put_pad (mem : Memory) {address : Word} (w : Word) (k : Nat)
    (h : address.toNat < mem.length) (h' : address.toNat < (mem.pad k).length) :
    (mem.pad k).put address w h' = (mem.put address w h).pad k := by
  refine ext_cells rfl ?_
  exact Array.set_append_left h

/-- More stack is more of the same memory. -/
theorem ofProgram_pad {program : List Word} {stack : Nat} {mem : Memory} (k : Nat)
    (h : ofProgram program stack = .ok mem)
    (hfit : program.length + (stack + k) ≤ Word.addressSpace) :
    ofProgram program (stack + k) = .ok (mem.pad k) := by
  obtain ⟨mem', h'⟩ := exists_ofProgram hfit
  rw [h']
  refine congrArg Except.ok (ext_cells ?_ ?_)
  · exact (programLength_of_ofProgram h').trans (programLength_of_ofProgram h).symm
  · have hc : (mem.pad k).cells = mem.cells ++ Array.replicate k 0 := rfl
    rw [hc, cells_of_ofProgram h', cells_of_ofProgram h, Array.append_assoc,
      Array.replicate_append_replicate]

end Memory

/-- The second result is the first, unless the first reached past the end of memory. -/
def SameInBounds {α : Type} (x x' : Except Fault α) : Prop :=
  x' = x ∨ ∃ address length, x = .error (.memoryOutOfBounds address length)

namespace SameInBounds

variable {α β : Type} {x x' : Except Fault α}

theorem refl (x : Except Fault α) : SameInBounds x x := Or.inl rfl

theorem bind {f f' : α → Except Fault β} (h : SameInBounds x x') (hf : ∀ a, SameInBounds (f a) (f' a)) :
    SameInBounds (x >>= f) (x' >>= f') := by
  rcases h with rfl | ⟨address, length, rfl⟩
  · cases x' with
    | error e => exact .refl _
    | ok a => exact hf a
  · exact Or.inr ⟨address, length, rfl⟩

theorem map (h : SameInBounds x x') (f : α → β) : SameInBounds (x.map f) (x'.map f) := by
  rcases h with rfl | ⟨address, length, rfl⟩
  · exact .refl _
  · exact Or.inr ⟨address, length, rfl⟩

theorem eq_ok {a : α} (h : SameInBounds x x') (hx : x = .ok a) : x' = .ok a := by
  rcases h with rfl | ⟨address, length, he⟩
  · exact hx
  · rw [he] at hx
    cases hx

theorem eq_error {e : Fault} (h : SameInBounds x x') (hx : x = .error e)
    (he : ∀ address length, e ≠ .memoryOutOfBounds address length) : x' = .error e := by
  rcases h with rfl | ⟨address, length, hx'⟩
  · exact hx
  · rw [hx'] at hx
    exact absurd (Except.error.inj hx).symm (he address length)

end SameInBounds

theorem Memory.sameInBounds_load (mem : Memory) (k : Nat) (address : Word) :
    SameInBounds (mem.load address) ((mem.pad k).load address) := by
  cases h : mem.load address with
  | error e => exact Or.inr ⟨_, _, congrArg Except.error (load_eq_error_iff.mp h).2⟩
  | ok w => exact Or.inl (load_pad h k)

namespace Operand

theorem sameInBounds_dereference (mem : Memory) (k : Nat) (w : Word) (deref : Bool) :
    SameInBounds (dereference mem w deref) (dereference (mem.pad k) w deref) := by
  cases deref with
  | false => exact .refl _
  | true => exact mem.sameInBounds_load k w

theorem sameInBounds_source (file : RegisterFile) (mem : Memory) (k : Nat) (field : UInt8)
    (deref : Bool) : SameInBounds (source file mem field deref) (source file (mem.pad k) field deref) :=
  (SameInBounds.refl _).bind fun w => sameInBounds_dereference mem k w deref

variable (file : RegisterFile) (mem : Memory) (k : Nat) (ins : Instruction) (ip : Word)

theorem sameInBounds_raw : SameInBounds (raw file mem ins ip) (raw file (mem.pad k) ins ip) := by
  by_cases hi : ins.modes.immediate = true
  · simp only [raw, hi, if_true]
    exact (mem.sameInBounds_load k ip).map _
  · simp only [raw, hi]
    exact .refl _

theorem sameInBounds_single : SameInBounds (single file mem ins ip) (single file (mem.pad k) ins ip) :=
  (sameInBounds_raw file mem k ins ip).bind fun r =>
    (sameInBounds_dereference mem k r.value ins.modes.derefC).bind fun _ => .refl _

theorem sameInBounds_triple : SameInBounds (triple file mem ins ip) (triple file (mem.pad k) ins ip) :=
  (SameInBounds.refl _).bind fun _ =>
    (sameInBounds_source file mem k ins.b ins.modes.derefB).bind fun _ =>
      (sameInBounds_single file mem k ins ip).bind fun _ => .refl _

end Operand

theorem Action.sameInBounds_resolve (op : Opcode) (file : RegisterFile) (mem : Memory) (k : Nat)
    (ins : Instruction) (ip : Word) :
    SameInBounds (resolve op ins file mem ip) (resolve op ins file (mem.pad k) ip) := by
  have hs := Operand.sameInBounds_single file mem k ins ip
  cases op with
  | halt => exact .refl _
  | move => exact (SameInBounds.refl _).bind fun _ => hs.bind fun _ => .refl _
  | arithmetic op => exact (Operand.sameInBounds_triple file mem k ins ip).bind fun _ => .refl _
  | input => exact (SameInBounds.refl _).bind fun _ => .refl _
  | branch condition => exact hs.bind fun _ => .refl _
  | output => exact hs.bind fun _ => .refl _
  | builtin => exact hs.bind fun _ => .refl _

theorem Builtin.Table.call_standard_pad {σ : Type} [Inhabited σ] {index : Word}
    {file : RegisterFile} {mem : Memory} {c : Builtin.Call σ} (k : Nat)
    (h : standard.call index file mem = .ok c) :
    c.table = standard ∧ ∃ value,
      standard.call index file (mem.pad k) =
        .ok { c with value, memory := c.memory.pad k } ∧ (index ≠ 1 → value = c.value) := by
  rcases index_of_call_standard h with rfl | rfl | rfl
  · cases h
    exact ⟨rfl, _, rfl, fun _ => rfl⟩
  · cases h
    exact ⟨rfl, _, rfl, fun hne => absurd rfl hne⟩
  · cases h
    exact ⟨rfl, _, rfl, fun _ => rfl⟩

namespace Machine

variable {σ : Type} {m m₁ m' : Machine σ}

def enlarge (m : Machine σ) (k stack : Nat) (log : Array Event) : Machine σ :=
  { m with
    memory := m.memory.pad k
    config := { m.config with stackWords := stack }
    events := log }

variable (k stack : Nat) (log : Array Event)

theorem raise_enlarge (m : Machine σ) (flag : Bool) :
    (m.enlarge k stack log).raise flag = (m.raise flag).enlarge k stack log := by
  cases flag <;> rfl

theorem settle_enlarge (m : Machine σ) (s : State) :
    ∃ log', (m.enlarge k stack log).settle s = (m.settle s).enlarge k stack log' := by
  cases s <;> exact ⟨_, rfl⟩

theorem Stored.enlarge {w : Word} {dst : Destination} (h : m.Stored w dst m₁) :
    (m.enlarge k stack log).Stored w dst (m₁.enlarge k stack log) := by
  cases h with
  | register r => exact .register r
  | @cell address ha =>
    have ha' : address.toNat < (m.memory.pad k).length := by
      rw [Memory.length_pad]
      exact Nat.lt_add_right k ha
    have hm : ({ m with memory := m.memory.put address w ha } : Machine σ).enlarge k stack log =
        { m.enlarge k stack log with memory := (m.memory.pad k).put address w ha' } := by
      rw [m.memory.put_pad w k ha ha']
      rfl
    rw [hm]
    exact .cell ha'

/-- A builtin that only has another value to return leaves the same, if that is not stored. -/
theorem returned_enlarge (m : Machine σ) {c : Builtin.Call σ} {value : Word}
    (h : m.config.storeBuiltinResult = false ∨ value = c.value) :
    (m.enlarge k stack log).returned { c with value, memory := c.memory.pad k } =
      (m.returned c).enlarge k stack (log ++ c.events) := by
  rcases h with hs | rfl
  · simp [returned, enlarge, hs]
  · rfl

theorem Effect.enlarge [Inhabited σ] {a : Action} {s : State} (h : m.Effect a s m₁)
    (ht : m.builtins = .standard)
    (hc : m.config.storeBuiltinResult = false ∨ ∀ next, a ≠ .call next 1) :
    m₁.builtins = .standard ∧
      ∃ log', (m.enlarge k stack log).Effect a s (m₁.enlarge k stack log') := by
  cases h with
  | halt hf => exact ⟨ht, log, .halt hf⟩
  | @assign next w dst flag m₂ h =>
    have hb : m₂.builtins = .standard := by rw [h.builtins_eq]; exact ht
    refine ⟨by rw [builtins_raise]; exact hb, log, ?_⟩
    rw [← raise_enlarge]
    exact .assign (h.enlarge k stack log)
  | jump => exact ⟨ht, log, .jump⟩
  | read hf hr h =>
    have hb : m₁.builtins = .standard := by rw [h.builtins_eq]; exact ht
    exact ⟨hb, log, .read hf hr (h.enlarge k stack _)⟩
  | write hw => exact ⟨ht, log, .write hw⟩
  | @call next index c h =>
    rw [ht] at h
    obtain ⟨hb, value, h', hv⟩ := Builtin.Table.call_standard_pad k h
    have hvalue : m.config.storeBuiltinResult = false ∨ value = c.value :=
      hc.imp_right fun hne => hv fun hi => hne next (by rw [hi])
    refine ⟨hb, log ++ c.events, ?_⟩
    rw [← returned_enlarge k stack log (m.set .ip next) hvalue]
    refine .call ?_
    have hb' : (m.enlarge k stack log).builtins = .standard := ht
    rw [hb']
    exact h'

theorem fetch_enlarge {f : Fetched} (hf : m.fetch = .ok f) :
    (m.enlarge k stack log).fetch = .ok f := by
  obtain ⟨hl, hw⟩ := fetch_eq_ok_iff.mp hf
  exact fetch_eq_ok_iff.mpr ⟨Memory.load_pad hl k, hw⟩

theorem sameInBounds_resolve (m : Machine σ) (f : Fetched) :
    SameInBounds (m.resolve f) ((m.enlarge k stack log).resolve f) :=
  Action.sameInBounds_resolve f.opcode _ m.memory k f.instruction _

/-- A course that depends on the length of memory ends in a fault that names it, or asks the
standard builtin at index 1. -/
theorem Course.enlarge [Inhabited σ] {r : Except Fault State} (h : m.Course r m')
    (ht : m.builtins = .standard)
    (hr : ∀ address length, r ≠ .error (.memoryOutOfBounds address length))
    (ho : ∀ sp length, r ≠ .error (.stackOverflow sp length))
    (hc : m.config.storeBuiltinResult = false ∨
      ∀ f next, m.fetch = .ok f → m.resolve f ≠ .ok (.call next 1)) :
    m'.builtins = .standard ∧
      ∃ log', (m.enlarge k stack log).Course r (m'.enlarge k stack log') := by
  cases h with
  | unfetched hl =>
    rw [(Memory.load_eq_error_iff.mp hl).2] at hr
    exact absurd rfl (hr _ _)
  | rejected hl hw => exact ⟨ht, _, .rejected (Memory.load_pad hl k) hw⟩
  | @unresolved f _ hf ha =>
    have ha' := (sameInBounds_resolve k stack log m f).eq_error ha fun _ _ he =>
      hr _ _ (by rw [he])
    exact ⟨ht, _, .unresolved (fetch_enlarge k stack log hf) ha'⟩
  | @refused f a e hf ha href =>
    have ha' := (sameInBounds_resolve k stack log m f).eq_ok ha
    have href' : ((m.enlarge k stack log).fetched f).Refusal a e :=
      href.congr rfl rfl (Or.inr fun _ _ he => hr _ _ (by rw [he]))
    exact ⟨ht, _, .refused (fetch_enlarge k stack log hf) ha' href'⟩
  | overflowed _ _ _ _ _ => exact absurd rfl (ho _ _)
  | @completed f a s m₁ hf ha he hg =>
    have ha' := (sameInBounds_resolve k stack log m f).eq_ok ha
    have hc' : (m.fetched f).config.storeBuiltinResult = false ∨ ∀ next, a ≠ .call next 1 :=
      hc.imp_right fun hn next hi => hn f next hf (by rw [ha, hi])
    obtain ⟨hb, log₁, he'⟩ := he.enlarge k stack ((m.enlarge k stack log).fetched f).events ht hc'
    obtain ⟨log₂, hs⟩ := settle_enlarge k stack log₁ m₁ s
    refine ⟨by rw [builtins_settle]; exact hb, log₂, ?_⟩
    rw [← hs]
    refine .completed (fetch_enlarge k stack log hf) ha' he' fun hrun hguard => ?_
    exact Nat.le_trans (hg hrun hguard) (by simp [Machine.enlarge])

def Calls (m : Machine σ) (index : Word) : Prop :=
  ∃ next, m.nextAction? = some (.call next index)

/-- The next step meets no fault that names the length of memory and stores no such length. -/
structure SizeBlind (m : Machine σ) : Prop where
  inBounds : ∀ address length, m.step.1 ≠ .error (.memoryOutOfBounds address length)
  guarded : ∀ sp length, m.step.1 ≠ .error (.stackOverflow sp length)
  unasked : m.config.storeBuiltinResult = false ∨ ¬m.Calls 1

theorem SizeBlind.step_enlarge [Inhabited σ] (h : m.SizeBlind) (ht : m.builtins = .standard) :
    m.step.2.builtins = .standard ∧
      ∃ log', (m.enlarge k stack log).step = (m.step.1, m.step.2.enlarge k stack log') := by
  by_cases hr : m.state = .running
  · have hc : m.config.storeBuiltinResult = false ∨
        ∀ f next, m.fetch = .ok f → m.resolve f ≠ .ok (.call next 1) :=
      h.unasked.imp_right fun hn f next hf ha => hn ⟨next, nextAction?_of_resolve hr hf ha⟩
    obtain ⟨hb, log', hcourse⟩ := (course_step hr).enlarge k stack log ht h.inBounds h.guarded hc
    exact ⟨hb, log', hcourse.step_eq hr⟩
  · have hr' : (m.enlarge k stack log).state ≠ .running := hr
    rw [step_of_not_running hr, step_of_not_running hr']
    exact ⟨ht, log, rfl⟩

/-- The second machine has `k` zeroed cells after the memory of the first one, and else nothing
that a program or its surroundings could tell from the first. -/
structure Extends (k : Nat) (m m' : Machine σ) : Prop where
  registers : m'.registers = m.registers
  memory : m'.memory = m.memory.pad k
  builtins : m'.builtins = m.builtins
  console : m'.console = m.console
  state : m'.state = m.state

/-- Machines with more stack for the same program give the same results as long as the one with
less stays within its memory and its stack and does not store how much there is. What they have
in memory differs then only in cells that are still zero. -/
theorem same_run_on_larger_stack [Inhabited σ] (program : List Word) (config : Config)
    (console : Console) {s s' : Nat} (hs : s ≤ s')
    (hfit : program.length + s' ≤ Word.addressSpace) :
    ∃ m m' : Machine σ,
      ofProgram program { config with stackWords := s } console = .ok m ∧
      ofProgram program { config with stackWords := s' } console = .ok m' ∧
      ∀ n,
        (∀ i < n, ∀ address length,
          (m.afterSteps i).step.1 ≠ .error (.memoryOutOfBounds address length)) →
        (∀ i < n, ∀ sp length, (m.afterSteps i).step.1 ≠ .error (.stackOverflow sp length)) →
        (config.storeBuiltinResult = false ∨ ∀ i < n, ¬(m.afterSteps i).Calls 1) →
        (∀ i < n, (m'.afterSteps i).step.1 = (m.afterSteps i).step.1) ∧
          Extends (s' - s) (m.afterSteps n) (m'.afterSteps n) := by
  obtain ⟨k, rfl⟩ := Nat.exists_eq_add_of_le hs
  have hfit' : program.length + s ≤ Word.addressSpace := by omega
  obtain ⟨mem, hmem⟩ := Memory.exists_ofProgram hfit'
  let m : Machine σ := ofMemory mem 0 { config with stackWords := s } console
  let log : Array Event := #[.created mem.programLength (mem.pad k).length 0]
  have hm' := Memory.ofProgram_pad k hmem hfit
  refine ⟨m, m.enlarge k (s + k) log, ?_, ?_, fun n hb hg hc => ?_⟩
  · exact Fault.map_eq_ok_iff.mpr ⟨mem, hmem, rfl⟩
  · exact Fault.map_eq_ok_iff.mpr ⟨_, hm', rfl⟩
  · have hblind : ∀ i < n, (m.afterSteps i).SizeBlind := fun i hi =>
      { inBounds := hb i hi
        guarded := hg i hi
        unasked := by
          rw [config_afterSteps]
          exact hc.imp_right fun hn => hn i hi }
    obtain ⟨hres, -, log', hlast⟩ := lockstep
      (fun m m' : Machine σ => m.builtins = .standard ∧ ∃ log, m' = m.enlarge k (s + k) log)
      SizeBlind
      (fun m₁ m₂ hR hq => by
        obtain ⟨ht, log₁, rfl⟩ := hR
        obtain ⟨ht', log₂, hstep⟩ := hq.step_enlarge k (s + k) log₁ ht
        rw [hstep]
        exact ⟨rfl, ht', log₂, rfl⟩)
      ⟨rfl, log, rfl⟩ hblind
    refine ⟨hres, ?_⟩
    rw [hlast, Nat.add_sub_cancel_left]
    exact { registers := rfl, memory := rfl, builtins := rfl, console := rfl, state := rfl }

/-- A word is about to be put where the stack pointer stands, on the only cell after the program. -/
def pushingOnce : Machine Unit :=
  ofMemory { cells := #[0x1A0000B0, 7, 0, 0], programLength := 3 } 0 { stackWords := 1 } {}

theorem pushingOnce_same_run :
    (pushingOnce.afterSteps 1).memory.load 3 = .ok 7 ∧
    ∃ m' : Machine Unit, ofProgram [0x1A0000B0, 7, 0] { stackWords := 4 } {} = .ok m' ∧
      (m'.afterSteps 1).step.1 = .ok .halted ∧
      Extends 3 (pushingOnce.afterSteps 2) (m'.afterSteps 2) := by
  have hm : ofProgram [0x1A0000B0, 7, 0] { stackWords := 1 } {} = .ok pushingOnce := rfl
  have hres : ∀ i < 2, ∀ e, (pushingOnce.afterSteps i).step.1 ≠ .error e := by
    intro i hi e
    obtain rfl | rfl : i = 0 ∨ i = 1 := by omega
    · have h : (pushingOnce.afterSteps 0).step.1 = .ok .running := by rfl
      rw [h]
      nofun
    · have h : (pushingOnce.afterSteps 1).step.1 = .ok .halted := by rfl
      rw [h]
      nofun
  obtain ⟨m, m', h, h', hrun⟩ :=
    @same_run_on_larger_stack Unit _ [0x1A0000B0, 7, 0] {} {} 1 4 (by decide) (by decide)
  obtain rfl : pushingOnce = m := Except.ok.inj (hm.symm.trans h)
  obtain ⟨hsame, hext⟩ :=
    hrun 2 (fun i hi _ _ => hres i hi _) (fun i hi _ _ => hres i hi _) (Or.inl rfl)
  refine ⟨rfl, m', h', ?_, hext⟩
  rw [hsame 1 (by decide)]
  rfl

end Machine
end WordMachine
