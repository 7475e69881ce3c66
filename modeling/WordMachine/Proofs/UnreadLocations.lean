import WordMachine.Proofs.Footprint
import WordMachine.Proofs.Lockstep

/-! What is not read has no influence: machines that differ only in places that no step looks at
give the same results, and a place that is written is the same from then on. -/
namespace WordMachine

theorem Builtin.Table.call_standard_eq {σ : Type} [Inhabited σ] {index : Word}
    {file : RegisterFile} {mem : Memory} {c : Builtin.Call σ}
    (h : standard.call index file mem = .ok c) :
    c.memory = mem ∧ c.table = standard ∧
      c.value = (if index = 1 then UInt32.ofNat mem.length else 0) ∧
      c.registers = if index = 2 then file.set .flags 0 else file := by
  rcases index_of_call_standard h with rfl | rfl | rfl <;> cases h <;> exact ⟨rfl, rfl, rfl, rfl⟩

namespace Machine

variable {σ : Type} {m m' m₁ : Machine σ} {D E : Destination → Prop}

/-- The two machines are the same but for the log and for what they hold at the places in `D`. -/
structure AgreeOff (D : Destination → Prop) (m m' : Machine σ) : Prop where
  registers : ∀ r, ¬D (.register r) → m'.registers.get r = m.registers.get r
  cells : ∀ i : Nat, (∀ address, D (.cell address) → address.toNat ≠ i) →
    m'.memory.cells[i]? = m.memory.cells[i]?
  length : m'.memory.length = m.memory.length
  programLength : m'.memory.programLength = m.memory.programLength
  builtins : m'.builtins = m.builtins
  console : m'.console = m.console
  config : m'.config = m.config
  state : m'.state = m.state

/-- Places that a machine never asks for its own sake. -/
structure Plain (D : Destination → Prop) : Prop where
  ip : ¬D (.register .ip)
  sp : ¬D (.register .sp)
  flags : ¬D (.register .flags)

def cleared (m : Machine σ) (index : Word) : Machine σ :=
  if index = 2 then m.set .flags 0 else m

theorem returned_standard_eq [Inhabited σ] {index : Word} {c : Builtin.Call σ}
    (ht : m.builtins = .standard) (hc : m.builtins.call index m.registers m.memory = .ok c) :
    m.returned c =
      { if m.config.storeBuiltinResult then
          (m.cleared index).set .ret (if index = 1 then UInt32.ofNat m.memory.length else 0)
        else m.cleared index with
        events := m.events ++ c.events } := by
  rw [ht] at hc
  obtain ⟨hmem, htab, hval, hreg⟩ := Builtin.Table.call_standard_eq hc
  have hcleared : m.cleared index =
      { m with registers := c.registers, memory := c.memory, builtins := c.table } := by
    rw [cleared, hmem, htab, hreg, ← ht]
    split <;> rfl
  rw [hcleared, ← hval, returned]
  split <;> rfl

namespace AgreeOff

theorem mono (h : AgreeOff D m m') (hDE : ∀ l, D l → E l) : AgreeOff E m m' :=
  { h with
    registers := fun r hr => h.registers r fun hd => hr (hDE _ hd)
    cells := fun i hi => h.cells i fun address hd => hi address (hDE _ hd) }

theorem load_eq (h : AgreeOff D m m') {address : Word} (hd : ¬D (.cell address)) :
    m'.memory.load address = m.memory.load address := by
  have hc := h.cells address.toNat fun other ho he => hd (UInt32.toNat_inj.mp he ▸ ho)
  rw [Memory.load, hc, Memory.load, Memory.outOfBounds, h.length]
  rfl

/-- Machines that differ nowhere are the same but for the log. -/
theorem eq_of_nowhere (h : AgreeOff (fun _ => False) m m') :
    m' = { m with events := m'.events } := by
  have hregs : m'.registers = m.registers := RegisterFile.ext_get fun r => h.registers r id
  have hcells : m'.memory.cells = m.memory.cells :=
    Array.ext_getElem? fun i => h.cells i fun _ hf => hf.elim
  have hmem : m'.memory = m.memory := Memory.ext_cells h.programLength hcells
  have hb := h.builtins
  have hcon := h.console
  have hcfg := h.config
  have hst := h.state
  cases m'
  simp_all

theorem ip_eq (h : AgreeOff D m m') (hD : Plain D) : m'.ip = m.ip := h.registers .ip hD.ip

theorem set (h : AgreeOff D m m') (r : Register) (w : Word) :
    AgreeOff (fun l => D l ∧ l ≠ .register r) (m.set r w) (m'.set r w) :=
  { h with
    registers := fun s hs => by
      rw [registers_set, registers_set, RegisterFile.get_set, RegisterFile.get_set]
      split
      · rfl
      · rename_i hne
        exact h.registers s fun hd => hs ⟨hd, fun he => hne (Destination.register.inj he)⟩
    cells := fun i hi => h.cells i fun address hd => hi address ⟨hd, nofun⟩ }

theorem withEvents (h : AgreeOff D m m') (log log' : Array Event) :
    AgreeOff D { m with events := log } { m' with events := log' } :=
  { h with }

theorem fetched (h : AgreeOff D m m') (hD : Plain D) (f : Fetched) :
    AgreeOff D (m.fetched f) (m'.fetched f) := by
  have hset := (h.set .ip (m.ip + 1)).mono fun _ hl => hl.1
  rw [Machine.fetched, Machine.fetched, h.ip_eq hD]
  exact { hset with }

theorem onConsole (h : AgreeOff D m m') (con : Console) :
    AgreeOff D { m with console := con } { m' with console := con } :=
  { h with console := rfl }

theorem refused (h : AgreeOff D m m') (hD : Plain D) (a : Action) :
    AgreeOff D (m.refused a) (m'.refused a) := by
  rw [Machine.refused, Machine.refused, h.ip_eq hD, h.console]
  exact ((h.set .ip (a.resume m.ip)).mono fun _ hl => hl.1).onConsole _

theorem fail (h : AgreeOff D m m') (e : Fault) : AgreeOff D (m.fail e) (m'.fail e) :=
  { h with
    console := by rw [console_fail, console_fail, h.console]
    state := rfl }

theorem settle (h : AgreeOff D m m') (s : State) : AgreeOff D (m.settle s) (m'.settle s) := by
  cases s <;> exact { h with state := rfl }

theorem raise (h : AgreeOff D m m') (hD : Plain D) (flag : Bool) :
    AgreeOff D (m.raise flag) (m'.raise flag) := by
  cases flag with
  | false => exact h
  | true =>
    have hset := (h.set .flags (m.registers.get .flags ||| RegisterFile.zeroFlagBit)).mono
      fun _ hl => hl.1
    have hm' : m'.raise true =
        m'.set .flags (m.registers.get .flags ||| RegisterFile.zeroFlagBit) := by
      rw [← h.registers .flags hD.flags]
      rfl
    rw [hm']
    exact hset

theorem stored (h : AgreeOff D m m') {w : Word} {dst : Destination} (hs : m.Stored w dst m₁) :
    ∃ m₁', m'.Stored w dst m₁' ∧ AgreeOff (fun l => D l ∧ l ≠ dst) m₁ m₁' := by
  cases hs with
  | register r => exact ⟨_, .register r, h.set r w⟩
  | @cell address ha =>
    have ha' : address.toNat < m'.memory.length := h.length ▸ ha
    have hcells : ∀ i : Nat, (∀ other, D (.cell other) ∧ Destination.cell other ≠ .cell address →
        other.toNat ≠ i) → (m'.memory.put address w ha').cells[i]? =
          (m.memory.put address w ha).cells[i]? := by
      intro i hi
      simp only [Memory.put, Array.getElem?_set]
      split
      · rfl
      · rename_i hne
        exact h.cells i fun other hd he =>
          hi other ⟨hd, fun heq => hne (Destination.cell.inj heq ▸ he)⟩ he
    refine ⟨_, .cell ha', { h with registers := ?_, cells := hcells, length := ?_ }⟩
    · intro r hr
      exact h.registers r fun hd => hr ⟨hd, Destination.noConfusion⟩
    · simpa using h.length

theorem returned [Inhabited σ] (h : AgreeOff D m m') {next index : Word}
    {c : Builtin.Call σ} (ht : m.builtins = .standard)
    (hc : m.builtins.call index m.registers m.memory = .ok c) :
    ∃ c', m'.builtins.call index m'.registers m'.memory = .ok c' ∧
      AgreeOff (fun l => D l ∧ (Action.call next index).target? m.config.storeBuiltinResult ≠ some l)
        (m.returned c) (m'.returned c') := by
  have ht' : m'.builtins = .standard := h.builtins.trans ht
  obtain ⟨c', hc'⟩ : ∃ c', m'.builtins.call index m'.registers m'.memory = .ok c' := by
    cases hc' : m'.builtins.call index m'.registers m'.memory with
    | ok c' => exact ⟨c', rfl⟩
    | error e =>
      have hlen := (Builtin.Table.call_eq_error_iff.mp hc').1
      rw [h.builtins] at hlen
      rw [Builtin.Table.call_eq_error_iff.mpr ⟨hlen, rfl⟩] at hc
      cases hc
  refine ⟨c', hc', ?_⟩
  rw [returned_standard_eq ht hc, returned_standard_eq ht' hc', h.config, h.length]
  have hcleared : AgreeOff D (m.cleared index) (m'.cleared index) := by
    unfold cleared
    split
    · exact (h.set .flags 0).mono fun _ hl => hl.1
    · exact h
  cases hk : m.config.storeBuiltinResult with
  | false => exact (hcleared.withEvents _ _).mono fun l hl => ⟨hl, nofun⟩
  | true =>
    refine ((hcleared.set .ret _).withEvents _ _).mono fun l hl => ⟨hl.1, fun he => hl.2 ?_⟩
    exact (Option.some.inj he).symm

theorem effect [Inhabited σ] (h : AgreeOff D m m') (hD : Plain D) (ht : m.builtins = .standard)
    {a : Action} {s : State} (he : m.Effect a s m₁) :
    m₁.builtins = .standard ∧ ∃ m₁', m'.Effect a s m₁' ∧
      AgreeOff (fun l => D l ∧ a.target? m.config.storeBuiltinResult ≠ some l) m₁ m₁' := by
  have hmoved (next : Word) : AgreeOff D (m.set .ip next) (m'.set .ip next) :=
    (h.set .ip next).mono fun _ hl => hl.1
  cases he with
  | halt hf =>
    refine ⟨ht, _, .halt (h.console ▸ hf), ?_⟩
    rw [h.console]
    exact (h.onConsole _).mono fun l hl => ⟨hl, nofun⟩
  | @assign next w dst flag m₂ hs =>
    obtain ⟨m₂', hs', ha⟩ := (hmoved next).stored hs
    have hD' : Plain fun l => D l ∧ l ≠ dst :=
      ⟨fun hl => hD.ip hl.1, fun hl => hD.sp hl.1, fun hl => hD.flags hl.1⟩
    refine ⟨by rw [builtins_raise, hs.builtins_eq]; exact ht, _, .assign hs', ?_⟩
    exact (ha.raise hD' flag).mono fun l hl =>
      ⟨hl.1, fun he => hl.2 (Option.some.inj he).symm⟩
  | jump => exact ⟨ht, _, .jump, (hmoved _).mono fun l hl => ⟨hl, nofun⟩⟩
  | @read dst w _ hf hr hs =>
    have hcon := h.onConsole (m.console.after (.read dst))
    obtain ⟨m₁', hs', ha⟩ := hcon.stored hs
    rw [← h.console] at hf hr hs'
    refine ⟨by rw [hs.builtins_eq]; exact ht, m₁', .read hf hr hs', ?_⟩
    exact ha.mono fun l hl => ⟨hl.1, fun he => hl.2 (Option.some.inj he).symm⟩
  | @write next byte hw =>
    refine ⟨ht, _, .write (h.console ▸ hw), ?_⟩
    rw [h.console]
    exact ((hmoved next).onConsole _).mono fun l hl => ⟨hl, nofun⟩
  | @call next index c hc =>
    obtain ⟨c', hc', ha⟩ := (hmoved next).returned ht hc
    have htab := (Builtin.Table.call_standard_eq (ht ▸ hc)).2.1
    exact ⟨htab, _, .call hc', ha⟩

theorem sameAt (h : AgreeOff D m m') (next : Word) {l : Destination} (hl : ¬D l) :
    SameAt (m.registers.set .ip next) (m'.registers.set .ip next) m.memory m'.memory l := by
  cases l with
  | register r => exact (h.set .ip next).registers r fun hd => hl hd.1
  | cell address => exact h.load_eq hl

theorem fetch_eq (h : AgreeOff D m m') (hD : Plain D) (hl : ¬D (.cell m.ip)) :
    m'.fetch = m.fetch := by
  rw [fetch, fetch, h.ip_eq hD, h.load_eq hl]

theorem resolve_eq (h : AgreeOff D m m') (hD : Plain D) {f : Fetched}
    (hl : ∀ l ∈ Action.reads f.opcode f.instruction (m.registers.set .ip (m.ip + 1)) m.memory
      (m.ip + 1), ¬D l) : m'.resolve f = m.resolve f := by
  rw [resolve, resolve, h.ip_eq hD]
  refine Action.resolve_congr (fun l hmem => h.sameAt _ (hl l hmem)) ?_
  exact h.sameAt (m.ip + 1) hD.flags

end AgreeOff

theorem mem_reads_of_running (hr : m.state = .running) : .cell m.ip ∈ m.reads := by
  simp [reads, hr]

theorem mem_reads_of_fetch (hr : m.state = .running) {f : Fetched} (hf : m.fetch = .ok f)
    {l : Destination} (hl : l ∈ Action.reads f.opcode f.instruction
      (m.registers.set .ip (m.ip + 1)) m.memory (m.ip + 1)) : l ∈ m.reads := by
  simp [reads, hr, hf, thenLooksAt, hl]

theorem Writes.effect {l : Destination} (h : m.Writes l) {f : Fetched} (hf : m.fetch = .ok f)
    {a : Action} (ha : m.resolve f = .ok a) :
    a.target? m.config.storeBuiltinResult = some l ∧ ∃ s m₁, (m.fetched f).Effect a s m₁ := by
  obtain ⟨-, f', a', s, m₁, hf', ha', he, htarget⟩ := h
  cases hf.symm.trans hf'
  cases ha.symm.trans ha'
  exact ⟨htarget, s, m₁, he⟩

theorem not_writes_of_refusal {f : Fetched} {a : Action} {e : Fault} (hf : m.fetch = .ok f)
    (ha : m.resolve f = .ok a) (hr : (m.fetched f).Refusal a e) (l : Destination) :
    ¬m.Writes l := by
  intro h
  obtain ⟨-, s, m₁, he⟩ := h.effect hf ha
  have hp := (perform_of_refusal hr).symm.trans (perform_of_effect he)
  cases hp

/-- A course that looks at no place where two machines differ is one course for both. -/
theorem Course.agreeOff [Inhabited σ] {r : Except Fault State} {m₂ : Machine σ}
    (hc : m.Course r m₂) (hr : m.state = .running) (h : AgreeOff D m m') (hD : Plain D)
    (ht : m.builtins = .standard) (hreads : ∀ l ∈ m.reads, ¬D l) :
    m₂.builtins = .standard ∧ ∃ m₂', m'.Course r m₂' ∧
      AgreeOff (fun l => D l ∧ ¬m.Writes l) m₂ m₂' := by
  have hip : ¬D (.cell m.ip) := hreads _ (mem_reads_of_running hr)
  have hload : m'.memory.load m'.ip = m.memory.load m.ip := by rw [h.ip_eq hD, h.load_eq hip]
  have hfetch : m'.fetch = m.fetch := h.fetch_eq hD hip
  have hresolve {f : Fetched} (hf : m.fetch = .ok f) : m'.resolve f = m.resolve f :=
    h.resolve_eq hD fun l hl => hreads l (mem_reads_of_fetch hr hf hl)
  cases hc with
  | unfetched hl =>
    refine ⟨ht, _, .unfetched (hload.trans hl), (h.fail _).mono fun l hd => ⟨hd, fun hw => ?_⟩⟩
    obtain ⟨-, f, -, -, -, hf, -⟩ := hw
    rw [(fetch_eq_ok_iff.mp hf).1] at hl
    cases hl
  | @rejected w e hl hw =>
    have hset := (h.set .ip (m.ip + 1)).mono fun _ hd => hd.1
    refine ⟨ht, _, .rejected (hload.trans hl) hw, ?_⟩
    rw [h.ip_eq hD]
    refine (hset.fail e).mono fun l hd => ⟨hd, fun hwrites => ?_⟩
    obtain ⟨-, f, -, -, -, hf, -⟩ := hwrites
    simp [fetch, hl, hw, bind, Except.bind] at hf
  | @unresolved f e hf ha =>
    refine ⟨ht, _, .unresolved (hfetch.trans hf) ((hresolve hf).trans ha), ?_⟩
    refine ((h.fetched hD f).fail e).mono fun l hd => ⟨hd, fun hwrites => ?_⟩
    obtain ⟨-, f', a, -, -, hf', ha', -⟩ := hwrites
    cases hf.symm.trans hf'
    rw [ha] at ha'
    cases ha'
  | @refused f a e hf ha href =>
    have hagree := h.fetched hD f
    have href' : (m'.fetched f).Refusal a e :=
      href.congr hagree.console (by rw [hagree.builtins]) (Or.inl hagree.length)
    refine ⟨ht, _, .refused (hfetch.trans hf) ((hresolve hf).trans ha) href', ?_⟩
    exact ((hagree.refused hD a).fail e).mono fun l hd => ⟨hd, not_writes_of_refusal hf ha href l⟩
  | @overflowed f a m₁ hf ha he hg hs =>
    obtain ⟨hb, m₁', he', hagree⟩ := (h.fetched hD f).effect hD ht he
    have hsp : m₁'.sp = m₁.sp := hagree.registers .sp fun hl => hD.sp hl.1
    refine ⟨hb, m₁'.fail _, ?_, (hagree.fail _).mono fun l hl =>
      ⟨hl.1, fun hwrites => hl.2 (hwrites.effect hf ha).1⟩⟩
    rw [← hsp, ← hagree.length]
    refine .overflowed (hfetch.trans hf) ((hresolve hf).trans ha) he' ?_ ?_
    · rw [hagree.config]
      exact hg
    · rw [hsp, hagree.length]
      exact hs
  | @completed f a s m₁ hf ha he hg =>
    obtain ⟨hb, m₁', he', hagree⟩ := (h.fetched hD f).effect hD ht he
    have hsp : m₁'.sp = m₁.sp := hagree.registers .sp fun hl => hD.sp hl.1
    refine ⟨by rw [builtins_settle]; exact hb, m₁'.settle s, ?_, (hagree.settle s).mono fun l hl =>
      ⟨hl.1, fun hwrites => hl.2 (hwrites.effect hf ha).1⟩⟩
    refine .completed (hfetch.trans hf) ((hresolve hf).trans ha) he' ?_
    rw [hagree.config, hsp, hagree.length]
    exact hg

/-- A step that looks at no place where two machines differ has the same result on both, and
what it writes they then have in common. -/
theorem AgreeOff.step [Inhabited σ] (h : AgreeOff D m m') (hD : Plain D)
    (ht : m.builtins = .standard) (hreads : ∀ l ∈ m.reads, ¬D l) :
    m'.step.1 = m.step.1 ∧ m.step.2.builtins = .standard ∧
      AgreeOff (fun l => D l ∧ ¬m.Writes l) m.step.2 m'.step.2 := by
  by_cases hr : m.state = .running
  · obtain ⟨hb, m₂', hc, hagree⟩ := (course_step hr).agreeOff hr h hD ht hreads
    rw [hc.step_eq (h.state.trans hr)]
    exact ⟨rfl, hb, hagree⟩
  · have hr' : m'.state ≠ .running := by
      rw [h.state]
      exact hr
    rw [step_of_not_running hr, step_of_not_running hr']
    exact ⟨congrArg Except.ok h.state, ht, h.mono fun l hl => ⟨hl, fun hw => hr hw.1⟩⟩

/-- Machines that differ in what one register or cell holds, and in what they have reported, give
the same results as long as no step looks there, and differ nowhere else. They no longer differ
at all once a step has written there. -/
theorem unread_location_has_no_influence [Inhabited σ] {l : Destination}
    (hip : l ≠ .register .ip) (hsp : l ≠ .register .sp) (hflags : l ≠ .register .flags)
    (ht : m.builtins = .standard) (h : AgreeOff (· = l) m m') {n : Nat}
    (hreads : ∀ k < n, l ∉ (m.afterSteps k).reads) :
    (∀ k < n, (m'.afterSteps k).step.1 = (m.afterSteps k).step.1) ∧
      AgreeOff (· = l) (m.afterSteps n) (m'.afterSteps n) ∧
      ((∃ k < n, (m.afterSteps k).Writes l) →
        m'.afterSteps n = { m.afterSteps n with events := (m'.afterSteps n).events }) := by
  -- the place where the machines may differ after `n` steps: none once it has been written
  have hrun : (∀ k < n, (m'.afterSteps k).step.1 = (m.afterSteps k).step.1) ∧
      (m.afterSteps n).builtins = .standard ∧
      AgreeOff (fun x => x = l ∧ ¬∃ k < n, (m.afterSteps k).Writes l)
        (m.afterSteps n) (m'.afterSteps n) := by
    induction n with
    | zero => exact ⟨nofun, ht, h.mono fun x hx => ⟨hx, nofun⟩⟩
    | succ n ih =>
      obtain ⟨hres, hb, hagree⟩ := ih fun k hk => hreads k (Nat.lt_succ_of_lt hk)
      have hD : Plain fun x => x = l ∧ ¬∃ k < n, (m.afterSteps k).Writes l :=
        ⟨fun hx => hip hx.1.symm, fun hx => hsp hx.1.symm, fun hx => hflags hx.1.symm⟩
      obtain ⟨hs, hb', hagree'⟩ := hagree.step hD hb fun x hx he =>
        hreads n (Nat.lt_succ_self n) (he.1 ▸ hx)
      rw [afterSteps_succ_eq_step, afterSteps_succ_eq_step]
      refine ⟨fun k hk => ?_, hb', hagree'.mono fun x hx => ⟨hx.1.1, ?_⟩⟩
      · rcases Nat.lt_succ_iff_lt_or_eq.mp hk with hk | rfl
        · exact hres k hk
        · exact hs
      · rintro ⟨k, hk, hw⟩
        rcases Nat.lt_succ_iff_lt_or_eq.mp hk with hk | rfl
        · exact hx.1.2 ⟨k, hk, hw⟩
        · exact hx.2 (hx.1.1 ▸ hw)
  obtain ⟨hres, -, hagree⟩ := hrun
  exact ⟨hres, hagree.mono fun x hx => hx.1, fun hw =>
    (hagree.mono fun x hx => hx.2 hw).eq_of_nowhere⟩

def overwritingFirst (w : Word) : Machine Unit where
  registers := RegisterFile.zeros.set .r1 w
  memory := { cells := #[0x18000010, 7, 0], programLength := 3 }
  builtins := .standard

theorem overwritingFirst_same :
    AgreeOff (· = .register .r1) (overwritingFirst 5) (overwritingFirst 9) ∧
    (∀ k < 2, .register .r1 ∉ ((overwritingFirst 5).afterSteps k).reads) ∧
    ((overwritingFirst 5).afterSteps 0).Writes (.register .r1) ∧
    ((overwritingFirst 9).afterSteps 1).step.1 = .ok .halted ∧
    ((overwritingFirst 9).afterSteps 2).registers = ((overwritingFirst 5).afterSteps 2).registers := by
  have hagree : AgreeOff (· = .register .r1) (overwritingFirst 5) (overwritingFirst 9) :=
    { registers := fun r hr => by
        have hne : r ≠ .r1 := fun he => hr (congrArg Destination.register he)
        simp [overwritingFirst, hne]
      cells := fun _ _ => rfl, length := rfl, programLength := rfl, builtins := rfl
      console := rfl, config := rfl, state := rfl }
  have hreads : ∀ k < 2, .register .r1 ∉ ((overwritingFirst 5).afterSteps k).reads := by
    decide
  have hwrites : ((overwritingFirst 5).afterSteps 0).Writes (.register .r1) :=
    ⟨rfl, ⟨0x18000010, .decode 0x18000010, .move⟩, .assign 2 (.register .r1) 7 false, .running, _,
      by rfl, by rfl, .assign (.register .r1), rfl⟩
  obtain ⟨hres, -, heq⟩ := unread_location_has_no_influence (l := .register .r1)
    (by decide) (by decide) (by decide) rfl hagree hreads
  refine ⟨hagree, hreads, hwrites, ?_, ?_⟩
  · rw [hres 1 (by decide)]
    rfl
  · rw [heq ⟨0, by decide, hwrites⟩]

end Machine
end WordMachine
