import WordMachine.Machine.Action

/-! What resolving an instruction can come to: which faults it meets, when its operands are
there, and where the instruction pointer goes. -/
namespace WordMachine

/-- A computation whose only faults are those of malformed code. -/
def OnlyIllegal {α : Type} (x : Except Fault α) : Prop := ∀ e, x = .error e → e.status = .illegal

namespace OnlyIllegal

theorem ok {α : Type} (a : α) : OnlyIllegal (.ok a) := nofun

theorem map {α β : Type} {x : Except Fault α} (hx : OnlyIllegal x) (f : α → β) :
    OnlyIllegal (x.map f) := fun e h => hx e (Fault.map_eq_error_iff.mp h)

theorem bind {α β : Type} {x : Except Fault α} {f : α → Except Fault β} (hx : OnlyIllegal x)
    (hf : ∀ a, OnlyIllegal (f a)) : OnlyIllegal (x >>= f) := by
  intro e h
  rcases Fault.bind_eq_error_iff.mp h with he | ⟨a, _, he⟩
  · exact hx e he
  · exact hf a e he

end OnlyIllegal

theorem Memory.onlyIllegal_load (mem : Memory) (address : Word) :
    OnlyIllegal (mem.load address) := by
  intro e h
  rw [(load_eq_error_iff.mp h).2]
  rfl

theorem Register.onlyIllegal_ofField (field : UInt8) : OnlyIllegal (ofField field) := by
  intro e h
  rw [(ofField_eq_error_iff.mp h).2]
  rfl

namespace Operand

variable {file : RegisterFile} {mem : Memory} {ins : Instruction} {ip : Word}

theorem onlyIllegal_destination (file : RegisterFile) (field : UInt8) (deref : Bool) :
    OnlyIllegal (destination file field deref) := (Register.onlyIllegal_ofField field).map _

theorem onlyIllegal_dereference (mem : Memory) (w : Word) (deref : Bool) :
    OnlyIllegal (dereference mem w deref) := by
  cases deref with
  | false => exact .ok w
  | true => exact mem.onlyIllegal_load w

theorem onlyIllegal_source (file : RegisterFile) (mem : Memory) (field : UInt8) (deref : Bool) :
    OnlyIllegal (source file mem field deref) :=
  ((Register.onlyIllegal_ofField field).map _).bind fun w => onlyIllegal_dereference mem w deref

theorem onlyIllegal_raw : OnlyIllegal (raw file mem ins ip) := by
  unfold raw
  split
  · exact (mem.onlyIllegal_load ip).map _
  · exact ((Register.onlyIllegal_ofField ins.c).map _).map _

theorem onlyIllegal_single : OnlyIllegal (single file mem ins ip) :=
  onlyIllegal_raw.bind fun r =>
    (onlyIllegal_dereference mem r.value ins.modes.derefC).bind fun _ => .ok _

theorem onlyIllegal_triple : OnlyIllegal (triple file mem ins ip) :=
  (onlyIllegal_destination file ins.a ins.modes.derefA).bind fun _ =>
    (onlyIllegal_source file mem ins.b ins.modes.derefB).bind fun _ =>
      onlyIllegal_single.bind fun _ => .ok _

def Resolves (op : Opcode) (ins : Instruction) (file : RegisterFile) (mem : Memory) (ip : Word) :
    Prop :=
  match op with
  | .halt => True
  | .move => (∃ dst, destination file ins.b ins.modes.derefB = .ok dst) ∧
      ∃ src, single file mem ins ip = .ok src
  | .arithmetic _ => ∃ ops, triple file mem ins ip = .ok ops
  | .branch _ | .output | .builtin => ∃ src, single file mem ins ip = .ok src
  | .input => ∃ dst, destination file ins.c ins.modes.derefC = .ok dst

end Operand

namespace Action

variable {op : Opcode} {file : RegisterFile} {mem : Memory} {ins : Instruction} {ip : Word}

theorem ofArithmetic_eq_error_iff {op : Arithmetic} {ops : Operands} {e : Fault} :
    ofArithmetic op ops = .error e ↔ op = .div ∧ ops.c = 0 ∧ e = .divisionByZero := by
  unfold ofArithmetic
  split <;> simp_all [eq_comm]

theorem ofArithmetic_eq_ok_iff {op : Arithmetic} {ops : Operands} {a : Action} :
    ofArithmetic op ops = .ok a ↔ ¬(op = .div ∧ ops.c = 0) ∧
      a = .assign ops.next ops.destination (op.apply ops.b ops.c)
        (op = .sub ∧ op.apply ops.b ops.c = 0) := by
  unfold ofArithmetic
  split <;> simp_all [eq_comm]

theorem onlyIllegal_resolve : OnlyIllegal (resolve op ins file mem ip) := by
  cases op with
  | halt => exact .ok _
  | move =>
    exact (Operand.onlyIllegal_destination file ins.b ins.modes.derefB).bind fun _ =>
      Operand.onlyIllegal_single.bind fun _ => .ok _
  | arithmetic op =>
    refine Operand.onlyIllegal_triple.bind fun ops e h => ?_
    rw [(ofArithmetic_eq_error_iff.mp h).2.2]
    rfl
  | branch condition => exact Operand.onlyIllegal_single.bind fun _ => .ok _
  | input =>
    exact (Operand.onlyIllegal_destination file ins.c ins.modes.derefC).bind fun _ => .ok _
  | output => exact Operand.onlyIllegal_single.bind fun _ => .ok _
  | builtin => exact Operand.onlyIllegal_single.bind fun _ => .ok _

/-- The action that each operation comes to, with the operands it is made of. -/
inductive Resolution (file : RegisterFile) (mem : Memory) (ins : Instruction) (ip : Word) :
    Opcode → Action → Prop
  | halt : Resolution file mem ins ip .halt .halt
  | move {dst : Destination} {src : Operand}
      (hd : Operand.destination file ins.b ins.modes.derefB = .ok dst)
      (hs : Operand.single file mem ins ip = .ok src) :
      Resolution file mem ins ip .move (.assign src.next dst src.value false)
  | arithmetic {op : Arithmetic} {ops : Operands}
      (ht : Operand.triple file mem ins ip = .ok ops) (hz : ¬(op = .div ∧ ops.c = 0)) :
      Resolution file mem ins ip (.arithmetic op)
        (.assign ops.next ops.destination (op.apply ops.b ops.c)
          (op = .sub ∧ op.apply ops.b ops.c = 0))
  | branch {condition : Condition} {target : Operand}
      (hs : Operand.single file mem ins ip = .ok target) :
      Resolution file mem ins ip (.branch condition)
        (.jump (if condition.holds file then target.value else target.next))
  | input {dst : Destination} (hd : Operand.destination file ins.c ins.modes.derefC = .ok dst) :
      Resolution file mem ins ip .input (.read dst)
  | output {src : Operand} (hs : Operand.single file mem ins ip = .ok src) :
      Resolution file mem ins ip .output (.write src.next src.value.toUInt8)
  | builtin {src : Operand} (hs : Operand.single file mem ins ip = .ok src) :
      Resolution file mem ins ip .builtin (.call src.next src.value)

theorem resolve_eq_ok_iff {a : Action} :
    resolve op ins file mem ip = .ok a ↔ Resolution file mem ins ip op a := by
  constructor
  · intro h
    cases op with
    | halt => cases h; exact .halt
    | move =>
      obtain ⟨dst, hd, h⟩ := Fault.bind_eq_ok_iff.mp h
      obtain ⟨src, hs, ⟨⟩⟩ := Fault.bind_eq_ok_iff.mp h
      exact .move hd hs
    | arithmetic op =>
      obtain ⟨ops, ht, h⟩ := Fault.bind_eq_ok_iff.mp h
      obtain ⟨hz, rfl⟩ := ofArithmetic_eq_ok_iff.mp h
      exact .arithmetic ht hz
    | branch condition =>
      obtain ⟨target, hs, ⟨⟩⟩ := Fault.bind_eq_ok_iff.mp h
      exact .branch hs
    | input =>
      obtain ⟨dst, hd, ⟨⟩⟩ := Fault.bind_eq_ok_iff.mp h
      exact .input hd
    | output =>
      obtain ⟨src, hs, ⟨⟩⟩ := Fault.bind_eq_ok_iff.mp h
      exact .output hs
    | builtin =>
      obtain ⟨src, hs, ⟨⟩⟩ := Fault.bind_eq_ok_iff.mp h
      exact .builtin hs
  · intro h
    cases h with
    | halt => rfl
    | move hd hs => simp [resolve, hd, hs, bind, Except.bind, pure, Except.pure]
    | arithmetic ht hz =>
      simp only [resolve, ht, bind, Except.bind]
      exact ofArithmetic_eq_ok_iff.mpr ⟨hz, rfl⟩
    | branch hs | input hs | output hs | builtin hs =>
      simp [resolve, hs, bind, Except.bind, pure, Except.pure]

theorem eq_input_of_resolve {dst : Destination} (h : resolve op ins file mem ip = .ok (.read dst)) :
    op = .input := by
  cases resolve_eq_ok_iff.mp h
  rfl

theorem resolves_of_resolve {a : Action} (h : resolve op ins file mem ip = .ok a) :
    Operand.Resolves op ins file mem ip := by
  cases resolve_eq_ok_iff.mp h with
  | halt => trivial
  | move hd hs => exact ⟨⟨_, hd⟩, _, hs⟩
  | arithmetic ht _ => exact ⟨_, ht⟩
  | branch hs | input hs | output hs | builtin hs => exact ⟨_, hs⟩

theorem eq_divisionByZero_of_resolves {e : Fault} (hr : Operand.Resolves op ins file mem ip)
    (h : resolve op ins file mem ip = .error e) : e = .divisionByZero := by
  cases op with
  | halt => cases h
  | move =>
    obtain ⟨⟨dst, hd⟩, src, hs⟩ := hr
    simp [resolve, hd, hs, bind, Except.bind, pure, Except.pure] at h
  | arithmetic op =>
    obtain ⟨ops, ht⟩ := hr
    simp only [resolve, ht, bind, Except.bind] at h
    exact (ofArithmetic_eq_error_iff.mp h).2.2
  | branch _ | output | builtin | input =>
    obtain ⟨x, hx⟩ := hr
    simp [resolve, hx, bind, Except.bind, pure, Except.pure] at h

/-- Where the instruction pointer stands when the action takes effect. -/
def resume (ip : Word) : Action → Word
  | assign next _ _ _ | jump next | write next _ | call next _ => next
  | halt | read _ => ip

theorem resume_of_resolve {a : Action} (h : resolve op ins file mem ip = .ok a)
    (hj : ∀ next, a ≠ .jump next) : a.resume ip =
      if ins.modes.immediate = true ∧ op ≠ .halt ∧ op ≠ .input then ip + 1 else ip := by
  cases resolve_eq_ok_iff.mp h with
  | halt => simp [resume]
  | move _ hs => simp [resume, Operand.next_of_single hs]
  | arithmetic ht _ =>
    have hs := (Operand.triple_eq_ok_iff.mp ht).2.2
    simpa [resume] using Operand.next_of_single hs
  | branch _ => exact absurd rfl (hj _)
  | input _ => simp [resume]
  | output hs => simp [resume, Operand.next_of_single hs]
  | builtin hs => simp [resume, Operand.next_of_single hs]

end Action
end WordMachine
