import WordMachine.Memory
import WordMachine.RegisterFile
import WordMachine.Event
import WordMachine.Text.Literal

/-! Native callables and the table that names them by index. A callable is any function of
its captured state, the registers and the memory; `σ` is the type of captured states. -/
namespace WordMachine

namespace Builtin

/-- What a callable leaves behind. -/
structure Result (σ : Type) where
  value : Word
  registers : RegisterFile
  memory : Memory
  captured : σ
  log : List Log.Entry := []

end Builtin

structure Builtin (σ : Type) where
  name : String
  captured : σ
  body : σ → RegisterFile → Memory → Builtin.Result σ

namespace Builtin

variable {σ : Type}

def invoke (b : Builtin σ) (file : RegisterFile) (mem : Memory) : Result σ :=
  b.body b.captured file mem

def capture (b : Builtin σ) (s : σ) : Builtin σ := { b with captured := s }

/-- Builtins in the order of their indices. -/
structure Table (σ : Type) where
  entries : List (Builtin σ) := []

structure Call (σ : Type) where
  value : Word
  registers : RegisterFile
  memory : Memory
  table : Table σ
  events : List Event

namespace Table

def length (t : Table σ) : Nat := t.entries.length

def isEmpty (t : Table σ) : Bool := t.entries.isEmpty

/-- Appends a builtin. Its index is the number of entries before it. -/
def register (t : Table σ) (b : Builtin σ) : Table σ × Word :=
  (⟨t.entries ++ [b]⟩, UInt32.ofNat t.length)

def name? (t : Table σ) (index : Word) : Option String :=
  t.entries[index.toNat]?.map (·.name)

/-- Invokes one entry; the captured state of no other entry is touched. -/
def call (t : Table σ) (index : Word) (file : RegisterFile) (mem : Memory) :
    Except Fault (Call σ) :=
  match t.entries[index.toNat]? with
  | none => .error (.invalidBuiltin index t.length)
  | some b =>
    let r := b.invoke file mem
    .ok { value := r.value
          registers := r.registers
          memory := r.memory
          table := ⟨t.entries.set index.toNat (b.capture r.captured)⟩
          events := .called index b.name :: r.log.map .reported }

theorem call_of_entry {t : Table σ} {k : Word} {b : Builtin σ} (h : t.entries[k.toNat]? = some b)
    (file : RegisterFile) (mem : Memory) :
    t.call k file mem = .ok
      { value := (b.invoke file mem).value
        registers := (b.invoke file mem).registers
        memory := (b.invoke file mem).memory
        table := ⟨t.entries.set k.toNat (b.capture (b.invoke file mem).captured)⟩
        events := .called k b.name :: (b.invoke file mem).log.map .reported } := by
  simp only [call, h]

@[simp] theorem length_register (t : Table σ) (b : Builtin σ) :
    (t.register b).1.length = t.length + 1 := by simp [register, length]

theorem call_eq_error_iff {t : Table σ} {index : Word} {file : RegisterFile} {mem : Memory}
    {e : Fault} : t.call index file mem = .error e ↔
      t.length ≤ index.toNat ∧ e = .invalidBuiltin index t.length := by
  unfold call
  split
  · rename_i h
    have := List.getElem?_eq_none_iff.mp h
    simp only [Except.error.injEq, length]
    constructor
    · rintro rfl; exact ⟨this, rfl⟩
    · rintro ⟨_, rfl⟩; rfl
  · rename_i h
    have := (List.getElem?_eq_some_iff.mp h).1
    simp only [reduceCtorEq, false_iff, length]
    omega

@[simp] theorem length_of_call {t : Table σ} {index : Word} {file : RegisterFile} {mem : Memory}
    {c : Call σ} (h : t.call index file mem = .ok c) : c.table.length = t.length := by
  unfold call at h
  split at h
  · cases h
  · cases h; simp [length]

def literals (t : Table σ) : List String := t.entries.map fun b => Text.Literal.quote b.name

def lineText (t : Table σ) : String := Text.Listing.brackets.line t.literals

def blockText (t : Table σ) : String := Text.Listing.brackets.block t.literals

end Table
end Builtin
end WordMachine
