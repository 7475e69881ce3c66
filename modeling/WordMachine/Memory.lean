import WordMachine.Fault

/-! Word-addressed memory, shared by program, data and stack. -/
namespace WordMachine

/-- The program lies at the low end of the cells. -/
structure Memory where
  cells : Array Word
  programLength : Nat
  programLength_le : programLength ≤ cells.size := by simp
  deriving DecidableEq

namespace Memory

def length (mem : Memory) : Nat := mem.cells.size

def isEmpty (mem : Memory) : Bool := mem.length == 0

def zeros (length : Nat) : Memory where
  cells := Array.replicate length 0
  programLength := 0

def overwrite (cells : Array Word) (i : Nat) : List Word → Array Word
  | [] => cells
  | w :: ws => overwrite (cells.setIfInBounds i w) (i + 1) ws

@[simp] theorem size_overwrite (cells : Array Word) (i : Nat) (ws : List Word) :
    (overwrite cells i ws).size = cells.size := by
  induction ws generalizing cells i with
  | nil => rfl
  | cons w ws ih => simp [overwrite, ih]

theorem getElem?_overwrite (cells : Array Word) (i : Nat) (ws : List Word) (k : Nat)
    (h : i + ws.length ≤ cells.size) : (overwrite cells i ws)[k]? =
      if i ≤ k ∧ k < i + ws.length then ws[k - i]? else cells[k]? := by
  induction ws generalizing cells i with
  | nil =>
    simp only [overwrite, List.length_nil]
    rw [if_neg (by omega)]
  | cons w ws ih =>
    simp only [List.length_cons] at h ⊢
    rw [overwrite, ih _ _ (by simp; omega), Array.getElem?_setIfInBounds]
    by_cases hk : i = k
    · subst hk
      rw [if_neg (by omega), if_pos rfl, if_pos (by omega), if_pos (by omega)]
      simp
    · rw [if_neg hk]
      by_cases hr : i + 1 ≤ k ∧ k < i + 1 + ws.length
      · rw [if_pos hr, if_pos (by omega), show k - i = (k - (i + 1)) + 1 by omega,
          List.getElem?_cons_succ]
      · rw [if_neg hr, if_neg (by omega)]

/-- A number as a size of the host, which has 64 bits. -/
def size? (n : Nat) : Option UInt64 := if n < UInt64.size then some (UInt64.ofNat n) else none

def checkedAdd (a b : UInt64) : Option UInt64 :=
  if a.toNat + b.toNat < UInt64.size then some (a + b) else none

/-- The size of a memory, if every cell of it has an address. -/
def total? (program stack : UInt64) : Option UInt64 :=
  (checkedAdd program stack).filter fun total => total.toNat ≤ Word.addressSpace

def totalOf? (program stack : Nat) : Option UInt64 := do
  total? (← size? program) (← size? stack)

theorem checkedAdd_eq_some_iff {a b t : UInt64} :
    checkedAdd a b = some t ↔ t.toNat = a.toNat + b.toNat := by
  unfold checkedAdd
  split
  · rename_i hlt
    rw [Option.some.injEq, ← UInt64.toNat_inj, UInt64.toNat_add, Nat.mod_eq_of_lt hlt, eq_comm]
  · rename_i hge
    have hne : t.toNat ≠ a.toNat + b.toNat := fun he => hge (he ▸ t.toNat_lt)
    simp [hne]

/-- The host finds a size exactly when the sum, taken without bounds, is in the address space. -/
theorem total?_eq_some_iff {program stack t : UInt64} : total? program stack = some t ↔
    program.toNat + stack.toNat ≤ Word.addressSpace ∧
      t.toNat = program.toNat + stack.toNat := by
  rw [total?, Option.filter_eq_some_iff, checkedAdd_eq_some_iff, decide_eq_true_eq]
  constructor
  · rintro ⟨ht, hle⟩
    exact ⟨ht ▸ hle, ht⟩
  · rintro ⟨hle, ht⟩
    exact ⟨ht, ht ▸ hle⟩

theorem size?_eq_some_iff {n : Nat} {t : UInt64} : size? n = some t ↔ t.toNat = n := by
  unfold size?
  split
  · rename_i hlt
    rw [Option.some.injEq, ← UInt64.toNat_inj, UInt64.toNat_ofNat_of_lt' hlt, eq_comm]
  · rename_i hge
    have hne : t.toNat ≠ n := fun he => hge (he ▸ t.toNat_lt)
    simp [hne]

theorem totalOf?_eq_some_iff {program stack : Nat} {t : UInt64} :
    totalOf? program stack = some t ↔
      program + stack ≤ Word.addressSpace ∧ t.toNat = program + stack := by
  simp only [totalOf?, Option.bind_eq_bind, Option.bind_eq_some_iff, size?_eq_some_iff,
    total?_eq_some_iff]
  constructor
  · rintro ⟨p, rfl, s, rfl, h⟩
    exact h
  · rintro ⟨hle, ht⟩
    have hsize : Word.addressSpace < UInt64.size := by decide
    have hp : (UInt64.ofNat program).toNat = program := UInt64.toNat_ofNat_of_lt' (by omega)
    have hs : (UInt64.ofNat stack).toNat = stack := UInt64.toNat_ofNat_of_lt' (by omega)
    exact ⟨_, hp, _, hs, by rw [hp, hs]; exact ⟨hle, ht⟩⟩

/-- The program with `stack` zeroed words after it. Every cell of the result has an address. -/
def ofProgram (program : List Word) (stack : Nat) : Except Fault Memory :=
  match h : totalOf? program.length stack with
  | some total =>
    .ok { cells := overwrite (Array.replicate total.toNat 0) 0 program
          programLength := program.length
          programLength_le := by simp [(totalOf?_eq_some_iff.mp h).2] }
  | none => .error (.memoryTooLarge program.length stack)

/-- Asks the host, who has room for `room` words, for the memory of a program and its stack.
What no address could reach is not asked for. -/
def reserve (room : Nat) (program : List Word) (stack : Nat) : Except Fault Unit :=
  let total := program.length + stack
  if room < total ∧ total ≤ Word.addressSpace then .error (.allocation .refused) else .ok ()

def build (room : Nat) (program : List Word) (stack : Nat) : Except Fault Memory := do
  reserve room program stack
  ofProgram program stack

def outOfBounds (mem : Memory) (address : Word) : Fault :=
  .memoryOutOfBounds address mem.length

def load (mem : Memory) (address : Word) : Except Fault Word :=
  match mem.cells[address.toNat]? with
  | some w => .ok w
  | none => .error (mem.outOfBounds address)

def put (mem : Memory) (address w : Word) (h : address.toNat < mem.length) : Memory where
  cells := mem.cells.set address.toNat w (Nat.lt_of_lt_of_eq h rfl)
  programLength := mem.programLength
  programLength_le := by simpa using mem.programLength_le

def store (mem : Memory) (address w : Word) : Except Fault Memory :=
  if h : address.toNat < mem.length then .ok (mem.put address w h)
  else .error (mem.outOfBounds address)

theorem programLength_le_length (mem : Memory) : mem.programLength ≤ mem.length :=
  mem.programLength_le

theorem ext_cells {m n : Memory} (hp : m.programLength = n.programLength)
    (hc : m.cells = n.cells) : m = n := by
  cases m; cases n; congr

theorem overwrite_replicate (program : List Word) (stack : Nat) :
    overwrite (Array.replicate (program.length + stack) 0) 0 program =
      program.toArray ++ Array.replicate stack 0 := by
  apply Array.ext_getElem?
  intro k
  rw [getElem?_overwrite _ _ _ _ (by simp)]
  by_cases hk : k < program.length
  · simp [hk, Array.getElem?_append]
  · simp only [Nat.zero_le, Nat.zero_add, true_and, if_neg hk, Array.getElem?_append,
      List.size_toArray, Array.getElem?_replicate]
    congr 1
    simp only [eq_iff_iff]
    omega

theorem ofProgram_eq_ok_iff {program : List Word} {stack : Nat} {mem : Memory} :
    ofProgram program stack = .ok mem ↔ program.length + stack ≤ Word.addressSpace ∧
      mem.programLength = program.length ∧
      mem.cells = program.toArray ++ Array.replicate stack 0 := by
  unfold ofProgram
  split
  · rename_i total h
    obtain ⟨hle, ht⟩ := totalOf?_eq_some_iff.mp h
    simp only [ht, overwrite_replicate, Except.ok.injEq]
    constructor
    · rintro rfl
      exact ⟨hle, rfl, rfl⟩
    · rintro ⟨-, hp, hc⟩
      exact (ext_cells hp hc).symm
  · rename_i h
    simp only [reduceCtorEq, false_iff]
    rintro ⟨hle, -⟩
    have hlt : program.length + stack < UInt64.size := Nat.lt_of_le_of_lt hle (by decide)
    have hsome := totalOf?_eq_some_iff.mpr ⟨hle, UInt64.toNat_ofNat_of_lt' hlt⟩
    rw [h] at hsome
    cases hsome

theorem exists_ofProgram {program : List Word} {stack : Nat}
    (hfit : program.length + stack ≤ Word.addressSpace) :
    ∃ mem, ofProgram program stack = .ok mem :=
  ⟨⟨program.toArray ++ Array.replicate stack 0, program.length, by simp⟩,
    ofProgram_eq_ok_iff.mpr ⟨hfit, rfl, rfl⟩⟩

theorem ofProgram_eq_error_iff {program : List Word} {stack : Nat} {e : Fault} :
    ofProgram program stack = .error e ↔
      Word.addressSpace < program.length + stack ∧ e = .memoryTooLarge program.length stack := by
  constructor
  · intro h
    refine ⟨Nat.not_le.mp fun hfit => ?_, ?_⟩
    · obtain ⟨mem, hmem⟩ := exists_ofProgram hfit
      cases hmem.symm.trans h
    · unfold ofProgram at h
      split at h
      · cases h
      · exact (Except.error.inj h).symm
  · rintro ⟨hlt, rfl⟩
    unfold ofProgram
    split
    · rename_i h
      exact absurd (totalOf?_eq_some_iff.mp h).1 (Nat.not_le.mpr hlt)
    · rfl

theorem reserve_of_le {room : Nat} {program : List Word} {stack : Nat}
    (h : program.length + stack ≤ room) : reserve room program stack = .ok () := by
  simp [reserve, Nat.not_lt.mpr h]

theorem build_of_le {room : Nat} {program : List Word} {stack : Nat}
    (h : program.length + stack ≤ room) : build room program stack = ofProgram program stack := by
  simp [build, reserve_of_le h, bind, Except.bind]

theorem build_of_room_lt {room : Nat} {program : List Word} {stack : Nat}
    (h : room < program.length + stack) (hfit : program.length + stack ≤ Word.addressSpace) :
    build room program stack = .error (.allocation .refused) := by
  simp [build, reserve, h, hfit, bind, Except.bind]

theorem build_of_addressSpace_lt {program : List Word} {stack : Nat} (room : Nat)
    (h : Word.addressSpace < program.length + stack) :
    build room program stack = .error (.memoryTooLarge program.length stack) := by
  have hreserve : reserve room program stack = .ok () := if_neg fun hr => Nat.not_lt.mpr hr.2 h
  rw [build, hreserve]
  exact ofProgram_eq_error_iff.mpr ⟨h, rfl⟩

theorem cells_of_ofProgram {program : List Word} {stack : Nat} {mem : Memory}
    (h : ofProgram program stack = .ok mem) :
    mem.cells = program.toArray ++ Array.replicate stack 0 := (ofProgram_eq_ok_iff.mp h).2.2

theorem length_of_ofProgram {program : List Word} {stack : Nat} {mem : Memory}
    (h : ofProgram program stack = .ok mem) : mem.length = program.length + stack := by
  simp [length, cells_of_ofProgram h]

theorem length_le_of_ofProgram {program : List Word} {stack : Nat} {mem : Memory}
    (h : ofProgram program stack = .ok mem) : mem.length ≤ Word.addressSpace := by
  rw [length_of_ofProgram h]
  exact (ofProgram_eq_ok_iff.mp h).1

theorem programLength_of_ofProgram {program : List Word} {stack : Nat} {mem : Memory}
    (h : ofProgram program stack = .ok mem) : mem.programLength = program.length :=
  (ofProgram_eq_ok_iff.mp h).2.1

theorem load_eq_ok_iff {mem : Memory} {a w : Word} :
    mem.load a = .ok w ↔ mem.cells[a.toNat]? = some w := by
  unfold load
  split <;> simp_all

theorem toNat_lt_of_load {mem : Memory} {a w : Word} (h : mem.load a = .ok w) :
    a.toNat < mem.length := (Array.getElem?_eq_some_iff.mp (load_eq_ok_iff.mp h)).1

theorem load_of_ofProgram {program : List Word} {stack : Nat} {mem : Memory} {a w : Word}
    (h : ofProgram program stack = .ok mem) (hw : program[a.toNat]? = some w) :
    mem.load a = .ok w := by
  have hlt : a.toNat < program.length := (List.getElem?_eq_some_iff.mp hw).1
  rw [load_eq_ok_iff, cells_of_ofProgram h, Array.getElem?_append_left (by simpa using hlt),
    List.getElem?_toArray]
  exact hw

theorem load_eq_error_iff {mem : Memory} {a : Word} {e : Fault} :
    mem.load a = .error e ↔ mem.length ≤ a.toNat ∧ e = .memoryOutOfBounds a mem.length := by
  unfold load
  split
  · rename_i h
    have := (Array.getElem?_eq_some_iff.mp h).1
    simp only [reduceCtorEq, false_iff, length]
    omega
  · rename_i h
    have := Array.getElem?_eq_none_iff.mp h
    simp only [Except.error.injEq, outOfBounds, length]
    constructor
    · rintro rfl; exact ⟨this, rfl⟩
    · rintro ⟨_, rfl⟩; rfl

@[simp] theorem length_put (mem : Memory) (a w : Word) (h : a.toNat < mem.length) :
    (mem.put a w h).length = mem.length := by simp [put, length]

@[simp] theorem programLength_put (mem : Memory) (a w : Word) (h : a.toNat < mem.length) :
    (mem.put a w h).programLength = mem.programLength := rfl

theorem load_put (mem : Memory) (a b w : Word) (h : a.toNat < mem.length) :
    (mem.put a w h).load b = if b = a then .ok w else mem.load b := by
  by_cases hb : b = a
  · subst hb
    simp only [if_true, load_eq_ok_iff, put]
    exact Array.getElem?_set_self h
  · have hn : a.toNat ≠ b.toNat := fun he => hb (UInt32.toNat_inj.mp he.symm)
    simp [put, load, outOfBounds, length, hb, hn]

theorem store_eq_error_iff {mem : Memory} {a w : Word} {e : Fault} :
    mem.store a w = .error e ↔ mem.length ≤ a.toNat ∧ e = .memoryOutOfBounds a mem.length := by
  unfold store
  split
  · simp only [reduceCtorEq, false_iff]; omega
  · simp only [Except.error.injEq, outOfBounds]
    constructor
    · rintro rfl; exact ⟨by omega, rfl⟩
    · rintro ⟨_, rfl⟩; rfl

theorem store_eq_ok_iff {mem mem' : Memory} {a w : Word} :
    mem.store a w = .ok mem' ↔ ∃ h : a.toNat < mem.length, mem' = mem.put a w h := by
  unfold store
  split
  · rename_i h
    simp [h, eq_comm]
  · rename_i h
    simp [h]

theorem length_of_store {mem mem' : Memory} {a w : Word} (h : mem.store a w = .ok mem') :
    mem'.length = mem.length := by
  obtain ⟨_, rfl⟩ := store_eq_ok_iff.mp h
  simp

theorem programLength_of_store {mem mem' : Memory} {a w : Word} (h : mem.store a w = .ok mem') :
    mem'.programLength = mem.programLength := by
  obtain ⟨_, rfl⟩ := store_eq_ok_iff.mp h
  simp

theorem load_of_store {mem mem' : Memory} {a b w : Word} (h : mem.store a w = .ok mem') :
    mem'.load b = if b = a then .ok w else mem.load b := by
  obtain ⟨hl, rfl⟩ := store_eq_ok_iff.mp h
  exact load_put mem a b w hl

end Memory
end WordMachine
