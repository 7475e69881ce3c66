import Mathlib.Data.List.Induction
import WordMachine.Memory

/-! The memory around a program from its construction on: how large it is, and what it holds after
any stores, those that fail included. -/
namespace WordMachine.Memory

/-- The memory after a store, which may fail and then changes nothing. -/
def afterStore (mem : Memory) (address w : Word) : Memory :=
  match mem.store address w with
  | .ok mem' => mem'
  | .error _ => mem

def afterStores (mem : Memory) (stores : List (Word × Word)) : Memory :=
  stores.foldl (fun mem s => mem.afterStore s.1 s.2) mem

def lastStore? (stores : List (Word × Word)) (address : Word) : Option Word :=
  stores.reverse.lookup address

section Stores

variable {mem : Memory} {a b w : Word}

theorem store_of_lt (h : a.toNat < mem.length) : mem.store a w = .ok (mem.afterStore a w) := by
  obtain ⟨mem', hs⟩ : ∃ mem', mem.store a w = .ok mem' := ⟨_, store_eq_ok_iff.mpr ⟨h, rfl⟩⟩
  rw [afterStore, hs]

theorem afterStore_of_le (h : mem.length ≤ a.toNat) : mem.afterStore a w = mem := by
  rw [afterStore, store_eq_error_iff.mpr ⟨h, rfl⟩]

theorem length_afterStore (mem : Memory) (a w : Word) :
    (mem.afterStore a w).length = mem.length := by
  rcases Nat.lt_or_ge a.toNat mem.length with hlt | hle
  · exact length_of_store (store_of_lt hlt)
  · rw [afterStore_of_le hle]

theorem programLength_afterStore (mem : Memory) (a w : Word) :
    (mem.afterStore a w).programLength = mem.programLength := by
  rcases Nat.lt_or_ge a.toNat mem.length with hlt | hle
  · exact programLength_of_store (store_of_lt hlt)
  · rw [afterStore_of_le hle]

theorem load_afterStore (h : b.toNat < mem.length) :
    (mem.afterStore a w).load b = if b = a then .ok w else mem.load b := by
  rcases Nat.lt_or_ge a.toNat mem.length with hlt | hle
  · exact load_of_store (store_of_lt hlt)
  · have hne : b ≠ a := by
      rintro rfl
      exact Nat.not_lt.mpr hle h
    rw [afterStore_of_le hle, if_neg hne]

theorem afterStores_concat (mem : Memory) (stores : List (Word × Word)) (a w : Word) :
    mem.afterStores (stores ++ [(a, w)]) = (mem.afterStores stores).afterStore a w :=
  List.foldl_append

theorem lastStore?_concat (stores : List (Word × Word)) (a b w : Word) :
    lastStore? (stores ++ [(a, w)]) b = if b = a then some w else lastStore? stores b := by
  rw [lastStore?, List.reverse_append, List.reverse_singleton, List.singleton_append,
    List.lookup_cons, lastStore?]
  by_cases h : b = a
  · rw [if_pos h, h, beq_self_eq_true]
  · rw [if_neg h, beq_false_of_ne h]

theorem lengths_afterStores (mem : Memory) (stores : List (Word × Word)) :
    (mem.afterStores stores).length = mem.length ∧
      (mem.afterStores stores).programLength = mem.programLength := by
  induction stores using List.reverseRecOn with
  | nil => exact ⟨rfl, rfl⟩
  | append_singleton stores s ih =>
    rw [afterStores_concat, length_afterStore, programLength_afterStore]
    exact ih

/-- A cell holds the word of the last store to it, or the one it had. The induction is on the stores
so far, as it is the last one that counts. -/
theorem load_afterStores (stores : List (Word × Word)) (h : mem.load a = .ok w) :
    (mem.afterStores stores).load a = .ok ((lastStore? stores a).getD w) := by
  induction stores using List.reverseRecOn with
  | nil => exact h
  | append_singleton stores s ih =>
    have hlt : a.toNat < (mem.afterStores stores).length := toNat_lt_of_load ih
    rw [afterStores_concat, load_afterStore hlt, lastStore?_concat, ih]
    split <;> rfl

end Stores

theorem load_ofProgram {program : List Word} {stack : Nat} {mem : Memory} (a : Word)
    (h : ofProgram program stack = .ok mem) : mem.load a =
      if hp : a.toNat < program.length then .ok program[a.toNat]
      else if a.toNat < mem.length then .ok 0
      else .error (.memoryOutOfBounds a mem.length) := by
  split
  · rename_i hp
    exact load_of_ofProgram h (List.getElem?_eq_getElem hp)
  · rename_i hp
    split
    · rename_i hlt
      have hlen := length_of_ofProgram h
      rw [load_eq_ok_iff, cells_of_ofProgram h,
        Array.getElem?_append_right (by rw [List.size_toArray]; exact Nat.not_lt.mp hp),
        Array.getElem?_replicate, if_pos (by rw [List.size_toArray]; omega)]
    · rename_i hge
      exact load_eq_error_iff.mpr ⟨Nat.not_lt.mp hge, rfl⟩

/-- A program with its stack has a memory exactly when the two have room in the address space, and a
host that adds the sizes in 64 bits finds that too. All else is too large, whatever the host could
give. The memory has the size of both, the words of the program and zeros after them, each at an
address of its own, and nothing outside. After any stores, those past the end included, which fail
and change nothing, both sizes are what they were, and each cell has the word of the last store to
it, or else its first one. -/
theorem construction_and_stores {room : Nat} {program : List Word} {stack : Nat}
    (halloc : reserve room program stack = .ok ()) :
    ((∃ mem, build room program stack = .ok mem) ↔
      program.length + stack ≤ Word.addressSpace) ∧
    (∀ e, build room program stack = .error e ↔
      Word.addressSpace < program.length + stack ∧ e = .memoryTooLarge program.length stack) ∧
    (∀ p s : UInt64, p.toNat = program.length → s.toNat = stack → ∀ t, total? p s = some t ↔
      program.length + stack ≤ Word.addressSpace ∧ t.toNat = program.length + stack) ∧
    ∀ mem, build room program stack = .ok mem →
      mem.length = program.length + stack ∧ mem.programLength = program.length ∧
      (∀ a, mem.load a =
        if hp : a.toNat < program.length then .ok program[a.toNat]
        else if a.toNat < mem.length then .ok 0
        else .error (.memoryOutOfBounds a mem.length)) ∧
      (∀ i, i < mem.length → ∃ a : Word, a.toNat = i) ∧
      ∀ stores m, mem.afterStores stores = m →
        m.length = mem.length ∧ m.programLength = mem.programLength ∧
        (∀ a w, (a.toNat < mem.length → m.store a w = .ok (m.afterStore a w)) ∧
          (mem.length ≤ a.toNat → m.store a w = .error (.memoryOutOfBounds a mem.length) ∧
            m.afterStore a w = m)) ∧
        ∀ a w, mem.load a = .ok w → m.load a = .ok ((lastStore? stores a).getD w) := by
  have hbuild : build room program stack = ofProgram program stack := by
    rw [build, halloc]
    rfl
  rw [hbuild]
  refine ⟨⟨?_, exists_ofProgram⟩, fun e => ofProgram_eq_error_iff, ?_, fun mem hmem => ?_⟩
  · rintro ⟨mem, hmem⟩
    rw [← length_of_ofProgram hmem]
    exact length_le_of_ofProgram hmem
  · rintro p s hp rfl t
    rw [← hp]
    exact total?_eq_some_iff
  · refine ⟨length_of_ofProgram hmem, programLength_of_ofProgram hmem,
      fun a => load_ofProgram a hmem, fun i hi => ?_, ?_⟩
    · have hsize : i < UInt32.size := Nat.lt_of_lt_of_le hi (length_le_of_ofProgram hmem)
      exact ⟨UInt32.ofNat i, UInt32.toNat_ofNat_of_lt' hsize⟩
    · rintro stores _ rfl
      obtain ⟨hlen, hplen⟩ := lengths_afterStores mem stores
      refine ⟨hlen, hplen, fun a w => ⟨fun hlt => ?_, fun hle => ?_⟩, fun a w => ?_⟩
      · exact store_of_lt (hlen ▸ hlt)
      · rw [← hlen] at hle ⊢
        exact ⟨store_eq_error_iff.mpr ⟨hle, rfl⟩, afterStore_of_le hle⟩
      · exact load_afterStores stores

theorem construction_of_two_words :
    total? 3 18446744073709551615 = none ∧
    build 5 [1, 2, 3] 18446744073709551615 =
      .error (.memoryTooLarge 3 18446744073709551615) ∧
    ∃ mem m, build 5 [0xAA, 0xBB] 3 = .ok mem ∧
      mem.afterStores [(4, 6), (5, 7), (0, 8), (4, 9)] = m ∧ m.length = 5 ∧
      m.programLength = 2 ∧ m.load 0 = .ok 8 ∧ m.load 1 = .ok 0xBB ∧ m.load 2 = .ok 0 ∧
      m.load 4 = .ok 9 ∧ m.store 5 7 = .error (.memoryOutOfBounds 5 5) := by
  have hlarge : reserve 5 [1, 2, 3] 18446744073709551615 = .ok () := rfl
  have hsmall : reserve 5 [0xAA, 0xBB] 3 = .ok () := rfl
  obtain ⟨-, herror, htotal, -⟩ := construction_and_stores hlarge
  obtain ⟨hfits, -, -, hbuilt⟩ := construction_and_stores hsmall
  obtain ⟨mem, hmem⟩ := hfits.mpr (by decide)
  obtain ⟨hlen, hplen, hload, -, hstores⟩ := hbuilt mem hmem
  obtain ⟨hlen', hplen', hstore, hlast⟩ := hstores [(4, 6), (5, 7), (0, 8), (4, 9)] _ rfl
  have hzero (a : Word) (h : 2 ≤ a.toNat ∧ a.toNat < 5) : mem.load a = .ok 0 := by
    rw [hload, hlen]
    exact (dif_neg (Nat.not_lt.mpr h.1)).trans (if_pos h.2)
  have hnone : total? 3 18446744073709551615 = none :=
    Option.eq_none_iff_forall_ne_some.mpr fun t ht =>
      absurd ((htotal 3 _ rfl rfl t).mp ht).1 (by decide)
  have hfull := ((hstore 5 7).2 (by rw [hlen]; decide)).1
  rw [hlen] at hfull
  exact ⟨hnone, (herror _).mpr ⟨by decide, rfl⟩, mem, _, hmem, rfl, hlen'.trans hlen,
    hplen'.trans hplen, hlast 0 _ (hload 0), hlast 1 _ (hload 1),
    hlast 2 0 (hzero 2 (by decide)), hlast 4 0 (hzero 4 (by decide)), hfull⟩

end WordMachine.Memory
