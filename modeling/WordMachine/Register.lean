import WordMachine.Fault

/-! The names of the registers. -/
namespace WordMachine

/-- The name `zero` is a name only: that register is written like any other. -/
inductive Register
  | zero | r1 | r2 | r3 | r4 | r5 | r6 | r7 | r8 | r9 | ip | sp | ret | tmp | flags
  deriving DecidableEq, Repr

namespace Register

/-- A register field has four bits, so one of its values names nothing. -/
abbrev count : Nat := 15

def index : Register → Fin count
  | zero => 0
  | r1 => 1
  | r2 => 2
  | r3 => 3
  | r4 => 4
  | r5 => 5
  | r6 => 6
  | r7 => 7
  | r8 => 8
  | r9 => 9
  | ip => 10
  | sp => 11
  | ret => 12
  | tmp => 13
  | flags => 14

def all : List Register :=
  [zero, r1, r2, r3, r4, r5, r6, r7, r8, r9, ip, sp, ret, tmp, flags]

def name : Register → String
  | zero => "ZERO"
  | r1 => "R1"
  | r2 => "R2"
  | r3 => "R3"
  | r4 => "R4"
  | r5 => "R5"
  | r6 => "R6"
  | r7 => "R7"
  | r8 => "R8"
  | r9 => "R9"
  | ip => "IP"
  | sp => "SP"
  | ret => "RET"
  | tmp => "TMP"
  | flags => "FLAGS"

@[simp] theorem all_length : all.length = count := rfl

@[simp] theorem all_getElem?_index (r : Register) : all[r.index.val]? = some r := by
  cases r <;> rfl

theorem index_injective {r s : Register} (h : r.index = s.index) : r = s :=
  Option.some.inj (by rw [← all_getElem?_index r, h, all_getElem?_index])

@[simp] theorem index_inj {r s : Register} : r.index = s.index ↔ r = s :=
  ⟨index_injective, fun h => h ▸ rfl⟩

theorem index_val_inj {r s : Register} : r.index.val = s.index.val ↔ r = s :=
  Fin.val_inj.trans index_inj

def ofField (field : UInt8) : Except Fault Register :=
  match all[field.toNat]? with
  | some r => .ok r
  | none => .error (.invalidRegister field)

theorem ofField_eq_ok_iff {field : UInt8} {r : Register} :
    ofField field = .ok r ↔ field.toNat = r.index.val := by
  constructor
  · intro h
    unfold ofField at h
    split at h
    · rename_i s hs
      cases h
      have hi := (List.getElem?_eq_some_iff.mp hs).1
      exact (List.getElem?_inj hi (by decide)).mp (hs.trans (all_getElem?_index r).symm)
    · cases h
  · intro h
    simp [ofField, h]

theorem ofField_eq_error_iff {field : UInt8} {e : Fault} :
    ofField field = .error e ↔ count ≤ field.toNat ∧ e = .invalidRegister field := by
  unfold ofField
  split
  · rename_i s hs
    have hi := (List.getElem?_eq_some_iff.mp hs).1
    simp only [reduceCtorEq, false_iff, not_and]
    intro hc
    simp at hi
    omega
  · rename_i hs
    have hi := List.getElem?_eq_none_iff.mp hs
    simp only [all_length] at hi
    simp [hi, eq_comm]

end Register
end WordMachine
