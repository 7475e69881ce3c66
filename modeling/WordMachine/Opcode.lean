import WordMachine.Arithmetic
import WordMachine.RegisterFile

/-! The operations of the machine, their codes and their names. -/
namespace WordMachine

inductive Condition
  | always | flagClear | flagSet
  deriving DecidableEq, Repr

namespace Condition

def holds (c : Condition) (file : RegisterFile) : Bool :=
  match c with
  | always => true
  | flagClear => !file.zeroFlag
  | flagSet => file.zeroFlag

end Condition

inductive Opcode
  | halt
  | move
  | arithmetic (op : Arithmetic)
  | branch (condition : Condition)
  | input
  | output
  | builtin
  deriving DecidableEq, Repr

namespace Opcode

def all : List Opcode :=
  [halt, move, arithmetic .add, arithmetic .sub, arithmetic .mul, arithmetic .div,
    arithmetic .shr, arithmetic .shl, arithmetic .nand, arithmetic .xor,
    branch .always, branch .flagClear, branch .flagSet, input, output, builtin]

def code : Opcode → UInt8
  | halt => 0
  | move => 1
  | arithmetic .add => 2
  | arithmetic .sub => 3
  | arithmetic .mul => 4
  | arithmetic .div => 5
  | arithmetic .shr => 6
  | arithmetic .shl => 7
  | arithmetic .nand => 8
  | arithmetic .xor => 9
  | branch .always => 10
  | branch .flagClear => 11
  | branch .flagSet => 12
  | input => 13
  | output => 14
  | builtin => 15

def name : Opcode → String
  | halt => "Halt"
  | move => "Move"
  | arithmetic .add => "Add"
  | arithmetic .sub => "Sub"
  | arithmetic .mul => "Mul"
  | arithmetic .div => "Div"
  | arithmetic .shr => "Shr"
  | arithmetic .shl => "Shl"
  | arithmetic .nand => "Nand"
  | arithmetic .xor => "Xor"
  | branch .always => "Br"
  | branch .flagClear => "Brz"
  | branch .flagSet => "Brnz"
  | input => "In"
  | output => "Out"
  | builtin => "Bif"

@[simp] theorem all_getElem?_code (op : Opcode) : all[op.code.toNat]? = some op := by
  cases op with
  | arithmetic op => cases op <;> rfl
  | branch c => cases c <;> rfl
  | _ => rfl

theorem code_lt (op : Opcode) : op.code.toNat < 16 :=
  (List.getElem?_eq_some_iff.mp (all_getElem?_code op)).1

def ofCode (code : UInt8) : Except Fault Opcode :=
  match all[code.toNat]? with
  | some op => .ok op
  | none => .error (.invalidOpcode code)

@[simp] theorem ofCode_code (op : Opcode) : ofCode op.code = .ok op := by simp [ofCode]

theorem ofCode_eq_ok_iff {code : UInt8} {op : Opcode} : ofCode code = .ok op ↔ op.code = code := by
  constructor
  · intro h
    unfold ofCode at h
    split at h
    · rename_i s hs
      cases h
      have hi := (List.getElem?_eq_some_iff.mp hs).1
      exact UInt8.toNat_inj.mp
        ((List.getElem?_inj hi (by decide)).mp (hs.trans (all_getElem?_code op).symm)).symm
    · cases h
  · rintro rfl; simp

theorem ofCode_isOk_iff {code : UInt8} : (∃ op, ofCode code = .ok op) ↔ code.toNat < 16 := by
  constructor
  · rintro ⟨op, h⟩
    exact ofCode_eq_ok_iff.mp h ▸ op.code_lt
  · intro h
    unfold ofCode
    rw [List.getElem?_eq_getElem (show code.toNat < all.length from h)]
    exact ⟨_, rfl⟩

end Opcode
end WordMachine
