import WordMachine.Proofs.FaultCauses
import WordMachine.Proofs.Moves

/-! The checks that operands stand under. Resolving makes them one after the other and reports the
first that fails. -/
namespace WordMachine

/-- Something that is asked of an operand, and the fault if it `fails`. -/
structure Check where
  fails : Bool
  fault : Fault
  deriving DecidableEq

namespace Check

def register (field : UInt8) : Check where
  fails := Register.count ≤ field.toNat
  fault := .invalidRegister field

def cell (mem : Memory) (address : Word) : Check where
  fails := mem.length ≤ address.toNat
  fault := .memoryOutOfBounds address mem.length

/-- The check where it is made at all. -/
def onlyIf (check : Check) (made : Bool) : Check := { check with fails := made && check.fails }

/-- The first check that fails, or the value if there is none. -/
def outcome {α : Type} (checks : List Check) (a : α) : Except Fault α :=
  match checks.find? (·.fails) with
  | some check => .error check.fault
  | none => .ok a

section Outcome

variable {α β : Type} {check : Check} {checks : List Check} {a : α} {b : β}

theorem outcome_cons : outcome (check :: checks) a =
    if check.fails then .error check.fault else outcome checks a := by
  unfold outcome
  cases h : check.fails with
  | true => rw [List.find?_cons_of_pos h, if_pos rfl]
  | false => rw [List.find?_cons_of_neg (ne_true_of_eq_false h), if_neg Bool.false_ne_true]

theorem eq_outcome {x : Except Fault α} (herr : check.fails = true → x = .error check.fault)
    (hok : check.fails = false → x = .ok a) : x = outcome [check] a := by
  rw [outcome_cons]
  cases h : check.fails with
  | true => exact herr h
  | false => exact hok h

theorem map_outcome (f : α → β) : (outcome checks a).map f = outcome checks (f a) := by
  unfold outcome
  cases checks.find? (·.fails) <;> rfl

/-- What is done after checks has its own checks after them. -/
theorem bind_outcome {f : α → Except Fault β} (checks' : List Check)
    (h : f a = outcome checks' b) :
    (outcome checks a >>= f) = outcome (checks ++ checks') b := by
  unfold outcome at h ⊢
  rw [List.find?_append]
  cases checks.find? (·.fails) with
  | none => exact h
  | some check => rfl

end Outcome

end Check

open Check

def RegisterFile.wordAt (file : RegisterFile) (field : UInt8) : Word :=
  file.words[field.toNat]?.getD 0

def Memory.wordAt (mem : Memory) (address : Word) : Word := mem.cells[address.toNat]?.getD 0

theorem Register.exists_ofField {field : UInt8} (h : field.toNat < count) :
    ∃ r, ofField field = .ok r ∧ r.index.val = field.toNat := by
  cases hr : ofField field with
  | ok r => exact ⟨r, rfl, (ofField_eq_ok_iff.mp hr).symm⟩
  | error e => exact absurd (ofField_eq_error_iff.mp hr).1 (Nat.not_le.mpr h)

theorem RegisterFile.wordAt_of_index {field : UInt8} {r : Register} (file : RegisterFile)
    (h : r.index.val = field.toNat) : file.wordAt field = file.get r := by
  rw [wordAt, ← h, Vector.getElem?_eq_getElem r.index.isLt]
  rfl

theorem RegisterFile.read_eq_outcome (file : RegisterFile) (field : UInt8) :
    file.read field = outcome [.register field] (file.wordAt field) := by
  refine eq_outcome (fun h => ?_) fun h => ?_
  · exact read_eq_error_iff.mpr ⟨of_decide_eq_true h, rfl⟩
  · obtain ⟨r, hr, hindex⟩ := Register.exists_ofField (Nat.not_le.mp (of_decide_eq_false h))
    rw [read, hr, file.wordAt_of_index hindex]
    rfl

theorem Memory.load_eq_outcome (mem : Memory) (address : Word) :
    mem.load address = outcome [.cell mem address] (mem.wordAt address) := by
  refine eq_outcome (fun h => ?_) fun h => ?_
  · exact load_eq_error_iff.mpr ⟨of_decide_eq_true h, rfl⟩
  · have hlt : address.toNat < mem.cells.size := Nat.not_le.mp (of_decide_eq_false h)
    rw [load_eq_ok_iff, wordAt, Array.getElem?_eq_getElem hlt]
    rfl

namespace Operand

theorem exists_destination_eq_outcome (file : RegisterFile) (field : UInt8) (deref : Bool) :
    ∃ r : Register, (field.toNat < Register.count → r.index.val = field.toNat) ∧
      destination file field deref = outcome [.register field]
        (if deref then .cell (file.wordAt field) else .register r) := by
  rcases Nat.lt_or_ge field.toNat Register.count with hlt | hle
  · obtain ⟨r, hr, hindex⟩ := Register.exists_ofField hlt
    refine ⟨r, fun _ => hindex, eq_outcome (fun h => ?_) fun _ => ?_⟩
    · exact absurd (of_decide_eq_true h) (Nat.not_le.mpr hlt)
    · rw [destination, hr, file.wordAt_of_index hindex]
      rfl
  -- any register will do where the check fails
  · refine ⟨.zero, fun hlt => absurd hle (Nat.not_le.mpr hlt), eq_outcome (fun _ => ?_) fun h => ?_⟩
    · exact destination_eq_error_iff.mpr ⟨hle, rfl⟩
    · exact absurd hle (of_decide_eq_false h)

theorem dereference_eq_outcome (mem : Memory) (w : Word) (deref : Bool) :
    dereference mem w deref = outcome [(cell mem w).onlyIf deref]
      (if deref then mem.wordAt w else w) := by
  cases deref with
  | false => rfl
  | true => exact mem.load_eq_outcome w

theorem source_eq_outcome (file : RegisterFile) (mem : Memory) (field : UInt8) (deref : Bool) :
    source file mem field deref =
      outcome [.register field, (cell mem (file.wordAt field)).onlyIf deref]
        (if deref then mem.wordAt (file.wordAt field) else file.wordAt field) := by
  rw [source, file.read_eq_outcome]
  exact bind_outcome _ (dereference_eq_outcome mem _ deref)

/-- The word that the field c or an immediate gives, before it is dereferenced. -/
def rawWord (file : RegisterFile) (mem : Memory) (ins : Instruction) (ip : Word) : Word :=
  if ins.modes.immediate then mem.wordAt ip else file.wordAt ins.c

theorem raw_eq_outcome (file : RegisterFile) (mem : Memory) (ins : Instruction) (ip : Word) :
    raw file mem ins ip =
      outcome [(cell mem ip).onlyIf ins.modes.immediate,
          (Check.register ins.c).onlyIf !ins.modes.immediate]
        ⟨rawWord file mem ins ip, if ins.modes.immediate then ip + 1 else ip⟩ := by
  unfold raw rawWord
  cases ins.modes.immediate with
  | true =>
    rw [if_pos rfl, immediate, mem.load_eq_outcome, map_outcome]
    rfl
  | false =>
    rw [if_neg Bool.false_ne_true, file.read_eq_outcome, map_outcome]
    rfl

theorem single_eq_outcome (file : RegisterFile) (mem : Memory) (ins : Instruction) (ip : Word) :
    single file mem ins ip =
      outcome [(cell mem ip).onlyIf ins.modes.immediate,
          (Check.register ins.c).onlyIf !ins.modes.immediate,
          (cell mem (rawWord file mem ins ip)).onlyIf ins.modes.derefC]
        ⟨if ins.modes.derefC then mem.wordAt (rawWord file mem ins ip)
          else rawWord file mem ins ip, if ins.modes.immediate then ip + 1 else ip⟩ := by
  rw [single, raw_eq_outcome]
  refine bind_outcome _ ?_
  rw [dereference_eq_outcome]
  exact bind_outcome [] rfl

/-- The checks on the operands of `destination := b op c`, in the order in which they are made. -/
def checks (file : RegisterFile) (mem : Memory) (ins : Instruction) (ip : Word) : List Check :=
  [.register ins.a,
    .register ins.b,
    (cell mem (file.wordAt ins.b)).onlyIf ins.modes.derefB,
    (cell mem ip).onlyIf ins.modes.immediate,
    (Check.register ins.c).onlyIf !ins.modes.immediate,
    (cell mem (rawWord file mem ins ip)).onlyIf ins.modes.derefC]

theorem exists_triple_eq_outcome (file : RegisterFile) (mem : Memory) (ins : Instruction)
    (ip : Word) : ∃ r : Register, (ins.a.toNat < Register.count → r.index.val = ins.a.toNat) ∧
      triple file mem ins ip = outcome (checks file mem ins ip)
        { destination := if ins.modes.derefA then .cell (file.wordAt ins.a) else .register r
          b := if ins.modes.derefB then mem.wordAt (file.wordAt ins.b) else file.wordAt ins.b
          c := if ins.modes.derefC then mem.wordAt (rawWord file mem ins ip)
            else rawWord file mem ins ip
          next := if ins.modes.immediate then ip + 1 else ip } := by
  obtain ⟨r, hindex, hdst⟩ := exists_destination_eq_outcome file ins.a ins.modes.derefA
  refine ⟨r, hindex, ?_⟩
  rw [triple, hdst]
  refine bind_outcome _ ?_
  rw [source_eq_outcome]
  refine bind_outcome _ ?_
  rw [single_eq_outcome]
  exact bind_outcome [] rfl

/-- Resolving the operands of `destination := b op c` reports the first of their checks that fails,
and that is all that can go wrong. The destination is then the register a or the cell at its word,
whose address is not among the checks; the other two are the words of b and of c, or of the cells
there. An immediate word takes the place of c and moves the position on, and the field c is then
neither checked nor used. -/
theorem triple_reports_first_failure (file : RegisterFile) (mem : Memory) (ins : Instruction)
    (ip : Word) :
    (∀ check, (checks file mem ins ip).find? (·.fails) = some check →
      triple file mem ins ip = .error check.fault) ∧
    ((checks file mem ins ip).find? (·.fails) = none → ∃ ops, ∃ r : Register,
      triple file mem ins ip = .ok ops ∧ r.index.val = ins.a.toNat ∧
      ops.destination =
        (if ins.modes.derefA then .cell (file.wordAt ins.a) else .register r) ∧
      ops.b =
        (if ins.modes.derefB then mem.wordAt (file.wordAt ins.b) else file.wordAt ins.b) ∧
      ops.c =
        (if ins.modes.derefC then mem.wordAt (rawWord file mem ins ip)
          else rawWord file mem ins ip) ∧
      ops.next.toNat =
        if ins.modes.immediate then (ip.toNat + 1) % Word.addressSpace else ip.toNat) ∧
    (ins.modes.immediate = true → ∀ c,
      triple file mem { ins with c := c } ip = triple file mem ins ip) := by
  obtain ⟨r, hindex, htriple⟩ := exists_triple_eq_outcome file mem ins ip
  refine ⟨fun check h => ?_, fun h => ?_, fun hi c => ?_⟩
  · rw [htriple, outcome, h]
  · have ha : ins.a.toNat < Register.count := by
      have hpass := List.find?_eq_none.mp h (.register ins.a) List.mem_cons_self
      exact Nat.not_le.mp fun hle => hpass (decide_eq_true hle)
    have hnext : (if ins.modes.immediate then ip + 1 else ip).toNat =
        if ins.modes.immediate then (ip.toNat + 1) % Word.addressSpace else ip.toNat := by
      cases ins.modes.immediate with
      | true => exact UInt32.toNat_add ip 1
      | false => rfl
    rw [outcome, h] at htriple
    exact ⟨_, r, htriple, hindex ha, rfl, rfl, rfl, hnext⟩
  · have hsame : ins.SameSource { ins with c := c } :=
      { immediate := rfl
        derefC := rfl
        c := fun hf => nomatch hi.symm.trans hf }
    rw [triple, triple, single_of_sameSource hsame]

theorem triple_past_end_reports_field :
    triple .zeros (.zeros 4)
      { a := 1, b := 200, c := 15, modes := { immediate := true, derefB := true } } 9 =
        .error (.invalidRegister 200) ∧
    ∀ c, triple .zeros { cells := #[5, 2, 7], programLength := 3 }
      { a := 1, b := 2, c := c,
        modes := { immediate := true, derefA := true, derefB := true, derefC := true } } 1 =
        .ok ⟨.cell 0, 5, 7, 2⟩ := by
  refine ⟨(triple_reports_first_failure _ _ _ _).1 (.register 200) (by decide), fun c => ?_⟩
  obtain ⟨-, hpass, hc⟩ := triple_reports_first_failure .zeros
    { cells := #[5, 2, 7], programLength := 3 }
    { a := 1, b := 2, c := 0,
      modes := { immediate := true, derefA := true, derefB := true, derefC := true } } 1
  obtain ⟨⟨dst, b, w, next⟩, r, htriple, -, hdst, hb, hw, hnext⟩ := hpass (by decide)
  obtain rfl : dst = .cell 0 := hdst
  obtain rfl : b = 5 := hb
  obtain rfl : w = 7 := hw
  obtain rfl : next = 2 := UInt32.toNat_inj.mp hnext
  exact (hc rfl c).trans htriple

end Operand
end WordMachine
